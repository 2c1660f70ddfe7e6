import LenientText.Guarded
import LenientText.Object.Making
import LenientText.Package.Options
import LenientText.Package.SearchPath
import LenientText.Text.Reflection
import LenientText.Text.Segments
import LenientText.Text.Utf16
import LenientText.Proofs.Guarded.Affixes
import LenientText.Proofs.Guarded.Combination
import LenientText.Proofs.Guarded.Conditions
import LenientText.Proofs.Guarded.ErrorOrder
import LenientText.Proofs.Guarded.NegativeCount
import LenientText.Proofs.Guarded.Padding
import LenientText.Proofs.Guarded.Reflection
import LenientText.Proofs.Guarded.Repetition
import LenientText.Proofs.Guarded.WholeAffixes
import LenientText.Proofs.Lenient.AllOrNothing
import LenientText.Proofs.Lenient.Discipline
import LenientText.Proofs.Lenient.Disclosure
import LenientText.Proofs.Lenient.Independence
import LenientText.Proofs.Lenient.Staging
import LenientText.Proofs.Lenient.Substitution
import LenientText.Proofs.Logging.Insertion
import LenientText.Proofs.Logging.Transparency
import LenientText.Proofs.Object.Identity
import LenientText.Proofs.Object.RealClass
import LenientText.Proofs.Package.Version
import LenientText.Proofs.Text.Doubling
import LenientText.Proofs.Text.Segments
import LenientText.Proofs.Guarded.Segments
