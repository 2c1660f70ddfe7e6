import LenientText.Package.Discovery
import LenientText.Package.Metadata

/-!
# The options of an installation

What is handed to the installer: names, addresses, classifiers, dependencies, and
the packages found below the directory of the installation, less the test suite
and left-overs of earlier builds.
-/

namespace LenientText.Options

/-- The value of an option. -/
inductive Value where
  /-- A text. -/
  | text (t : String)
  /-- Several texts in order. -/
  | texts (ts : List Text)
  /-- Named groups of texts. -/
  | groups (gs : List (String × List Text))
  /-- A truth value. -/
  | flag (b : Bool)
deriving DecidableEq, Repr

/-- The packages that are never installed. The last two are left out of every
installation. -/
def exclusions : List Text := [
  .ofString (Metadata.packageName ++ "_test"),
  .ofString (Metadata.packageName ++ "_test.*"),
  .ofString "build",
  .ofString "ez_setup",
  .ofString "*__pycache__"]

/-- The packages that are installed from a directory with the given packages. -/
def packages (paths : List Text) : List Text := Discovery.find exclusions paths

/-- The packages of this application and of its test suite, as paths. -/
def ownPaths : List Text := [
  .ofString "textkit",
  .ofString "textkit/util",
  .ofString "textkit/util/io",
  .ofString "textkit/util/io/log",
  .ofString "textkit/util/type",
  .ofString "textkit/util/type/obj",
  .ofString "textkit/util/type/text",
  .ofString "textkit/util/type/text/string",
  .ofString "textkit_test",
  .ofString "textkit_test/unit",
  .ofString "textkit_test/unit/io",
  .ofString "textkit_test/unit/io/log",
  .ofString "textkit_test/unit/type",
  .ofString "textkit_test/unit/type/obj",
  .ofString "textkit_test/unit/type/text",
  .ofString "textkit_test/unit/type/text/string"]

/-- The words the application can be found by. -/
def keywords : List Text :=
  ["string", "text", "padding", "formatting", "unicode"].map .ofString

/-- The classifiers of the application. -/
def classifiers : List Text := [
  "Development Status :: 3 - Alpha",
  "Intended Audience :: Developers",
  "License :: OSI Approved :: BSD License",
  "Natural Language :: English",
  "Operating System :: OS Independent",
  "Programming Language :: Python :: 3 :: Only",
  "Topic :: Software Development :: Libraries :: Python Modules",
  "Topic :: Text Processing"].map .ofString

/-- All options by name. -/
def all : List (String × Value) := [
  ("name", .text Metadata.packageName),
  ("version", .text Metadata.version),
  ("author", .text Metadata.authors),
  ("author_email", .text Metadata.authorEmail),
  ("maintainer", .text Metadata.authors),
  ("maintainer_email", .text Metadata.authorEmail),
  ("description", .text Metadata.synopsis),
  ("url", .text Metadata.homepage),
  ("download_url", .text Metadata.download),
  ("classifiers", .texts classifiers),
  ("keywords", .texts keywords),
  ("license", .text Metadata.license),
  ("python_requires", .text (">=" ++ Metadata.requiredVersion)),
  ("install_requires", .texts Metadata.runtimeRequirements),
  ("extras_require", .groups [("test", Metadata.testingRequirements)]),
  ("packages", .texts (packages ownPaths)),
  ("zip_safe", .flag false)]

/-- The names of all options in order. -/
def names : List Text := (all.map fun o => .ofString o.1).mergeSort Discovery.inOrder

/-- The value of an option, if there is one of this name. -/
def value (name : String) : Except Fault Value :=
  match all.lookup name with
  | some v => .ok v
  | none => .error (.noOption (.ofString name))

end LenientText.Options
