import LenientText.Text.Basic

/-!
# Finding the packages below a directory

A directory is a package if it holds the mark of one. Reported are the packages
whose every parent is a package too, under their path joined by dots, unless a
name on the path holds a dot or the joined name matches an exclusion. Excluded
packages are looked through all the same. Other directories are never reported
and hide what is in them, so that only the packages need to be known.
-/

namespace LenientText.Discovery

/-- The code point between the names of a path. -/
abbrev slash : Nat := 0x2f

/-- The code point that stands for any text in a pattern. -/
abbrev star : Nat := 0x2a

/-- Whether a text as a whole matches a pattern in which a star stands for any
text. -/
def fits : Text → Text → Bool
  | [], [] => true
  | [], _ :: _ => false
  | p :: ps, [] => p == star && fits ps []
  | p :: ps, c :: t =>
    if p = star then fits ps (c :: t) || fits (p :: ps) t
    else p == c && fits ps t
termination_by pattern t => pattern.length + t.length

/-- The names on a relative path. -/
def names (path : Text) : List Text :=
  (Text.parts slash path).filter fun n => !n.isEmpty && n != [Text.dot]

/-- The starts of a list of names, the empty one left out, shortest first. -/
def starts (ns : List Text) : List (List Text) :=
  (List.range ns.length).map fun i => ns.take (i + 1)

/-- Whether the directory at the given names is reached as a package. -/
def isReached (packages : List (List Text)) (ns : List Text) : Bool :=
  !ns.isEmpty && (starts ns).all packages.contains && ns.all fun n => !n.contains Text.dot

/-- Whether a text is not behind another in the order of code points. -/
def inOrder : Text → Text → Bool
  | [], _ => true
  | _ :: _, [] => false
  | a :: s, b :: t => a < b || (a == b && inOrder s t)

/-- The names of the packages among the given directories, in order, without
those that match an exclusion. -/
def find (exclusions paths : List Text) : List Text :=
  let packages := (paths.map names).eraseDups
  let found := (packages.filter (isReached packages)).map (Text.join [Text.dot])
  (found.filter fun name => !exclusions.any fun e => fits e name).mergeSort inOrder

end LenientText.Discovery
