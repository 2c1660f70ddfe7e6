import LenientText.Text.Basic

/-!
# Registering a directory on a search path

A directory that is not on the search path is put at its end. Directories are
compared as plain texts.
-/

namespace LenientText.SearchPath

/-- The search path with a directory on it. -/
def register (directory : Text) (path : List Text) : List Text :=
  if path.contains directory then path else path ++ [directory]

/-- The search path after so many registrations of a directory. -/
def registerTimes (directory : Text) : Nat → List Text → List Text
  | 0, path => path
  | n + 1, path => registerTimes directory n (register directory path)

end LenientText.SearchPath
