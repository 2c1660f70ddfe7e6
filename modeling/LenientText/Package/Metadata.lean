import LenientText.Package.Dependency
import LenientText.Package.Version

/-!
# What is known of the package

The names, versions and dependencies of the package, as they are published, and
the check that the interpreter at hand is not too old for it.
-/

namespace LenientText.Metadata

/-- The name of the application. -/
def name : String := "textkit"

/-- The name of its package. -/
def packageName : String := name

/-- The licence. -/
def license : String := "2-clause BSD"

/-- The oldest interpreter that is admitted. -/
def requiredVersion : String := "3.8.0"

/-- The minor version of the newest interpreter. -/
def newestMinor : Int := 13

/-- The version of the application. -/
def version : String := "0.1.0"

/-- What the application is, in one line. -/
def synopsis : String :=
  "textkit, null-safe padding, repetition, affix and lenient formatting " ++
    "helpers for Python strings."

/-- The authors. -/
def authors : String := "Alexis Pietak, Cecil Curry, et al."

/-- The address of the authors. -/
def authorEmail : String := "alexis.pietak@gmail.com"

/-- The home page. -/
def homepage : String := "https://gitlab.com/betse/textkit"

/-- The place of the source archive. -/
def download : String := homepage ++ "/repository/archive.tar.gz?ref=v" ++ version

/-- The oldest version of the installer that is admitted. -/
def installerVersion : String := "38.2.0"

/-- What is needed at run time, with constraints. -/
def runtimeDependencies : List (String × String) := [("beartype", ">= 0.10.0")]

/-- What is needed for testing, with constraints. -/
def testingDependencies : List (String × String) := [("pytest", ">= 3.7.0")]

/-- The requirement lines of what is needed at run time. -/
def runtimeRequirements : List Text := runtimeDependencies.map Dependency.plainLine

/-- The requirement lines of what is needed for testing. -/
def testingRequirements : List Text := testingDependencies.map Dependency.plainLine

/-- The parts of the oldest admitted version. -/
def requiredParts : List Int := [3, 8, 0]

/-- The parts of the version of the application. -/
def versionParts : List Int := [0, 1, 0]

/-- How many parts of the version of an interpreter are compared. -/
abbrev comparedParts : Nat := 3

/-- Fails on an interpreter that is too old, and otherwise gives the parts of the
version of the application. -/
def checkInterpreter (active : List Int) : Except Fault (List Int) :=
  let active := active.take comparedParts
  if Version.isBefore active requiredParts then
    .error (.oldInterpreter (.ofString name) (.ofString requiredVersion) (Version.render active))
  else .ok versionParts

end LenientText.Metadata
