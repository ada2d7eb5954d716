import Epics.Fault
import Epics.Utf8

/-!
# Problems

What can go wrong in a run, told by its cause, and the words for it.
-/

namespace Epics

/-- Why there is no document to split. -/
inductive InputProblem
  /-- The file could not be read. -/
  | unreadable (path : Text) (fault : Fault)
  /-- The bytes of the file are not UTF-8. -/
  | notUtf8 (path : Text) (fault : Utf8.Fault)
  deriving DecidableEq, Repr

/-- Why sections could not be stored. -/
inductive StorageProblem
  /-- The directory for the files could not be made. -/
  | directory (path : Text) (fault : Fault)
  /-- The file of a section could not be written. -/
  | file (path : Text) (fault : Fault)
  deriving DecidableEq, Repr

/-- Why a run failed. -/
inductive Problem
  | input (problem : InputProblem)
  | storage (problem : StorageProblem)
  deriving DecidableEq, Repr

/-- An input problem in words. -/
def InputProblem.message : InputProblem → Text
  | .unreadable path fault =>
      "Failed to read input file ".toList ++ path ++ ": ".toList ++ fault.message
  | .notUtf8 path fault =>
      "Input file ".toList ++ path ++ " is not valid UTF-8: ".toList ++ fault.message

/-- A storage problem in words. -/
def StorageProblem.message : StorageProblem → Text
  | .directory path fault =>
      "Could not create output directory ".toList ++ path ++ ": ".toList ++ fault.message
  | .file path fault =>
      "Could not write section file ".toList ++ path ++ ": ".toList ++ fault.message

/-- A problem in words. -/
def Problem.message : Problem → Text
  | .input problem => "Input error: ".toList ++ problem.message
  | .storage problem => "Storage error: ".toList ++ problem.message

end Epics
