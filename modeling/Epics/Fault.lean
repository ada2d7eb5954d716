import Epics.Text.Basic

/-!
# Faults of file operations

The causes for which an operation on files can fail, with the error number and
the words that a system reports for each.  They are the causes that lie in a path and in
what stands on its way; a file tree has no permissions, no capacity and no second names
for one file, so there is none for an access that is denied or for a disk that is full.
-/

namespace Epics

/-- Why an operation on files failed. -/
inductive Fault
  /-- Nothing stands at the path, or at a directory on the way to it. -/
  | missing
  /-- Something stands where a directory was to be made. -/
  | occupied
  /-- Something on the way to the path is no directory. -/
  | notDirectory
  /-- A directory stands where a file was asked for. -/
  | isDirectory
  /-- A name or a path is longer than the system allows. -/
  | nameTooLong
  /-- More links are on the way than the system follows. -/
  | tooManyLinks
  /-- The path holds the character NUL, which no name can. -/
  | nulCharacter
  deriving DecidableEq, Repr

namespace Fault

/-- The words for an error that the system reports under a number. -/
def systemMessage (words : String) (number : Nat) : Text :=
  words.toList ++ " (os error ".toList ++ Text.ofNat number ++ ")".toList

/-- A fault in words. -/
def message : Fault → Text
  | .missing => systemMessage "No such file or directory" 2
  | .occupied => systemMessage "File exists" 17
  | .notDirectory => systemMessage "Not a directory" 20
  | .isDirectory => systemMessage "Is a directory" 21
  | .nameTooLong => systemMessage "File name too long" 36
  | .tooManyLinks => systemMessage "Too many levels of symbolic links" 40
  | .nulCharacter => "file name contained an unexpected NUL byte".toList

/-- The fault that the system reports under a number. -/
def ofNumber? : Nat → Option Fault
  | 2 => some .missing
  | 17 => some .occupied
  | 20 => some .notDirectory
  | 21 => some .isDirectory
  | 36 => some .nameTooLong
  | 40 => some .tooManyLinks
  | _ => none

end Fault
end Epics
