import Epics.Fault

/-!
# Paths

A path is a text whose slashes separate the steps of a walk through directories.
Paths are kept as they were given; the steps are read off when a path is used.
-/

namespace Epics
namespace Path

/-- One step of the walk that a path describes. -/
inductive Step
  /-- A single dot: stay in the directory. -/
  | stay
  /-- Two dots: go up to the directory that holds this one. -/
  | up
  /-- A slash at the end: what the walk has reached has to be a directory. -/
  | slash
  /-- A name: go to the entry of that name. -/
  | enter (name : Text)
  deriving DecidableEq, Repr

/-- The step that a piece of a path between slashes stands for. -/
def Step.ofPiece (piece : Text) : Step :=
  if piece = ['.'] then .stay
  else if piece = ['.', '.'] then .up
  else .enter piece

/-- A path ends in a slash. -/
def endsInSlash (path : Text) : Bool :=
  path.getLast? == some '/'

/-- A path begins with a slash, so that its walk begins at the root. -/
def isRooted (path : Text) : Bool :=
  path.head? == some '/'

/-- The steps of a path; slashes that follow one another count once. -/
def steps (path : Text) : List Step :=
  ((Text.pieces '/' path).filter (· ≠ [])).map Step.ofPiece ++
    if endsInSlash path then [.slash] else []

/-- The path of an entry in a directory. -/
def join (directory name : Text) : Text :=
  if directory = [] ∨ endsInSlash directory then directory ++ name
  else directory ++ '/' :: name

/-- The number of bytes that a name may have. -/
def nameLimit : Nat := 255

/-- The number of bytes that a path has to stay below. -/
def pathLimit : Nat := 4096

/-- What is wrong with a path before any directory is looked at. -/
def fault? (path : Text) : Option Fault :=
  if '\x00' ∈ path then some .nulCharacter
  else if pathLimit ≤ Text.utf8Size path then some .nameTooLong
  else if path = [] then some .missing
  else none

end Path
end Epics
