import Epics.FileTree.Walk

/-!
# Reading, writing and making directories

The three operations that the splitter needs of a file tree.  An operation that
can change the tree returns its result together with the tree it leaves, since
making a chain of directories may fail after some of them are made.

A tree refuses an operation only for the path and for what stands on its way, since it
has no permissions and no capacity.  So a file is written as a whole or not at all, and
a write that fails leaves the tree as it is.
-/

namespace Epics
namespace FileTree

/-- The content of the file that a path leads to. -/
def readFile (tree : FileTree) (path : Text) : Except Fault Bytes :=
  match tree.locate .inspect path with
  | .error fault => .error fault
  | .ok (.file _ content) => .ok content
  | .ok (.directory _) => .error .isDirectory
  | .ok (.vacant _) => .error .missing

/-- Makes the file that a path leads to hold a content, whatever it held before. -/
def writeFile (tree : FileTree) (path : Text) (content : Bytes) :
    Except Fault Unit × FileTree :=
  match tree.locate .write path with
  | .error fault => (.error fault, tree)
  | .ok (.directory _) => (.error .isDirectory, tree)
  | .ok (.file place _) => (.ok (), tree.set place (.file content))
  | .ok (.vacant place) => (.ok (), tree.set place (.file content))

/-- The steps lead to a directory. -/
def isDirectory (tree : FileTree) (steps : List Path.Step) : Bool :=
  match tree.walk .inspect linkLimit [] steps with
  | .ok (.directory _) => true
  | _ => false

/-- Makes one directory, in a directory that is there. -/
def makeDirectory (tree : FileTree) (steps : List Path.Step) : Except Fault FileTree :=
  match tree.namedPlace steps with
  | .error fault => .error fault
  | .ok none => .error .occupied
  | .ok (some place) =>
      match tree.get? place with
      | some _ => .error .occupied
      | none => .ok (tree.set place .directory)

/-- Makes one directory unless the steps lead to a directory already. -/
def ensureDirectory (tree : FileTree) (steps : List Path.Step) :
    Except Fault Unit × FileTree :=
  match tree.makeDirectory steps with
  | .ok made => (.ok (), made)
  | .error fault => (if tree.isDirectory steps then .ok () else .error fault, tree)

/-- Makes directories one after the other, up to the first that fails. -/
def ensureAll (tree : FileTree) : List (List Path.Step) → Except Fault Unit × FileTree
  | [] => (.ok (), tree)
  | steps :: more =>
      match tree.ensureDirectory steps with
      | (.ok (), next) => next.ensureAll more
      | failed => failed

/-- The shorter paths that have to be directories before the path of these steps
can be made: all but the last of its initial parts, the shortest first. -/
def ancestors (steps : List Path.Step) : List (List Path.Step) :=
  let moving := steps.filter fun step => step ≠ .stay && step ≠ .slash
  (List.range (moving.length - 1)).map fun count => moving.take (count + 1)

/-- Makes the directory of a path with all directories on the way to it.  The
ones on the way are made only if the directory alone cannot be made because
something on the way is missing; the empty path is the working directory. -/
def makeDirectories (tree : FileTree) (path : Text) : Except Fault Unit × FileTree :=
  if path = [] then (.ok (), tree)
  else
    match Path.fault? path with
    | some fault => (.error fault, tree)
    | none =>
        let steps := Path.steps path
        match tree.ensureDirectory steps with
        | (.error .missing, _) => tree.ensureAll (ancestors steps ++ [steps])
        | attempt => attempt

end FileTree
end Epics
