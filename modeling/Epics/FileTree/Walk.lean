import Epics.FileTree.Basic

/-!
# Walking a path

The walk of a path goes from directory to directory, one step at a time.  A
link on the way is replaced by the steps of its target, and two dots go up from
where the walk really is, so that links are never cancelled against them.
-/

namespace Epics
namespace FileTree

/-- What a walk is for. -/
inductive Purpose
  /-- To look at what stands at the end of the path. -/
  | inspect
  /-- To write a file at the end of the path. -/
  | write
  deriving DecidableEq, Repr

/-- What a walk has found at the end of its path. -/
inductive Spot
  | directory (place : Location)
  | file (place : Location) (content : Bytes)
  | vacant (place : Location)
  deriving DecidableEq, Repr

/-- The number of links that one walk follows. -/
def linkLimit : Nat := 40

/-- Walks from the directory `here`, and leaves what is to be done at a link to
`follow`, which gets the directory of the link and the steps to go on with.  The
last step may name an entry that is missing; a missing entry or a file before
that ends the walk.  A path to be written must not end in a name and a slash. -/
def walkWith (follow : Location → List Path.Step → Except Fault Spot) (tree : FileTree)
    (purpose : Purpose) (here : Location) : List Path.Step → Except Fault Spot
  | [] => .ok (.directory here)
  | .stay :: rest => walkWith follow tree purpose here rest
  | .slash :: rest => walkWith follow tree purpose here rest
  | .up :: rest => walkWith follow tree purpose here.tail rest
  | .enter name :: rest =>
      if purpose = .write ∧ rest = [.slash] then .error .isDirectory
      else if Path.nameLimit < Text.utf8Size name then .error .nameTooLong
      else
        match tree.get? (name :: here) with
        | some .directory => walkWith follow tree purpose (name :: here) rest
        | some (.file content) =>
            if rest = [] then .ok (.file (name :: here) content) else .error .notDirectory
        | some (.link target) =>
            follow (if Path.isRooted target then [] else here) (Path.steps target ++ rest)
        | none => if rest = [] then .ok (.vacant (name :: here)) else .error .missing

/-- Walks from the directory `here` and follows up to `links` links. -/
def walk (tree : FileTree) (purpose : Purpose) :
    (links : Nat) → (here : Location) → List Path.Step → Except Fault Spot
  | 0 => walkWith (fun _ _ => .error .tooManyLinks) tree purpose
  | links + 1 => walkWith (tree.walk purpose links) tree purpose

/-- What a path leads to, from the working directory. -/
def locate (tree : FileTree) (purpose : Purpose) (path : Text) : Except Fault Spot :=
  match Path.fault? path with
  | some fault => .error fault
  | none => tree.walk purpose linkLimit [] (Path.steps path)

/-- The place that the last step of a path names in the directory that the steps
before it lead to, whatever stands there; `none` when the last step is no name. -/
def namedPlace (tree : FileTree) (steps : List Path.Step) : Except Fault (Option Location) :=
  let bare := steps.filter (· ≠ .slash)
  match tree.walk .inspect linkLimit [] (bare.dropLast ++ [.slash]) with
  | .error fault => .error fault
  | .ok (.directory here) =>
      match bare.getLast? with
      | some (.enter name) =>
          if Path.nameLimit < Text.utf8Size name then .error .nameTooLong
          else .ok (some (name :: here))
      | _ => .ok none
  | .ok _ => .error .notDirectory

end FileTree
end Epics
