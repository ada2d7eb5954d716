import Epics.FileTree.Operations
import Epics.Proofs.FileTree.Walk
import Epics.Proofs.Path

/-!
# Writing a file into a directory

What a write does to the entry that a name has in a directory.  Where no link
stands there, the write changes this entry and no other one, or it fails and
changes nothing.
-/

namespace Epics
namespace FileTree

variable {tree before after : FileTree} {directory path name : Text} {home place : Location}
  {content : Bytes} {fault : Fault}

/-! ## The directory that a path leads to -/

/-- The place of the directory that a path leads to; the empty path is the
working directory. -/
def home? (tree : FileTree) (path : Text) : Option Location :=
  if path = [] then some []
  else
    match tree.locate .inspect path with
    | .ok (.directory place) => some place
    | _ => none

theorem home?_nil : tree.home? [] = some [] := rfl

/-- A path leads to a directory when it is sound and its steps do. -/
theorem home?_eq_some_iff (someStep : path ≠ []) :
    tree.home? path = some home ↔ Path.fault? path = none ∧
      tree.walk .inspect linkLimit [] (Path.steps path) = .ok (.directory home) := by
  rw [home?, if_neg someStep, locate]
  cases Path.fault? path with
  | some fault => simp
  | none =>
      simp only [true_and]
      split
      case h_1 found => simp [found]
      case h_2 other =>
        constructor
        · intro found
          contradiction
        · intro found
          exact absurd found (other home)

/-- The steps of a path that leads to a directory reach it. -/
theorem walk_of_home? (found : tree.home? path = some home) :
    tree.walk .inspect linkLimit [] (Path.steps path) = .ok (.directory home) := by
  by_cases isEmpty : path = []
  · subst isEmpty
    obtain rfl := Option.some.inj (home?_nil.symm.trans found)
    exact walk_nil
  · exact ((home?_eq_some_iff isEmpty).mp found).2

/-- The directory that a path leads to stands in the tree. -/
theorem hasWay_of_home? (found : tree.home? path = some home) : tree.HasWay home :=
  hasWay_of_walk (hasWay_nil tree) (walk_of_home? found)

/-- A path leads to the same directory as long as directories and links stay. -/
theorem home?_of_keepsWays (keeps : KeepsWays before after)
    (found : before.home? path = some home) : after.home? path = some home := by
  by_cases isEmpty : path = []
  · subst isEmpty
    exact found
  · obtain ⟨sound, reached⟩ := (home?_eq_some_iff isEmpty).mp found
    exact (home?_eq_some_iff isEmpty).mpr ⟨sound, walk_directory_of_keepsWays keeps reached⟩

/-! ## Writing -/

/-- A write that fails leaves the tree as it is. -/
theorem writeFile_error (failed : (tree.writeFile path content).1 = .error fault) :
    (tree.writeFile path content).2 = tree := by
  unfold writeFile at failed ⊢
  split at failed
  · rfl
  · rfl
  · contradiction
  · contradiction

/-- The walk to an entry of a directory comes down to the entry. -/
theorem exists_walk_join (found : tree.home? directory = some home)
    (isName : Path.IsName name) (purpose : Purpose) :
    ∃ remaining, tree.walk purpose linkLimit [] (Path.steps (Path.join directory name)) =
      tree.walk purpose remaining home [.enter name] := by
  have reached := walk_filter_slash_iff.mpr (walk_of_home? found)
  obtain ⟨remaining, goesOn⟩ := exists_walk_append reached
  refine ⟨remaining, ?_⟩
  rw [Path.steps_join isName]
  exact goesOn tree (KeepsWays.refl tree) purpose [.enter name] (by simp) (by simp)

/-- The result of writing to a name in a directory at which no link stands. -/
theorem writeFile_join (found : tree.home? directory = some home)
    (isName : Path.IsName name) (noLink : ∀ target, tree.get? (name :: home) ≠ some (.link target))
    (content : Bytes) :
    tree.writeFile (Path.join directory name) content =
      match Path.fault? (Path.join directory name) with
      | some fault => (.error fault, tree)
      | none =>
          if Path.nameLimit < Text.utf8Size name then (.error .nameTooLong, tree)
          else if tree.get? (name :: home) = some .directory then (.error .isDirectory, tree)
          else (.ok (), tree.set (name :: home) (.file content)) := by
  unfold writeFile locate
  cases Path.fault? (Path.join directory name) with
  | some fault => rfl
  | none =>
      obtain ⟨remaining, comesDown⟩ := exists_walk_join found isName .write
      simp only [comesDown, walk_enter]
      rw [if_neg (by simp)]
      by_cases long : Path.nameLimit < Text.utf8Size name
      · rw [if_pos long, if_pos long]
      · rw [if_neg long, if_neg long]
        cases stands : tree.get? (name :: home) with
        | none => simp
        | some entry =>
            cases entry with
            | directory => simp
            | file old => simp
            | link target => exact absurd stands (noLink target)

/-- A write to a name in a directory at which no link stands has put a file there
when it has succeeded. -/
theorem writeFile_join_ok (found : tree.home? directory = some home)
    (isName : Path.IsName name) (noLink : ∀ target, tree.get? (name :: home) ≠ some (.link target))
    (done : tree.writeFile (Path.join directory name) content = (.ok (), after)) :
    tree.get? (name :: home) ≠ some .directory ∧
      after = tree.set (name :: home) (.file content) := by
  rw [writeFile_join found isName noLink] at done
  split at done
  · simp at done
  · split at done
    · simp at done
    · split at done
      · simp at done
      case isFalse noDirectory => exact ⟨noDirectory, (Prod.mk.inj done).2.symm⟩

/-- Putting a file where neither a directory nor a link stands keeps these. -/
theorem keepsWays_set (noDirectory : tree.get? place ≠ some .directory)
    (noLink : ∀ target, tree.get? place ≠ some (.link target)) (content : Bytes) :
    KeepsWays tree (tree.set place (.file content)) := by
  intro other entry found noFile
  by_cases same : other = place
  · subst same
    cases entry with
    | directory => exact absurd found noDirectory
    | file old => exact absurd rfl (noFile old)
    | link target => exact absurd found (noLink target)
  · rw [get?_set_of_ne same, found]

end FileTree
end Epics
