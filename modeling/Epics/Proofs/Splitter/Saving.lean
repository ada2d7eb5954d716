import Epics.Splitter
import Epics.Proofs.FileTree.Write

/-!
# Saving sections in a file tree

Saving goes through the sections in order.  Either every write succeeds, or one
of them is the first that fails: then the sections before it are saved, and it
and all later ones leave no trace.
-/

namespace Epics

/-- A run that goes on from a result goes on in the tree that the result left. -/
theorem run_bind_of_run {α β : Type} {first : StateM FileTree α} {next : α → StateM FileTree β}
    {before after : FileTree} {value : α} (run : first.run before = (value, after)) :
    (first >>= next).run before = (next value).run after := by
  rw [StateT.run_bind, run]
  rfl

namespace Folder

/-- The write of a section into a folder takes the one tree to the other. -/
def Saves (folder : Folder) (part : Section) (before after : FileTree) : Prop :=
  before.writeFile (folder.filePath part.title) (Utf8.encode part.render) = (.ok (), after)

/-- The write of a section into a folder fails with a fault. -/
def FailsToSave (folder : Folder) (part : Section) (tree : FileTree) (fault : Fault) : Prop :=
  tree.writeFile (folder.filePath part.title) (Utf8.encode part.render) = (.error fault, tree)

/-- The writes of sections, one after the other, take the one tree to the other. -/
inductive SavesAll (folder : Folder) : List Section → FileTree → FileTree → Prop
  | nil (tree : FileTree) : SavesAll folder [] tree tree
  | cons {part : Section} {later : List Section} {before next after : FileTree}
      (first : folder.Saves part before next) (rest : SavesAll folder later next after) :
      SavesAll folder (part :: later) before after

variable {folder : Folder} {part : Section} {parts done : List Section}
  {tree before after : FileTree} {fault : Fault}

/-- The write of a section succeeds or fails. -/
theorem saves_or_failsToSave (folder : Folder) (part : Section) (tree : FileTree) :
    (∃ after, folder.Saves part tree after) ∨ ∃ fault, folder.FailsToSave part tree fault := by
  cases written : tree.writeFile (folder.filePath part.title) (Utf8.encode part.render) with
  | mk result after =>
      cases result with
      | ok done => exact Or.inl ⟨after, written⟩
      | error fault =>
          have same := FileTree.writeFile_error (congrArg Prod.fst written)
          rw [written] at same
          exact Or.inr ⟨fault, same ▸ written⟩

/-- Either all sections can be saved or there is a first that cannot. -/
theorem savesAll_or_failsToSave (folder : Folder) (parts : List Section) (tree : FileTree) :
    (∃ after, folder.SavesAll parts tree after) ∨
      ∃ done part later after fault, parts = done ++ part :: later ∧
        folder.SavesAll done tree after ∧ folder.FailsToSave part after fault := by
  induction parts generalizing tree with
  | nil => exact Or.inl ⟨tree, .nil tree⟩
  | cons first more ih =>
      rcases saves_or_failsToSave folder first tree with ⟨next, saves⟩ | ⟨fault, fails⟩
      · rcases ih next with
          ⟨after, savesMore⟩ | ⟨done, part, later, after, fault, rfl, savesDone, fails⟩
        · exact Or.inl ⟨after, .cons saves savesMore⟩
        · exact Or.inr
            ⟨first :: done, part, later, after, fault, rfl, .cons saves savesDone, fails⟩
      · exact Or.inr ⟨[], first, more, tree, fault, rfl, .nil tree, fails⟩

/-! ## The results of a run -/

/-- The event of a section that has been saved. -/
def savedEvent (folder : Folder) (part : Section) : Event :=
  .sectionSaved part.title (folder.filePath part.title)

theorem run_save_of_saves (saves : folder.Saves part before after) :
    (folder.save FileTree.store part).run before =
      (⟨.ok (folder.filePath part.title), [folder.savedEvent part]⟩, after) := by
  have run : (FileTree.store.writeFile (folder.filePath part.title)
      (Utf8.encode part.render)).run before = (.ok (), after) := saves
  rw [save, run_bind_of_run run]
  rfl

theorem run_save_of_failsToSave (fails : folder.FailsToSave part tree fault) :
    (folder.save FileTree.store part).run tree =
      (⟨.error (.file (folder.filePath part.title) fault), []⟩, tree) := by
  have run : (FileTree.store.writeFile (folder.filePath part.title)
      (Utf8.encode part.render)).run tree = (.error fault, tree) := fails
  rw [save, run_bind_of_run run]
  rfl

/-- When every section can be saved, a run gives the paths of all. -/
theorem run_saveAll_of_savesAll (saves : folder.SavesAll parts before after) :
    (folder.saveAll FileTree.store parts).run before =
      (⟨.ok (parts.map fun part => folder.filePath part.title),
        parts.map folder.savedEvent⟩, after) := by
  induction saves with
  | nil tree => rfl
  | cons first rest ih =>
      rw [saveAll, run_bind_of_run (run_save_of_saves first)]
      dsimp only
      rw [run_bind_of_run ih]
      rfl

/-- A run stops at the first section that cannot be saved. -/
theorem run_saveAll_of_failsToSave (saves : folder.SavesAll done before after)
    (fails : folder.FailsToSave part after fault) (later : List Section) :
    (folder.saveAll FileTree.store (done ++ part :: later)).run before =
      (⟨.error (.file (folder.filePath part.title) fault), done.map folder.savedEvent⟩,
        after) := by
  induction saves with
  | nil tree =>
      rw [List.nil_append, saveAll, run_bind_of_run (run_save_of_failsToSave fails)]
      rfl
  | cons first rest ih =>
      rw [List.cons_append, saveAll, run_bind_of_run (run_save_of_saves first)]
      dsimp only
      rw [run_bind_of_run (ih fails)]
      rfl

end Folder
end Epics
