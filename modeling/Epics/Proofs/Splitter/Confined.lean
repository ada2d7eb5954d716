import Epics.Proofs.Splitter.Again

/-!
# Saving stays in the directory

Whatever a title contains, its file name is one step of a path and no other, so that
the path of a section leads into the directory of the folder and no further.  Unless
a link stands there, the file of that name is all that saving the section can touch.
-/

namespace Epics

/-- A text that can only be the name of an entry, and has a single dot, the one that
its extension begins with. -/
structure FileName.IsConfined (name : Text) : Prop extends Path.IsName name where
  noNul : '\x00' ∉ name
  isExtended : ∃ stem, name = stem ++ FileName.extension ∧ '.' ∉ stem

theorem FileName.isConfined_ofTitle (title : Text) : IsConfined (ofTitle title) :=
  ⟨isName_ofTitle title, not_mem_ofTitle (by decide) (by decide) title,
    stem title, rfl, not_mem_stem (by decide) title⟩

/-- Saving a section with any title in any folder and tree.  The name of its file is a
confined one, and the path that is reported is the path of the folder, a slash unless
this is empty or ends in one, and the name.  When saving fails, the tree stays as it
is.  When it succeeds, the path of the folder leads to a directory, and unless a link
of that name stands in it, a file of that name in this directory is all that changes. -/
theorem run_save_confined (folder : Folder) (part : Section) (tree : FileTree) :
    let path := folder.filePath part.title
    let done := (folder.save FileTree.store part).run tree
    FileName.IsConfined part.fileName ∧ Path.steps part.fileName = [.enter part.fileName] ∧
    path = folder.path ++
      ((if folder.path = [] ∨ folder.path.getLast? = some '/' then [] else ['/']) ++
        part.fileName) ∧
    ((∃ fault, done.1.result = .error (.file path fault)) ∧ done.2 = tree ∨
      done.1.result = .ok path ∧
        ∃ home, tree.home? folder.path = some home ∧
          ((∀ target, tree.get? (part.fileName :: home) ≠ some (.link target)) →
            FileTree.PutsFile (part.fileName :: home) (Utf8.encode part.render) tree done.2)) := by
  intro path done
  have isName := FileName.isName_ofTitle part.title
  refine ⟨FileName.isConfined_ofTitle part.title, Path.steps_of_isName isName,
    Path.join_eq folder.path part.fileName, ?_⟩
  rcases Folder.saves_or_failsToSave folder part tree with ⟨after, saves⟩ | ⟨fault, fails⟩
  · obtain ⟨place, leads, rfl⟩ := Folder.saves_iff.mp saves
    obtain ⟨home, remaining, found, entry⟩ := leads.exists_home isName
    have run : done = _ := Folder.run_save_of_saves saves
    rw [run]
    refine Or.inr ⟨rfl, home, found, fun noLink => ?_⟩
    obtain rfl := entry.place_eq noLink
    exact leads.putsFile _
  · have run : done = _ := Folder.run_save_of_failsToSave fails
    rw [run]
    exact Or.inl ⟨⟨fault, rfl⟩, rfl⟩

/-- A title that reads like a path out of the folder, which is reached through a link:
the file is put where the link leads, and the file that the title seems to name stays. -/
theorem run_save_confined_hostile :
    let folder : Folder := ⟨"out/".toList⟩
    let name := "Epic_1_etcpasswd.md".toList
    let part : Section := ⟨"## Epic 1: /../../etc\x00/passwd".toList, "x".toList⟩
    let tree : FileTree := ⟨[(["real".toList], .directory),
      (["out".toList], .link "./real".toList),
      (["passwd".toList], .file (Utf8.encode "kept".toList))]⟩
    let done := (folder.save FileTree.store part).run tree
    (∀ target, tree.get? [name, "real".toList] ≠ some (.link target)) ∧
    done.1.result = .ok ("out/".toList ++ name) ∧
    FileTree.PutsFile [name, "real".toList] (Utf8.encode part.render) tree done.2 := by
  intro folder name part tree done
  have vacant : tree.get? [name, "real".toList] = none := by decide +kernel
  have noLink : ∀ target, tree.get? [name, "real".toList] ≠ some (.link target) := by
    intro target isLink
    exact absurd (vacant.symm.trans isLink) (by simp)
  have found : tree.home? folder.path = some ["real".toList] := by decide +kernel
  have named : part.fileName = name := by decide +kernel
  have result : done.1.result = .ok ("out/".toList ++ name) := by decide +kernel
  rcases (run_save_confined folder part tree).2.2.2 with
    ⟨⟨fault, failed⟩, _⟩ | ⟨_, home, foundHome, puts⟩
  · exact absurd (result.symm.trans failed) (by simp)
  · obtain rfl := Option.some.inj (found.symm.trans foundHome)
    rw [named] at puts
    exact ⟨noLink, result, puts noLink⟩

end Epics
