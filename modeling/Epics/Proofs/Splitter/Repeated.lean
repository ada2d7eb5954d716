import Epics.Proofs.Splitter.Again

/-!
# Splitting the same document again

A second split into the same directory writes over what the first one left.  It
takes the same ways through directories and links, and each of its writes is either
of what stands there already or undone by a later one, so that the tree it ends
with is the tree it began with.  A split that has stopped at a section stops there
again.
-/

namespace Epics

variable {folder : Folder} {part : Section} {parts : List Section} {text directory : Text}
  {place : Location} {content : Bytes} {tree prepared before after : FileTree}

namespace Folder

/-- What a file holds makes no difference to saving sections of which one goes
into this file. -/
theorem SavesAll.set_file (saves : folder.SavesAll parts before after) (member : part ∈ parts)
    (leads : before.LeadsTo (folder.filePath part.title) place)
    (isFile : before.get? place = some (.file content)) (other : Bytes) :
    folder.SavesAll parts (before.set place (.file other)) after := by
  induction saves with
  | nil tree => exact absurd member List.not_mem_nil
  | @cons first later before next after saved rest ih =>
      obtain ⟨home, leadsFirst, rfl⟩ := saves_iff.mp saved
      have leadsStill := leadsFirst.of_writesFiles (.of_set leads.takesFile other)
      by_cases same : home = place
      · subst same
        refine .cons (saves_iff.mpr ⟨home, leadsStill, ?_⟩) rest
        rw [FileTree.set_set]
      · -- The first section goes into another file, so the one for this file is a later
        -- one, and the two writes can change places.
        have inLater : part ∈ later := by
          rcases List.mem_cons.mp member with rfl | inLater
          · exact absurd (leadsFirst.unique leads) same
          · exact inLater
        have stands : before.get? place ≠ none := by
          rw [isFile]
          exact Option.some_ne_none _
        have leadsLater := leads.of_writesFiles
          (.of_set leadsFirst.takesFile (Utf8.encode first.render))
        have isFileLater := (FileTree.get?_set_of_ne (Ne.symm same) before
          (.file (Utf8.encode first.render))).trans isFile
        refine .cons (saves_iff.mpr ⟨home, leadsStill, ?_⟩) (ih inLater leadsLater isFileLater)
        rw [FileTree.set_comm same leads.ne_nil stands]

/-- Sections can be saved again where they have been saved, and this changes nothing. -/
theorem SavesAll.again (saves : folder.SavesAll parts before after) :
    folder.SavesAll parts after after := by
  induction saves with
  | nil tree => exact .nil tree
  | cons first rest ih =>
      obtain ⟨home, leads, holds | ⟨last, inLater, holdsLast⟩⟩ := first.holds_or_overwritten rest
      · exact .cons holds.saves ih
      · exact .cons (saves_iff.mpr ⟨home, leads, rfl⟩)
          (ih.set_file inLater holdsLast.1 holdsLast.2 _)

/-- The directory that has been made for sections is there when they have been saved. -/
theorem SavesAll.makeDirectories_eq (saves : SavesAll ⟨directory⟩ parts prepared after)
    (made : tree.makeDirectories directory = (.ok (), prepared)) :
    after.makeDirectories directory = (.ok (), after) := by
  obtain ⟨home, found⟩ := FileTree.makeDirectories_ok made
  have keeps := saves.get?_eq_or_holds.1.keepsWays
  exact FileTree.makeDirectories_of_home? (FileTree.home?_of_keepsWays keeps found)

end Folder

/-- A split that succeeds or stops at a section that it cannot write, run again in
the tree that it has left, gives the same report, event by event, and leaves this
tree as it is: from any tree, with links and directories in the way of files. -/
theorem run_split_again
    (ready :
      (∃ summary, ((split FileTree.store text directory).run tree).1.result = .ok summary) ∨
      ∃ path fault, ((split FileTree.store text directory).run tree).1.result =
        .error (.storage (.file path fault))) :
    (split FileTree.store text directory).run ((split FileTree.store text directory).run tree).2 =
      (split FileTree.store text directory).run tree := by
  rcases split_cases tree text directory with
    ⟨fault, after, failed⟩ | ⟨prepared, after, made, saves |
      ⟨done, part, later, fault, sections, saves, fails⟩⟩
  · rw [run_split_of_makeDirectories_error failed] at ready
    rcases ready with ⟨summary, succeeded⟩ | ⟨path, cause, stopped⟩
    · contradiction
    · simp at stopped
  · rw [run_split_of_savesAll made saves]
    exact run_split_of_savesAll (saves.makeDirectories_eq made) saves.again
  · rw [run_split_of_failsToSave made sections saves fails]
    exact run_split_of_failsToSave (saves.makeDirectories_eq made) sections saves.again fails

/-- The first section goes through a dangling link into the file of the second, which
the third overwrites by its name, and a directory stands where the fourth belongs:
a second split stops there again and changes nothing. -/
theorem run_split_again_blocked :
    let out := "out".toList
    let tree : FileTree := ⟨[([out], .directory),
      (["Epic_1_A.md".toList, out], .link "Epic_2_B.md".toList),
      (["Epic_3_C.md".toList, out], .directory)]⟩
    let text := "## Epic 1: A\n## Epic 2: B\ny\n## Epic 2: B!\nz\n## Epic 3: C\nx".toList
    ((split FileTree.store text out).run tree).1.result =
      .error (.storage (.file "out/Epic_3_C.md".toList .isDirectory)) ∧
    ((split FileTree.store text out).run tree).2.readFile "out/Epic_1_A.md".toList =
      .ok (Utf8.encode "## Epic 2: B!\n\nz\n".toList) ∧
    (split FileTree.store text out).run ((split FileTree.store text out).run tree).2 =
      (split FileTree.store text out).run tree := by
  intro out tree text
  have stopped : ((split FileTree.store text out).run tree).1.result =
      .error (.storage (.file "out/Epic_3_C.md".toList .isDirectory)) := by decide +kernel
  have overwritten : ((split FileTree.store text out).run tree).2.readFile
      "out/Epic_1_A.md".toList = .ok (Utf8.encode "## Epic 2: B!\n\nz\n".toList) := by
    decide +kernel
  exact ⟨stopped, overwritten, run_split_again (Or.inr ⟨_, _, stopped⟩)⟩

end Epics
