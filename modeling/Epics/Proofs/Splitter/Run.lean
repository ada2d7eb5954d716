import Epics.Proofs.FileTree.Directories
import Epics.Proofs.Splitter.Saving

/-!
# Runs over a file tree

What a run of each operation reports and leaves behind, one case for each way in
which it can end.
-/

namespace Epics

variable {tree prepared after : FileTree} {input directory text : Text} {content : Bytes}
  {part : Section} {done later : List Section} {fault : Fault}

/-! ## Reading a document -/

/-- An input problem is what keeps a document from being read from a tree. -/
def InputProblem.ArisesIn (tree : FileTree) (input : Text) : InputProblem → Prop
  | .unreadable path fault => path = input ∧ tree.readFile input = .error fault
  | .notUtf8 path fault => path = input ∧
      ∃ content, tree.readFile input = .ok content ∧ Utf8.decode content = .error fault

/-- Reading a document changes nothing, and gives the decoded content of the file. -/
theorem run_readDocument (tree : FileTree) (input : Text) :
    (∃ problem, InputProblem.ArisesIn tree input problem ∧
      (readDocument FileTree.store input).run tree = (⟨.error problem, []⟩, tree)) ∨
    ∃ content text, tree.readFile input = .ok content ∧ Utf8.decode content = .ok text ∧
      (readDocument FileTree.store input).run tree =
        (⟨.ok text, [.documentRead content.length input]⟩, tree) := by
  have run : (FileTree.store.readFile input).run tree = (tree.readFile input, tree) := rfl
  cases found : tree.readFile input with
  | error fault =>
      rw [found] at run
      refine Or.inl ⟨.unreadable input fault, ⟨rfl, found⟩, ?_⟩
      rw [readDocument, run_bind_of_run run]
      rfl
  | ok content =>
      rw [found] at run
      cases decoded : Utf8.decode content with
      | error fault =>
          refine Or.inl ⟨.notUtf8 input fault, ⟨rfl, content, found, decoded⟩, ?_⟩
          rw [readDocument, run_bind_of_run run]
          simp only [decoded]
          rfl
      | ok text =>
          refine Or.inr ⟨content, text, rfl, decoded, ?_⟩
          rw [readDocument, run_bind_of_run run]
          simp only [decoded]
          rfl

/-! ## Splitting a document -/

/-- The events of a split before the first section is saved. -/
def preparedEvents (text directory : Text) : List Event :=
  .directoryReady directory ::
    (findingEvents text ++ [.sectionsCounted (Section.ofDocument text).length])

theorem run_prepare_ok (made : tree.makeDirectories directory = (.ok (), prepared)) :
    (Folder.prepare FileTree.store directory).run tree =
      (⟨.ok ⟨directory⟩, [.directoryReady directory]⟩, prepared) := by
  have run : (FileTree.store.makeDirectories directory).run tree = (.ok (), prepared) := made
  rw [Folder.prepare, run_bind_of_run run]
  rfl

theorem run_prepare_error (failed : tree.makeDirectories directory = (.error fault, after)) :
    (Folder.prepare FileTree.store directory).run tree =
      (⟨.error (.directory directory fault), []⟩, after) := by
  have run : (FileTree.store.makeDirectories directory).run tree = (.error fault, after) := failed
  rw [Folder.prepare, run_bind_of_run run]
  rfl

/-- Making a folder ready adds directories and ends in one of two ways. -/
theorem run_prepare (tree : FileTree) (directory : Text) :
    ∃ after, FileTree.AddsDirectories tree after ∧
      ((∃ fault, tree.makeDirectories directory = (.error fault, after) ∧
          (Folder.prepare FileTree.store directory).run tree =
            (⟨.error (.directory directory fault), []⟩, after)) ∨
        tree.makeDirectories directory = (.ok (), after) ∧
          (Folder.prepare FileTree.store directory).run tree =
            (⟨.ok ⟨directory⟩, [.directoryReady directory]⟩, after)) := by
  have adds := FileTree.makeDirectories_adds tree directory
  cases made : tree.makeDirectories directory with
  | mk result after =>
      rw [made] at adds
      refine ⟨after, adds, ?_⟩
      cases result with
      | error fault => exact Or.inl ⟨fault, rfl, run_prepare_error made⟩
      | ok done => exact Or.inr ⟨rfl, run_prepare_ok made⟩

/-- A split ends when its directory cannot be made. -/
theorem run_split_of_makeDirectories_error
    (failed : tree.makeDirectories directory = (.error fault, after)) :
    (split FileTree.store text directory).run tree =
      (⟨.error (.storage (.directory directory fault)), []⟩, after) := by
  rw [split, run_bind_of_run (run_prepare_error failed)]
  rfl

/-- A split of whose sections all can be saved is done. -/
theorem run_split_of_savesAll (made : tree.makeDirectories directory = (.ok (), prepared))
    (saves : Folder.SavesAll ⟨directory⟩ (Section.ofDocument text) prepared after) :
    (split FileTree.store text directory).run tree =
      (⟨.ok ⟨directory, (Section.ofDocument text).length,
          (Section.ofDocument text).map fun part => Folder.filePath ⟨directory⟩ part.title⟩,
        preparedEvents text directory ++
          (Section.ofDocument text).map (Folder.savedEvent ⟨directory⟩)⟩, after) := by
  rw [split, run_bind_of_run (run_prepare_ok made)]
  dsimp only
  rw [run_bind_of_run (Folder.run_saveAll_of_savesAll saves)]
  rfl

/-- A split ends at the first section that cannot be saved. -/
theorem run_split_of_failsToSave (made : tree.makeDirectories directory = (.ok (), prepared))
    (sections : Section.ofDocument text = done ++ part :: later)
    (saves : Folder.SavesAll ⟨directory⟩ done prepared after)
    (fails : Folder.FailsToSave ⟨directory⟩ part after fault) :
    (split FileTree.store text directory).run tree =
      (⟨.error (.storage (.file (Folder.filePath ⟨directory⟩ part.title) fault)),
        preparedEvents text directory ++ done.map (Folder.savedEvent ⟨directory⟩)⟩, after) := by
  have saveAll := Folder.run_saveAll_of_failsToSave saves fails later
  rw [← sections] at saveAll
  rw [split, run_bind_of_run (run_prepare_ok made)]
  dsimp only
  rw [run_bind_of_run saveAll]
  rfl

/-- A split ends in one of three ways: its directory cannot be made, a section
cannot be saved, or everything is done. -/
theorem split_cases (tree : FileTree) (text directory : Text) :
    (∃ fault after, tree.makeDirectories directory = (.error fault, after)) ∨
    ∃ prepared after, tree.makeDirectories directory = (.ok (), prepared) ∧
      (Folder.SavesAll ⟨directory⟩ (Section.ofDocument text) prepared after ∨
        ∃ done part later fault, Section.ofDocument text = done ++ part :: later ∧
          Folder.SavesAll ⟨directory⟩ done prepared after ∧
          Folder.FailsToSave ⟨directory⟩ part after fault) := by
  cases made : tree.makeDirectories directory with
  | mk result prepared =>
      cases result with
      | error fault => exact Or.inl ⟨fault, prepared, rfl⟩
      | ok value =>
          rcases Folder.savesAll_or_failsToSave ⟨directory⟩ (Section.ofDocument text) prepared
            with ⟨after, saves⟩ | ⟨done, part, later, after, fault, sections, saves, fails⟩
          · exact Or.inr ⟨prepared, after, rfl, Or.inl saves⟩
          · exact Or.inr
              ⟨prepared, after, rfl, Or.inr ⟨done, part, later, fault, sections, saves, fails⟩⟩

/-! ## Reading and splitting -/

/-- A document that cannot be read is not split. -/
theorem run_splitFile_of_error {problem : InputProblem} {events : List Event}
    (read : (readDocument FileTree.store input).run tree = (⟨.error problem, events⟩, tree)) :
    (splitFile FileTree.store input directory).run tree =
      (⟨.error (.input problem), events⟩, tree) := by
  rw [splitFile, run_bind_of_run read]
  rfl

/-- A document that can be read is split. -/
theorem run_splitFile_of_ok {events : List Event} {report : Report Problem Summary}
    (read : (readDocument FileTree.store input).run tree = (⟨.ok text, events⟩, tree))
    (run : (split FileTree.store text directory).run tree = (report, after)) :
    (splitFile FileTree.store input directory).run tree =
      (⟨report.result, events ++ report.events⟩, after) := by
  rw [splitFile, run_bind_of_run read]
  dsimp only
  rw [run_bind_of_run run]
  rfl

/-! ## The whole run -/

/-- A run adds to a split that succeeds one event, and nothing to one that fails. -/
theorem run_run_of_splitFile {given : Arguments} {report : Report Problem Summary}
    (done : (splitFile FileTree.store given.input given.outputDirectory).run tree =
      (report, after)) :
    (run FileTree.store given).run tree =
      (⟨report.result, report.events ++
        match report.result with
        | .error _ => []
        | .ok summary => [.finished summary.sectionsFound summary.written.length]⟩, after) := by
  obtain ⟨result, events⟩ := report
  rw [run, run_bind_of_run done]
  cases result with
  | error problem =>
      rw [List.append_nil]
      rfl
  | ok summary => rfl

end Epics
