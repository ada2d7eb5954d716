import Epics.Proofs.Section.Cut
import Epics.Proofs.Splitter.FinalState

/-!
# What a failed run leaves

A run that fails does so in one of three ways, and each of them leaves a tree
that can be told from the tree before: the same one, the same one with more
directories, or the one that a successful split of a shorter document leaves.
-/

namespace Epics

variable {text directory : Text} {index : Nat} {heading : Text.Span} {part : Section}
  {done later : List Section} {fault : Fault} {tree prepared after : FileTree}

/-- A split has stopped at the section of an index, whose file could not be
written, after it had saved all sections above. -/
structure StoppedAt (text directory : Text) (index : Nat) (heading : Text.Span)
    (part : Section) (fault : Fault) (before after : FileTree) : Prop where
  /-- The heading stands at the index, -/
  opens : (Heading.spans text)[index]? = some heading
  /-- and so does the section. -/
  isPart : (Section.ofDocument text)[index]? = some part
  /-- Cut off before the heading, the document has the sections above it, -/
  sections : Section.ofDocument (Text.takeBytes heading.start text) =
    (Section.ofDocument text).take index
  /-- which a split of the cut document saves without failing, -/
  result :
    ((split FileTree.store (Text.takeBytes heading.start text) directory).run before).1.result =
      .ok ⟨directory, index, ((Section.ofDocument text).take index).map
        fun part => Path.join directory part.fileName⟩
  /-- and this split leaves the same tree. -/
  leaves :
    ((split FileTree.store (Text.takeBytes heading.start text) directory).run before).2 = after
  /-- Unless one of their names is the name of a link, the sections above stand in
  it, and every other entry is as it was when the directory had been made. -/
  saved : ∃ prepared home, before.makeDirectories directory = (.ok (), prepared) ∧
    prepared.home? directory = some home ∧
    (NoLinks home ((Section.ofDocument text).take index) before →
      SavedIn home ((Section.ofDocument text).take index) prepared after)
  /-- The section at the index cannot be saved there, and the attempt changes nothing. -/
  fails : (Folder.save FileTree.store ⟨directory⟩ part).run after =
    (⟨.error (.file (Path.join directory part.fileName) fault), []⟩, after)

/-- The sections above the first that cannot be saved are those of the document
cut off before its heading. -/
theorem exists_stoppedAt (made : tree.makeDirectories directory = (.ok (), prepared))
    (sections : Section.ofDocument text = done ++ part :: later)
    (saves : Folder.SavesAll ⟨directory⟩ done prepared after)
    (fails : Folder.FailsToSave ⟨directory⟩ part after fault) :
    ∃ heading, StoppedAt text directory done.length heading part fault tree after := by
  have isPart : (Section.ofDocument text)[done.length]? = some part := by
    rw [sections, List.getElem?_append_right (Nat.le_refl _), Nat.sub_self]
    rfl
  have above : (Section.ofDocument text).take done.length = done := by
    rw [sections, List.take_left]
  have inside : done.length < (Heading.spans text).length := by
    rw [← Section.length_ofDocument]
    exact (List.getElem?_eq_some_iff.mp isPart).1
  have opens := List.getElem?_eq_getElem inside
  have cut := Section.ofDocument_takeBytes opens
  obtain ⟨home, found, saved⟩ := exists_savedIn made saves
  rw [← above] at saves saved
  have run := run_split_of_savesAll made (cut.symm ▸ saves)
  rw [cut] at run
  refine ⟨_, opens, isPart, cut, ?_, ?_, ⟨prepared, home, made, found, saved⟩,
    Folder.run_save_of_failsToSave fails⟩
  · rw [run, above]
    rfl
  · rw [run]

/-- The four ways in which a run can end, from any tree.  An input that cannot be
read leaves the tree as it is.  A directory that cannot be made leaves at most
more directories.  A file that cannot be written is the one of the first section
for which this is so, and the tree is the one that a split of the document cut
off before this section leaves.  Otherwise the whole document has been split. -/
theorem splitFile_cases (tree : FileTree) (input directory : Text) :
    match (splitFile FileTree.store input directory).run tree with
    | (⟨.error (.input problem), _⟩, after) =>
        InputProblem.ArisesIn tree input problem ∧ after = tree
    | (⟨.error (.storage (.directory path fault)), _⟩, after) =>
        path = directory ∧ tree.makeDirectories directory = (.error fault, after) ∧
          FileTree.AddsDirectories tree after
    | (⟨.error (.storage (.file path fault)), _⟩, after) =>
        ∃ content text index heading part, tree.readFile input = .ok content ∧
          Utf8.decode content = .ok text ∧ path = Path.join directory part.fileName ∧
          StoppedAt text directory index heading part fault tree after
    | (⟨.ok summary, _⟩, after) =>
        ∃ content text, tree.readFile input = .ok content ∧ Utf8.decode content = .ok text ∧
          ((split FileTree.store text directory).run tree).1.result = .ok summary ∧
          ((split FileTree.store text directory).run tree).2 = after := by
  rcases run_readDocument tree input with
    ⟨problem, arises, read⟩ | ⟨content, text, found, decoded, read⟩
  · rw [run_splitFile_of_error read]
    exact ⟨arises, rfl⟩
  · rcases split_cases tree text directory with
      ⟨fault, after, failed⟩ | ⟨prepared, after, made, saves |
        ⟨done, part, later, fault, sections, saves, fails⟩⟩
    · have adds := FileTree.makeDirectories_adds tree directory
      rw [failed] at adds
      rw [run_splitFile_of_ok read (run_split_of_makeDirectories_error failed)]
      exact ⟨rfl, failed, adds⟩
    · have run := run_split_of_savesAll made saves
      rw [run_splitFile_of_ok read run]
      exact ⟨content, text, found, decoded, by rw [run], by rw [run]⟩
    · obtain ⟨heading, stopped⟩ := exists_stoppedAt made sections saves fails
      rw [run_splitFile_of_ok read (run_split_of_failsToSave made sections saves fails)]
      exact ⟨content, text, done.length, heading, part, found, decoded, rfl, stopped⟩

end Epics
