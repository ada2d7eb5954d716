import Epics.Proofs.FileName
import Epics.Proofs.Section.Lines
import Epics.Proofs.Splitter.Run
import Mathlib.Data.List.Dedup

/-!
# What a successful split leaves

Sections whose titles lead to the same file name share a file, and the last of
them has it.  Every other entry stays as it was when the directory was ready.
-/

namespace Epics

variable {text directory : Text} {home : Location} {tree before next after : FileTree}
  {part : Section} {sections later : List Section} {summary : Summary}

/-- The name of the file of a section. -/
def Section.fileName (part : Section) : Text :=
  FileName.ofTitle part.title

/-- After the one tree, sections have been saved in the directory at a place. -/
structure SavedIn (home : Location) (sections : List Section) (before after : FileTree) :
    Prop where
  /-- The file of each name holds the last section of that name. -/
  holds : ∀ part ∈ sections, ∃ earlier last later, sections = earlier ++ last :: later ∧
    last.fileName = part.fileName ∧ (∀ other ∈ later, other.fileName ≠ part.fileName) ∧
      after.get? (part.fileName :: home) = some (.file (Utf8.encode last.render))
  /-- Every other entry is as before. -/
  keeps : ∀ place, (∀ part ∈ sections, place ≠ part.fileName :: home) →
    after.get? place = before.get? place

/-- No file name of a section is the name of a link in the directory at a place. -/
def NoLinks (home : Location) (sections : List Section) (tree : FileTree) : Prop :=
  ∀ part ∈ sections, ∀ target, tree.get? (part.fileName :: home) ≠ some (.link target)

/-! ## Section by section -/

theorem SavedIn.nil (home : Location) (tree : FileTree) : SavedIn home [] tree tree :=
  ⟨by simp, fun _ _ => rfl⟩

/-- A file that is put before the others stays unless another one has its name. -/
theorem SavedIn.cons
    (saved : SavedIn home later
      (before.set (part.fileName :: home) (.file (Utf8.encode part.render))) after) :
    SavedIn home (part :: later) before after := by
  constructor
  · intro member isMember
    by_cases again : ∃ other ∈ later, other.fileName = member.fileName
    · obtain ⟨other, inLater, sameName⟩ := again
      obtain ⟨earlier, last, behind, rfl, lastName, isLast, stands⟩ := saved.holds other inLater
      rw [sameName] at lastName isLast stands
      exact ⟨part :: earlier, last, behind, rfl, lastName, isLast, stands⟩
    · have isLast : ∀ other ∈ later, other.fileName ≠ member.fileName :=
        fun other inLater sameName => again ⟨other, inLater, sameName⟩
      have isFirst : member = part := by
        rcases List.mem_cons.mp isMember with same | inLater
        · exact same
        · exact absurd rfl (isLast member inLater)
      subst isFirst
      refine ⟨[], member, later, rfl, rfl, isLast, ?_⟩
      rw [saved.keeps _ fun other inLater same =>
        isLast other inLater (List.cons.inj same).1.symm]
      exact FileTree.get?_set_self (List.cons_ne_nil _ _) before _
  · intro place different
    rw [saved.keeps place fun other inLater => different other (List.mem_cons_of_mem part inLater)]
    exact FileTree.get?_set_of_ne (different part List.mem_cons_self) before _

theorem NoLinks.tail (noLinks : NoLinks home (part :: later) before) (entry : Bytes) :
    NoLinks home later (before.set (part.fileName :: home) (.file entry)) := by
  intro other inLater target isLink
  by_cases same : other.fileName :: home = part.fileName :: home
  · rw [same, FileTree.get?_set_self (List.cons_ne_nil _ _)] at isLink
    exact absurd isLink (by simp)
  · rw [FileTree.get?_set_of_ne same] at isLink
    exact noLinks other (List.mem_cons_of_mem part inLater) target isLink

/-- Saving sections puts their files into the directory that the path of the
folder leads to. -/
theorem savedIn_of_savesAll {folder : Folder} (saves : folder.SavesAll sections before after)
    (found : before.home? folder.path = some home) (noLinks : NoLinks home sections before) :
    SavedIn home sections before after ∧ after.home? folder.path = some home := by
  induction saves with
  | nil tree => exact ⟨SavedIn.nil home tree, found⟩
  | @cons part later before next after first rest ih =>
      have noLink := noLinks part List.mem_cons_self
      obtain ⟨noDirectory, isSet⟩ :=
        FileTree.writeFile_join_ok found (FileName.isName_ofTitle part.title) noLink first
      have keeps : FileTree.KeepsWays before next := by
        rw [isSet]
        exact FileTree.keepsWays_set noDirectory noLink _
      have noLinksLater : NoLinks home later next := by
        rw [isSet]
        exact noLinks.tail _
      obtain ⟨saved, foundAfter⟩ := ih (FileTree.home?_of_keepsWays keeps found) noLinksLater
      rw [isSet] at saved
      exact ⟨saved.cons, foundAfter⟩

/-- When the directory of a split has been made, its path leads to a place, where
the sections end up that have been saved. -/
theorem exists_savedIn {prepared : FileTree}
    (made : tree.makeDirectories directory = (.ok (), prepared))
    (saves : Folder.SavesAll ⟨directory⟩ sections prepared after) :
    ∃ home, prepared.home? directory = some home ∧
      (NoLinks home sections tree → SavedIn home sections prepared after) := by
  obtain ⟨home, found⟩ := FileTree.makeDirectories_ok made
  have adds := FileTree.makeDirectories_adds tree directory
  rw [made] at adds
  refine ⟨home, found, fun noLinks => ?_⟩
  have noLinksPrepared : NoLinks home sections prepared := fun part member target isLink =>
    noLinks part member target (adds.get?_eq_link_iff.mp isLink)
  exact (savedIn_of_savesAll saves found noLinksPrepared).1

/-! ## The whole split -/

/-- A split that succeeds has made its directory ready and saved all sections. -/
theorem savesAll_of_split_ok
    (succeeded : ((split FileTree.store text directory).run tree).1.result = .ok summary) :
    ∃ prepared, tree.makeDirectories directory = (.ok (), prepared) ∧
      Folder.SavesAll ⟨directory⟩ (Section.ofDocument text) prepared
        ((split FileTree.store text directory).run tree).2 ∧
      summary = ⟨directory, (Section.ofDocument text).length,
        (Section.ofDocument text).map fun part => Path.join directory part.fileName⟩ := by
  rcases split_cases tree text directory with
    ⟨fault, after, failed⟩ | ⟨prepared, after, made, saves |
      ⟨done, part, later, fault, sections, saves, fails⟩⟩
  · rw [run_split_of_makeDirectories_error failed] at succeeded
    contradiction
  · rw [run_split_of_savesAll made saves] at succeeded ⊢
    exact ⟨prepared, made, saves, (Except.ok.inj succeeded).symm⟩
  · rw [run_split_of_failsToSave made sections saves fails] at succeeded
    contradiction

/-- What a run reports to have done is in the directory that it was given. -/
theorem outputDirectory_of_run_ok {given : Arguments} {events : List Event}
    (done : (run FileTree.store given).run tree = (⟨.ok summary, events⟩, after)) :
    summary.outputDirectory = given.outputDirectory := by
  rcases run_readDocument tree given.input with ⟨problem, _, read⟩ | ⟨_, text, _, _, read⟩
  · rw [run_run_of_splitFile (run_splitFile_of_error read)] at done
    cases done
  · rw [run_run_of_splitFile (run_splitFile_of_ok read rfl)] at done
    injection done with reported _
    injection reported with succeeded _
    obtain ⟨_, _, _, rfl⟩ := savesAll_of_split_ok succeeded
    rfl

/-- A successful split, from any tree.  There is one section and one written path
for every heading, the paths in the order of the sections.  Unless a file name is
the name of a link in the directory, the files hold the last section of each
name, whatever was there before, and every other entry is as it was when the
directory had been made, which adds directories and changes nothing. -/
theorem split_ok
    (succeeded : ((split FileTree.store text directory).run tree).1.result = .ok summary) :
    summary.outputDirectory = directory ∧
    summary.sectionsFound = (Heading.spans text).length ∧
    summary.sectionsFound = summary.written.length ∧
    summary.written =
      (Section.ofDocument text).map (fun part => Path.join directory part.fileName) ∧
    summary.written.dedup.length =
      ((Section.ofDocument text).map Section.fileName).dedup.length ∧
    ∃ prepared home, tree.makeDirectories directory = (.ok (), prepared) ∧
      FileTree.AddsDirectories tree prepared ∧
      prepared.home? directory = some home ∧
      (NoLinks home (Section.ofDocument text) tree →
        SavedIn home (Section.ofDocument text) prepared
          ((split FileTree.store text directory).run tree).2) := by
  obtain ⟨prepared, made, saves, rfl⟩ := savesAll_of_split_ok succeeded
  have distinct : Function.Injective (Path.join directory) :=
    fun _ _ same => Path.join_right_inj.mp same
  have paths : (Section.ofDocument text).map (fun part => Path.join directory part.fileName) =
      ((Section.ofDocument text).map Section.fileName).map (Path.join directory) := by
    rw [List.map_map]
    rfl
  have adds := FileTree.makeDirectories_adds tree directory
  rw [made] at adds
  obtain ⟨home, found, saved⟩ := exists_savedIn made saves
  refine ⟨rfl, Section.length_ofDocument text, (List.length_map _).symm, rfl, ?_,
    prepared, home, made, adds, found, saved⟩
  rw [paths, List.dedup_map_of_injective distinct, List.length_map]

/-- Two titles that differ in punctuation only share the file of the second, which
stood there before with more in it. -/
theorem split_ok_shared_file :
    let out := "out".toList
    let tree : FileTree := ⟨[([out], .directory),
      (["Epic_1_A.md".toList, out], .file (Utf8.encode "left by an earlier run".toList))]⟩
    let text := "## Epic 1: A\nx\n## Epic 2: B\n## Epic 1: A!\ny".toList
    ((split FileTree.store text out).run tree).1.result = .ok ⟨out, 3,
      ["out/Epic_1_A.md".toList, "out/Epic_2_B.md".toList, "out/Epic_1_A.md".toList]⟩ ∧
    NoLinks [out] (Section.ofDocument text) tree ∧
    SavedIn [out] (Section.ofDocument text) tree ((split FileTree.store text out).run tree).2 := by
  intro out tree text
  have succeeded : ((split FileTree.store text out).run tree).1.result = .ok ⟨out, 3,
      ["out/Epic_1_A.md".toList, "out/Epic_2_B.md".toList, "out/Epic_1_A.md".toList]⟩ := by
    decide +kernel
  have made : tree.makeDirectories out = (.ok (), tree) := by decide +kernel
  have noLinks : NoLinks [out] (Section.ofDocument text) tree := by
    intro part member target isLink
    have noLinkStands : ∀ part ∈ Section.ofDocument text,
        tree.get? [part.fileName, out] = none ∨ tree.get? [part.fileName, out] =
          some (.file (Utf8.encode "left by an earlier run".toList)) := by decide +kernel
    rcases noLinkStands part member with vacant | isFile
    · exact absurd (vacant.symm.trans isLink) (by simp)
    · exact absurd (isFile.symm.trans isLink) (by simp)
  obtain ⟨prepared, home, madeHere, _, found, saved⟩ := (split_ok succeeded).2.2.2.2.2
  obtain rfl : tree = prepared := congrArg Prod.snd (made.symm.trans madeHere)
  have isOut : tree.home? out = some [out] := by decide +kernel
  obtain rfl : [out] = home := Option.some.inj (isOut.symm.trans found)
  exact ⟨succeeded, noLinks, saved noLinks⟩

end Epics
