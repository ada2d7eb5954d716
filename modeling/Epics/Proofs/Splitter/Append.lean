import Epics.Proofs.Section.Append
import Epics.Proofs.Splitter.Repeated

/-!
# Splitting a document in two parts

A document whose second part begins with a heading can be split at once or one part
after the other.  Both ways write the same files in the same order and stop at the
same section, so that they have the same result and leave the same tree.
-/

namespace Epics

open Heading

variable {folder : Folder} {parts later : List Section} {above below directory : Text}
  {tree before middle after : FileTree}

/-- Sections that are saved after others are saved with them. -/
theorem Folder.SavesAll.append (saves : folder.SavesAll parts before middle)
    (savesLater : folder.SavesAll later middle after) :
    folder.SavesAll (parts ++ later) before after := by
  induction saves with
  | nil tree => exact savesLater
  | cons first _ ih => exact .cons first (ih savesLater)

/-- A split of two texts as one document ends as the splits of the two do that are
made one after the other. -/
structure SplitsInTurn (tree : FileTree) (above below directory : Text) : Prop where
  /-- When both succeed, so does the split of the whole: it finds the sections and
  writes the paths of both, and it leaves the same tree. -/
  succeeds : ∀ done more,
    ((split FileTree.store above directory).run tree).1.result = .ok done →
    ((split FileTree.store below directory).run
      ((split FileTree.store above directory).run tree).2).1.result = .ok more →
    ((split FileTree.store (above ++ below) directory).run tree).1.result = .ok
        ⟨directory, done.sectionsFound + more.sectionsFound, done.written ++ more.written⟩ ∧
      ((split FileTree.store (above ++ below) directory).run tree).2 =
        ((split FileTree.store below directory).run
          ((split FileTree.store above directory).run tree).2).2
  /-- When the first fails, the split of the whole fails like it, -/
  failsAbove : ∀ problem,
    ((split FileTree.store above directory).run tree).1.result = .error problem →
    ((split FileTree.store (above ++ below) directory).run tree).1.result = .error problem ∧
      ((split FileTree.store (above ++ below) directory).run tree).2 =
        ((split FileTree.store above directory).run tree).2
  /-- and when the second fails after the first has succeeded, like the second. -/
  failsBelow : ∀ done problem,
    ((split FileTree.store above directory).run tree).1.result = .ok done →
    ((split FileTree.store below directory).run
      ((split FileTree.store above directory).run tree).2).1.result = .error problem →
    ((split FileTree.store (above ++ below) directory).run tree).1.result = .error problem ∧
      ((split FileTree.store (above ++ below) directory).run tree).2 =
        ((split FileTree.store below directory).run
          ((split FileTree.store above directory).run tree).2).2

/-- Texts can be split in turn when their sections, one after the other, are those of
the whole. -/
theorem splitsInTurn_of_sections (tree : FileTree) (directory : Text)
    (sections : Section.ofDocument (above ++ below) =
      Section.ofDocument above ++ Section.ofDocument below) :
    SplitsInTurn tree above below directory := by
  rcases split_cases tree above directory with
    ⟨fault, middle, failed⟩ | ⟨prepared, middle, made, saves |
      ⟨done, part, later, fault, aboveEq, saves, fails⟩⟩
  · constructor <;> simp [run_split_of_makeDirectories_error failed]
  · have madeAgain := saves.makeDirectories_eq made
    -- The directory is there for the second split, so that what is left are its sections.
    rcases Folder.savesAll_or_failsToSave ⟨directory⟩ (Section.ofDocument below) middle with
      ⟨after, savesBelow⟩ | ⟨done, part, later, after, fault, belowEq, savesDone, fails⟩
    · have savesWhole := saves.append savesBelow
      rw [← sections] at savesWhole
      constructor <;> simp [run_split_of_savesAll made savesWhole,
        run_split_of_savesAll made saves, run_split_of_savesAll madeAgain savesBelow, sections]
    · have wholeEq : Section.ofDocument (above ++ below) =
          (Section.ofDocument above ++ done) ++ part :: later := by
        rw [sections, belowEq, List.append_assoc]
      constructor <;> simp [run_split_of_failsToSave made wholeEq (saves.append savesDone) fails,
        run_split_of_savesAll made saves,
        run_split_of_failsToSave madeAgain belowEq savesDone fails]
  · have wholeEq : Section.ofDocument (above ++ below) =
        done ++ part :: (later ++ Section.ofDocument below) := by
      rw [sections, aboveEq, List.append_assoc, List.cons_append]
    constructor <;> simp [run_split_of_failsToSave made wholeEq saves fails,
      run_split_of_failsToSave made aboveEq saves fails]

/-- A text that ends a line, in front of another one.  Without headings it adds no
section to the other.  In front of a heading the sections of both, one after the
other, are those of the whole, and from any tree the two can be split in turn. -/
theorem ofDocument_append_splitsInTurn (ends : Text.EndsLine above) :
    ((∀ line ∈ Text.lines above, ¬IsHeading line) →
      ∀ below, Section.ofDocument (above ++ below) = Section.ofDocument below) ∧
    ∀ below, Opens below →
      Section.ofDocument (above ++ below) =
        Section.ofDocument above ++ Section.ofDocument below ∧
      ∀ tree directory, SplitsInTurn tree above below directory := by
  refine ⟨Section.ofDocument_append_of_noHeading ends, fun below opens => ?_⟩
  have sections := Section.ofDocument_append_of_opens ends opens
  exact ⟨sections, fun tree directory => splitsInTurn_of_sections tree directory sections⟩

/-- The second part overwrites a file of the first, and so does the whole document;
a preface in front of the second part is in no section. -/
theorem splitsInTurn_shared_file :
    let out := "out".toList
    let preface : Text := "# Epics\n ## Epic 0: None\n".toList
    let above : Text := "top\n## Epic 1: A\nx\n## Epic 2: B\n\n".toList
    let below : Text := "## Epic 1: A!\ny".toList
    Section.ofDocument (preface ++ below) = Section.ofDocument below ∧
    Text.EndsLine above ∧ Opens below ∧
    ((split FileTree.store (above ++ below) out).run .empty).1.result = .ok ⟨out, 3,
      ["out/Epic_1_A.md".toList, "out/Epic_2_B.md".toList, "out/Epic_1_A.md".toList]⟩ ∧
    ((split FileTree.store (above ++ below) out).run .empty).2 =
      ((split FileTree.store below out).run
        ((split FileTree.store above out).run .empty).2).2 := by
  intro out preface above below
  have prefaceEnds : Text.EndsLine preface := Or.inr ⟨"# Epics\n ## Epic 0: None".toList, rfl⟩
  have noHeading : ∀ line ∈ Text.lines preface, ¬IsHeading line := by decide +kernel
  have ends : Text.EndsLine above := Or.inr ⟨"top\n## Epic 1: A\nx\n## Epic 2: B\n".toList, rfl⟩
  have opens : Opens below := by decide +kernel
  have firstDone : ((split FileTree.store above out).run .empty).1.result =
      .ok ⟨out, 2, ["out/Epic_1_A.md".toList, "out/Epic_2_B.md".toList]⟩ := by decide +kernel
  have secondDone : ((split FileTree.store below out).run
      ((split FileTree.store above out).run .empty).2).1.result =
        .ok ⟨out, 1, ["out/Epic_1_A.md".toList]⟩ := by decide +kernel
  have inTurn := ((ofDocument_append_splitsInTurn ends).2 below opens).2 .empty out
  exact ⟨(ofDocument_append_splitsInTurn prefaceEnds).1 noHeading below, ends, opens,
    inTurn.succeeds _ _ firstDone secondDone⟩

end Epics
