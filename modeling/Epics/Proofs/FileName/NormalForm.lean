import Epics.Proofs.FileName
import Mathlib.Data.List.TakeWhile

/-!
# Names as normal forms of titles

The name that a title has before its extension is its own name.  It depends only on the
characters of the title that count, not on spaces in front of them, and from the first
that is no space on it grows with the title, character by character.
-/

namespace Epics
namespace FileName

variable {title other text before after : Text}

/-! ## Laws of the stem -/

theorem isPlain_of_mem_stem {char : Char} (member : char ∈ stem title) : isPlain char = true :=
  isPlain_iff.mpr (isKept_of_mem_stem member)

/-- The stem of a title is spelled from the first kept character that is no space on. -/
theorem stem_append (visible : ∃ char ∈ before, isPlain char = true) (after : Text) :
    stem (before ++ after) = stem before ++ spelled after := by
  obtain ⟨char, member, plain⟩ := visible
  obtain ⟨kept, noSpace⟩ := isPlain_iff.mp plain
  have stops : (before.filter isKept).dropWhile (· == ' ') ≠ [] := by
    intro allSpaces
    have isSpace := List.dropWhile_eq_nil_iff.mp allSpaces char (List.mem_filter.mpr ⟨member, kept⟩)
    exact noSpace (beq_iff_eq.mp isSpace)
  rw [stem, List.filter_append, List.dropWhile_append, if_neg (by simpa using stops),
    List.map_append]
  rfl

/-- Spaces in front of a title are left out of its stem. -/
theorem stem_replicate_append (count : Nat) (title : Text) :
    stem (List.replicate count ' ' ++ title) = stem title := by
  have allSpaces : ∀ char ∈ (List.replicate count ' ').filter isKept, (char == ' ') = true := by
    intro char member
    rw [List.eq_of_mem_replicate (List.mem_filter.mp member).1]
    rfl
  rw [stem, List.filter_append, List.dropWhile_append_of_pos allSpaces]
  rfl

/-- A text of characters that stand as they are is its own stem. -/
theorem stem_of_isPlain (plain : ∀ char ∈ text, isPlain char = true) : stem text = text := by
  cases text with
  | nil => rfl
  | cons char rest =>
      have first : stem [char] = [char] := by
        obtain ⟨kept, noSpace⟩ := isPlain_iff.mp (plain char List.mem_cons_self)
        rw [stem, List.filter_cons_of_pos kept, List.dropWhile_cons_of_neg (by simpa using noSpace)]
        simp [written, noSpace]
      have isPlainHere : ∃ other ∈ [char], isPlain other = true :=
        ⟨char, List.mem_cons_self, plain char List.mem_cons_self⟩
      have others : spelled rest = rest :=
        spelled_of_isPlain fun other member => plain other (List.mem_cons_of_mem char member)
      have split := stem_append isPlainHere rest
      rw [first, others] at split
      exact split

/-! ## Characters that do not count -/

/-- The second text is the first one with characters that do not count put in and taken
out at any places. -/
inductive SameKept : Text → Text → Prop
  | nil : SameKept [] []
  | cons {first second : Text} (char : Char) (rest : SameKept first second) :
      SameKept (char :: first) (char :: second)
  | putIn {first second : Text} {char : Char} (dropped : isKept char = false)
      (rest : SameKept first second) : SameKept first (char :: second)
  | takenOut {first second : Text} {char : Char} (dropped : isKept char = false)
      (rest : SameKept first second) : SameKept (char :: first) second

theorem SameKept.filter_eq (same : SameKept title other) :
    title.filter isKept = other.filter isKept := by
  induction same with
  | nil => rfl
  | cons char _ ih => rw [List.filter_cons, List.filter_cons, ih]
  | putIn dropped _ ih => rw [List.filter_cons_of_neg (Bool.eq_false_iff.mp dropped), ih]
  | takenOut dropped _ ih => rw [List.filter_cons_of_neg (Bool.eq_false_iff.mp dropped), ih]

/-- All characters that do not count can be taken out. -/
theorem sameKept_filter (title : Text) : SameKept title (title.filter isKept) := by
  induction title with
  | nil => exact .nil
  | cons char rest ih =>
      by_cases kept : isKept char = true
      · rw [List.filter_cons_of_pos kept]
        exact .cons char ih
      · rw [List.filter_cons_of_neg kept]
        exact .takenOut (Bool.eq_false_iff.mpr kept) ih

theorem SameKept.stem_eq (same : SameKept title other) : stem title = stem other := by
  rw [stem, stem, same.filter_eq]

/-- The name of a title is a normal form of it.  It is made of characters that stand as
they are, and of the titles made of such characters each is its own name, so that naming
a name changes nothing.  Characters that do not count can be put in and taken out, and
spaces put in front.  From the first letter, number, underscore or hyphen on, what follows
is spelled out behind, every space by an underscore. -/
theorem stem_normal_form (title : Text) :
    ofTitle title = stem title ++ ".md".toList ∧
    (∀ char ∈ stem title, isPlain char = true) ∧
    ((∀ char ∈ title, isPlain char = true) → stem title = title) ∧
    ofTitle (stem title) = ofTitle title ∧
    (∀ other, SameKept title other → ofTitle other = ofTitle title) ∧
    (∀ count, ofTitle (List.replicate count ' ' ++ title) = ofTitle title) ∧
    ∀ before after, title = before ++ after → (∃ char ∈ before, isPlain char = true) →
      stem title = stem before ++ (after.filter isKept).map fun char =>
        if char = ' ' then '_' else char := by
  refine ⟨rfl, fun char => isPlain_of_mem_stem, stem_of_isPlain, ?_, ?_, ?_, ?_⟩
  · rw [ofTitle, ofTitle, stem_of_isPlain fun char => isPlain_of_mem_stem]
  · intro other same
    rw [ofTitle, ofTitle, same.stem_eq]
  · intro count
    rw [ofTitle, ofTitle, stem_replicate_append]
  · rintro before after rfl visible
    exact stem_append visible after

/-- A title with dropped marks between spaces: the spaces stay, the last one included. -/
theorem stem_normal_form_between_spaces :
    let title := "Epic 1: é ?".toList
    let marksOut := "Epic 1 é ".toList
    let name := "Epic_1_é_".toList
    stem title = stem "Epic 1".toList ++ "_é_".toList ∧
    SameKept title marksOut ∧ ofTitle marksOut = ofTitle title ∧
    (∀ char ∈ name, isPlain char = true) ∧ stem name = name := by
  intro title marksOut name
  have numbered : ∃ char ∈ "Epic 1".toList, isPlain char = true :=
    ⟨'E', by decide, by decide⟩
  have plain : ∀ char ∈ name, isPlain char = true := List.all_eq_true.mp (by decide +kernel)
  have same : SameKept title marksOut := by
    have marks : title.filter isKept = marksOut := by decide +kernel
    rw [← marks]
    exact sameKept_filter title
  obtain ⟨_, _, _, _, kept, _, spells⟩ := stem_normal_form title
  obtain ⟨_, _, isOwn, _⟩ := stem_normal_form name
  refine ⟨(spells "Epic 1".toList ": é ?".toList rfl numbered).trans ?_, same,
    kept marksOut same, plain, isOwn plain⟩
  decide +kernel

end FileName
end Epics
