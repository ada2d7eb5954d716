import Epics.Proofs.Text.Lines
import Epics.Text.WhiteSpace
import Mathlib.Data.List.DropRight

/-!
# Trimming

Trimming takes a stretch of white space from each end of a text and nothing
else, so texts that differ only in such stretches have the same trimmed form.
-/

namespace Epics
namespace Text

/-- A text of white space only. -/
def IsBlank (text : Text) : Prop :=
  ∀ char ∈ text, isWhiteSpace char = true

instance (text : Text) : Decidable (IsBlank text) :=
  List.decidableBAll (fun char => isWhiteSpace char = true) text

theorem isBlank_feed : IsBlank ['\n'] := by
  decide

theorem trimEnd_eq_rdropWhile (text : Text) :
    trimEnd text = text.rdropWhile isWhiteSpace := rfl

/-- White space at the end makes no difference to trimming there. -/
theorem trimEnd_append_of_isBlank {blank : Text} (isBlank : IsBlank blank) (text : Text) :
    trimEnd (text ++ blank) = trimEnd text := by
  have allReversed : ∀ char ∈ blank.reverse, isWhiteSpace char = true := by
    intro char member
    exact isBlank char (List.mem_reverse.mp member)
  rw [trimEnd, trimEnd, List.reverse_append, List.dropWhile_append_of_pos allReversed]

/-- White space in front makes no difference to trimming. -/
theorem trim_isBlank_append {blank : Text} (isBlank : IsBlank blank) (text : Text) :
    trim (blank ++ text) = trim text := by
  rw [trim, trim, List.dropWhile_append_of_pos isBlank]

/-- White space at the end makes no difference to trimming. -/
theorem trim_append_of_isBlank {blank : Text} (isBlank : IsBlank blank) (text : Text) :
    trim (text ++ blank) = trim text := by
  rw [trim, trim, List.dropWhile_append]
  split
  · next allBlank =>
      rw [List.isEmpty_iff.mp allBlank, List.dropWhile_eq_nil_iff.mpr isBlank]
  · rw [trimEnd_append_of_isBlank isBlank]

/-- What trimming takes away is white space at the two ends. -/
theorem exists_eq_append_trim_append (text : Text) :
    ∃ before after, text = before ++ (trim text ++ after) ∧ IsBlank before ∧ IsBlank after := by
  refine ⟨text.takeWhile isWhiteSpace, (text.dropWhile isWhiteSpace).rtakeWhile isWhiteSpace,
    ?_, ?_, ?_⟩
  · rw [trim, trimEnd_eq_rdropWhile, List.rdropWhile_append_rtakeWhile,
      List.takeWhile_append_dropWhile]
  · intro char member
    exact List.mem_takeWhile_imp member
  · intro char member
    exact List.mem_rtakeWhile_imp member

theorem trim_sublist (text : Text) : List.Sublist (trim text) text :=
  (List.rdropWhile_prefix isWhiteSpace _).sublist.trans (List.dropWhile_sublist isWhiteSpace)

/-- White space that is put behind a text makes none of its characters visible: up
to a visible character the longer text and the text are the same. -/
theorem concat_prefix_of_isBlank {text blank before : Text} {last : Char}
    (isBlank : IsBlank blank) (visible : isWhiteSpace last = false)
    (inLonger : before ++ [last] <+: text ++ blank) : before ++ [last] <+: text := by
  rcases List.prefix_or_prefix_of_prefix inLonger (List.prefix_append text blank) with
    inText | ⟨more, split⟩
  · exact inText
  · rcases List.eq_nil_or_concat more with rfl | ⟨others, char, rfl⟩
    · rw [List.append_nil] at split
      exact split ▸ List.prefix_rfl
    · rw [← split, List.prefix_append_right_inj] at inLonger
      have lastEq : char = last := by
        rw [List.concat_eq_append, ← List.append_assoc] at split
        exact List.singleton_inj.mp (List.append_inj' split rfl).2
      have blankLast := isBlank char (inLonger.subset (by simp))
      rw [lastEq, visible] at blankLast
      contradiction

/-- A line feed in front makes no difference to trimming. -/
theorem trim_feed_cons (text : Text) : trim ('\n' :: text) = trim text :=
  trim_isBlank_append isBlank_feed text

/-- Whether the last of some lines ends in a line feed makes no difference to
trimming them all. -/
theorem trim_terminated (lines : List Text) : trim (terminated lines) = trim (joined lines) := by
  cases lines with
  | nil => rfl
  | cons line more =>
      rw [terminated_eq_joined (List.cons_ne_nil line more), trim_append_of_isBlank isBlank_feed]

/-- A trimmed text has nothing left to trim. -/
@[simp] theorem trim_trim (text : Text) : trim (trim text) = trim text := by
  obtain ⟨before, after, split, beforeBlank, afterBlank⟩ := exists_eq_append_trim_append text
  calc
    trim (trim text) = trim (trim text ++ after) := (trim_append_of_isBlank afterBlank _).symm
    _ = trim (before ++ (trim text ++ after)) := (trim_isBlank_append beforeBlank _).symm
    _ = trim text := by rw [← split]

/-- A text that neither begins nor ends with white space. -/
structure IsTrimmed (text : Text) : Prop where
  first : ∀ char ∈ text.head?, isWhiteSpace char = false
  last : ∀ char ∈ text.getLast?, isWhiteSpace char = false

/-- A text without white space at its ends is what trimming makes of it. -/
theorem trim_eq_self_iff {text : Text} : trim text = text ↔ IsTrimmed text := by
  constructor
  · intro same
    constructor
    · intro char isFirst
      obtain ⟨rest, rfl⟩ := List.head?_eq_some_iff.mp isFirst
      by_contra blank
      have isBlank : IsBlank [char] := List.forall_mem_singleton.mpr (by simpa using blank)
      have shorter := (trim_sublist rest).length_le
      rw [← trim_isBlank_append isBlank, List.singleton_append, same] at shorter
      exact absurd shorter (by simp)
    · intro char isLast
      obtain ⟨rest, rfl⟩ := List.getLast?_eq_some_iff.mp isLast
      by_contra blank
      have isBlank : IsBlank [char] := List.forall_mem_singleton.mpr (by simpa using blank)
      have shorter := (trim_sublist rest).length_le
      rw [← trim_append_of_isBlank isBlank, same] at shorter
      exact absurd shorter (by simp)
  · intro trimmed
    obtain ⟨before, after, split, beforeBlank, afterBlank⟩ := exists_eq_append_trim_append text
    have noneBefore : before = [] := by
      cases before with
      | nil => rfl
      | cons char more =>
          have visible := trimmed.first char (by rw [split]; rfl)
          rw [beforeBlank char List.mem_cons_self] at visible
          contradiction
    have noneAfter : after = [] := by
      rcases List.eq_nil_or_concat after with isEmpty | ⟨more, char, rfl⟩
      · exact isEmpty
      · have visible := trimmed.last char (by
          rw [split, List.concat_eq_append, ← List.append_assoc, ← List.append_assoc]
          exact List.getLast?_concat)
        rw [afterBlank char (by simp)] at visible
        contradiction
    rw [noneBefore, noneAfter, List.nil_append, List.append_nil] at split
    exact split.symm

theorem isTrimmed_trim (text : Text) : IsTrimmed (trim text) :=
  trim_eq_self_iff.mp (trim_trim text)

/-- A text that begins with no white space is trimmed at its end only. -/
theorem exists_eq_trim_append {first : Char} {rest : Text}
    (visible : isWhiteSpace first = false) :
    ∃ after, first :: rest = trim (first :: rest) ++ after ∧ IsBlank after := by
  obtain ⟨before, after, split, beforeBlank, afterBlank⟩ :=
    exists_eq_append_trim_append (first :: rest)
  cases before with
  | nil => exact ⟨after, split, afterBlank⟩
  | cons char more =>
      have same : first = char := (List.cons.inj split).1
      have blank := beforeBlank char List.mem_cons_self
      rw [← same, visible] at blank
      contradiction

end Text
end Epics
