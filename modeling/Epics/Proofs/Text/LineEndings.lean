import Epics.Proofs.Text.Trim

/-!
# Line endings

A text may end its lines in a line feed or in a carriage return and a line feed.
In the second form the carriage return is the last character of the line, and it is
white space to trimming.
-/

namespace Epics
namespace Text

/-- A text with a carriage return in front of every line feed. -/
def crlf (text : Text) : Text :=
  text.flatMap fun char => if char = '\n' then ['\r', '\n'] else [char]

@[simp] theorem crlf_nil : crlf [] = [] := rfl

@[simp] theorem crlf_feed_cons (rest : Text) :
    crlf ('\n' :: rest) = '\r' :: '\n' :: crlf rest := rfl

theorem crlf_cons_of_ne {char : Char} (noFeed : char ≠ '\n') (rest : Text) :
    crlf (char :: rest) = char :: crlf rest := by
  rw [crlf, List.flatMap_cons, if_neg noFeed]
  rfl

@[simp] theorem crlf_append (left right : Text) :
    crlf (left ++ right) = crlf left ++ crlf right :=
  List.flatMap_append

/-- A line has no line ending inside of it. -/
theorem crlf_of_not_mem {text : Text} (noFeed : '\n' ∉ text) : crlf text = text := by
  induction text with
  | nil => rfl
  | cons char rest ih =>
      obtain ⟨noFeedHere, noFeedBehind⟩ := not_or.mp (mt List.mem_cons.mpr noFeed)
      rw [crlf_cons_of_ne (Ne.symm noFeedHere), ih noFeedBehind]

/-! ## Lines -/

/-- Lines with a carriage return at the end of each. -/
def returned (lines : List Text) : List Text :=
  lines.map (· ++ ['\r'])

@[simp] theorem returned_cons (line : Text) (more : List Text) :
    returned (line :: more) = (line ++ ['\r']) :: returned more := rfl

theorem crlf_terminated {lines : List Text} (noFeed : ∀ line ∈ lines, '\n' ∉ line) :
    crlf (terminated lines) = terminated (returned lines) := by
  induction lines with
  | nil => rfl
  | cons line more ih =>
      obtain ⟨noFeedHere, noFeedBelow⟩ := List.forall_mem_cons.mp noFeed
      rw [terminated_cons, crlf_append, crlf_of_not_mem noFeedHere, crlf_feed_cons,
        ih noFeedBelow, returned_cons, terminated_cons, List.append_assoc]
      rfl

/-- All lines but the last, which no line feed ends, get a carriage return. -/
theorem lines_crlf {text last : Text} {above : List Text} (split : lines text = above ++ [last]) :
    lines (crlf text) = returned above ++ [last] := by
  have noFeed : ∀ line ∈ above ++ [last], '\n' ∉ line := by
    intro line member
    rw [← split] at member
    exact not_mem_of_mem_lines member
  obtain ⟨noFeedAbove, noFeedLast⟩ := List.forall_mem_append.mp noFeed
  have noFeedReturned : ∀ line ∈ returned above ++ [last], '\n' ∉ line := by
    refine List.forall_mem_append.mpr ⟨fun line member => ?_, noFeedLast⟩
    obtain ⟨source, inAbove, rfl⟩ := List.mem_map.mp member
    simpa using noFeedAbove source inAbove
  have textEq : crlf text = joined (returned above ++ [last]) := by
    rw [← joined_lines text, split, joined_append (List.cons_ne_nil last []), crlf_append,
      crlf_terminated noFeedAbove, joined_append (List.cons_ne_nil last []), joined_singleton,
      crlf_of_not_mem (noFeedLast last List.mem_cons_self)]
  rw [textEq, lines_joined (by simp) noFeedReturned]

/-! ## Trimming -/

theorem IsBlank.crlf {blank : Text} (isBlank : IsBlank blank) : IsBlank (crlf blank) := by
  intro char member
  obtain ⟨source, inBlank, isWritten⟩ := List.mem_flatMap.mp member
  split at isWritten
  · rcases List.mem_pair.mp isWritten with rfl | rfl <;> decide
  · rw [List.mem_singleton.mp isWritten]
    exact isBlank source inBlank

/-- Visible characters stay at the ends of a text. -/
theorem IsTrimmed.crlf {text : Text} (trimmed : IsTrimmed text) : IsTrimmed (crlf text) := by
  have noFeed {char : Char} (visible : isWhiteSpace char = false) : char ≠ '\n' := by
    rintro rfl
    exact absurd visible (by decide)
  constructor
  · cases text with
    | nil => exact trimmed.first
    | cons char rest =>
        rw [crlf_cons_of_ne (noFeed (trimmed.first char rfl))]
        exact trimmed.first
  · rcases List.eq_nil_or_concat text with rfl | ⟨rest, char, rfl⟩
    · exact trimmed.last
    · rw [List.concat_eq_append] at trimmed ⊢
      have visible := trimmed.last char List.getLast?_concat
      rw [crlf_append, crlf_cons_of_ne (noFeed visible), crlf_nil]
      simpa using visible

/-- Trimming takes the carriage returns away with the line feeds that they stand
before, and no other ones. -/
theorem trim_crlf (text : Text) : trim (crlf text) = crlf (trim text) := by
  obtain ⟨before, after, split, beforeBlank, afterBlank⟩ := exists_eq_append_trim_append text
  calc
    trim (crlf text) = trim (crlf before ++ (crlf (trim text) ++ crlf after)) := by
      conv => lhs; rw [split, crlf_append, crlf_append]
    _ = trim (crlf (trim text)) := by
      rw [trim_isBlank_append beforeBlank.crlf, trim_append_of_isBlank afterBlank.crlf]
    _ = crlf (trim text) := trim_eq_self_iff.mpr (isTrimmed_trim text).crlf

end Text
end Epics
