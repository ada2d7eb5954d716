import Epics.Proofs.Section.Lines

/-!
# What every section of a document has

A section that was found in a document has a title that comes from a heading and
a body that comes from lines without headings.  Trimming can make a heading only
out of the first line of such a body, and can spoil a title only when nothing but
white space follows its number.
-/

namespace Epics

namespace Heading

/-- A heading stands at the start of a text. -/
def Opens (text : Text) : Prop :=
  ∃ digits char rest, text = marker ++ (digits ++ (separator ++ char :: rest)) ∧
    digits ≠ [] ∧ (∀ digit ∈ digits, digit.isDigit = true) ∧ char ≠ '\n'

/-- A heading stands at the start of a text exactly when the first line is one. -/
theorem opens_iff {text first : Text} {more : List Text}
    (split : Text.lines text = first :: more) : Opens text ↔ IsHeading first := by
  have firstEq := Text.takeWhile_of_lines split
  constructor
  · rintro ⟨digits, char, rest, rfl, someDigit, allDigits, visible⟩
    have inLine : (char != '\n') = true := bne_iff_ne.mpr visible
    rw [takeWhile_of_heading allDigits,
      List.takeWhile_cons_of_pos (p := (· != '\n')) inLine] at firstEq
    exact ⟨digits, _, firstEq.symm, someDigit, allDigits, List.cons_ne_nil _ _⟩
  · rintro ⟨digits, rest, rfl, someDigit, allDigits, someRest⟩
    obtain ⟨char, others, rfl⟩ := List.exists_cons_of_ne_nil someRest
    have visible : char ≠ '\n' := by
      rintro rfl
      have noFeed := Text.not_mem_of_mem_lines (split ▸ List.mem_cons_self)
      simp at noFeed
    obtain ⟨after, joinedEq, _⟩ :=
      Text.exists_joined_cons (marker ++ (digits ++ (separator ++ char :: others))) more
    rw [← split, Text.joined_lines] at joinedEq
    refine ⟨digits, char, others ++ after, ?_, someDigit, allDigits, visible⟩
    rw [joinedEq]
    simp only [List.append_assoc, List.cons_append]

/-- A title whose number and colon are followed by something other than white space. -/
def HasText (title : Text) : Prop :=
  ∃ digits rest, title = marker ++ (digits ++ ':' :: rest) ∧
    digits ≠ [] ∧ (∀ digit ∈ digits, digit.isDigit = true) ∧
    ∃ char ∈ rest, Text.isWhiteSpace char = false

/-- A heading loses only white space at its end when it is trimmed. -/
theorem exists_eq_trim_append {heading : Text} (isHeading : IsHeading heading) :
    ∃ after, heading = Text.trim heading ++ after ∧ Text.IsBlank after := by
  obtain ⟨digits, rest, rfl, _, _, _⟩ := isHeading
  exact Text.exists_eq_trim_append (by decide)

/-- A trimmed heading is a heading still, unless it has nothing but white space
behind its number. -/
theorem hasText_trim_iff {heading : Text} (isHeading : IsHeading heading) :
    HasText (Text.trim heading) ↔ IsHeading (Text.trim heading) := by
  obtain ⟨after, split, afterBlank⟩ := exists_eq_trim_append isHeading
  constructor
  · rintro ⟨digits, rest, titleEq, someDigit, allDigits, char, member, visible⟩
    obtain ⟨headingDigits, headingRest, headingEq, _, allHeadingDigits, _⟩ := isHeading
    have behindMarker : headingDigits ++ (separator ++ headingRest) =
        digits ++ ':' :: (rest ++ after) := by
      rw [titleEq, headingEq, List.append_assoc] at split
      simpa using List.append_cancel_left split
    have sameDigits : headingDigits = digits := by
      have taken := congrArg (List.takeWhile Char.isDigit) behindMarker
      rw [takeWhile_isDigit_append allHeadingDigits,
        List.takeWhile_append_of_pos allDigits] at taken
      exact taken.trans (List.append_nil digits)
    rw [sameDigits] at behindMarker
    have behindColon : ' ' :: headingRest = rest ++ after :=
      (List.cons.inj (List.append_cancel_left behindMarker)).2
    cases rest with
    | nil => simp at member
    | cons space others =>
        obtain ⟨rfl, _⟩ := List.cons.inj behindColon
        refine ⟨digits, others, titleEq, someDigit, allDigits, ?_⟩
        rintro rfl
        rw [List.mem_singleton.mp member] at visible
        exact absurd visible (by decide)
  · rintro ⟨digits, rest, titleEq, someDigit, allDigits, someRest⟩
    refine ⟨digits, ' ' :: rest, titleEq, someDigit, allDigits, ?_⟩
    by_contra noText
    have blank : Text.IsBlank (' ' :: rest) := by
      intro char member
      by_contra visible
      exact noText ⟨char, member, Bool.eq_false_iff.mpr visible⟩
    have shorter : Text.trim heading = Text.trim (marker ++ (digits ++ [':'])) := by
      rw [← Text.trim_trim heading, titleEq,
        ← Text.trim_append_of_isBlank blank (marker ++ (digits ++ [':']))]
      simp only [separator, List.append_assoc]
      rfl
    have bound := (Text.trim_sublist (marker ++ (digits ++ [':']))).length_le
    rw [← shorter, titleEq] at bound
    simp [separator] at bound

end Heading

namespace Section

open Heading

/-- What trimming has made out of a heading and of lines without headings. -/
structure IsExtracted (part : Section) : Prop where
  /-- The title is a heading without the white space at its end. -/
  fromHeading : ∃ heading, part.title = Text.trim heading ∧ IsHeading heading ∧ '\n' ∉ heading
  /-- The body is made of lines that are no headings. -/
  fromLines : ∃ lines, part.body = Text.trim (Text.joined lines) ∧
    ∀ line ∈ lines, ¬IsHeading line ∧ '\n' ∉ line

/-- Body lines are no headings, and lines still. -/
theorem plain_of_mem_bodyLines {lines : List Text} (noFeed : ∀ line ∈ lines, '\n' ∉ line)
    {line : Text} (member : line ∈ bodyLines lines) : ¬IsHeading line ∧ '\n' ∉ line :=
  ⟨not_isHeading_of_mem_bodyLines member,
    noFeed line ((List.takeWhile_sublist _).subset member)⟩

/-- A section of lines is the group of one of their headings. -/
theorem exists_of_mem_ofLines {lines : List Text} {part : Section}
    (member : part ∈ ofLines lines) :
    ∃ above heading below, lines = above ++ heading :: below ∧ IsHeading heading ∧
      part = ⟨Text.trim heading, Text.trim (Text.joined (bodyLines below))⟩ := by
  induction lines with
  | nil => exact absurd member List.not_mem_nil
  | cons line below ih =>
      have later (inside : part ∈ ofLines below) :
          ∃ above heading others, line :: below = above ++ heading :: others ∧
            IsHeading heading ∧
            part = ⟨Text.trim heading, Text.trim (Text.joined (bodyLines others))⟩ := by
        obtain ⟨above, heading, others, rfl, isHeading, partEq⟩ := ih inside
        exact ⟨line :: above, heading, others, rfl, isHeading, partEq⟩
      by_cases isHeading : IsHeading line
      · rw [ofLines_cons_of_isHeading isHeading] at member
        rcases List.mem_cons.mp member with partEq | inside
        · exact ⟨[], line, below, rfl, isHeading, partEq⟩
        · exact later inside
      · rw [ofLines_cons_of_not_isHeading isHeading] at member
        exact later member

/-- The sections of lines are made of a heading and of lines without headings. -/
theorem isExtracted_of_mem_ofLines {lines : List Text} (noFeed : ∀ line ∈ lines, '\n' ∉ line)
    {part : Section} (member : part ∈ ofLines lines) : IsExtracted part := by
  obtain ⟨above, heading, below, rfl, isHeading, rfl⟩ := exists_of_mem_ofLines member
  obtain ⟨_, noFeedFrom⟩ := List.forall_mem_append.mp noFeed
  obtain ⟨noFeedHere, noFeedBelow⟩ := List.forall_mem_cons.mp noFeedFrom
  exact ⟨⟨heading, rfl, isHeading, noFeedHere⟩,
    ⟨bodyLines below, rfl, fun _ => plain_of_mem_bodyLines noFeedBelow⟩⟩

/-- Every section of a document is made of a heading and of lines without headings. -/
theorem isExtracted_of_mem_ofDocument {text : Text} {part : Section}
    (member : part ∈ ofDocument text) : IsExtracted part := by
  rw [ofDocument_eq_ofLines] at member
  exact isExtracted_of_mem_ofLines (fun _ => Text.not_mem_of_mem_lines) member

/-- Joining lines without headings makes no heading. -/
theorem not_isHeading_of_mem_lines_joined {lines : List Text}
    (plain : ∀ line ∈ lines, ¬IsHeading line ∧ '\n' ∉ line) {line : Text}
    (member : line ∈ Text.lines (Text.joined lines)) : ¬IsHeading line := by
  cases lines with
  | nil =>
      obtain rfl := List.mem_singleton.mp member
      exact not_isHeading_nil
  | cons first more =>
      rw [Text.lines_joined (List.cons_ne_nil first more) fun other has => (plain other has).2]
        at member
      exact (plain line member).1

namespace IsExtracted

variable {part : Section}

theorem trim_title (extracted : IsExtracted part) : Text.trim part.title = part.title := by
  obtain ⟨heading, titleEq, _⟩ := extracted.fromHeading
  rw [titleEq, Text.trim_trim]

theorem trim_body (extracted : IsExtracted part) : Text.trim part.body = part.body := by
  obtain ⟨lines, bodyEq, _⟩ := extracted.fromLines
  rw [bodyEq, Text.trim_trim]

/-- A title is one line. -/
theorem lines_title (extracted : IsExtracted part) : Text.lines part.title = [part.title] := by
  obtain ⟨heading, titleEq, _, noFeed⟩ := extracted.fromHeading
  refine Text.lines_of_not_mem fun member => noFeed ?_
  rw [titleEq] at member
  exact (Text.trim_sublist heading).subset member

/-- A title is a heading unless nothing but white space follows its number. -/
theorem hasText_iff (extracted : IsExtracted part) :
    HasText part.title ↔ IsHeading part.title := by
  obtain ⟨heading, titleEq, isHeading, _⟩ := extracted.fromHeading
  rw [titleEq, hasText_trim_iff isHeading]

/-- Only the first line of a body can be a heading. -/
theorem not_isHeading_of_mem_tail (extracted : IsExtracted part) {line : Text}
    (member : line ∈ (Text.lines part.body).tail) : ¬IsHeading line := by
  obtain ⟨lines, bodyEq, plain⟩ := extracted.fromLines
  obtain ⟨before, after, split, _, _⟩ :=
    Text.exists_eq_append_trim_append (Text.joined lines)
  rw [← bodyEq] at split
  intro isHeading
  obtain ⟨rest, inside⟩ : ∃ rest, line ++ rest ∈ Text.lines (Text.joined lines) := by
    rw [split]
    exact Text.exists_append_mem_lines member
  exact not_isHeading_of_mem_lines_joined plain inside (isHeading.append rest)

end IsExtracted

end Section
end Epics
