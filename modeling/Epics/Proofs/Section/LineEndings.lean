import Epics.Proofs.Section.Tiles
import Epics.Proofs.Text.LineEndings

/-!
# Sections and line endings

A document with carriage returns in front of its line feeds has the sections of the
document without them, except for one kind of line: what is no heading only because
nothing stands behind its number, colon and space is a heading with a carriage
return there.
-/

namespace Epics

namespace Heading

/-- A line that lacks only a character at its end to be a heading. -/
def IsBare (line : Text) : Prop :=
  ∃ digits, line = marker ++ (digits ++ separator) ∧
    digits ≠ [] ∧ ∀ digit ∈ digits, digit.isDigit = true

/-- With one more character a line is a heading if it was one or lacked just that. -/
theorem isHeading_concat_iff {line : Text} {char : Char} :
    IsHeading (line ++ [char]) ↔ IsHeading line ∨ IsBare line := by
  constructor
  · rintro ⟨digits, rest, split, someDigit, allDigits, someRest⟩
    obtain ⟨others, last, rfl⟩ := (List.eq_nil_or_concat rest).resolve_left someRest
    have lineEq : line = marker ++ (digits ++ (separator ++ others)) := by
      rw [List.concat_eq_append] at split
      simp only [← List.append_assoc] at split ⊢
      exact (List.append_inj' split rfl).1
    cases others with
    | nil => exact Or.inr ⟨digits, by rw [lineEq, List.append_nil], someDigit, allDigits⟩
    | cons first more =>
        exact Or.inl ⟨digits, first :: more, lineEq, someDigit, allDigits, List.cons_ne_nil _ _⟩
  · rintro (isHeading | ⟨digits, rfl, someDigit, allDigits⟩)
    · exact isHeading.append [char]
    · refine ⟨digits, [char], ?_, someDigit, allDigits, List.cons_ne_nil _ _⟩
      simp only [List.append_assoc]

/-- A bare line is no heading. -/
theorem IsBare.not_isHeading {line : Text} (bare : IsBare line) : ¬IsHeading line := by
  obtain ⟨digits, rfl, _, allDigits⟩ := bare
  rw [← isHeading_eq_true_iff, isHeading, List.drop_left]
  have remainderEq := dropWhile_isDigit_append allDigits []
  rw [List.append_nil] at remainderEq
  simp [remainderEq]

theorem isBare_iff {line : Text} :
    IsBare line ↔ IsHeading (line ++ ['\r']) ∧ ¬IsHeading line := by
  rw [isHeading_concat_iff]
  constructor
  · intro bare
    exact ⟨Or.inr bare, bare.not_isHeading⟩
  · rintro ⟨headingOrBare, noHeading⟩
    exact headingOrBare.resolve_left noHeading

instance : DecidablePred IsBare := fun _ => decidable_of_iff _ isBare_iff.symm

theorem not_isHeading_concat {line : Text} (noHeading : ¬IsHeading line)
    (notBare : ¬IsBare line) (char : Char) : ¬IsHeading (line ++ [char]) :=
  isHeading_concat_iff.not.mpr (not_or.mpr ⟨noHeading, notBare⟩)

/-- With carriage returns the bare lines are headings as well. -/
theorem headingCount_returned (lines : List Text) :
    headingCount (Text.returned lines) = headingCount lines + lines.countP (IsBare ·) := by
  induction lines with
  | nil => rfl
  | cons line more ih =>
      rw [Text.returned_cons]
      by_cases isHeading : IsHeading line
      · have notBare : ¬IsBare line := fun bare => bare.not_isHeading isHeading
        rw [headingCount_cons_of_isHeading (isHeading.append _), ih,
          headingCount_cons_of_isHeading isHeading, List.countP_cons_of_neg (by simpa using notBare)]
        omega
      · by_cases bare : IsBare line
        · rw [headingCount_cons_of_isHeading (isHeading_concat_iff.mpr (Or.inr bare)), ih,
            headingCount_cons_of_not_isHeading isHeading,
            List.countP_cons_of_pos (by simpa using bare)]
          omega
        · rw [headingCount_cons_of_not_isHeading (not_isHeading_concat isHeading bare _), ih,
            headingCount_cons_of_not_isHeading isHeading,
            List.countP_cons_of_neg (by simpa using bare)]

end Heading

namespace Section

open Heading

/-- A section with carriage returns in front of the line feeds of its body. -/
def crlf (part : Section) : Section :=
  ⟨part.title, Text.crlf part.body⟩

variable {above : List Text} {last : Text}

/-- A preamble keeps its carriage returns, as long as they make no heading. -/
theorem preamble_returned_append (noneBare : ∀ line ∈ above, ¬IsBare line)
    (noFeed : ∀ line ∈ above ++ [last], '\n' ∉ line) :
    preamble (Text.returned above ++ [last]) = Text.crlf (preamble (above ++ [last])) := by
  induction above with
  | nil =>
      have noFeedLast : '\n' ∉ last := noFeed last List.mem_cons_self
      change preamble [last] = Text.crlf (preamble [last])
      by_cases isHeading : IsHeading last
      · rw [preamble_cons_of_isHeading isHeading, Text.crlf_nil]
      · rw [preamble_singleton_of_not_isHeading isHeading, Text.crlf_of_not_mem noFeedLast]
  | cons line more ih =>
      obtain ⟨notBare, noneBareBelow⟩ := List.forall_mem_cons.mp noneBare
      obtain ⟨noFeedHere, noFeedBelow⟩ := List.forall_mem_cons.mp noFeed
      rw [Text.returned_cons, List.cons_append, List.cons_append]
      by_cases isHeading : IsHeading line
      · rw [preamble_cons_of_isHeading (isHeading.append _),
          preamble_cons_of_isHeading isHeading, Text.crlf_nil]
      · have noHeading := not_isHeading_concat isHeading notBare '\r'
        rw [preamble_cons_of_not_isHeading noHeading (by simp),
          preamble_cons_of_not_isHeading isHeading (by simp), ih noneBareBelow noFeedBelow,
          Text.crlf_append, Text.crlf_of_not_mem noFeedHere, Text.crlf_feed_cons,
          List.append_assoc]
        rfl

/-- The sections of lines keep their titles, and their bodies get the carriage
returns, as long as these make no heading. -/
theorem ofLines_returned_append (noneBare : ∀ line ∈ above, ¬IsBare line)
    (noFeed : ∀ line ∈ above ++ [last], '\n' ∉ line) :
    ofLines (Text.returned above ++ [last]) = (ofLines (above ++ [last])).map crlf := by
  induction above with
  | nil =>
      change ofLines [last] = (ofLines [last]).map crlf
      by_cases isHeading : IsHeading last
      · rw [ofLines, if_pos isHeading]
        rfl
      · rw [ofLines, if_neg isHeading]
        rfl
  | cons line more ih =>
      obtain ⟨notBare, noneBareBelow⟩ := List.forall_mem_cons.mp noneBare
      have noFeedBelow := (List.forall_mem_cons.mp noFeed).2
      have later := ih noneBareBelow noFeedBelow
      rw [Text.returned_cons, List.cons_append, List.cons_append, ofLines, ofLines]
      by_cases isHeading : IsHeading line
      · have title : Text.trim (line ++ ['\r']) = Text.trim line :=
          Text.trim_append_of_isBlank (by decide) line
        have body : Text.trim (Text.joined (bodyLines (Text.returned more ++ [last]))) =
            Text.crlf (Text.trim (Text.joined (bodyLines (more ++ [last])))) := by
          rw [← trim_preamble, preamble_returned_append noneBareBelow noFeedBelow,
            Text.trim_crlf, trim_preamble]
        rw [if_pos (isHeading.append _), if_pos isHeading, title, body, later, List.map_cons]
        rfl
      · rw [if_neg (not_isHeading_concat isHeading notBare _), if_neg isHeading, later]

/-- With carriage returns in front of its line feeds a document has one section more
for every line, the last one apart, that lacks only a character at its end to be a
heading.  Exactly when there is no such line, the sections are the same, with the
same titles and with carriage returns in front of the line feeds of their bodies. -/
theorem ofDocument_crlf_eq_iff (text : Text) :
    (ofDocument (Text.crlf text)).length =
      (ofDocument text).length + (Text.lines text).dropLast.countP (IsBare ·) ∧
    (ofDocument (Text.crlf text) = (ofDocument text).map crlf ↔
      ∀ line ∈ (Text.lines text).dropLast, ¬IsBare line) := by
  obtain ⟨above, last, split⟩ := Text.exists_lines_eq_append text
  have noFeed : ∀ line ∈ above ++ [last], '\n' ∉ line := by
    intro line member
    rw [← split] at member
    exact Text.not_mem_of_mem_lines member
  have count : (ofDocument (Text.crlf text)).length =
      (ofDocument text).length + (Text.lines text).dropLast.countP (IsBare ·) := by
    rw [ofDocument_eq_ofLines, ofDocument_eq_ofLines, length_ofLines, length_ofLines,
      Text.lines_crlf split, split, List.dropLast_concat, headingCount_append,
      headingCount_append, headingCount_returned]
    omega
  refine ⟨count, fun same => ?_, fun noneBare => ?_⟩
  · rw [same, List.length_map] at count
    have none : (Text.lines text).dropLast.countP (IsBare ·) = 0 := by omega
    intro line member
    simpa using List.countP_eq_zero.mp none line member
  · rw [split, List.dropLast_concat] at noneBare
    rw [ofDocument_eq_ofLines, ofDocument_eq_ofLines, Text.lines_crlf split, split]
    exact ofLines_returned_append noneBare noFeed

/-- A number with a colon and a space behind it and nothing more opens no section,
but with a carriage return at the end of the line it does. -/
theorem ofDocument_crlf_of_bare :
    let text := "## Epic 1: \nx".toList
    '\r' ∉ text ∧ ofDocument text = [] ∧
      ofDocument (Text.crlf text) = [⟨"## Epic 1:".toList, "x".toList⟩] ∧
      (ofDocument (Text.crlf text)).length ≠ (ofDocument text).length := by
  decide +kernel

end Section
end Epics
