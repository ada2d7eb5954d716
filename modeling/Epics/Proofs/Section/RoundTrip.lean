import Epics.Proofs.Section.Extracted

/-!
# Reading the rendered sections again

The files of all sections of a document, one behind the other, are a document
again.  It has the same sections exactly when no title has lost its text to the
trimming and no body has become one that begins with a heading.

That these conditions are necessary is shown by counting number signs.  A title
that is no heading any more is lost for good, since reading a text never gives
back more number signs than stand below its first heading; so a heading that is
gained elsewhere cannot make up for it.
-/

namespace Epics
namespace Section

open Heading

/-- The files of sections, one behind the other. -/
def renderAll (parts : List Section) : Text :=
  parts.flatMap render

theorem renderAll_cons (part : Section) (later : List Section) :
    renderAll (part :: later) = part.render ++ renderAll later :=
  List.flatMap_cons

/-- The lines of a file and of what is behind it: the title, an empty line, the
lines of the body, and the lines behind. -/
theorem lines_render_append {part : Section} (extracted : IsExtracted part) (behind : Text) :
    Text.lines (part.render ++ behind) =
      part.title :: ([] :: Text.lines part.body ++ Text.lines behind) := by
  have layout : part.render ++ behind =
      part.title ++ '\n' :: ([] ++ '\n' :: (part.body ++ '\n' :: behind)) := by
    simp [render]
  rw [layout, Text.lines_append_cons, Text.lines_append_cons, Text.lines_append_cons,
    extracted.lines_title]
  rfl

/-- Lines without headings above other lines are in no section. -/
theorem ofLines_append {above : List Text} (noHeading : ∀ line ∈ above, ¬IsHeading line)
    (below : List Text) : ofLines (above ++ below) = ofLines below := by
  induction above with
  | nil => rfl
  | cons line more ih =>
      obtain ⟨noHeadingHere, noHeadingBelow⟩ := List.forall_mem_cons.mp noHeading
      rw [List.cons_append, ofLines, if_neg noHeadingHere, ih noHeadingBelow]

/-- A body that does not begin with a heading has none among its lines. -/
theorem IsExtracted.not_isHeading_of_mem_lines {part : Section} (extracted : IsExtracted part)
    (closed : ¬Opens part.body) : ∀ line ∈ Text.lines part.body, ¬IsHeading line := by
  obtain ⟨first, more, split⟩ := List.exists_cons_of_ne_nil (Text.lines_ne_nil part.body)
  intro line member
  rw [split] at member
  rcases List.mem_cons.mp member with rfl | later
  · rwa [opens_iff split] at closed
  · apply extracted.not_isHeading_of_mem_tail
    rw [split]
    exact later

/-- An empty line and the lines of a body are no headings unless the body begins
with one. -/
theorem IsExtracted.not_isHeading_of_mem_below {part : Section} (extracted : IsExtracted part)
    (closed : ¬Opens part.body) : ∀ line ∈ [] :: Text.lines part.body, ¬IsHeading line := by
  intro line member
  rcases List.mem_cons.mp member with rfl | inBody
  · exact not_isHeading_nil
  · exact extracted.not_isHeading_of_mem_lines closed line inBody

/-- What is above the first heading of rendered sections is at most an empty line. -/
theorem bodyLines_lines_renderAll {parts : List Section}
    (extracted : ∀ part ∈ parts, IsExtracted part)
    (titled : ∀ part ∈ parts, IsHeading part.title) :
    bodyLines (Text.lines (renderAll parts)) = [] ∨
      bodyLines (Text.lines (renderAll parts)) = [[]] := by
  cases parts with
  | nil => exact Or.inr (by decide)
  | cons part later =>
      have isHeading := titled part List.mem_cons_self
      rw [renderAll_cons, lines_render_append (extracted part List.mem_cons_self)]
      exact Or.inl (bodyLines_cons_of_isHeading isHeading _)

/-- Sections whose titles are headings and whose bodies do not begin with one can
be read from their files. -/
theorem ofLines_lines_renderAll {parts : List Section}
    (extracted : ∀ part ∈ parts, IsExtracted part)
    (titled : ∀ part ∈ parts, IsHeading part.title)
    (closed : ∀ part ∈ parts, ¬Opens part.body) :
    ofLines (Text.lines (renderAll parts)) = parts := by
  induction parts with
  | nil => decide
  | cons part later ih =>
      obtain ⟨extractedHere, extractedLater⟩ := List.forall_mem_cons.mp extracted
      obtain ⟨titledHere, titledLater⟩ := List.forall_mem_cons.mp titled
      obtain ⟨closedHere, closedLater⟩ := List.forall_mem_cons.mp closed
      have noHeading := extractedHere.not_isHeading_of_mem_below closedHere
      have bodyEq : Text.trim (Text.joined (bodyLines
          ([] :: Text.lines part.body ++ Text.lines (renderAll later)))) = part.body := by
        rw [bodyLines, List.takeWhile_append_of_pos fun line member =>
          decide_eq_true (noHeading line member)]
        have feedBody : Text.joined ([] :: Text.lines part.body) = '\n' :: part.body := by
          obtain ⟨first, more, split⟩ :=
            List.exists_cons_of_ne_nil (Text.lines_ne_nil part.body)
          rw [split, Text.joined_cons_cons, ← split, Text.joined_lines]
          rfl
        rcases bodyLines_lines_renderAll extractedLater titledLater with none | emptyLine
        · rw [bodyLines] at none
          rw [none, List.append_nil, feedBody, Text.trim_feed_cons, extractedHere.trim_body]
        · rw [bodyLines] at emptyLine
          rw [emptyLine, Text.joined_append (List.cons_ne_nil _ _), Text.joined_singleton,
            List.append_nil, Text.trim_terminated, feedBody, Text.trim_feed_cons,
            extractedHere.trim_body]
      rw [renderAll_cons, lines_render_append extractedHere, ofLines,
        if_pos titledHere, bodyEq, extractedHere.trim_title, ofLines_append noHeading,
        ih extractedLater titledLater closedLater]

/-! ## Counting number signs -/

theorem count_joined (lines : List Text) :
    (Text.joined lines).count '#' = lines.flatten.count '#' := by
  induction lines with
  | nil => rfl
  | cons line more ih =>
      cases more with
      | nil => simp
      | cons next others =>
          rw [Text.joined_cons_cons, List.count_append, List.count_cons_of_ne (by decide), ih,
            ← List.count_append]
          rfl

theorem count_flatten_lines (text : Text) :
    (Text.lines text).flatten.count '#' = text.count '#' := by
  rw [← count_joined, Text.joined_lines]

theorem count_render (part : Section) :
    part.render.count '#' = part.title.count '#' + part.body.count '#' := by
  have feeds : "\n\n".toList.count '#' = 0 := by decide
  have feed : "\n".toList.count '#' = 0 := by decide
  rw [render, List.count_append, List.count_append, List.count_append, feeds, feed]
  omega

theorem count_bodyLines_add_fromHeading (lines : List Text) :
    (bodyLines lines).flatten.count '#' + (fromHeading lines).flatten.count '#' =
      lines.flatten.count '#' := by
  rw [← List.count_append, ← List.flatten_append, bodyLines_append_fromHeading]

/-- Sections have no more number signs than the lines from the first heading on. -/
theorem count_renderAll_ofLines_le (lines : List Text) :
    (renderAll (ofLines lines)).count '#' ≤ (fromHeading lines).flatten.count '#' := by
  induction lines with
  | nil => exact Nat.le_refl _
  | cons line below ih =>
      by_cases isHeading : IsHeading line
      · have title := (Text.trim_sublist line).count_le '#'
        have body := (Text.trim_sublist (Text.joined (bodyLines below))).count_le '#'
        rw [count_joined] at body
        have parts := count_bodyLines_add_fromHeading below
        rw [ofLines, if_pos isHeading, fromHeading_cons_of_isHeading isHeading, renderAll_cons,
          List.count_append, count_render, List.flatten_cons, List.count_append]
        simp only
        omega
      · rw [ofLines, if_neg isHeading, fromHeading_cons_of_not_isHeading isHeading]
        exact ih

/-- A title has number signs, also when it is no heading. -/
theorem IsExtracted.count_title_pos {part : Section} (extracted : IsExtracted part) :
    0 < part.title.count '#' := by
  obtain ⟨heading, titleEq, isHeading, _⟩ := extracted.fromHeading
  obtain ⟨after, split, afterBlank⟩ := exists_eq_trim_append isHeading
  have noSign : '#' ∉ after := fun member => absurd (afterBlank '#' member) (by decide)
  have inHeading : '#' ∈ heading := by
    obtain ⟨digits, rest, rfl, _⟩ := isHeading
    exact List.mem_append_left _ (by decide)
  rw [split, ← titleEq] at inHeading
  exact List.count_pos_iff.mpr ((List.mem_append.mp inHeading).resolve_right noSign)

/-- A title that is lost has number signs that no other section can have. -/
theorem isHeading_title_of_ofLines {part : Section} {later : List Section}
    (extracted : IsExtracted part)
    (same : ofLines (part.title :: ([] :: Text.lines part.body ++
      Text.lines (renderAll later))) = part :: later) : IsHeading part.title := by
  by_contra lost
  rw [ofLines, if_neg lost] at same
  have bound := count_renderAll_ofLines_le
    ([] :: Text.lines part.body ++ Text.lines (renderAll later))
  have parts := count_bodyLines_add_fromHeading
    ([] :: Text.lines part.body ++ Text.lines (renderAll later))
  have inLines : ([] :: Text.lines part.body ++ Text.lines (renderAll later)).flatten.count
      '#' = part.body.count '#' + (renderAll later).count '#' := by
    rw [List.flatten_append, List.count_append, List.flatten_cons, List.nil_append,
      count_flatten_lines, count_flatten_lines]
  rw [same, renderAll_cons, List.count_append, count_render] at bound
  have positive := extracted.count_title_pos
  omega

/-- A body that begins with a heading is lost below the title. -/
theorem not_opens_of_bodyLines {content : Text} {below : List Text}
    (same : Text.trim (Text.joined (bodyLines ([] :: Text.lines content ++ below))) = content) :
    ¬Opens content := by
  intro opens
  obtain ⟨first, more, split⟩ := List.exists_cons_of_ne_nil (Text.lines_ne_nil content)
  have isHeading := (opens_iff split).mp opens
  have noContent : content = [] := by
    rw [split, List.cons_append, List.cons_append,
      bodyLines_cons_of_not_isHeading not_isHeading_nil,
      bodyLines_cons_of_isHeading isHeading] at same
    exact same.symm
  rw [noContent] at split
  obtain ⟨rfl, _⟩ := List.cons.inj split
  exact not_isHeading_nil isHeading

/-- Sections that can be read from their files have titles that are headings and
bodies that do not begin with one. -/
theorem titled_and_closed_of_ofLines {parts : List Section}
    (extracted : ∀ part ∈ parts, IsExtracted part)
    (same : ofLines (Text.lines (renderAll parts)) = parts) :
    ∀ part ∈ parts, IsHeading part.title ∧ ¬Opens part.body := by
  induction parts with
  | nil => exact fun part member => absurd member List.not_mem_nil
  | cons part later ih =>
      obtain ⟨extractedHere, extractedLater⟩ := List.forall_mem_cons.mp extracted
      rw [renderAll_cons, lines_render_append extractedHere] at same
      have titled := isHeading_title_of_ofLines extractedHere same
      rw [ofLines, if_pos titled] at same
      obtain ⟨partEq, laterEq⟩ := List.cons.inj same
      have closed := not_opens_of_bodyLines (congrArg body partEq)
      rw [ofLines_append (extractedHere.not_isHeading_of_mem_below closed)] at laterEq
      exact List.forall_mem_cons.mpr ⟨⟨titled, closed⟩, ih extractedLater laterEq⟩

/-- The rendered sections of a document are read as the same sections exactly when
every title has text behind its number and colon and no body begins with a
heading.  The other lines of a body are no headings in any case. -/
theorem ofDocument_renderAll_eq_iff (text : Text) :
    (ofDocument (renderAll (ofDocument text)) = ofDocument text ↔
      ∀ part ∈ ofDocument text, HasText part.title ∧ ¬Opens part.body) ∧
    ∀ part ∈ ofDocument text, ∀ line ∈ (Text.lines part.body).tail, ¬IsHeading line := by
  have extracted : ∀ part ∈ ofDocument text, IsExtracted part := fun part member =>
    isExtracted_of_mem_ofDocument member
  refine ⟨?_, fun part member line => (extracted part member).not_isHeading_of_mem_tail⟩
  rw [ofDocument_eq_ofLines (renderAll (ofDocument text))]
  constructor
  · intro same part member
    obtain ⟨titled, closed⟩ := titled_and_closed_of_ofLines extracted same part member
    exact ⟨(extracted part member).hasText_iff.mpr titled, closed⟩
  · intro stable
    apply ofLines_lines_renderAll extracted
    · intro part member
      exact (extracted part member).hasText_iff.mp (stable part member).1
    · intro part member
      exact (stable part member).2

-- Trimming takes the space away that keeps the second line from being a heading.
example : ofDocument (renderAll (ofDocument "## Epic 1: A\n ## Epic 2: B".toList)) =
    [⟨"## Epic 1: A".toList, []⟩, ⟨"## Epic 2: B".toList, []⟩] := by
  decide +kernel

end Section
end Epics
