import Epics.Proofs.Section.RoundTrip

/-!
# Reading the file of one section

The file of a section is a document.  Its sections are the section itself, unless
trimming has spoiled the title, and then what opens in the body, which is nothing
unless trimming has made a heading of its first line.  Such a line was indented in the
document that the section comes from.
-/

namespace Epics

namespace Heading

/-- A heading opens a text exactly when the text begins with a line that is one. -/
theorem opens_iff_takeWhile {text : Text} :
    Opens text ↔ IsHeading (text.takeWhile (· != '\n')) := by
  obtain ⟨first, more, split⟩ := List.exists_cons_of_ne_nil (Text.lines_ne_nil text)
  rw [opens_iff split, Text.takeWhile_of_lines split]

instance : DecidablePred Opens := fun _ => decidable_of_iff _ opens_iff_takeWhile.symm

/-- A heading that opens a text opens it still when the text goes on. -/
theorem Opens.append {text : Text} (opens : Opens text) (more : Text) : Opens (text ++ more) := by
  obtain ⟨digits, char, rest, rfl, someDigit, allDigits, visible⟩ := opens
  exact ⟨digits, char, rest ++ more, by simp, someDigit, allDigits, visible⟩

end Heading

namespace Section

open Heading

variable {part : Section}

/-- Lines without headings hold no section. -/
theorem ofLines_eq_nil_of_not_isHeading {lines : List Text}
    (noHeading : ∀ line ∈ lines, ¬IsHeading line) : ofLines lines = [] := by
  have nothing := ofLines_append noHeading []
  rwa [List.append_nil] at nothing

/-! ## The sections of a file -/

/-- The sections of a file are those of the body, below the section of the title if
that is a heading. -/
theorem ofDocument_render (extracted : IsExtracted part) :
    ofDocument part.render =
      if IsHeading part.title then
        ⟨part.title, Text.trim (Text.joined (bodyLines (Text.lines part.body)))⟩ ::
          ofDocument part.body
      else ofDocument part.body := by
  have fileLines := lines_render_append extracted []
  have body : Text.trim (Text.joined (bodyLines ([] :: Text.lines part.body ++ [[]]))) =
      Text.trim (Text.joined (bodyLines (Text.lines part.body))) := by
    rw [trim_bodyLines_append_empty, bodyLines_cons_of_not_isHeading not_isHeading_nil]
    cases bodyLines (Text.lines part.body) with
    | nil => rfl
    | cons first more => exact Text.trim_feed_cons _
  have below : ofLines ([] :: Text.lines part.body ++ [[]]) = ofDocument part.body := by
    rw [ofLines_append_empty, ofLines, if_neg not_isHeading_nil, ofDocument_eq_ofLines]
  rw [List.append_nil] at fileLines
  rw [ofDocument_eq_ofLines, fileLines, ofLines]
  change (if IsHeading part.title then
    ⟨Text.trim part.title, Text.trim (Text.joined (bodyLines
      ([] :: Text.lines part.body ++ [[]])))⟩ ::
        ofLines ([] :: Text.lines part.body ++ [[]])
    else ofLines ([] :: Text.lines part.body ++ [[]])) = _
  rw [body, below, extracted.trim_title]

/-- The file of a section whose body does not begin with a heading holds this
section, or none if the title is no heading any more. -/
theorem ofDocument_render_of_closed (extracted : IsExtracted part)
    (closed : ¬Opens part.body) :
    ofDocument part.render = if IsHeading part.title then [part] else [] := by
  have noHeading := extracted.not_isHeading_of_mem_lines closed
  have body : bodyLines (Text.lines part.body) = Text.lines part.body :=
    List.takeWhile_eq_self_iff.mpr fun line member => decide_eq_true (noHeading line member)
  have below : ofDocument part.body = [] := by
    rw [ofDocument_eq_ofLines, ofLines_eq_nil_of_not_isHeading noHeading]
  rw [ofDocument_render extracted, body, below, Text.joined_lines, extracted.trim_body]

/-- In a body that begins with a heading this heading, its first line, opens the only
section. -/
theorem exists_ofDocument_body (extracted : IsExtracted part) (opens : Opens part.body) :
    ∃ inner, ofDocument part.body = [inner] ∧
      inner.title = Text.trim (part.body.takeWhile (· != '\n')) := by
  obtain ⟨first, more, split⟩ := List.exists_cons_of_ne_nil (Text.lines_ne_nil part.body)
  have isHeading := (opens_iff split).mp opens
  have noHeading : ∀ line ∈ more, ¬IsHeading line := by
    intro line member
    apply extracted.not_isHeading_of_mem_tail
    rw [split]
    exact member
  refine ⟨⟨Text.trim first, Text.trim (Text.joined (bodyLines more))⟩, ?_,
    congrArg Text.trim (Text.takeWhile_of_lines split).symm⟩
  rw [ofDocument_eq_ofLines, split, ofLines, if_pos isHeading,
    ofLines_eq_nil_of_not_isHeading noHeading]

/-- The file of a section whose body begins with a heading holds the section of
that heading, and before it one without a body if the title is a heading still. -/
theorem ofDocument_render_of_opens (extracted : IsExtracted part) (opens : Opens part.body)
    {inner : Section} (only : ofDocument part.body = [inner]) :
    ofDocument part.render =
      if IsHeading part.title then [⟨part.title, []⟩, inner] else [inner] := by
  obtain ⟨first, more, split⟩ := List.exists_cons_of_ne_nil (Text.lines_ne_nil part.body)
  have stops : bodyLines (Text.lines part.body) = [] := by
    rw [split]
    exact bodyLines_cons_of_isHeading ((opens_iff split).mp opens) more
  rw [ofDocument_render extracted, stops, only]
  rfl

/-- A section that is read from a body has no more number signs than the body. -/
theorem count_render_le_of_ofDocument {text : Text} {inner : Section}
    (only : ofDocument text = [inner]) : inner.render.count '#' ≤ text.count '#' := by
  have bound := count_renderAll_ofLines_le (Text.lines text)
  have parts := count_bodyLines_add_fromHeading (Text.lines text)
  rw [← ofDocument_eq_ofLines, only, renderAll_cons, List.count_append] at bound
  rw [count_flatten_lines] at parts
  omega

/-- Where both the title and the first line of the body are headings, no section of
the file has the same file again: each has fewer number signs. -/
theorem render_ne_of_mem_ofDocument_render (extracted : IsExtracted part)
    (titled : IsHeading part.title) (opens : Opens part.body) {again : Section}
    (member : again ∈ ofDocument part.render) : again.render ≠ part.render := by
  obtain ⟨inner, innerEq, _⟩ := exists_ofDocument_body extracted opens
  have sections := ofDocument_render_of_opens extracted opens innerEq
  have titleSigns := extracted.count_title_pos
  have bodySigns : 0 < part.body.count '#' := by
    obtain ⟨digits, char, rest, bodyEq, _⟩ := opens
    rw [bodyEq]
    exact List.count_pos_iff.mpr (List.mem_append_left _ (by decide))
  have whole := count_render part
  rw [sections, if_pos titled] at member
  intro same
  rw [← same] at whole
  rcases List.mem_pair.mp member with rfl | rfl
  · rw [count_render, List.count_nil] at whole
    dsimp only at whole
    omega
  · have bound := count_render_le_of_ofDocument innerEq
    omega

/-! ## Indented bodies -/

/-- A section is cut out of a document with a body that is indented there: the lines from
its heading down to the next one begin with white space, and on the line where this ends
the body follows, behind at least one character of it. -/
def IsIndented (text : Text) (part : Section) : Prop :=
  ∃ above heading lines below,
    Text.lines text = above ++ heading :: (lines ++ below) ∧
    IsHeading heading ∧ (∀ line ∈ lines, ¬IsHeading line) ∧
    (∀ next ∈ below.head?, IsHeading next) ∧
    part = ⟨Text.trim heading, Text.trim (Text.joined lines)⟩ ∧
    ∃ before space after,
      Text.joined lines = before ++ space :: (part.body ++ after) ∧
      Text.IsBlank before ∧ Text.isWhiteSpace space = true ∧ space ≠ '\n'

/-- Where lines without headings go on at the end of a line with a text, no heading opens
the text. -/
theorem not_opens_of_endsLine {lines : List Text} {before after : Text}
    (noHeading : ∀ line ∈ lines, ¬IsHeading line ∧ '\n' ∉ line)
    (split : Text.joined lines = before ++ after) (ends : Text.EndsLine before) :
    ¬Opens after := by
  intro opens
  obtain ⟨first, more, afterLines⟩ := List.exists_cons_of_ne_nil (Text.lines_ne_nil after)
  have isHeading := (opens_iff afterLines).mp opens
  obtain ⟨above, _, goesOn⟩ := ends.exists_lines
  have inLines : first ∈ Text.lines (Text.joined lines) := by
    rw [split, goesOn, afterLines]
    exact List.mem_append_right _ List.mem_cons_self
  exact not_isHeading_of_mem_lines_joined noHeading inLines isHeading

/-- A body begins with a heading only where white space stood in front of it on its line,
which trimming has stripped. -/
theorem isIndented_of_opens {text : Text} (member : part ∈ ofDocument text)
    (opens : Opens part.body) : IsIndented text part := by
  rw [ofDocument_eq_ofLines] at member
  obtain ⟨above, heading, below, linesEq, isHeading, rfl⟩ := exists_of_mem_ofLines member
  have noFeed : ∀ line ∈ below, '\n' ∉ line := by
    intro line isBelow
    have inText : line ∈ Text.lines text :=
      linesEq ▸ List.mem_append_right above (List.mem_cons_of_mem heading isBelow)
    exact Text.not_mem_of_mem_lines inText
  have next : ∀ line ∈ (fromHeading below).head?, IsHeading line := by
    rcases fromHeading_eq_nil_or_cons below with none | ⟨line, more, found, nextIsHeading⟩
    · simp [none]
    · simpa [found] using nextIsHeading
  obtain ⟨front, after, split, frontBlank, _⟩ :=
    Text.exists_eq_append_trim_append (Text.joined (bodyLines below))
  have inside : ¬Text.EndsLine front := fun ends =>
    not_opens_of_endsLine (fun _ => plain_of_mem_bodyLines noFeed) split ends (opens.append after)
  rcases List.eq_nil_or_concat front with rfl | ⟨before, space, rfl⟩
  · exact absurd (Or.inl rfl) inside
  · refine ⟨above, heading, bodyLines below, fromHeading below, ?_, isHeading,
      fun _ => not_isHeading_of_mem_bodyLines, next, rfl, before, space, after, ?_, ?_, ?_, ?_⟩
    · rw [bodyLines_append_fromHeading, linesEq]
    · exact split.trans List.concat_append
    · exact fun char member => frontBlank char (by simp [member])
    · exact frontBlank space (by simp)
    · rintro rfl
      exact inside (Or.inr ⟨before, by simp⟩)

end Section
end Epics
