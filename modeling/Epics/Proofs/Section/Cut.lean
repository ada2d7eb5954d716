import Epics.Proofs.Heading.Spans
import Epics.Proofs.Section.Lines

/-!
# Documents cut off before a heading

Cutting a document off just before one of its headings takes away the sections
from that heading on and leaves the sections above it as they are.
-/

namespace Epics
namespace Section

open Heading

/-- A heading ends the sections of the lines above it. -/
theorem ofLines_append_heading {heading : Text} (isHeading : IsHeading heading)
    (above below : List Text) :
    ofLines (above ++ heading :: below) = ofLines above ++ ofLines (heading :: below) := by
  induction above with
  | nil => rfl
  | cons line more ih =>
      rw [List.cons_append]
      by_cases another : IsHeading line
      · rw [ofLines_cons_of_isHeading another, ofLines_cons_of_isHeading another,
          bodyLines_append_heading isHeading, ih, List.cons_append]
      · rw [ofLines_cons_of_not_isHeading another, ofLines_cons_of_not_isHeading another, ih]

/-- The sections of the lines above a heading. -/
theorem ofLines_cut {heading : Text} (isHeading : IsHeading heading)
    (above below : List Text) :
    ofLines above = (ofLines (above ++ heading :: below)).take (headingCount above) := by
  rw [ofLines_append_heading isHeading, ← length_ofLines, List.take_left]

/-- A document that is cut off just before a heading has the sections above it. -/
theorem ofDocument_takeBytes {text : Text} {index : Nat} {heading : Text.Span}
    (found : (Heading.spans text)[index]? = some heading) :
    ofDocument (Text.takeBytes heading.start text) = (ofDocument text).take index := by
  rw [spans_eq_lineSpans] at found
  obtain ⟨above, line, below, split, isHeading, rfl, start, _⟩ :=
    exists_heading_of_lineSpans found
  have textEq := Text.eq_terminated_append_joined split
  have cut : Text.takeBytes heading.start text = Text.terminated above := by
    rw [start, Nat.zero_add, textEq, Text.takeBytes_append]
  have noFeed : ∀ line ∈ above, '\n' ∉ line := by
    intro other inAbove
    have inText : other ∈ Text.lines text := by
      rw [split]
      exact List.mem_append_left _ inAbove
    exact Text.not_mem_of_mem_lines inText
  rw [cut, ofDocument_eq_ofLines, ofDocument_eq_ofLines, Text.lines_terminated noFeed, split,
    ofLines_append_empty, ← ofLines_cut isHeading]

end Section
end Epics
