import Epics.Proofs.Section.Cut
import Epics.Proofs.Section.RoundTrip

/-!
# Documents in two parts

Where one text ends a line and another one begins with a heading, the document
that they make has the sections of the two.  A text without headings in front of
a document adds nothing to it.
-/

namespace Epics
namespace Section

open Heading

variable {above below : Text}

/-- A heading at the start of the second part ends the sections of the first. -/
theorem ofDocument_append_of_opens (ends : Text.EndsLine above) (opens : Opens below) :
    ofDocument (above ++ below) = ofDocument above ++ ofDocument below := by
  obtain ⟨whole, aboveLines, appendLines⟩ := ends.exists_lines
  obtain ⟨first, more, belowLines⟩ := List.exists_cons_of_ne_nil (Text.lines_ne_nil below)
  have isHeading := (opens_iff belowLines).mp opens
  rw [ofDocument_eq_ofLines, ofDocument_eq_ofLines, ofDocument_eq_ofLines, appendLines,
    aboveLines, belowLines, ofLines_append_empty, ofLines_append_heading isHeading]

/-- A first part without headings is in no section. -/
theorem ofDocument_append_of_noHeading (ends : Text.EndsLine above)
    (noHeading : ∀ line ∈ Text.lines above, ¬IsHeading line) (below : Text) :
    ofDocument (above ++ below) = ofDocument below := by
  obtain ⟨whole, aboveLines, appendLines⟩ := ends.exists_lines
  have noneInWhole : ∀ line ∈ whole, ¬IsHeading line := by
    intro line member
    apply noHeading
    rw [aboveLines]
    exact List.mem_append_left _ member
  rw [ofDocument_eq_ofLines, ofDocument_eq_ofLines, appendLines, ofLines_append noneInWhole]

end Section
end Epics
