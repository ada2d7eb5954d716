import Epics.Text.Basic

/-!
# Classes of characters given by ranges

A class of characters is written down as the list of the first and last code
points of its ranges.
-/

namespace Epics
namespace Text

/-- A character is in a list of ranges when its code point is in one of them. -/
def inRanges (ranges : List (Nat × Nat)) (char : Char) : Bool :=
  ranges.any fun range => decide (range.1 ≤ char.toNat) && decide (char.toNat ≤ range.2)

end Text
end Epics
