import Epics.Text.Range

/-!
# White space

The class White_Space and the removal of white space at the two ends of a text.
-/

namespace Epics
namespace Text

/-- The code points of the class White_Space. -/
def whiteSpaceRanges : List (Nat × Nat) :=
  [(0x9, 0xD), (0x20, 0x20), (0x85, 0x85), (0xA0, 0xA0), (0x1680, 0x1680),
    (0x2000, 0x200A), (0x2028, 0x2029), (0x202F, 0x202F), (0x205F, 0x205F),
    (0x3000, 0x3000)]

/-- A character is white space when its code point has the property White_Space. -/
def isWhiteSpace (char : Char) : Bool :=
  inRanges whiteSpaceRanges char

/-- A text without the white space at its end. -/
def trimEnd (text : Text) : Text :=
  (text.reverse.dropWhile isWhiteSpace).reverse

/-- A text without the white space at its two ends. -/
def trim (text : Text) : Text :=
  trimEnd (text.dropWhile isWhiteSpace)

@[simp] theorem trim_nil : trim [] = [] := rfl

end Text
end Epics
