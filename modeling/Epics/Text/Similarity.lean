import Epics.Fraction
import Epics.Text.Basic

/-!
# Similarity of two words

The Jaro measure compares two words by the characters that they share within a
window around the same position and by how many of these stand in a different
order.
-/

namespace Epics
namespace Text

/-- Marks the first free occurrence of a character among the positions from
`least` to `greatest`, counting from `position`. -/
def claim (char : Char) (least greatest : Nat) (position : Nat) :
    List (Char × Bool) → Option (List (Char × Bool))
  | [] => none
  | (other, taken) :: more =>
      if least ≤ position ∧ position ≤ greatest ∧ other = char ∧ taken = false then
        some ((other, true) :: more)
      else
        ((other, taken) :: ·) <$> claim char least greatest (position + 1) more

/-- The characters of a word that find a partner in another word, in order, and
the other word with the partners marked. -/
def shared (window : Nat) (position : Nat) :
    Text → List (Char × Bool) → Text × List (Char × Bool)
  | [], other => ([], other)
  | char :: rest, other =>
      match claim char (position - window) (position + window) 0 other with
      | some marked =>
          let (found, final) := shared window (position + 1) rest marked
          (char :: found, final)
      | none => shared window (position + 1) rest other

/-- The Jaro similarity of two words: the mean of the share of common characters in
each word and the share of these that stand in order, calculated step by step. -/
def similarity (left right : Text) : Fraction :=
  let window := max left.length right.length / 2 - 1
  let (inLeft, marked) := shared window 0 left (right.map (·, false))
  let inRight := (marked.filter (·.2)).map (·.1)
  let common := inLeft.length
  let swapped := ((inLeft.zip inRight).filter fun pair => pair.1 != pair.2).length / 2
  if common = 0 then ⟨0, 1⟩
  else
    let share (part whole : Nat) := Fraction.rounded ⟨part, whole⟩
    (((share common left.length).plus (share common right.length)).plus
      (share (common - swapped) common)).dividedBy 3

end Text
end Epics
