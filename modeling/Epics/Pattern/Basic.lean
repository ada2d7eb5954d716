import Epics.Text.WhiteSpace

/-!
# Patterns

What the parts of a pattern for texts are made of, and which of them are allowed
under the modes that are in force where they stand.
-/

namespace Epics
namespace Pattern

/-- The modes that bear on what a pattern may hold. -/
structure Mode where
  /-- The pattern is about characters of any script and not about bytes. -/
  unicode : Bool
  /-- White space and comments between the parts are left out. -/
  spaced : Bool
  deriving DecidableEq, Repr

/-- The mode in which every pattern begins. -/
def Mode.standard : Mode := ⟨true, false⟩

/-- A part that has no parts of its own. -/
inductive Atom
  /-- One character; `asByte` tells whether two digits write it as a byte. -/
  | literal (char : Char) (asByte : Bool)
  /-- Digits, white space or word characters, or all but these. -/
  | kind (negated : Bool)
  /-- The characters with a property that has a name of one letter, or all but these. -/
  | property (letter : Char)
  /-- Any character, or any but the end of a line. -/
  | any
  /-- An end of the text or of a line. -/
  | anchor
  /-- A place at which a word begins, ends or does neither. -/
  | wordBoundary
  deriving DecidableEq, Repr

namespace Atom

/-- The letters that name a general category. -/
def categories : List Char := ['C', 'L', 'M', 'N', 'P', 'S', 'Z']

/-- A part is allowed outside of brackets: about bytes, nothing that could match
a broken character; about characters, no boundaries of words, which a matcher
cannot see that reads byte by byte. -/
def isAllowed (mode : Mode) : Atom → Bool
  | .literal char asByte => mode.unicode || !asByte || decide (char.toNat < 0x80)
  | .kind negated => mode.unicode || !negated
  | .property letter => mode.unicode && decide (letter.toUpper ∈ categories)
  | .any => mode.unicode
  | .anchor => true
  | .wordBoundary => !mode.unicode

/-- A part is allowed as one of those in brackets, where bytes have to be ASCII. -/
def isAllowedInBrackets (mode : Mode) : Atom → Bool
  | .literal char _ => mode.unicode || decide (char.toNat < 0x80)
  | .kind negated => mode.unicode || !negated
  | .property letter => mode.unicode && decide (letter.toUpper ∈ categories)
  | .any | .anchor | .wordBoundary => false

end Atom

/-- What stands in a row: the number of parts and the height of the highest. -/
structure Row where
  count : Nat
  highest : Nat
  deriving DecidableEq, Repr

namespace Row

/-- The row without parts. -/
def empty : Row := ⟨0, 0⟩

/-- The row with one part more. -/
def add (row : Row) (height : Nat) : Row :=
  ⟨row.count + 1, max row.highest height⟩

/-- The row with its last part made higher. -/
def raise (row : Row) (height : Nat) : Row :=
  ⟨row.count, max row.highest height⟩

/-- The height of a row: several parts are a level above their own. -/
def height (row : Row) : Nat :=
  if row.count ≤ 1 then row.highest else row.highest + 1

end Row

/-- A text from the first character on that is neither white space nor in a
comment, which goes from a number sign to the end of its line. -/
def skipFrom (inComment : Bool) : Text → Text
  | [] => []
  | char :: rest =>
      if inComment then skipFrom (char != '\n') rest
      else if Text.isWhiteSpace char then skipFrom false rest
      else if char = '#' then skipFrom true rest
      else char :: rest

/-- A text from where its next part begins. -/
def skip (mode : Mode) (text : Text) : Text :=
  if mode.spaced then skipFrom false text else text

/-- The character that decides on a hyphen in brackets: the one behind it, or, if
white space is left out, the first that is neither white space nor the first
number sign. -/
def peek? (mode : Mode) (text : Text) : Option Char :=
  if mode.spaced then
    let near := text.dropWhile Text.isWhiteSpace
    let far := if near.head? = some '#' then near.tail.dropWhile Text.isWhiteSpace else near
    if far = [] then text.head? else far.head?
  else text.head?

/-- A part of one character, which a backslash does not begin. -/
def Atom.ofChar (char : Char) : Atom :=
  if char = '.' then .any
  else if char = '^' ∨ char = '$' then .anchor
  else .literal char false

end Pattern
end Epics
