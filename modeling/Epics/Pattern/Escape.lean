import Epics.Pattern.Basic

/-!
# Escapes

The part that a backslash and the characters behind it stand for.
-/

namespace Epics
namespace Pattern

/-- The value of a digit to base sixteen. -/
def hexValue? (char : Char) : Option Nat :=
  if char.isDigit then some (char.toNat - 48)
  else if decide ('a' ≤ char) && decide (char ≤ 'f') then some (char.toNat - 87)
  else if decide ('A' ≤ char) && decide (char ≤ 'F') then some (char.toNat - 55)
  else none

/-- The number that `count` digits to base sixteen spell behind those read already,
with the text from the next part on. -/
def hexNumber? (mode : Mode) : (count value : Nat) → Text → Option (Nat × Text)
  | 0, value, text => some (value, skip mode text)
  | count + 1, value, text =>
      match skip mode text with
      | [] => none
      | char :: rest =>
          (hexValue? char).bind fun digit => hexNumber? mode count (16 * value + digit) rest

/-- The character that `count` digits to base sixteen write by its code point. -/
def hexLiteral? (mode : Mode) (count : Nat) (text : Text) : Option (Atom × Text) :=
  (hexNumber? mode count 0 text).bind fun (value, rest) =>
    if value.isValidChar then some (.literal (Char.ofNat value) (count == 2), rest) else none

/-- The property whose name of one letter begins a text; longer names stand in
braces, which a pattern here never closes. -/
def property? (mode : Mode) (text : Text) : Option (Atom × Text) :=
  match skip mode text with
  | [] => none
  | letter :: rest =>
      if letter = '\\' ∨ letter = '\x7b' then none else some (.property letter, skip mode rest)

/-- The control that a letter behind a backslash stands for. -/
def control? (letter : Char) : Option Char :=
  match letter with
  | 'a' => some '\x07'
  | 'f' => some '\x0c'
  | 'n' => some '\n'
  | 'r' => some '\r'
  | 't' => some '\t'
  | 'v' => some '\x0b'
  | _ => none

/-- A character stands for itself behind a backslash: all of ASCII but letters,
digits and the two angle brackets. -/
def isEscapable (char : Char) : Bool :=
  decide (char.toNat < 0x80) && !char.isAlphanum && char != '<' && char != '>'

/-- The part that the characters behind a backslash stand for, and the text behind it. -/
def escape? (mode : Mode) : Text → Option (Atom × Text)
  | [] => none
  | char :: rest =>
      if char = 'x' then hexLiteral? mode 2 rest
      else if char = 'u' then hexLiteral? mode 4 rest
      else if char = 'U' then hexLiteral? mode 8 rest
      else if char = 'p' ∨ char = 'P' then property? mode rest
      else if char ∈ ['d', 's', 'w'] then some (.kind false, rest)
      else if char ∈ ['D', 'S', 'W'] then some (.kind true, rest)
      else if char ∈ ['A', 'z'] then some (.anchor, rest)
      else if char ∈ ['b', 'B', '<', '>'] then some (.wordBoundary, rest)
      else if isEscapable char then some (.literal char false, rest)
      else (control? char).map fun control => (.literal control false, rest)

end Pattern
end Epics
