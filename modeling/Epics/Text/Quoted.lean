import Epics.Text.Graphic

/-!
# Quoted text

A text between double quotes in which every character can be told apart: a
quote or backslash is marked by a backslash, a few controls have letters, and
all other characters that are not graphic are written by their code points.
-/

namespace Epics
namespace Text

/-- The digits of a number to base sixteen, in lower case. -/
def hexadecimal (number : Nat) : Text :=
  Nat.toDigits 16 number

/-- A character written by its code point. -/
def codePoint (char : Char) : Text :=
  "\\u\x7b".toList ++ hexadecimal char.toNat ++ "\x7d".toList

/-- A character as it stands in a quoted text. -/
def quotedChar (char : Char) : Text :=
  match char with
  | '\x00' => "\\0".toList
  | '\t' => "\\t".toList
  | '\n' => "\\n".toList
  | '\r' => "\\r".toList
  | '\x22' => "\\\"".toList
  | '\\' => "\\\\".toList
  | other => if isGraphic other then [other] else codePoint other

/-- A text between double quotes. -/
def quoted (text : Text) : Text :=
  ['"'] ++ text.flatMap quotedChar ++ ['"']

end Text
end Epics
