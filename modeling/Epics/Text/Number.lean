import Epics.Text.Basic

/-!
# Numbers with a fraction

The texts that are read as a number which may have a sign, a fraction and a power
of ten, or may be infinite or undefined.
-/

namespace Epics
namespace Text

/-- A text without the sign that it begins with, if it does. -/
def unsigned (text : Text) : Text :=
  match text with
  | '+' :: rest => rest
  | '-' :: rest => rest
  | _ => text

/-- A power of ten, or nothing: the letter E and a whole number. -/
def isExponent (text : Text) : Bool :=
  match text with
  | [] => true
  | letter :: power =>
      let digits := unsigned power
      letter.toLower == 'e' && digits != [] && digits.all Char.isDigit

/-- Digits with a point among them or at an end or without one, at least one digit
in all, and perhaps a power of ten. -/
def isDecimal (text : Text) : Bool :=
  let whole := text.takeWhile Char.isDigit
  match text.dropWhile Char.isDigit with
  | '.' :: rest =>
      let fraction := rest.takeWhile Char.isDigit
      whole ++ fraction != [] && isExponent (rest.dropWhile Char.isDigit)
  | rest => whole != [] && isExponent rest

/-- A text is read as a number. -/
def isNumber (text : Text) : Bool :=
  let word := unsigned text
  isDecimal word ||
    decide (String.ofList (word.map Char.toLower) ∈ ["inf", "infinity", "nan"])

end Text
end Epics
