/-!
# Text

A text is a list of characters, the form in which every part of this library
reads, measures and writes it.  Sizes are counted in bytes of the UTF-8 form.
-/

namespace Epics

/-- A text, character by character. -/
abbrev Text := List Char

namespace Text

/-- The number of bytes that the UTF-8 form of a text takes. -/
def utf8Size : Text → Nat
  | [] => 0
  | char :: rest => char.utf8Size + utf8Size rest

@[simp] theorem utf8Size_nil : utf8Size [] = 0 := rfl

@[simp] theorem utf8Size_cons (char : Char) (rest : Text) :
    utf8Size (char :: rest) = char.utf8Size + utf8Size rest := rfl

@[simp] theorem utf8Size_append (left right : Text) :
    utf8Size (left ++ right) = utf8Size left + utf8Size right := by
  induction left with
  | nil => simp
  | cons char rest ih => simp [ih, Nat.add_assoc]

/-- A number in decimal digits. -/
def ofNat (number : Nat) : Text :=
  number.repr.toList

/-- The pieces of a text between the occurrences of a mark; there is always one
piece more than there are marks. -/
def pieces (mark : Char) : Text → List Text
  | [] => [[]]
  | char :: rest =>
      if char = mark then
        [] :: pieces mark rest
      else
        match pieces mark rest with
        | [] => [[char]]
        | piece :: more => (char :: piece) :: more

@[simp] theorem pieces_nil (mark : Char) : pieces mark [] = [[]] := rfl

@[simp] theorem pieces_cons_self (mark : Char) (rest : Text) :
    pieces mark (mark :: rest) = [] :: pieces mark rest := by
  simp [pieces]

/-- Cutting a text always leaves at least one piece. -/
theorem pieces_ne_nil (mark : Char) (text : Text) : pieces mark text ≠ [] := by
  induction text with
  | nil => simp
  | cons char rest ih =>
      by_cases same : char = mark
      · simp [pieces, same]
      · cases found : pieces mark rest with
        | nil => exact absurd found ih
        | cons piece more => simp [pieces, same, found]

/-- The decimal number that a text of digits spells, an optional plus sign in
front; `none` for any other text. -/
def toNat? (text : Text) : Option Nat :=
  let digits := if text.head? = some '+' then text.drop 1 else text
  if digits ≠ [] ∧ digits.all Char.isDigit then
    some (digits.foldl (fun value digit => 10 * value + (digit.toNat - 48)) 0)
  else
    none

end Text
end Epics
