import Epics.Pattern.Escape

/-!
# Brackets

A class of characters in brackets lists characters, ranges and other classes, and
can take the classes on the two sides of a double mark together.
-/

namespace Epics
namespace Pattern

/-- The names of the classes of ASCII. -/
def asciiNames : List String :=
  ["alnum", "alpha", "ascii", "blank", "cntrl", "digit", "graph", "lower", "print", "punct",
    "space", "upper", "word", "xdigit"]

/-- A class of ASCII behind its opening bracket: whether it is negated, and the
text behind it; `none` when the bracket opens a class that is listed. -/
def asciiClass? (text : Text) : Option (Bool × Text) :=
  match text with
  | ':' :: body =>
      let negated := body.head? == some '^'
      let inner := if negated then body.tail else body
      match inner.dropWhile (· != ':') with
      | ':' :: ']' :: rest =>
          if String.ofList (inner.takeWhile (· != ':')) ∈ asciiNames then some (negated, rest)
          else none
      | _ => none
  | _ => none

/-- The next part in brackets, and the text behind it. -/
def element? (mode : Mode) : Text → Option (Atom × Text)
  | [] => none
  | '\\' :: rest => escape? mode rest
  | char :: rest => some (.literal char false, rest)

/-- The text behind a part that stands by itself in brackets. -/
def single? (mode : Mode) (part : Atom) (rest : Text) : Option Text :=
  if part.isAllowedInBrackets mode then some rest else none

/-- The text behind a range whose first part is read, as the second is next; both
are characters, in their order. -/
def range? (mode : Mode) (first : Atom) (text : Text) : Option Text :=
  match first, element? mode (skip mode text) with
  | .literal least _, some (.literal greatest asByte, rest) =>
      if least ≤ greatest ∧ first.isAllowedInBrackets mode ∧
          (Atom.literal greatest asByte).isAllowedInBrackets mode then
        some rest
      else none
  | _, _ => none

/-- The text behind a part or a range in brackets.  A hyphen makes a range unless
another hyphen or the closing bracket follows it. -/
def partOrRange? (mode : Mode) (text : Text) : Option Text :=
  (element? mode text).bind fun (first, rest) =>
    match skip mode rest with
    | [] => none
    | '-' :: more =>
        if peek? mode more = some ']' ∨ peek? mode more = some '-' then
          single? mode first ('-' :: more)
        else range? mode first more
    | other => single? mode first other

/-- The height of what stands on the right of a double mark, taken together with
the height of what stands on its left, if there is a mark. -/
def joined (left : Option Nat) (right : Nat) : Nat :=
  match left with
  | none => right
  | some height => max height right + 1

/-- The text behind an opening bracket and the mark of a negation, if there is one;
about bytes no class is negated, since it would match broken characters. -/
def afterNegation? (mode : Mode) (text : Text) : Option Text :=
  match skip mode text with
  | '^' :: rest => if mode.unicode then some rest else none
  | other => some other

/-- The height of a class whose opening bracket is read, and the text behind it.
`first` tells whether the class has just begun, so that a hyphen, and a bracket
if nothing is before it, stand for themselves; `row` holds the parts since the
last double mark and `left` the height of what stands before it. -/
def bracketFrom (mode : Mode) : (fuel : Nat) → (first : Bool) → (row : Row) →
    (left : Option Nat) → Text → Option (Nat × Text)
  | 0, _, _, _, _ => none
  | fuel + 1, first, row, left, text =>
      match skip mode text with
      | [] => none
      | '-' :: rest =>
          if first then bracketFrom mode fuel true (row.add 0) left rest
          else if rest.head? = some '-' then
            bracketFrom mode fuel false .empty (some (joined left row.height)) rest.tail
          else
            (partOrRange? mode ('-' :: rest)).bind fun more =>
              bracketFrom mode fuel false (row.add 0) left more
      | ']' :: rest =>
          if first ∧ row.count = 0 then bracketFrom mode fuel false (row.add 0) left rest
          else some (joined left row.height + 1, rest)
      | '[' :: rest =>
          match asciiClass? rest with
          | some (negated, more) =>
              if negated && !mode.unicode then none
              else bracketFrom mode fuel false (row.add 0) left more
          | none =>
              (afterNegation? mode rest).bind fun inner =>
                (bracketFrom mode fuel true .empty none inner).bind fun (height, more) =>
                  bracketFrom mode fuel false (row.add height) left more
      | char :: rest =>
          if (char = '&' ∨ char = '~') ∧ rest.head? = some char then
            bracketFrom mode fuel false .empty (some (joined left row.height)) rest.tail
          else
            (partOrRange? mode (char :: rest)).bind fun more =>
              bracketFrom mode fuel false (row.add 0) left more

/-- The height of a class behind its opening bracket, and the text behind it. -/
def bracket? (mode : Mode) (text : Text) : Option (Nat × Text) :=
  (afterNegation? mode text).bind (bracketFrom mode (text.length + 1) true .empty none)

end Pattern
end Epics
