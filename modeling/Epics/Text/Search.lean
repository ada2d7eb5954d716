import Epics.Text.Basic

/-!
# Searching a text

A pattern is a row of parts that have to match one after the other.  A search
goes over a text from its start, takes the first match that begins at or behind
the place it has reached, and goes on behind that match.  Of the matches that
begin at one place the preferred one is taken: every repetition takes as many
characters as it can, and gives some back only if the parts behind it need them.
-/

namespace Epics
namespace Text

/-- A part of a pattern. -/
inductive Part
  /-- The start of a line, which takes no character. -/
  | lineStart
  /-- One given character. -/
  | char (expected : Char)
  /-- One or more characters of a class. -/
  | oneOrMore (isOne : Char → Bool)

/-- The preferred match of any number of characters of a class and of what is to
follow them. -/
def matchMore? (isOne : Char → Bool) (next : Bool → Text → Option Text) :
    (atLineStart : Bool) → Text → Option Text
  | atLineStart, [] => next atLineStart []
  | atLineStart, char :: rest =>
      if isOne char then
        ((matchMore? isOne next (char == '\n') rest).map (char :: ·)).or
          (next atLineStart (char :: rest))
      else next atLineStart (char :: rest)

/-- The preferred match of a pattern that begins where a text begins; `atLineStart`
tells whether a line starts there. -/
def match? : List Part → (atLineStart : Bool) → Text → Option Text
  | [], _, _ => some []
  | .lineStart :: parts, atLineStart, text =>
      if atLineStart then match? parts atLineStart text else none
  | .char _ :: _, _, [] => none
  | .char expected :: parts, _, char :: rest =>
      if char = expected then (match? parts (char == '\n') rest).map (char :: ·) else none
  | .oneOrMore _ :: _, _, [] => none
  | .oneOrMore isOne :: parts, _, char :: rest =>
      if isOne char then
        (matchMore? isOne (match? parts) (char == '\n') rest).map (char :: ·)
      else none

/-- A stretch of a text, from one position to another. -/
structure Span where
  start : Nat
  stop : Nat
  deriving DecidableEq, Repr

/-- Where the matches of a pattern stand in a text that stands at `offset`; the
first `pending` characters belong to the match before.  A match without
characters does not count. -/
def searchFrom (parts : List Part) :
    (pending : Nat) → (atLineStart : Bool) → (offset : Nat) → Text → List Span
  | _, _, _, [] => []
  | pending + 1, _, offset, char :: rest =>
      searchFrom parts pending (char == '\n') (offset + char.utf8Size) rest
  | 0, atLineStart, offset, char :: rest =>
      match match? parts atLineStart (char :: rest) with
      | some (first :: more) =>
          ⟨offset, offset + utf8Size (first :: more)⟩ ::
            searchFrom parts more.length (char == '\n') (offset + char.utf8Size) rest
      | _ => searchFrom parts 0 (char == '\n') (offset + char.utf8Size) rest

/-- Where the matches of a pattern stand in a text, in order. -/
def search (parts : List Part) (text : Text) : List Span :=
  searchFrom parts 0 true 0 text

end Text
end Epics
