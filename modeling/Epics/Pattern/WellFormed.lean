import Epics.Pattern.Bracket
import Epics.Pattern.Group

/-!
# Well-formed patterns

A pattern is well formed when it can be read to its end, every part of it is
allowed, and it is not too high.  No pattern here holds a closing brace, so a
counted repetition, which an opening brace begins, is never complete.
-/

namespace Epics
namespace Pattern

/-- The number of levels that a pattern may have. -/
def heightLimit : Nat := 250

/-- The alternatives and parts that are read of a group: the alternatives before
the one that is read, the parts of that one, and the height of the last part, if
there is one that can be repeated. -/
structure Reading where
  done : Row
  parts : Row
  last : Option Nat
  deriving DecidableEq, Repr

namespace Reading

/-- The reading at the start of a group. -/
def start : Reading := ⟨.empty, .empty, none⟩

/-- The reading after one more part. -/
def withPart (reading : Reading) (height : Nat) : Reading :=
  ⟨reading.done, reading.parts.add height, some height⟩

/-- The reading after a change of mode, which cannot be repeated. -/
def withModeChange (reading : Reading) : Reading :=
  ⟨reading.done, reading.parts.add 0, none⟩

/-- The reading after a repetition of the last part. -/
def withRepetition (reading : Reading) (height : Nat) : Reading :=
  ⟨reading.done, reading.parts.raise height, some height⟩

/-- The reading at the start of the next alternative. -/
def withAlternative (reading : Reading) : Reading :=
  ⟨reading.done.add reading.parts.height, .empty, none⟩

/-- The height of all that is read. -/
def height (reading : Reading) : Nat :=
  (reading.done.add reading.parts.height).height

end Reading

/-- The part of one character or with a backslash that begins a text, if it is
allowed, and the text behind it. -/
def primitive? (mode : Mode) : Text → Option Text
  | [] => none
  | char :: rest =>
      (if char = '\\' then escape? mode rest else some (Atom.ofChar char, rest)).bind
        fun (part, more) => if part.isAllowed mode then some more else none

/-- The height of a group, or of a whole pattern if `nested` is false, of which the
given reading is done; with it the names of groups and the text behind it. -/
def groupFrom : (fuel : Nat) → (nested : Bool) → (mode : Mode) → (names : List Text) →
    (reading : Reading) → Text → Option (Nat × List Text × Text)
  | 0, _, _, _, _, _ => none
  | fuel + 1, nested, mode, names, reading, text =>
      match skip mode text with
      | [] => if nested then none else some (reading.height, names, [])
      | char :: rest =>
          if char = ')' then
            if nested then some (reading.height, names, rest) else none
          else if char = '|' then
            groupFrom fuel nested mode names reading.withAlternative rest
          else if char = '(' then
            (opening? mode names (skip mode rest)).bind fun (begun, more) =>
              match begun with
              | .modeChange changed =>
                  groupFrom fuel nested changed names reading.withModeChange more
              | .group inner given =>
                  (groupFrom fuel true inner given .start more).bind
                    fun (height, known, behind) =>
                      groupFrom fuel nested mode known (reading.withPart (height + 1)) behind
          else if char = '[' then
            (bracket? mode rest).bind fun (height, more) =>
              groupFrom fuel nested mode names (reading.withPart height) more
          else if char = '?' ∨ char = '*' ∨ char = '+' then
            reading.last.bind fun height =>
              let more := if rest.head? = some '?' then rest.tail else rest
              groupFrom fuel nested mode names (reading.withRepetition (height + 1)) more
          else if char = '\x7b' then none
          else
            (primitive? mode (char :: rest)).bind fun more =>
              groupFrom fuel nested mode names (reading.withPart 0) more

/-- The height of a pattern, if it can be read to its end. -/
def height? (pattern : Text) : Option Nat :=
  (groupFrom (pattern.length + 1) false .standard [] .start pattern).map (·.1)

/-- A text is a well-formed pattern. -/
def isWellFormed (pattern : Text) : Bool :=
  (height? pattern).any fun height => decide (height ≤ heightLimit)

end Pattern
end Epics
