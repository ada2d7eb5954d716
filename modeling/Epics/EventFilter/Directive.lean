import Epics.Event
import Epics.Pattern.WellFormed
import Epics.Text.Number
import Epics.Text.Slice

/-!
# Directives

A directive of a filter says for some of the events up to which level they pass.
It selects them by the part of the program that they come from, and by the span
of work that they are in or the values that they carry, given in brackets.
-/

namespace Epics

/-- Which events of its sources a directive selects. -/
inductive Scope
  /-- All of them. -/
  | everywhere
  /-- Those that carry a value of this name. -/
  | carrying (name : Text)
  /-- Those inside a span of work; events of this program never are. -/
  | withinSpan
  deriving DecidableEq, Repr

/-- One directive of a filter: events of sources whose names begin with `source`
and in the scope pass up to the level `finest`, or not at all if there is none. -/
structure Directive where
  source : Option Text
  scope : Scope
  finest : Option Level
  deriving DecidableEq, Repr

/-- Why a text does not read as a directive. -/
inductive Misreading
  /-- The text spells none. -/
  | malformed
  /-- A part of it is to be cut out at a position inside a character, where the reading
  breaks off. -/
  | insideCharacter
  deriving DecidableEq, Repr

/-- The level that a word or a number from 0 to 5 stands for, `some none` if it
turns events off, and `none` for any other text. -/
def Level.parse? (text : Text) : Option (Option Level) :=
  match Text.toNat? text with
  | some 0 => some none
  | some 1 => some (some .error)
  | some 2 => some (some .warn)
  | some 3 => some (some .info)
  | some 4 => some (some .debug)
  | some 5 => some (some .trace)
  | some _ => none
  | none =>
      let word := String.ofList (text.map Char.toLower)
      if word = "off" then some none
      else if word = "error" then some (some .error)
      else if word = "warn" then some (some .warn)
      else if word = "info" then some (some .info)
      else if word = "debug" then some (some .debug)
      else if word = "trace" then some (some .trace)
      else none

namespace Directive

/-- The characters that the name of a source may begin with. -/
def opens (char : Char) : Bool :=
  Text.isAlphanumeric char || char == '-' || char == ':' || char == '_'

/-- A text can stand for the values that a span has to hold: a number, or a pattern. -/
def isValue (text : Text) : Bool :=
  Text.isNumber text || Pattern.isWellFormed text

/-- The scope that the name of a span, if there is one, and a text between braces
give: the name of a value, with or without an equals sign and the value itself.
Only spans can be asked for their name or for a value. -/
def scope? (isNamed : Bool) (field : Text) : Option Scope :=
  match field.dropWhile (· != '=') with
  | [] => some (if isNamed then .withinSpan else .carrying field)
  | _ :: value => if isValue (value.takeWhile (· != '=')) then some .withinSpan else none

/-- The part of a text between two positions. -/
def cut (text : Text) (start stop : Nat) : Except Misreading Text :=
  match Text.slice? text start stop with
  | some part => .ok part
  | none => .error .insideCharacter

/-- What a part of a directive stands for, if it stands for anything. -/
def meaning {α : Type} : Option α → Except Misreading α
  | some value => .ok value
  | none => .error .malformed

/-- The directive for a source and a scope with what follows them from `position` on:
nothing, or an equals sign and a level, which may be left out. -/
def withLevel (text : Text) (source : Option Text) (scope : Scope) (position : Nat) :
    Text → Except Misreading Directive
  | [] => return ⟨source, scope, some .trace⟩
  | '=' :: _ => do
      let level ← cut text (position + 1) (Text.utf8Size text)
      if level = [] then return ⟨source, scope, some .trace⟩
      else return ⟨source, scope, ← meaning (Level.parse? level)⟩
  | _ => .error .malformed

/-- The directive for a source with a scope between braces, of which `rest`, from
`position` on, is what follows the opening brace. -/
def withField (text : Text) (source : Option Text) (isNamed : Bool) (position : Nat)
    (rest : Text) : Except Misreading Directive :=
  let stop := position + Text.utf8Size (rest.takeWhile (· != '\x7d'))
  match rest.dropWhile (· != '\x7d') with
  | '\x7d' :: behind => do
      let field ← cut text position stop
      if field = [] then .error .malformed
      else
        let scope ← meaning (scope? isNamed field)
        match behind with
        | ']' :: more => withLevel text source scope (stop + 2) more
        | _ => .error .malformed
  | _ => .error .malformed

/-- The directive for a source with a scope, of which `rest`, from `position` on, is
what follows the opening bracket. -/
def withScope (text : Text) (source : Option Text) (position : Nat) (rest : Text) :
    Except Misreading Directive :=
  let isPlain (char : Char) := char != ']' && char != '\x7b'
  let stop := position + Text.utf8Size (rest.takeWhile isPlain)
  match rest.dropWhile isPlain with
  | ']' :: more => do
      let _ ← cut text position stop
      withLevel text source .withinSpan (stop + 1) more
  | '\x7b' :: inner => do
      let span ← cut text position stop
      withField text source (!span.isEmpty) (stop + 1) inner
  | _ => .error .malformed

/-- The directive that a text spells: a level, a source with or without a level,
or a scope in brackets after a source or alone.  Where its parts stand is read off
the text without the white space around it, but each is cut out of the text as it
is given, so that white space in front of a directive shifts its parts, and may
shift them into a character. -/
def parse (text : Text) : Except Misreading Directive :=
  let isPlain (char : Char) := char != '=' && char != '['
  let inner := Text.trim text
  let name := inner.takeWhile isPlain
  let stop := Text.utf8Size name
  match inner.dropWhile isPlain with
  | [] =>
      if name.head?.any opens then
        match Level.parse? text with
        | some finest => return ⟨none, .everywhere, finest⟩
        | none => return ⟨some text, .everywhere, some .trace⟩
      else .error .malformed
  | '[' :: rest =>
      if name = [] then withScope text none 1 rest
      else if name.head?.any opens then do
        withScope text (← cut text 0 stop) (stop + 1) rest
      else .error .malformed
  | rest =>
      if name.head?.any opens then do
        withLevel text (← cut text 0 stop) .everywhere stop rest
      else .error .malformed

/-- A directive selects an event by its source and scope. -/
def selects (directive : Directive) (event : Event) : Bool :=
  (directive.source.all fun source => source.isPrefixOf event.source.toList) &&
    match directive.scope with
    | .everywhere => true
    | .carrying name => name == "message".toList
    | .withinSpan => false

/-- How specific a directive is: the length of its source, and then whether it
asks for a value. -/
def specificity (directive : Directive) : Nat :=
  2 * ((directive.source.map Text.utf8Size).getD 0) +
    match directive.scope with
    | .carrying _ => 1
    | _ => 0

/-- A directive lets an event through that it selects. -/
def admits (directive : Directive) (event : Event) : Bool :=
  directive.finest.any fun finest => decide (event.level.rank ≤ finest.rank)

end Directive
end Epics
