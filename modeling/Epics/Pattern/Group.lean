import Epics.Pattern.Basic
import Epics.Text.Alphabetic

/-!
# Groups

What can stand behind an opening parenthesis: a name, or flags for the group or
for what is left of the group around it, or neither.
-/

namespace Epics
namespace Pattern

/-- What an opening parenthesis begins. -/
inductive Opening
  /-- A group with its mode and the names given so far. -/
  | group (mode : Mode) (names : List Text)
  /-- A mode for what is left of the group around it. -/
  | modeChange (mode : Mode)
  deriving DecidableEq, Repr

/-- A text can name a group. -/
def isName (name : Text) : Bool :=
  match name with
  | [] => false
  | first :: later =>
      (first == '_' || Text.isAlphabetic first) &&
        later.all fun char => char ∈ ['_', '.', '[', ']'] || Text.isAlphanumeric char

/-- A group whose name begins a text and ends in an angle bracket; no two groups
have the same name. -/
def named? (mode : Mode) (names : List Text) (text : Text) : Option (Opening × Text) :=
  let name := text.takeWhile (· != '>')
  match text.dropWhile (· != '>') with
  | [] => none
  | _ :: rest =>
      if isName name ∧ name ∉ names then some (.group mode (name :: names), rest) else none

/-- A list of flags is well formed: no flag and no minus sign stands in it twice,
and a flag follows the minus sign. -/
def isFlagList (flags : Text) : Bool :=
  flags.all (· ∈ "imsUuRx-".toList) && decide flags.Nodup && flags.getLast? != some '-'

/-- How a list of flags sets one of them: on before the minus sign, off behind it. -/
def flagState (flags : Text) (flag : Char) (current : Bool) : Bool :=
  if flag ∈ flags then decide (flag ∈ flags.takeWhile (· != '-')) else current

/-- The mode with the flags of a list set. -/
def Mode.withFlags (mode : Mode) (flags : Text) : Mode :=
  ⟨flagState flags 'u' mode.unicode, flagState flags 'x' mode.spaced⟩

/-- A group or a change of mode whose flags begin a text. -/
def flagged? (mode : Mode) (names : List Text) (text : Text) : Option (Opening × Text) :=
  let isFlag (char : Char) := char != ':' && char != ')'
  let flags := text.takeWhile isFlag
  match text.dropWhile isFlag with
  | [] => none
  | final :: rest =>
      if isFlagList flags = false then none
      else if final = ':' then some (.group (mode.withFlags flags) names, rest)
      else if flags = [] then none
      else some (.modeChange (mode.withFlags flags), rest)

/-- What an opening parenthesis before a text begins, and the text behind it. -/
def opening? (mode : Mode) (names : List Text) (text : Text) : Option (Opening × Text) :=
  match text with
  | '?' :: 'P' :: '<' :: rest => named? mode names rest
  | '?' :: '<' :: rest => named? mode names rest
  | '?' :: rest => flagged? mode names rest
  | _ => some (.group mode names, text)

end Pattern
end Epics
