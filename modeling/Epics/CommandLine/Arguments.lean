import Epics.Event
import Epics.Text.Similarity

/-!
# Command line arguments

The command line takes up to two values, the document and the directory, and the
flags for help and version.  After a double dash every argument is a value.  The
first argument that does not fit decides which refusal is given.
-/

namespace Epics

/-- The two flags. -/
inductive Flag
  | help
  | version
  deriving DecidableEq, Repr

/-- The two values. -/
inductive Slot
  | input
  | outputDirectory
  deriving DecidableEq, Repr

/-- What a refusal of an unknown argument suggests. -/
inductive Hint
  | nothing
  | passAsValue
  | similar (flag : Flag)
  deriving DecidableEq, Repr

/-- Why there are no arguments to run with. -/
inductive Refusal
  /-- Help was asked for. -/
  | help
  /-- The version was asked for. -/
  | version
  /-- An argument is no flag, or one value too many; `given` is the number of
  values that the usage line marks as given, all those before a long flag. -/
  | unknown (argument : Text) (hint : Hint) (given : Nat)
  /-- A value is attached to a flag; `followed` tells whether there is a value
  before it that another value follows. -/
  | attached (flag : Flag) (value : Text) (followed : Bool)
  /-- A value is the empty text. -/
  | empty (slot : Slot)
  deriving DecidableEq, Repr

namespace Flag

/-- The long name of a flag, without its dashes. -/
def name : Flag → Text
  | .help => "help".toList
  | .version => "version".toList

/-- The flag with a long name. -/
def ofName? (text : Text) : Option Flag :=
  if text = name .help then some .help
  else if text = name .version then some .version
  else none

/-- The flag with a short name. -/
def ofLetter? (char : Char) : Option Flag :=
  if char = 'h' then some .help else if char = 'V' then some .version else none

/-- The refusal that a flag asks for. -/
def refusal : Flag → Refusal
  | .help => .help
  | .version => .version

/-- How much a text resembles a flag, if the similarity is more than seven tenths. -/
def resemblance? (text : Text) (flag : Flag) : Option Fraction :=
  let degree := Text.similarity text flag.name
  if (Fraction.rounded ⟨7, 10⟩).less degree then some degree else none

/-- The flag that a mistyped long name resembles most; of equals, the version. -/
def similar? (text : Text) : Option Flag :=
  match resemblance? text help, resemblance? text version with
  | none, none => none
  | some _, none => some help
  | none, some _ => some version
  | some first, some second => if second.less first then some help else some version

end Flag

namespace Arguments

/-- The document when no value names one. -/
def defaultInput : Text := "epics.md".toList

/-- The directory when no value names one. -/
def defaultOutputDirectory : Text := "epics".toList

/-- The arguments that a list of values stands for. -/
def ofValues : List Text → Arguments
  | [] => ⟨defaultInput, defaultOutputDirectory⟩
  | [input] => ⟨input, defaultOutputDirectory⟩
  | input :: outputDirectory :: _ => ⟨input, outputDirectory⟩

/-- The slot of the last of the given values, if that value is the empty text;
earlier values have been looked at when the next one came. -/
def emptySlot? : List Text → Option Slot
  | [[]] => some .input
  | [_, []] => some .outputDirectory
  | _ => none

/-- The refusal of an argument that begins with two dashes, the dashes left out. -/
def refuseLong (values : List Text) (argument : Text) : Refusal :=
  let name := argument.takeWhile (· != '=')
  match Flag.ofName? name, argument.dropWhile (· != '=') with
  | some flag, [] =>
      match emptySlot? values with
      | some slot => .empty slot
      | none => flag.refusal
  | some flag, _ :: value => .attached flag value (decide (2 ≤ values.length))
  | none, _ =>
      let hint :=
        match Flag.similar? name with
        | some flag => Hint.similar flag
        | none => .passAsValue
      .unknown ('-' :: '-' :: name) hint values.length

/-- The refusal of an argument that begins with one dash and a letter. -/
def refuseShort (values : List Text) (letter : Char) : Refusal :=
  match Flag.ofLetter? letter with
  | some flag =>
      match emptySlot? values with
      | some slot => .empty slot
      | none => flag.refusal
  | none => .unknown ['-', letter] .passAsValue 0

/-- Takes one more value, unless it is one too many or the value before it is empty. -/
def addValue (values : List Text) (value : Text) : Except Refusal (List Text) :=
  match values with
  | _ :: _ :: _ => .error (.unknown value .nothing 0)
  | _ =>
      match emptySlot? values with
      | some slot => .error (.empty slot)
      | none => .ok (values ++ [value])

/-- Reads the arguments that follow the given values; `escaped` tells whether a
double dash has been read. -/
def parseFrom (values : List Text) (escaped : Bool) : List Text → Except Refusal Arguments
  | [] =>
      match emptySlot? values with
      | some slot => .error (.empty slot)
      | none => .ok (ofValues values)
  | argument :: later =>
      match escaped, argument with
      | false, ['-', '-'] => parseFrom values true later
      | false, '-' :: '-' :: long => .error (refuseLong values long)
      | false, '-' :: letter :: _ => .error (refuseShort values letter)
      | _, _ =>
          match addValue values argument with
          | .error refusal => .error refusal
          | .ok longer => parseFrom longer escaped later

/-- Reads the arguments of a command line. -/
def parse (arguments : List Text) : Except Refusal Arguments :=
  parseFrom [] false arguments

end Arguments
end Epics
