import Epics.CommandLine.Arguments
import Epics.Text.ControlSequence

/-!
# Help and usage texts

What the command line answers when it is asked for help or for the version, and
when it refuses its arguments.
-/

namespace Epics

/-- The name under which the program is called. -/
def programName : Text := "epic_splitter".toList

/-- The version of the program. -/
def programVersion : Text := "0.1.0".toList

/-- A flag as it is written. -/
def Flag.written (flag : Flag) : Text :=
  "--".toList ++ flag.name

/-- The word for a value. -/
def Slot.name : Slot → Text
  | .input => "INPUT".toList
  | .outputDirectory => "OUTPUT_DIR".toList

/-- A value that may be left out, as the usage line shows it. -/
def Slot.optional (slot : Slot) : Text :=
  ['['] ++ slot.name ++ [']']

/-- A value that is given, as the usage line shows it. -/
def Slot.given (slot : Slot) : Text :=
  ['<'] ++ slot.name ++ ['>']

/-- How the usage line shows the values. -/
inductive ValueForm
  /-- The first `count` values as given, and the others as optional. -/
  | given (count : Nat)
  /-- The values as alternatives of one another. -/
  | alternatives
  deriving DecidableEq, Repr

/-- The values in a form. -/
def ValueForm.shown : ValueForm → Text
  | .given 0 => Slot.input.optional ++ [' '] ++ Slot.outputDirectory.optional
  | .given 1 => Slot.input.given ++ [' '] ++ Slot.outputDirectory.optional
  | .given _ => Slot.input.given ++ [' '] ++ Slot.outputDirectory.given
  | .alternatives => ['<'] ++ Slot.input.name ++ ['|'] ++ Slot.outputDirectory.name ++ ['>']

/-- The usage line, with a flag that is the topic, if there is one. -/
def usageLine (flag : Option Flag) (form : ValueForm) : Text :=
  "Usage: ".toList ++ programName ++ [' '] ++
    (match flag with
      | some flag => flag.written ++ [' ']
      | none => []) ++
    form.shown

/-- The help text. -/
def helpText : Text :=
  "Splits an epics markdown file into one file per \"## Epic N: Title\" section\n\n".toList ++
    usageLine none (.given 0) ++
    ("\n\nArguments:\n" ++
      "  [INPUT]       Markdown file containing the epics [default: epics.md]\n" ++
      "  [OUTPUT_DIR]  Directory that receives one file per epic [default: epics]\n" ++
      "\nOptions:\n" ++
      "  -h, --help     Print help\n" ++
      "  -V, --version  Print version\n").toList

/-- The version text. -/
def versionText : Text :=
  programName ++ [' '] ++ programVersion ++ ['\n']

/-- What ends every text about arguments that do not fit. -/
def moreInformation : Text :=
  "\n\nFor more information, try '--help'.\n".toList

namespace Hint

/-- A hint as a paragraph of its own. -/
def paragraph (argument : Text) : Hint → Text
  | .nothing => []
  | .passAsValue =>
      "\n\n  tip: to pass '".toList ++ argument ++ "' as a value, use '-- ".toList ++
        argument ++ "'".toList
  | .similar flag =>
      "\n\n  tip: a similar argument exists: '".toList ++ flag.written ++ "'".toList

/-- The flag that a hint is about. -/
def flag? : Hint → Option Flag
  | .similar flag => some flag
  | _ => none

end Hint

/-- A refusal in words, where `plain` says how the parts of arguments are shown. -/
def Refusal.wordsWith (plain : Text → Text) : Refusal → Text
  | .help => helpText
  | .version => versionText
  | .unknown argument hint given =>
      "error: unexpected argument '".toList ++ plain argument ++ "' found".toList ++
        hint.paragraph (plain argument) ++ "\n\n".toList ++
        usageLine hint.flag? (.given given) ++ moreInformation
  | .attached flag value followed =>
      "error: unexpected value '".toList ++ plain value ++ "' for '".toList ++ flag.written ++
        "' found; no more were expected\n\n".toList ++
        usageLine (some flag) (if followed then .alternatives else .given 0) ++
        moreInformation
  | .empty slot =>
      "error: a value is required for '".toList ++ slot.optional ++
        "' but none was supplied".toList ++ moreInformation

/-- A refusal in words, without the control sequences of arguments. -/
def Refusal.message (refusal : Refusal) : Text :=
  refusal.wordsWith Text.plain

/-- A refusal in words as it is written to a stream. -/
def Refusal.written (refusal : Refusal) : Text :=
  refusal.wordsWith Text.streamed

/-- A refusal that was asked for is no failure. -/
def Refusal.isAnswer : Refusal → Bool
  | .help | .version => true
  | _ => false

end Epics
