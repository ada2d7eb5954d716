import Epics.Text.Quoted

/-!
# Events

An event records one thing that a run has done.  Events are kept as data; their
level, their source and their words are functions of them.
-/

namespace Epics

/-- How important an event is. -/
inductive Level
  | error
  | warn
  | info
  | debug
  | trace
  deriving DecidableEq, Repr

namespace Level

/-- The number of a level; the higher, the finer the events. -/
def rank : Level → Nat
  | .error => 1
  | .warn => 2
  | .info => 3
  | .debug => 4
  | .trace => 5

/-- The name of a level. -/
def name : Level → String
  | .error => "ERROR"
  | .warn => "WARN"
  | .info => "INFO"
  | .debug => "DEBUG"
  | .trace => "TRACE"

end Level

/-- The arguments of a run: the document and the directory for the files. -/
structure Arguments where
  input : Text
  outputDirectory : Text
  deriving DecidableEq, Repr

/-- One thing that a run has done. -/
inductive Event
  /-- Events can be recorded from here on. -/
  | recording
  /-- The arguments are read. -/
  | started (arguments : Arguments)
  /-- A document of this many bytes is read. -/
  | documentRead (size : Nat) (path : Text)
  /-- The directory for the files is there. -/
  | directoryReady (path : Text)
  /-- Bytes in front of the first heading belong to no section. -/
  | preambleDiscarded (size : Nat)
  /-- A document of this many bytes has no heading. -/
  | noHeadings (size : Nat)
  /-- A section is found. -/
  | sectionFound (title : Text) (bodySize : Nat)
  /-- All sections are found. -/
  | sectionsCounted (count : Nat)
  /-- A section is written to a file. -/
  | sectionSaved (title path : Text)
  /-- The run has done all it had to do. -/
  | finished (sections files : Nat)
  deriving DecidableEq, Repr

namespace Event

/-- The level of an event. -/
def level : Event → Level
  | .started _ | .sectionsCounted _ | .sectionSaved _ _ | .finished _ _ => .info
  | .recording | .documentRead _ _ | .directoryReady _ | .preambleDiscarded _
  | .noHeadings _ | .sectionFound _ _ => .debug

/-- The name of the part of the program that an event comes from. -/
def source : Event → String
  | .recording => "epic_splitter::utils::logging"
  | .started _ | .finished _ _ => "epic_splitter"
  | .documentRead _ _ | .sectionsCounted _ => "epic_splitter::splitter"
  | .directoryReady _ | .sectionSaved _ _ => "epic_splitter::storage"
  | .preambleDiscarded _ | .noHeadings _ | .sectionFound _ _ =>
      "epic_splitter::extractors::section"

/-- An event in words. -/
def message : Event → Text
  | .recording => "Logging setup complete.".toList
  | .started arguments =>
      "Starting processing for args: Args \x7b input: ".toList ++ Text.quoted arguments.input ++
        ", output_dir: ".toList ++ Text.quoted arguments.outputDirectory ++ " \x7d".toList
  | .documentRead size path =>
      "Read ".toList ++ Text.ofNat size ++ " bytes from ".toList ++ path
  | .directoryReady path => "Output directory ready: ".toList ++ path
  | .preambleDiscarded size =>
      "Discarding ".toList ++ Text.ofNat size ++ " bytes of preamble before first heading".toList
  | .noHeadings size =>
      "No epic headings found in document (".toList ++ Text.ofNat size ++ " bytes)".toList
  | .sectionFound title bodySize =>
      "Found section '".toList ++ title ++ "' (".toList ++ Text.ofNat bodySize ++
        " body bytes)".toList
  | .sectionsCounted count => "Found ".toList ++ Text.ofNat count ++ " epic sections".toList
  | .sectionSaved title path =>
      "Saved section '".toList ++ title ++ "' to ".toList ++ path
  | .finished sections files =>
      "Processing finished. Sections: ".toList ++ Text.ofNat sections ++
        ", Files written: ".toList ++ Text.ofNat files

/-- A character of a message as it stands in a log line: what would move the
cursor of a terminal or change its state is written by its code point. -/
def lineChar (char : Char) : Text :=
  if char ∈ ['\x07', '\x08', '\x0c', '\x1b', '\x7f'] then
    "\\x".toList ++ (if char.toNat < 16 then ['0'] else []) ++ Text.hexadecimal char.toNat
  else if 0x80 ≤ char.toNat ∧ char.toNat ≤ 0x9F then Text.codePoint char
  else [char]

/-- The log line of an event: level, source and message. -/
def line (event : Event) : Text :=
  event.level.name.toList ++ [' '] ++ event.source.toList ++ ": ".toList ++
    event.message.flatMap lineChar ++ ['\n']

end Event
end Epics
