import Epics.Text.Basic

/-!
# Control sequences

A terminal takes some characters as orders and not as text: single controls, and
the sequences that an escape character begins.  The plain form of a text is what
is left without them.
-/

namespace Epics
namespace Text

/-- Where the characters read so far have left the reader of a text. -/
inductive Sequence
  /-- Outside of all sequences. -/
  | outside
  /-- Behind an escape character. -/
  | escape
  /-- Behind an escape character and at least one intermediate. -/
  | intermediate
  /-- In a control sequence, up to its final letter. -/
  | control
  /-- Behind the opening of a device control string. -/
  | deviceOpen
  /-- In the parameters of a device control string. -/
  | deviceParameters
  /-- In the intermediates of a device control string. -/
  | deviceIntermediates
  /-- In a string that a string terminator ends. -/
  | string
  /-- In a system command, which the bell ends. -/
  | command
  deriving DecidableEq, Repr

namespace Sequence

/-- The number of a character is in a range. -/
def within (char : Char) (least greatest : Nat) : Bool :=
  decide (least ≤ char.toNat) && decide (char.toNat ≤ greatest)

/-- The byte that terminates strings is in the UTF-8 form of a character. -/
def holdsTerminator (char : Char) : Bool :=
  (String.utf8EncodeChar char).contains 0x9C

/-- The character behind an escape character says what kind of sequence follows. -/
def opened (char : Char) : Sequence :=
  if char = '[' then .control
  else if char = ']' then .command
  else if char = 'P' then .deviceOpen
  else if char ∈ ['X', '^', '_'] then .string
  else if within char 0x20 0x2F then .intermediate
  else if within char 0x30 0x7E then .outside
  else .escape

/-- Where one more character leaves the reader.  Cancel and substitute end every
sequence, and an escape character begins a new one. -/
def next (sequence : Sequence) (char : Char) : Sequence :=
  if char = '\x18' ∨ char = '\x1a' then .outside
  else if char = '\x1b' then .escape
  else
    match sequence with
    | .outside => .outside
    | .escape => opened char
    | .intermediate => if within char 0x30 0x7E then .outside else .intermediate
    | .control => if within char 0x40 0x7E then .outside else .control
    | .deviceOpen =>
        if within char 0x40 0x7E then .string
        else if within char 0x30 0x3F then .deviceParameters
        else if within char 0x20 0x2F then .deviceIntermediates
        else .deviceOpen
    | .deviceParameters =>
        if within char 0x3C 0x7E then .string
        else if within char 0x20 0x2F then .deviceIntermediates
        else .deviceParameters
    | .deviceIntermediates => if within char 0x30 0x7E then .string else .deviceIntermediates
    | .string => if holdsTerminator char then .outside else .string
    | .command => if char = '\x07' then .outside else .command

/-- A character is shown: any but the controls outside of sequences, and white
space in those sequences in which controls keep their meaning. -/
def shows (sequence : Sequence) (char : Char) : Bool :=
  let blank := decide (char ∈ ['\t', '\n', '\x0c', '\r'])
  match sequence with
  | .outside => blank || (decide (0x20 ≤ char.toNat) && char != '\x7f')
  | .escape | .intermediate | .control => blank
  | _ => false

end Sequence

/-- The characters of a text that are shown.  White space that is shown within a
sequence ends it; if `resumes` holds, the sequence goes on instead at the first
control after the characters that are shown with that white space, unless one of
them is beyond ASCII.  `showing` tells whether the last character was shown. -/
def shownFrom (resumes : Bool) (sequence : Sequence) (showing : Bool) : Text → Text
  | [] => []
  | char :: rest =>
      if Sequence.shows (if showing then .outside else sequence) char then
        let after := if resumes && decide (char.toNat < 0x80) then sequence else .outside
        char :: shownFrom resumes after true rest
      else
        shownFrom resumes (sequence.next char) false rest

/-- The plain form of a text. -/
def plain (text : Text) : Text :=
  shownFrom false .outside false text

/-- The plain form of a text that is written to a stream, where white space within
a sequence does not end it. -/
def streamed (text : Text) : Text :=
  shownFrom true .outside false text

@[simp] theorem plain_nil : plain [] = [] := rfl

@[simp] theorem streamed_nil : streamed [] = [] := rfl

/-- A text without controls. -/
def IsPrintable (text : Text) : Prop :=
  ∀ char ∈ text, 0x20 ≤ char.toNat ∧ char ≠ '\x7f'

instance (text : Text) : Decidable (IsPrintable text) :=
  List.decidableBAll (fun char : Char => 0x20 ≤ char.toNat ∧ char ≠ '\x7f') text

/-- Outside of sequences, all of a text without controls is shown. -/
theorem shownFrom_eq_self {text : Text} (printable : IsPrintable text)
    (resumes showing : Bool) : shownFrom resumes .outside showing text = text := by
  induction text generalizing showing with
  | nil => rfl
  | cons char rest ih =>
      have first := printable char List.mem_cons_self
      have later := ih (fun other member => printable other (List.mem_cons_of_mem _ member)) true
      have shown : Sequence.shows .outside char = true := by
        simp [Sequence.shows, first.1, first.2]
      simp [shownFrom, shown, later]

/-- A text without controls is its own plain form. -/
theorem plain_eq_self {text : Text} (printable : IsPrintable text) : plain text = text :=
  shownFrom_eq_self printable false false

/-- A text without controls is written to a stream as it is. -/
theorem streamed_eq_self {text : Text} (printable : IsPrintable text) : streamed text = text :=
  shownFrom_eq_self printable true false

end Text
end Epics
