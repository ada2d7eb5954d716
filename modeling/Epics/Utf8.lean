import Epics.Text.Basic

/-!
# UTF-8

The UTF-8 form of a text, and the text of a byte string.  Decoding stops at the
first byte that no well-formed sequence can have in its place and reports where
the sequence began.
-/

namespace Epics

/-- A byte string. -/
abbrev Bytes := List UInt8

namespace Utf8

/-- The UTF-8 form of a text. -/
def encode (text : Text) : Bytes :=
  text.flatMap String.utf8EncodeChar

/-- Why a byte string is not the UTF-8 form of any text: the number of
well-formed bytes in front, and the number of bytes of the broken sequence, or
`none` when the bytes end inside a sequence that could still be completed. -/
structure Fault where
  index : Nat
  broken : Option Nat
  deriving DecidableEq, Repr

/-- A sequence of which some bytes are read: its value so far, the number of
bytes read, the range of the next byte and the number of bytes after that. -/
structure Partial where
  value : Nat
  read : Nat
  least : UInt8
  greatest : UInt8
  remaining : Nat
  deriving DecidableEq, Repr

/-- The sequence that a byte from 0x80 on begins, if it begins one.  The narrowed
ranges after 0xE0, 0xED, 0xF0 and 0xF4 exclude overlong forms, surrogates and
values above U+10FFFF. -/
def Partial.ofLead? (byte : UInt8) : Option Partial :=
  let payload (size : Nat) := byte.toNat % size
  if 0xC2 ≤ byte ∧ byte ≤ 0xDF then some ⟨payload 32, 1, 0x80, 0xBF, 0⟩
  else if byte = 0xE0 then some ⟨payload 16, 1, 0xA0, 0xBF, 1⟩
  else if byte = 0xED then some ⟨payload 16, 1, 0x80, 0x9F, 1⟩
  else if 0xE1 ≤ byte ∧ byte ≤ 0xEF then some ⟨payload 16, 1, 0x80, 0xBF, 1⟩
  else if byte = 0xF0 then some ⟨payload 8, 1, 0x90, 0xBF, 2⟩
  else if 0xF1 ≤ byte ∧ byte ≤ 0xF3 then some ⟨payload 8, 1, 0x80, 0xBF, 2⟩
  else if byte = 0xF4 then some ⟨payload 8, 1, 0x80, 0x8F, 2⟩
  else none

/-- The sequence with one more byte read. -/
def Partial.extend (sequence : Partial) (byte : UInt8) : Partial :=
  ⟨64 * sequence.value + byte.toNat % 64, sequence.read + 1, 0x80, 0xBF, sequence.remaining - 1⟩

/-- The text of the bytes from position `index` on, where `sequence` is the
sequence that began there, if one has begun. -/
def decodeFrom (index : Nat) : Option Partial → Bytes → Except Fault Text
  | none, [] => .ok []
  | some _, [] => .error ⟨index, none⟩
  | none, byte :: rest =>
      if byte < 0x80 then
        (Char.ofNat byte.toNat :: ·) <$> decodeFrom (index + 1) none rest
      else
        match Partial.ofLead? byte with
        | none => .error ⟨index, some 1⟩
        | some sequence => decodeFrom index (some sequence) rest
  | some sequence, byte :: rest =>
      if sequence.least ≤ byte ∧ byte ≤ sequence.greatest then
        let longer := sequence.extend byte
        if sequence.remaining = 0 then
          (Char.ofNat longer.value :: ·) <$> decodeFrom (index + longer.read) none rest
        else
          decodeFrom index (some longer) rest
      else
        .error ⟨index, some sequence.read⟩

/-- The text of a byte string, or its first fault. -/
def decode (bytes : Bytes) : Except Fault Text :=
  decodeFrom 0 none bytes

/-- A fault in words. -/
def Fault.message (fault : Fault) : Text :=
  match fault.broken with
  | some size =>
      "invalid utf-8 sequence of ".toList ++ Text.ofNat size ++ " bytes from index ".toList ++
        Text.ofNat fault.index
  | none => "incomplete utf-8 byte sequence from index ".toList ++ Text.ofNat fault.index

@[simp] theorem encode_nil : encode [] = [] := rfl

@[simp] theorem encode_cons (char : Char) (rest : Text) :
    encode (char :: rest) = String.utf8EncodeChar char ++ encode rest := rfl

@[simp] theorem encode_append (left right : Text) :
    encode (left ++ right) = encode left ++ encode right := by
  simp [encode]

end Utf8
end Epics
