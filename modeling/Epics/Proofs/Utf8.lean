import Epics.Utf8

/-!
# Reading UTF-8 that was written

The UTF-8 form of every text is read as that text.  A character is read byte by
byte: the lead gives the highest bits of its code point and the range of the byte
behind it, and every byte behind the lead gives six bits more.
-/

namespace Epics
namespace Utf8

variable {index number : Nat} {rest : Bytes} {sequence : Partial} {char : Char}

/-! ## The bytes of a sequence -/

/-- A byte behind the lead of a sequence: it holds the last six bits of a number. -/
def tailByte (number : Nat) : UInt8 :=
  UInt8.ofNat (number % 64 + 128)

theorem toNat_ofNat_of_lt (small : number < 256) : (UInt8.ofNat number).toNat = number := by
  rw [UInt8.toNat_ofNat']
  exact Nat.mod_eq_of_lt small

theorem toNat_tailByte (number : Nat) : (tailByte number).toNat = number % 64 + 128 :=
  toNat_ofNat_of_lt (by omega)

/-- Behind the second byte of a sequence every such byte is in range. -/
theorem tailByte_inRange (number : Nat) : 0x80 ≤ tailByte number ∧ tailByte number ≤ 0xBF := by
  rw [UInt8.le_iff_toNat_le, UInt8.le_iff_toNat_le, toNat_tailByte]
  constructor
  · exact Nat.le_add_left 128 _
  · have small := Nat.mod_lt number (by decide : 0 < 64)
    change number % 64 + 128 ≤ 191
    omega

/-- Such a byte is in a narrowed range if the six bits that it holds are. -/
theorem tailByte_inRange_iff {first last : UInt8} :
    first ≤ tailByte number ∧ tailByte number ≤ last ↔
      first.toNat ≤ number % 64 + 128 ∧ number % 64 + 128 ≤ last.toNat := by
  rw [UInt8.le_iff_toNat_le, UInt8.le_iff_toNat_le, toNat_tailByte]

/-- The table of leads, by their numbers. -/
theorem ofLead?_ofNat {lead : Nat} (small : lead < 256) :
    Partial.ofLead? (UInt8.ofNat lead) =
      if 0xC2 ≤ lead ∧ lead ≤ 0xDF then some ⟨lead % 32, 1, 0x80, 0xBF, 0⟩
      else if lead = 0xE0 then some ⟨lead % 16, 1, 0xA0, 0xBF, 1⟩
      else if lead = 0xED then some ⟨lead % 16, 1, 0x80, 0x9F, 1⟩
      else if 0xE1 ≤ lead ∧ lead ≤ 0xEF then some ⟨lead % 16, 1, 0x80, 0xBF, 1⟩
      else if lead = 0xF0 then some ⟨lead % 8, 1, 0x90, 0xBF, 2⟩
      else if 0xF1 ≤ lead ∧ lead ≤ 0xF3 then some ⟨lead % 8, 1, 0x80, 0xBF, 2⟩
      else if lead = 0xF4 then some ⟨lead % 8, 1, 0x80, 0x8F, 2⟩
      else none := by
  simp only [Partial.ofLead?, UInt8.le_iff_toNat_le, ← UInt8.toNat_inj,
    toNat_ofNat_of_lt small, UInt8.reduceToNat]

/-- The lead of two bytes. -/
theorem ofLead?_two (least : 0x80 ≤ number) (greatest : number ≤ 0x7FF) :
    Partial.ofLead? (UInt8.ofNat (number / 64 % 32 + 192)) =
      some ⟨number / 64, 1, 0x80, 0xBF, 0⟩ := by
  have value : (number / 64 % 32 + 192) % 32 = number / 64 := by omega
  rw [ofLead?_ofNat (by omega), if_pos (by omega), value]

/-- The lead of three bytes, with the byte behind it. -/
theorem exists_ofLead?_three (least : 0x800 ≤ number) (greatest : number ≤ 0xFFFF)
    (noSurrogate : number < 0xD800 ∨ 0xDFFF < number) :
    ∃ first last, Partial.ofLead? (UInt8.ofNat (number / 4096 % 16 + 224)) =
        some ⟨number / 4096, 1, first, last, 1⟩ ∧
      first ≤ tailByte (number / 64) ∧ tailByte (number / 64) ≤ last := by
  have value : (number / 4096 % 16 + 224) % 16 = number / 4096 := by omega
  rw [ofLead?_ofNat (by omega), if_neg (by omega), value]
  -- The range of the next byte is narrowed behind the lowest lead, which leaves out longer
  -- forms than needed, and behind the lead of the surrogates.
  by_cases lowest : number / 4096 % 16 + 224 = 0xE0
  · rw [if_pos lowest]
    refine ⟨0xA0, 0xBF, rfl, tailByte_inRange_iff.mpr ?_⟩
    simp only [UInt8.reduceToNat]
    omega
  · rw [if_neg lowest]
    by_cases beforeSurrogates : number / 4096 % 16 + 224 = 0xED
    · rw [if_pos beforeSurrogates]
      refine ⟨0x80, 0x9F, rfl, tailByte_inRange_iff.mpr ?_⟩
      simp only [UInt8.reduceToNat]
      omega
    · rw [if_neg beforeSurrogates, if_pos (by omega)]
      exact ⟨0x80, 0xBF, rfl, tailByte_inRange _⟩

/-- The lead of four bytes, with the byte behind it. -/
theorem exists_ofLead?_four (least : 0x10000 ≤ number) (greatest : number ≤ 0x10FFFF) :
    ∃ first last, Partial.ofLead? (UInt8.ofNat (number / 262144 % 8 + 240)) =
        some ⟨number / 262144, 1, first, last, 2⟩ ∧
      first ≤ tailByte (number / 4096) ∧ tailByte (number / 4096) ≤ last := by
  have value : (number / 262144 % 8 + 240) % 8 = number / 262144 := by omega
  rw [ofLead?_ofNat (by omega), if_neg (by omega), if_neg (by omega), if_neg (by omega),
    if_neg (by omega), value]
  by_cases lowest : number / 262144 % 8 + 240 = 0xF0
  · rw [if_pos lowest]
    refine ⟨0x90, 0xBF, rfl, tailByte_inRange_iff.mpr ?_⟩
    simp only [UInt8.reduceToNat]
    omega
  · rw [if_neg lowest]
    by_cases inside : 0xF1 ≤ number / 262144 % 8 + 240 ∧ number / 262144 % 8 + 240 ≤ 0xF3
    · rw [if_pos inside]
      exact ⟨0x80, 0xBF, rfl, tailByte_inRange _⟩
    · rw [if_neg inside, if_pos (by omega)]
      refine ⟨0x80, 0x8F, rfl, tailByte_inRange_iff.mpr ?_⟩
      simp only [UInt8.reduceToNat]
      omega

/-! ## Characters -/

/-- From a lead on, a sequence is read. -/
theorem decodeFrom_lead {lead : Nat} (large : 0x80 ≤ lead) (small : lead < 256)
    (opens : Partial.ofLead? (UInt8.ofNat lead) = some sequence) :
    decodeFrom index none (UInt8.ofNat lead :: rest) = decodeFrom index (some sequence) rest := by
  have notAscii : ¬UInt8.ofNat lead < 0x80 := by
    rw [UInt8.lt_iff_toNat_lt, toNat_ofNat_of_lt small]
    exact Nat.not_lt.mpr large
  rw [decodeFrom, if_neg notAscii, opens]

/-- A byte behind the lead adds its six bits to the value of a sequence. -/
theorem extend_tailByte (sequence : Partial) (number : Nat) :
    sequence.extend (tailByte number) = ⟨64 * sequence.value + number % 64, sequence.read + 1,
      0x80, 0xBF, sequence.remaining - 1⟩ := by
  have bits : (tailByte number).toNat % 64 = number % 64 := by
    rw [toNat_tailByte]
    omega
  rw [Partial.extend, bits]

/-- A byte before the last one makes a sequence longer. -/
theorem decodeFrom_tailByte (inRange : sequence.least ≤ tailByte number ∧
      tailByte number ≤ sequence.greatest) (notLast : sequence.remaining ≠ 0) :
    decodeFrom index (some sequence) (tailByte number :: rest) =
      decodeFrom index (some ⟨64 * sequence.value + number % 64, sequence.read + 1, 0x80, 0xBF,
        sequence.remaining - 1⟩) rest := by
  rw [decodeFrom, if_pos inRange]
  dsimp only
  rw [if_neg notLast, extend_tailByte]

/-- The last byte of a sequence gives its character. -/
theorem decodeFrom_lastByte (inRange : sequence.least ≤ tailByte number ∧
      tailByte number ≤ sequence.greatest) (isLast : sequence.remaining = 0) :
    decodeFrom index (some sequence) (tailByte number :: rest) =
      (Char.ofNat (64 * sequence.value + number % 64) :: ·) <$>
        decodeFrom (index + (sequence.read + 1)) none rest := by
  rw [decodeFrom, if_pos inRange]
  dsimp only
  rw [if_pos isLast, extend_tailByte]

theorem decodeFrom_one (greatest : number ≤ 0x7F) :
    decodeFrom index none (UInt8.ofNat number :: rest) =
      (Char.ofNat number :: ·) <$> decodeFrom (index + 1) none rest := by
  have ascii : UInt8.ofNat number < 0x80 := by
    rw [UInt8.lt_iff_toNat_lt, toNat_ofNat_of_lt (by omega)]
    exact Nat.lt_succ_of_le greatest
  rw [decodeFrom, if_pos ascii, toNat_ofNat_of_lt (by omega)]

theorem decodeFrom_two (least : 0x80 ≤ number) (greatest : number ≤ 0x7FF) :
    decodeFrom index none
        (UInt8.ofNat (number / 64 % 32 + 192) :: tailByte number :: rest) =
      (Char.ofNat number :: ·) <$> decodeFrom (index + 2) none rest := by
  have lead := ofLead?_two least greatest
  have value : 64 * (number / 64) + number % 64 = number := by omega
  rw [decodeFrom_lead (by omega) (by omega) lead, decodeFrom_lastByte (tailByte_inRange _) rfl,
    value]

theorem decodeFrom_three (least : 0x800 ≤ number) (greatest : number ≤ 0xFFFF)
    (noSurrogate : number < 0xD800 ∨ 0xDFFF < number) :
    decodeFrom index none (UInt8.ofNat (number / 4096 % 16 + 224) :: tailByte (number / 64) ::
        tailByte number :: rest) =
      (Char.ofNat number :: ·) <$> decodeFrom (index + 3) none rest := by
  obtain ⟨first, last, lead, inRange⟩ := exists_ofLead?_three least greatest noSurrogate
  have value : 64 * (64 * (number / 4096) + number / 64 % 64) + number % 64 = number := by omega
  rw [decodeFrom_lead (by omega) (by omega) lead,
    decodeFrom_tailByte inRange (Nat.succ_ne_zero 0),
    decodeFrom_lastByte (tailByte_inRange _) rfl, value]

theorem decodeFrom_four (least : 0x10000 ≤ number) (greatest : number ≤ 0x10FFFF) :
    decodeFrom index none (UInt8.ofNat (number / 262144 % 8 + 240) :: tailByte (number / 4096) ::
        tailByte (number / 64) :: tailByte number :: rest) =
      (Char.ofNat number :: ·) <$> decodeFrom (index + 4) none rest := by
  obtain ⟨first, last, lead, inRange⟩ := exists_ofLead?_four least greatest
  have value : 64 * (64 * (64 * (number / 262144) + number / 4096 % 64) + number / 64 % 64) +
      number % 64 = number := by omega
  rw [decodeFrom_lead (by omega) (by omega) lead,
    decodeFrom_tailByte inRange (Nat.succ_ne_zero 1),
    decodeFrom_tailByte (tailByte_inRange _) (Nat.succ_ne_zero 0),
    decodeFrom_lastByte (tailByte_inRange _) rfl, value]

/-- The bytes of a character, by the size of its code point. -/
theorem utf8EncodeChar_eq (char : Char) : String.utf8EncodeChar char =
    if char.toNat ≤ 0x7F then [UInt8.ofNat char.toNat]
    else if char.toNat ≤ 0x7FF then
      [UInt8.ofNat (char.toNat / 64 % 32 + 192), tailByte char.toNat]
    else if char.toNat ≤ 0xFFFF then
      [UInt8.ofNat (char.toNat / 4096 % 16 + 224), tailByte (char.toNat / 64),
        tailByte char.toNat]
    else
      [UInt8.ofNat (char.toNat / 262144 % 8 + 240), tailByte (char.toNat / 4096),
        tailByte (char.toNat / 64), tailByte char.toNat] := rfl

/-- The UTF-8 form of a character is read as this character. -/
theorem decodeFrom_utf8EncodeChar_append (index : Nat) (char : Char) (rest : Bytes) :
    decodeFrom index none (String.utf8EncodeChar char ++ rest) =
      (char :: ·) <$> decodeFrom (index + (String.utf8EncodeChar char).length) none rest := by
  have isChar : char.toNat < 0xD800 ∨ 0xDFFF < char.toNat ∧ char.toNat < 0x110000 := char.valid
  have charEq := Char.ofNat_toNat char
  rw [utf8EncodeChar_eq]
  split
  case isTrue one => exact (decodeFrom_one one).trans (by rw [charEq]; rfl)
  case isFalse large =>
    split
    case isTrue two => exact (decodeFrom_two (by omega) two).trans (by rw [charEq]; rfl)
    case isFalse larger =>
      split
      case isTrue three =>
        exact (decodeFrom_three (by omega) three (by omega)).trans (by rw [charEq]; rfl)
      case isFalse largest =>
        exact (decodeFrom_four (by omega) (by omega)).trans (by rw [charEq]; rfl)

/-- The UTF-8 form of a text has as many bytes as its characters take. -/
theorem length_encode (text : Text) : (encode text).length = Text.utf8Size text := by
  induction text with
  | nil => rfl
  | cons char rest ih =>
      rw [encode_cons, List.length_append, String.length_utf8EncodeChar, ih, Text.utf8Size_cons]

theorem decodeFrom_encode (index : Nat) (text : Text) :
    decodeFrom index none (encode text) = .ok text := by
  induction text generalizing index with
  | nil => rfl
  | cons char rest ih =>
      rw [encode_cons, decodeFrom_utf8EncodeChar_append, ih]
      rfl

/-- The UTF-8 form of a text is read as this text. -/
theorem decode_encode (text : Text) : decode (encode text) = .ok text :=
  decodeFrom_encode 0 text

/-- Different texts have different UTF-8 forms. -/
theorem encode_inj {left right : Text} : encode left = encode right ↔ left = right := by
  constructor
  · intro same
    have decoded := congrArg decode same
    rw [decode_encode, decode_encode] at decoded
    exact Except.ok.inj decoded
  · exact congrArg encode

end Utf8
end Epics
