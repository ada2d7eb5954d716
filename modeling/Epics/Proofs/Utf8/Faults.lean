import Epics.Proofs.Utf8
import Mathlib.Algebra.Group.Nat.Defs
import Mathlib.Order.Bounds.Defs
import Mathlib.Tactic.SplitIfs

/-!
# Where bytes stop being UTF-8

Decoding accepts the UTF-8 forms of texts and nothing else.  On any other byte string
it stops behind the longest well-formed part in front, where either the bytes end in
the middle of a sequence or a byte stands that cannot continue what has been read.
-/

namespace Epics
namespace Utf8

/-- A byte string that is the UTF-8 form of a text. -/
def IsWellFormed (bytes : Bytes) : Prop :=
  ∃ text, encode text = bytes

/-- The UTF-8 form of some character begins with these bytes. -/
def Begins (bytes : Bytes) : Prop :=
  ∃ char, bytes <+: String.utf8EncodeChar char

/-- The UTF-8 form of some character begins with these bytes and has more. -/
def IsUnfinished (bytes : Bytes) : Prop :=
  ∃ char, bytes <+: String.utf8EncodeChar char ∧ bytes ≠ String.utf8EncodeChar char

variable {index number lead : Nat} {bytes front rest : Bytes} {byte : UInt8}
  {size : Option Nat} {sequence : Partial} {char other : Char} {text : Text}
  {result : Except Fault Text}

/-! ## The sequences that a lead opens -/

theorem toNat_ofNat_of_isValidChar (valid : number.isValidChar) :
    (Char.ofNat number).toNat = number := by
  rw [Char.ofNat, dif_pos valid]
  rfl

theorem utf8EncodeChar_ofNat_of_ascii (ascii : number ≤ 0x7F) :
    String.utf8EncodeChar (Char.ofNat number) = [UInt8.ofNat number] := by
  rw [utf8EncodeChar_eq, toNat_ofNat_of_isValidChar (Or.inl (by omega)), if_pos ascii]

/-- The characters whose sequences have a lead of two bytes. -/
theorem utf8EncodeChar_of_lead_two (least : 0xC2 ≤ lead) (greatest : lead ≤ 0xDF)
    (value : number / 64 = lead % 32) :
    String.utf8EncodeChar (Char.ofNat number) = [UInt8.ofNat lead, tailByte number] := by
  have leadEq : number / 64 % 32 + 192 = lead := by omega
  rw [utf8EncodeChar_eq, toNat_ofNat_of_isValidChar (Or.inl (by omega)), if_neg (by omega),
    if_pos (by omega), leadEq]

/-- The characters whose sequences have a lead of three bytes. -/
theorem utf8EncodeChar_of_lead_three (least : 0xE0 ≤ lead) (greatest : lead ≤ 0xEF)
    (value : number / 4096 = lead % 16) (large : 0x800 ≤ number)
    (noSurrogate : number < 0xD800 ∨ 0xDFFF < number) :
    String.utf8EncodeChar (Char.ofNat number) =
      [UInt8.ofNat lead, tailByte (number / 64), tailByte number] := by
  have leadEq : number / 4096 % 16 + 224 = lead := by omega
  have valid : number.isValidChar := noSurrogate.imp_right fun above => ⟨above, by omega⟩
  rw [utf8EncodeChar_eq, toNat_ofNat_of_isValidChar valid, if_neg (by omega),
    if_neg (by omega), if_pos (by omega), leadEq]

/-- The characters whose sequences have a lead of four bytes. -/
theorem utf8EncodeChar_of_lead_four (least : 0xF0 ≤ lead) (greatest : lead ≤ 0xF4)
    (value : number / 262144 = lead % 8) (large : 0x10000 ≤ number)
    (small : number ≤ 0x10FFFF) :
    String.utf8EncodeChar (Char.ofNat number) =
      [UInt8.ofNat lead, tailByte (number / 4096), tailByte (number / 64), tailByte number] := by
  have leadEq : number / 262144 % 8 + 240 = lead := by omega
  have valid : number.isValidChar := Or.inr ⟨by omega, by omega⟩
  rw [utf8EncodeChar_eq, toNat_ofNat_of_isValidChar valid, if_neg (by omega),
    if_neg (by omega), if_neg (by omega), leadEq]

/-- The last bytes of a sequence, which hold the lowest bits of a number, six each. -/
def tailBytes (number : Nat) : Nat → Bytes
  | 0 => []
  | count + 1 => tailByte (number / 64 ^ count) :: tailBytes number count

/-- The characters whose UTF-8 form goes on with a sequence are those whose numbers
have its value as their highest bits and a byte in its range next. -/
def Partial.Completes (sequence : Partial) (front : Bytes) : Prop :=
  ∀ number, number / 64 ^ (sequence.remaining + 1) = sequence.value →
    sequence.least ≤ tailByte (number / 64 ^ sequence.remaining) ∧
      tailByte (number / 64 ^ sequence.remaining) ≤ sequence.greatest →
    String.utf8EncodeChar (Char.ofNat number) = front ++ tailBytes number (sequence.remaining + 1)

/-- Every row of the table of leads. -/
theorem completes_of_ofLead? (small : lead < 256)
    (opens : Partial.ofLead? (UInt8.ofNat lead) = some sequence) :
    sequence.Completes [UInt8.ofNat lead] := by
  intro number value inRange
  rw [ofLead?_ofNat small] at opens
  split_ifs at opens with two lowestThree beforeSurrogates three lowestFour four highestFour
  all_goals
    obtain rfl := Option.some.inj opens
    rw [tailByte_inRange_iff] at inRange
    simp only [UInt8.reduceToNat, Nat.reduceAdd, Nat.reducePow, Nat.div_one] at value inRange
    simp only [tailBytes, Nat.reducePow, Nat.div_one]
  · exact utf8EncodeChar_of_lead_two two.1 two.2 value
  · exact utf8EncodeChar_of_lead_three (by omega) (by omega) value (by omega) (by omega)
  · exact utf8EncodeChar_of_lead_three (by omega) (by omega) value (by omega) (by omega)
  · exact utf8EncodeChar_of_lead_three (by omega) (by omega) value (by omega) (by omega)
  · exact utf8EncodeChar_of_lead_four (by omega) (by omega) value (by omega) (by omega)
  · exact utf8EncodeChar_of_lead_four (by omega) (by omega) value (by omega) (by omega)
  · exact utf8EncodeChar_of_lead_four (by omega) (by omega) value (by omega) (by omega)

/-! ## Sequences of which some bytes are read -/

/-- Some bytes have been read as the first part of a sequence. -/
structure Partial.Reads (sequence : Partial) (front : Bytes) : Prop where
  someByte : front ≠ []
  read : front.length = sequence.read
  /-- Decoding goes on behind these bytes with the sequence, -/
  goesOn : ∀ index rest,
    decodeFrom index none (front ++ rest) = decodeFrom index (some sequence) rest
  /-- which expects one of the bytes behind a lead -/
  isTail : 0x80 ≤ sequence.least ∧ sequence.greatest ≤ 0xBF
  someNext : sequence.least ≤ sequence.greatest
  /-- and ends with a character whose UTF-8 form begins with these bytes. -/
  completes : sequence.Completes front

/-- A byte behind a lead is told by the six bits that it holds. -/
theorem tailByte_eq (isTail : 0x80 ≤ byte ∧ byte ≤ 0xBF) (bits : number % 64 = byte.toNat % 64) :
    tailByte number = byte := by
  rw [UInt8.le_iff_toNat_le, UInt8.le_iff_toNat_le] at isTail
  simp only [UInt8.reduceToNat] at isTail
  rw [← UInt8.toNat_inj, toNat_tailByte, bits]
  omega

/-- The six bits of a byte behind the others of a number. -/
theorem div_mod_of_extend (value byte : Nat) :
    (64 * value + byte % 64) / 64 = value ∧ (64 * value + byte % 64) % 64 = byte % 64 := by
  omega

theorem reads_of_ofLead? (large : 0x80 ≤ byte) (opens : Partial.ofLead? byte = some sequence) :
    sequence.Reads [byte] := by
  have small := byte.toNat_lt
  have byteEq : UInt8.ofNat byte.toNat = byte := UInt8.ofNat_toNat
  rw [← byteEq] at opens ⊢
  have goesOn (index : Nat) (rest : Bytes) :
      decodeFrom index none (UInt8.ofNat byte.toNat :: rest) =
        decodeFrom index (some sequence) rest :=
    decodeFrom_lead (UInt8.le_iff_toNat_le.mp large) small opens
  have completes := completes_of_ofLead? small opens
  rw [ofLead?_ofNat small] at opens
  split_ifs at opens
  all_goals
    obtain rfl := Option.some.inj opens
    refine ⟨List.cons_ne_nil _ _, rfl, goesOn, ?_, ?_, completes⟩
    · dsimp only
      decide
    · dsimp only
      decide

namespace Partial.Reads

theorem isTail_of_inRange (reads : sequence.Reads front)
    (inRange : sequence.least ≤ byte ∧ byte ≤ sequence.greatest) : 0x80 ≤ byte ∧ byte ≤ 0xBF :=
  ⟨UInt8.le_trans reads.isTail.1 inRange.1, UInt8.le_trans inRange.2 reads.isTail.2⟩

/-- A byte in range makes the part that has been read longer, unless it is the last one. -/
theorem extend (reads : sequence.Reads front)
    (inRange : sequence.least ≤ byte ∧ byte ≤ sequence.greatest)
    (notLast : sequence.remaining ≠ 0) : (sequence.extend byte).Reads (front ++ [byte]) := by
  constructor
  case someByte => simp
  case read => rw [List.length_append, reads.read]; rfl
  case goesOn =>
    intro index rest
    rw [List.append_assoc, reads.goesOn, List.singleton_append, decodeFrom, if_pos inRange]
    dsimp only
    rw [if_neg notLast]
  case isTail => exact ⟨UInt8.le_refl 0x80, UInt8.le_refl 0xBF⟩
  case someNext => exact (by decide : (0x80 : UInt8) ≤ 0xBF)
  case completes =>
    obtain ⟨fewer, remainingEq⟩ := Nat.exists_eq_succ_of_ne_zero notLast
    obtain ⟨highest, bits⟩ := div_mod_of_extend sequence.value byte.toNat
    intro number value _
    have value : number / 64 ^ (fewer + 1) = 64 * sequence.value + byte.toNat % 64 := by
      rwa [Partial.extend, remainingEq] at value
    have nextByte := tailByte_eq (reads.isTail_of_inRange inRange) (value ▸ bits)
    have form := reads.completes number
    rw [remainingEq, Nat.succ_eq_add_one, nextByte, Nat.pow_succ, ← Nat.div_div_eq_div_mul, value,
      tailBytes, nextByte] at form
    rw [form highest inRange, Partial.extend, remainingEq, List.append_assoc]
    rfl

/-- A byte in range that is the last one gives a character. -/
theorem utf8EncodeChar_eq (reads : sequence.Reads front)
    (inRange : sequence.least ≤ byte ∧ byte ≤ sequence.greatest)
    (isLast : sequence.remaining = 0) :
    String.utf8EncodeChar (Char.ofNat (sequence.extend byte).value) = front ++ [byte] := by
  obtain ⟨value, bits⟩ := div_mod_of_extend sequence.value byte.toNat
  have lastByte := tailByte_eq (reads.isTail_of_inRange inRange) bits
  have completes := reads.completes (sequence.extend byte).value
  rw [isLast] at completes
  simp only [Nat.reduceAdd, Nat.reducePow, Nat.div_one, tailBytes] at completes
  rw [completes value (by rw [Partial.extend, lastByte]; exact inRange), Partial.extend, lastByte]

/-- Any byte in range can be followed until the sequence ends. -/
theorem isUnfinished (reads : sequence.Reads front) : IsUnfinished front := by
  obtain ⟨highest, bits⟩ := div_mod_of_extend sequence.value sequence.least.toNat
  generalize 64 * sequence.value + sequence.least.toNat % 64 = top at highest bits
  have shifted : top * 64 ^ sequence.remaining / 64 ^ sequence.remaining = top :=
    Nat.mul_div_cancel top (Nat.pow_pos (Nat.succ_pos 63))
  have inRange : sequence.least ≤ sequence.least ∧ sequence.least ≤ sequence.greatest :=
    ⟨UInt8.le_refl _, reads.someNext⟩
  have nextByte := tailByte_eq (reads.isTail_of_inRange inRange) bits
  have form := reads.completes (top * 64 ^ sequence.remaining)
    (by rw [Nat.pow_succ, ← Nat.div_div_eq_div_mul, shifted, highest])
    (by rw [shifted, nextByte]; exact inRange)
  refine ⟨_, ⟨_, form.symm⟩, ?_⟩
  rw [form, tailBytes]
  simp

end Partial.Reads

/-! ## Bytes that begin no text -/

/-- The UTF-8 form of a character does not begin with the form of another one. -/
theorem eq_of_isPrefix_utf8EncodeChar
    (within : String.utf8EncodeChar char <+: String.utf8EncodeChar other) : char = other := by
  obtain ⟨more, split⟩ := within
  have whole := decodeFrom_utf8EncodeChar_append 0 other []
  rw [List.append_nil, ← split, decodeFrom_utf8EncodeChar_append] at whole
  cases behind : decodeFrom (0 + (String.utf8EncodeChar char).length) none more with
  | error fault =>
      rw [behind] at whole
      cases whole
  | ok text =>
      rw [behind] at whole
      exact (List.cons.inj (Except.ok.inj whole)).1

/-- Bytes behind which decoding fails, whatever follows, begin no sequence. -/
theorem not_begins_of_error
    (fails : ∀ rest, ∃ fault, decodeFrom 0 none (bytes ++ rest) = .error fault) :
    ¬Begins bytes := by
  rintro ⟨char, rest, split⟩
  obtain ⟨fault, failed⟩ := fails rest
  have whole := decodeFrom_utf8EncodeChar_append 0 char []
  rw [List.append_nil, ← split, failed] at whole
  cases whole

theorem Begins.of_isPrefix (begins : Begins bytes) (within : front <+: bytes) : Begins front :=
  begins.imp fun _ inChar => within.trans inChar

namespace IsUnfinished

theorem begins (unfinished : IsUnfinished front) : Begins front :=
  unfinished.imp fun _ inChar => inChar.1

theorem nil : IsUnfinished [] :=
  ⟨'a', List.nil_prefix, by decide⟩

/-- An unfinished sequence holds no finished one. -/
theorem not_isPrefix (unfinished : IsUnfinished front) (char : Char) :
    ¬String.utf8EncodeChar char <+: front := by
  obtain ⟨whole, within, notWhole⟩ := unfinished
  intro inside
  obtain rfl := eq_of_isPrefix_utf8EncodeChar (inside.trans within)
  exact notWhole (within.eq_of_length_le inside.length_le)

/-- An unfinished sequence has at most three bytes. -/
theorem length_le (unfinished : IsUnfinished front) : front.length ≤ 3 := by
  obtain ⟨whole, within, notWhole⟩ := unfinished
  have shorter : front.length < (String.utf8EncodeChar whole).length :=
    Nat.lt_of_not_le fun long => notWhole (within.eq_of_length_le long)
  rw [String.length_utf8EncodeChar] at shorter
  have atMost := whole.utf8Size_le_four
  omega

end IsUnfinished

theorem concat_isPrefix (front : Bytes) (byte : UInt8) (rest : Bytes) :
    front ++ [byte] <+: front ++ byte :: rest :=
  (List.prefix_append_right_inj front).mpr (List.prefix_append [byte] rest)

/-- How bytes are broken that begin no text: either they end in an unfinished sequence,
or the longest part of a sequence in front of them, of at least one byte, has a size. -/
inductive Broken : Bytes → Option Nat → Prop
  | incomplete {front : Bytes} (unfinished : IsUnfinished front) : Broken front none
  | invalid {front : Bytes} {byte : UInt8} {rest : Bytes} (unfinished : IsUnfinished front)
      (noMore : ¬Begins (front ++ [byte])) :
      Broken (front ++ byte :: rest) (some (max 1 front.length))

/-- No character stands in front of broken bytes. -/
theorem Broken.not_isPrefix (broken : Broken rest size) (char : Char) :
    ¬String.utf8EncodeChar char <+: rest := by
  cases broken with
  | incomplete unfinished => exact unfinished.not_isPrefix char
  | @invalid front byte rest unfinished noMore =>
      intro within
      have next := concat_isPrefix front byte rest
      rcases List.prefix_or_prefix_of_prefix within next with inFront | beyond
      · rcases List.prefix_concat_iff.mp inFront with same | inside
        · exact noMore ⟨char, same ▸ List.prefix_rfl⟩
        · exact unfinished.not_isPrefix char inside
      · exact noMore ⟨char, beyond⟩

/-! ## What decoding comes to -/

/-- What the decoding of bytes comes to that begin at a position: the text of which they
are the UTF-8 form, or the fault of the bytes behind the form of a text. -/
inductive Decoding (index : Nat) : Bytes → Except Fault Text → Prop
  | text (text : Text) : Decoding index (encode text) (.ok text)
  | fault (text : Text) {rest : Bytes} {size : Option Nat} (broken : Broken rest size) :
      Decoding index (encode text ++ rest) (.error ⟨index + (encode text).length, size⟩)

/-- A character in front of bytes is decoded before them. -/
theorem Decoding.cons (form : String.utf8EncodeChar char = front)
    (behind : Decoding (index + front.length) rest result) :
    Decoding index (front ++ rest) ((char :: ·) <$> result) := by
  subst form
  cases behind with
  | text text => exact .text (char :: text)
  | @fault text rest size broken =>
      have longer : Decoding index _ _ := .fault (char :: text) broken
      rw [encode_cons, List.append_assoc, List.length_append, ← Nat.add_assoc] at longer
      exact longer

/-- The decoding of bytes comes to a text or to a fault, from between two characters and
from the middle of a sequence. -/
structure IsDecoded (bytes : Bytes) : Prop where
  between : ∀ index, Decoding index bytes (decodeFrom index none bytes)
  inside : ∀ index sequence front, Partial.Reads sequence front →
    Decoding index (front ++ bytes) (decodeFrom index (some sequence) bytes)

/-- Between two characters a byte is a character, opens a sequence or is a fault. -/
theorem IsDecoded.between_cons (isDecoded : IsDecoded rest) (index : Nat) (byte : UInt8) :
    Decoding index (byte :: rest) (decodeFrom index none (byte :: rest)) := by
  rw [decodeFrom]
  by_cases ascii : byte < 0x80
  · have form : String.utf8EncodeChar (Char.ofNat byte.toNat) = [byte] := by
      rw [utf8EncodeChar_ofNat_of_ascii (Nat.le_of_lt_succ (UInt8.lt_iff_toNat_lt.mp ascii)),
        UInt8.ofNat_toNat]
    rw [if_pos ascii]
    exact .cons form (isDecoded.between (index + 1))
  · rw [if_neg ascii]
    cases opens : Partial.ofLead? byte with
    | some sequence =>
        exact isDecoded.inside index sequence [byte]
          (reads_of_ofLead? (UInt8.not_lt.mp ascii) opens)
    | none =>
        have noMore : ¬Begins ([] ++ [byte]) := not_begins_of_error fun rest => by
          rw [List.nil_append, List.singleton_append, decodeFrom, if_neg ascii, opens]
          exact ⟨_, rfl⟩
        exact .fault [] (.invalid .nil noMore)

/-- In the middle of a sequence a byte ends it, makes it longer or is a fault. -/
theorem IsDecoded.inside_cons (isDecoded : IsDecoded rest) (index : Nat) (byte : UInt8)
    (reads : sequence.Reads front) :
    Decoding index (front ++ byte :: rest) (decodeFrom index (some sequence) (byte :: rest)) := by
  rw [decodeFrom]
  by_cases inRange : sequence.least ≤ byte ∧ byte ≤ sequence.greatest
  · rw [if_pos inRange, ← List.singleton_append, ← List.append_assoc]
    dsimp only
    by_cases isLast : sequence.remaining = 0
    · have read : (sequence.extend byte).read = (front ++ [byte]).length := by
        rw [List.length_append, reads.read]
        rfl
      rw [if_pos isLast, read]
      exact .cons (reads.utf8EncodeChar_eq inRange isLast) (isDecoded.between _)
    · rw [if_neg isLast]
      exact isDecoded.inside index _ _ (reads.extend inRange isLast)
  · have noMore : ¬Begins (front ++ [byte]) := not_begins_of_error fun rest => by
      rw [List.append_assoc, reads.goesOn, List.singleton_append, decodeFrom, if_neg inRange]
      exact ⟨_, rfl⟩
    have read : max 1 front.length = sequence.read := by
      rw [← reads.read]
      exact Nat.max_eq_right (List.length_pos_iff.mpr reads.someByte)
    have broken : Broken (front ++ byte :: rest) _ := .invalid reads.isUnfinished noMore
    rw [if_neg inRange, ← read]
    exact .fault [] broken

/-- All bytes are decoded to a text or to a fault. -/
theorem isDecoded (bytes : Bytes) : IsDecoded bytes := by
  induction bytes with
  | nil =>
      refine ⟨fun index => .text [], fun index sequence front reads => ?_⟩
      rw [List.append_nil]
      exact .fault [] (.incomplete reads.isUnfinished)
  | cons byte rest ih =>
      exact ⟨fun index => ih.between_cons index byte,
        fun index sequence front reads => ih.inside_cons index byte reads⟩

/-! ## Where the fault is -/

/-- No text whose UTF-8 form stands in front of broken bytes is longer than the text
that they follow. -/
theorem length_encode_le_of_broken (broken : Broken rest size) {longer : Text}
    (within : encode longer <+: encode text ++ rest) :
    (encode longer).length ≤ (encode text).length := by
  induction text generalizing longer with
  | nil =>
      cases longer with
      | nil => exact Nat.le_refl _
      | cons char more =>
          exact absurd ((List.prefix_append _ _).trans within) (broken.not_isPrefix char)
  | cons char text ih =>
      cases longer with
      | nil => exact Nat.zero_le _
      | cons other more =>
          rw [encode_cons, encode_cons, List.append_assoc] at within
          have same : other = char := by
            rcases List.prefix_or_prefix_of_prefix ((List.prefix_append _ _).trans within)
                (List.prefix_append _ _) with inside | inside
            · exact eq_of_isPrefix_utf8EncodeChar inside
            · exact (eq_of_isPrefix_utf8EncodeChar inside).symm
          subst same
          rw [List.prefix_append_right_inj] at within
          rw [encode_cons, encode_cons, List.length_append, List.length_append]
          exact Nat.add_le_add_left (ih within) _

/-- The longest part of a sequence in front of bytes, and in any case one byte. -/
def LongestPart (bytes : Bytes) (size : Nat) : Prop :=
  IsGreatest {count | count = 1 ∨ ∃ part, part <+: bytes ∧ Begins part ∧ part.length = count} size

/-- The longest well-formed part in front of bytes. -/
def LongestText (bytes : Bytes) (size : Nat) : Prop :=
  IsGreatest {count | ∃ front, front <+: bytes ∧ IsWellFormed front ∧ front.length = count} size

theorem longestText_of_broken (broken : Broken rest size) (text : Text) :
    LongestText (encode text ++ rest) (encode text).length := by
  constructor
  · exact ⟨encode text, List.prefix_append _ _, ⟨text, rfl⟩, rfl⟩
  · rintro count ⟨_, within, ⟨longer, rfl⟩, rfl⟩
    exact length_encode_le_of_broken broken within

theorem longestPart_of_noMore (unfinished : IsUnfinished front)
    (noMore : ¬Begins (front ++ [byte])) :
    LongestPart (front ++ byte :: rest) (max 1 front.length) := by
  constructor
  · rcases Nat.le_total front.length 1 with short | long
    · exact Or.inl (Nat.max_eq_left short)
    · rw [Nat.max_eq_right long]
      exact Or.inr ⟨front, List.prefix_append _ _, unfinished.begins, rfl⟩
  · rintro count (rfl | ⟨part, within, begins, rfl⟩)
    · exact Nat.le_max_left _ _
    · refine Nat.le_trans (Nat.le_of_not_lt fun longer => ?_) (Nat.le_max_right _ _)
      have next := concat_isPrefix front byte rest
      have atLeast : (front ++ [byte]).length ≤ part.length := by
        rw [List.length_append]
        exact longer
      have inside := List.prefix_of_prefix_length_le next within atLeast
      exact noMore (begins.of_isPrefix inside)

/-- The words for bytes that are not UTF-8, of which the first ones are up to an index:
behind the index they end in an unfinished sequence, or the longest part of a sequence
that stands there has a size. -/
inductive Diagnosis (bytes : Bytes) (index : Nat) : Text → Prop
  | incomplete (unfinished : IsUnfinished (bytes.drop index)) :
      Diagnosis bytes index
        ("incomplete utf-8 byte sequence from index ".toList ++ Text.ofNat index)
  | invalid {size : Nat} (notUnfinished : ¬IsUnfinished (bytes.drop index))
      (inRange : 1 ≤ size ∧ size ≤ 3) (longest : LongestPart (bytes.drop index) size) :
      Diagnosis bytes index
        ("invalid utf-8 sequence of ".toList ++ Text.ofNat size ++
          " bytes from index ".toList ++ Text.ofNat index)

theorem diagnosis_of_broken (broken : Broken (bytes.drop index) size) :
    Diagnosis bytes index (Fault.message ⟨index, size⟩) := by
  generalize behind : bytes.drop index = rest at broken
  cases broken with
  | incomplete unfinished =>
      rw [← behind] at unfinished
      exact .incomplete unfinished
  | @invalid front byte more unfinished noMore =>
      have notUnfinished : ¬IsUnfinished (front ++ byte :: more) := fun unfinished =>
        noMore (unfinished.begins.of_isPrefix (concat_isPrefix front byte more))
      have atMost := unfinished.length_le
      have longest : LongestPart (front ++ byte :: more) _ :=
        longestPart_of_noMore unfinished noMore
      rw [← behind] at notUnfinished longest
      exact .invalid notUnfinished ⟨by omega, by omega⟩ longest

/-- The two ways in which decoding ends.  The text that it gives has the bytes as its
UTF-8 form; the fault that it gives is behind the longest well-formed part of bytes that
are not well-formed as a whole. -/
theorem decode_cases (bytes : Bytes) :
    (∃ text, decode bytes = .ok text ∧ encode text = bytes) ∨
    ∃ fault, decode bytes = .error fault ∧ ¬IsWellFormed bytes ∧
      LongestText bytes fault.index ∧ Diagnosis bytes fault.index fault.message := by
  have decoding := (isDecoded bytes).between 0
  rw [← decode] at decoding
  generalize decoded : decode bytes = result at decoding
  cases decoding with
  | text text => exact Or.inl ⟨text, rfl, rfl⟩
  | @fault text rest size broken =>
      rw [Nat.zero_add]
      refine Or.inr ⟨_, rfl, ?_, longestText_of_broken broken text, diagnosis_of_broken ?_⟩
      · rintro ⟨whole, same⟩
        rw [← same, decode_encode] at decoded
        cases decoded
      · rwa [List.drop_left]

end Utf8
end Epics
