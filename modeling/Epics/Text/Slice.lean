import Epics.Utf8

/-!
# Slices of a text

Positions in a text are counted in bytes of its UTF-8 form.  A position is a
boundary when it stands between two characters or at an end of the text, which can
be told from the bytes.  A slice is the part of the text between two positions; it
is in range when both are boundaries and the first is not behind the second.
-/

namespace Epics
namespace Text

/-- What is left of a text after its first `count` bytes. -/
def dropBytes (count : Nat) : Text → Text
  | [] => []
  | char :: rest =>
      if count = 0 then char :: rest else dropBytes (count - char.utf8Size) rest

/-- The first `count` bytes of a text. -/
def takeBytes (count : Nat) : Text → Text
  | [] => []
  | char :: rest =>
      if count = 0 then [] else char :: takeBytes (count - char.utf8Size) rest

/-- The part of a text between two positions. -/
def slice (text : Text) (start stop : Nat) : Text :=
  takeBytes (stop - start) (dropBytes start text)

@[simp] theorem dropBytes_zero (text : Text) : dropBytes 0 text = text := by
  cases text <;> rfl

@[simp] theorem takeBytes_zero (text : Text) : takeBytes 0 text = [] := by
  cases text <;> rfl

/-- Dropping as many bytes as the first part has leaves the second part. -/
@[simp] theorem dropBytes_append (before after : Text) :
    dropBytes (utf8Size before) (before ++ after) = after := by
  induction before with
  | nil => simp
  | cons char rest ih =>
      have positive := char.utf8Size_pos
      simp [dropBytes, ih, Nat.ne_of_gt positive]

/-- Taking as many bytes as the first part has leaves the first part. -/
@[simp] theorem takeBytes_append (before after : Text) :
    takeBytes (utf8Size before) (before ++ after) = before := by
  induction before with
  | nil => simp
  | cons char rest ih =>
      have positive := char.utf8Size_pos
      simp [takeBytes, ih, Nat.ne_of_gt positive]

/-- The slice that a middle part takes in a text is that part. -/
theorem slice_append_append (before middle after : Text) :
    slice (before ++ (middle ++ after)) (utf8Size before)
        (utf8Size before + utf8Size middle) = middle := by
  simp [slice]

/-! ## Boundaries -/

variable {text part : Text} {position start stop : Nat}

/-- A position stands between two characters or at an end of the text. -/
def IsBoundary (text : Text) (position : Nat) : Prop :=
  ∃ before after, text = before ++ after ∧ utf8Size before = position

theorem isBoundary_zero (text : Text) : IsBoundary text 0 :=
  ⟨[], text, rfl, rfl⟩

theorem isBoundary_utf8Size (text : Text) : IsBoundary text (utf8Size text) :=
  ⟨text, [], (List.append_nil text).symm, rfl⟩

theorem IsBoundary.le_utf8Size (boundary : IsBoundary text position) :
    position ≤ utf8Size text := by
  obtain ⟨before, after, rfl, rfl⟩ := boundary
  rw [utf8Size_append]
  exact Nat.le_add_right _ _

/-- A boundary that is not at the start of a text is behind its first character. -/
theorem isBoundary_cons_iff {char : Char} {rest : Text} (notFirst : position ≠ 0) :
    IsBoundary (char :: rest) position ↔
      char.utf8Size ≤ position ∧ IsBoundary rest (position - char.utf8Size) := by
  constructor
  · rintro ⟨before, after, split, rfl⟩
    cases before with
    | nil => exact absurd rfl notFirst
    | cons first more =>
        obtain ⟨rfl, rfl⟩ := List.cons.inj split
        rw [utf8Size_cons, Nat.add_sub_cancel_left]
        exact ⟨Nat.le_add_right _ _, more, after, rfl, rfl⟩
  · rintro ⟨behind, before, after, rfl, size⟩
    refine ⟨char :: before, after, rfl, ?_⟩
    rw [utf8Size_cons, size, Nat.add_sub_cancel' behind]

/-- A position is within the bytes of a text or at their end, and no byte stands there
that goes on with a character. -/
def isBoundary (text : Text) (position : Nat) : Bool :=
  let bytes := Utf8.encode text
  decide (position ≤ bytes.length) && bytes[position]?.all fun byte => byte.IsUTF8FirstByte

/-- The boundaries of a text can be told from its bytes. -/
theorem isBoundary_eq_true_iff : isBoundary text position = true ↔ IsBoundary text position := by
  simp only [isBoundary, Bool.and_eq_true, decide_eq_true_eq]
  induction text generalizing position with
  | nil =>
      have atStart : IsBoundary [] position ↔ position ≤ 0 :=
        ⟨IsBoundary.le_utf8Size, fun none => Nat.le_zero.mp none ▸ isBoundary_zero []⟩
      simp [atStart]
  | cons char rest ih =>
      have size := String.length_utf8EncodeChar char
      have positive := char.utf8Size_pos
      rw [Utf8.encode_cons, List.length_append, size]
      by_cases first : position = 0
      · subst first
        have isFirst := UInt8.isUTF8FirstByte_getElem_zero_utf8EncodeChar (c := char)
        rw [List.getElem?_append_left (by omega), List.getElem?_eq_getElem (by omega)]
        simp [isBoundary_zero, isFirst]
      · rw [isBoundary_cons_iff first]
        by_cases behind : char.utf8Size ≤ position
        · rw [← ih, List.getElem?_append_right (by omega), size]
          simp only [behind, true_and, Nat.sub_le_iff_le_add']
        · have inside : position < (String.utf8EncodeChar char).length := by omega
          have goesOn : ¬(String.utf8EncodeChar char)[position].IsUTF8FirstByte := fun byte =>
            first (UInt8.isUTF8FirstByte_getElem_utf8EncodeChar.mp byte)
          rw [List.getElem?_append_left inside, List.getElem?_eq_getElem inside]
          simp [behind, goesOn]

instance : Decidable (IsBoundary text position) :=
  decidable_of_iff _ isBoundary_eq_true_iff

/-! ## Slices that are in range -/

/-- The part of a text between two positions, or `none` when one of them is no boundary
of the text or the first is behind the second. -/
def slice? (text : Text) (start stop : Nat) : Option Text :=
  if start ≤ stop ∧ IsBoundary text start ∧ IsBoundary text stop then
    some (slice text start stop)
  else
    none

theorem slice?_eq_some (forward : start ≤ stop) (starts : IsBoundary text start)
    (stops : IsBoundary text stop) : slice? text start stop = some (slice text start stop) :=
  if_pos ⟨forward, starts, stops⟩

/-- What is cut out is in range. -/
theorem inRange_of_slice? (sliced : slice? text start stop = some part) :
    start ≤ stop ∧ IsBoundary text start ∧ IsBoundary text stop :=
  (Option.ite_none_right_eq_some.mp sliced).1

end Text
end Epics
