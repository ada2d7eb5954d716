import Epics.EventFilter
import Epics.Proofs.Text.Trim

/-!
# Settings whose reading breaks off

The parts of a directive are found in the text without the white space around it and
cut out of the text as it is.  Where no white space stands in front, or where every
character has one byte, the positions that are boundaries of the one are boundaries of
the other, and the reading cannot break off.  The reading of a list breaks off when it
does so at the first of its parts that does not read.
-/

namespace Epics

variable {α β : Type} {text inner part rest : Text} {position start stop : Nat}

/-! ## Where parts of a text stand -/

namespace Text

/-- A part of a text is what follows from a position on. -/
def StandsAt (text part : Text) (position : Nat) : Prop :=
  ∃ before, text = before ++ part ∧ utf8Size before = position

theorem standsAt_zero (text : Text) : StandsAt text text 0 := ⟨[], rfl, rfl⟩

theorem StandsAt.isBoundary (stands : StandsAt text part position) :
    IsBoundary text position := by
  obtain ⟨before, split, size⟩ := stands
  exact ⟨before, part, split, size⟩

/-- Behind a character of one byte the rest stands one position further on. -/
theorem StandsAt.tail {char : Char} (single : char.utf8Size = 1)
    (stands : StandsAt text (char :: rest) position) : StandsAt text rest (position + 1) := by
  obtain ⟨before, split, rfl⟩ := stands
  exact ⟨before ++ [char], by rw [split, List.append_assoc, List.singleton_append],
    by simp [single]⟩

/-- Behind the characters up to a mark the rest stands as many positions further on as
these have bytes. -/
theorem StandsAt.dropWhile (stands : StandsAt text part position) (keep : Char → Bool) :
    StandsAt text (part.dropWhile keep) (position + utf8Size (part.takeWhile keep)) := by
  obtain ⟨before, split, rfl⟩ := stands
  exact ⟨before ++ part.takeWhile keep,
    by rw [split, List.append_assoc, List.takeWhile_append_dropWhile], utf8Size_append _ _⟩

/-- Where every character has one byte, every position is a boundary. -/
theorem isBoundary_of_ascii (ascii : ∀ char ∈ text, char.toNat < 0x80)
    (inside : position ≤ utf8Size text) : IsBoundary text position := by
  induction text generalizing position with
  | nil => exact Nat.le_zero.mp inside ▸ isBoundary_zero []
  | cons char rest ih =>
      have single : char.utf8Size = 1 :=
        Char.utf8Size_eq_one_iff.mpr (Nat.lt_succ_iff.mp (ascii char List.mem_cons_self))
      by_cases first : position = 0
      · exact first ▸ isBoundary_zero _
      · rw [utf8Size_cons, single] at inside
        rw [isBoundary_cons_iff first, single]
        exact ⟨by omega, ih (fun other member => ascii other (List.mem_cons_of_mem _ member))
          (by omega)⟩

theorem utf8Size_trim_le (text : Text) : utf8Size (trim text) ≤ utf8Size text := by
  obtain ⟨before, after, split, _⟩ := exists_eq_append_trim_append text
  conv => rhs; rw [split]
  simp only [utf8Size_append]
  omega

/-- With no white space in front of a text, or with characters of one byte only, what is
a boundary without the white space around it is a boundary of the text. -/
theorem isBoundary_of_trim
    (aligned : (∀ char ∈ text.head?, isWhiteSpace char = false) ∨
      ∀ char ∈ text, char.toNat < 0x80)
    (boundary : IsBoundary (trim text) position) : IsBoundary text position := by
  rcases aligned with visible | ascii
  · obtain ⟨left, right, split, size⟩ := boundary
    cases text with
    | nil => exact ⟨left, right, split, size⟩
    | cons first more =>
        obtain ⟨after, whole, _⟩ :
            ∃ after, first :: more = trim (first :: more) ++ after ∧ IsBlank after :=
          exists_eq_trim_append (visible first rfl)
        exact ⟨left, right ++ after, by rw [whole, split, List.append_assoc], size⟩
  · exact isBoundary_of_ascii ascii (boundary.le_utf8Size.trans (utf8Size_trim_le text))

end Text

/-! ## Directives -/

/-- A reading goes through: it comes to a value, or finds the text malformed. -/
def GoesThrough (reading : Except Misreading α) : Prop :=
  reading ≠ .error .insideCharacter

theorem goesThrough_bind {reading : Except Misreading α} {next : α → Except Misreading β}
    (first : GoesThrough reading) (later : ∀ value, GoesThrough (next value)) :
    GoesThrough (reading >>= next) := by
  cases reading with
  | ok value => exact later value
  | error misreading => exact fun same => first (congrArg Except.error (Except.error.inj same))

namespace Directive

variable {source : Option Text} {scope : Scope} {isNamed : Bool}

theorem goesThrough_meaning (value : Option α) : GoesThrough (meaning value) := by
  cases value <;> exact nofun

theorem goesThrough_cut (forward : start ≤ stop) (starts : Text.IsBoundary text start)
    (stops : Text.IsBoundary text stop) : GoesThrough (cut text start stop) := by
  rw [cut, Text.slice?_eq_some forward starts stops]
  exact nofun

section

variable (keeps : ∀ {position}, Text.IsBoundary inner position → Text.IsBoundary text position)
include keeps

theorem goesThrough_withLevel (stands : Text.StandsAt inner rest position) :
    GoesThrough (withLevel text source scope position rest) := by
  unfold withLevel
  split
  · exact nofun
  · have starts := keeps (stands.tail rfl).isBoundary
    refine goesThrough_bind
      (goesThrough_cut starts.le_utf8Size starts (Text.isBoundary_utf8Size text)) fun level => ?_
    split
    · exact nofun
    · exact goesThrough_bind (goesThrough_meaning _) fun _ => nofun
  · exact nofun

theorem goesThrough_withField (stands : Text.StandsAt inner rest position) :
    GoesThrough (withField text source isNamed position rest) := by
  have ends := stands.dropWhile (· != '\x7d')
  unfold withField
  dsimp only
  split
  · next behind braced =>
    rw [braced] at ends
    refine goesThrough_bind (goesThrough_cut (Nat.le_add_right _ _) (keeps stands.isBoundary)
      (keeps ends.isBoundary)) fun field => ?_
    split
    · exact nofun
    · refine goesThrough_bind (goesThrough_meaning _) fun scope => ?_
      split
      · exact goesThrough_withLevel keeps ((ends.tail rfl).tail rfl)
      · exact nofun
  · exact nofun

theorem goesThrough_withScope (stands : Text.StandsAt inner rest position) :
    GoesThrough (withScope text source position rest) := by
  have ends := stands.dropWhile fun char => char != ']' && char != '\x7b'
  have span := goesThrough_cut (Nat.le_add_right _ _) (keeps stands.isBoundary)
    (keeps ends.isBoundary)
  unfold withScope
  dsimp only
  split
  · next more closed =>
    rw [closed] at ends
    exact goesThrough_bind span fun _ => goesThrough_withLevel keeps (ends.tail rfl)
  · next field opened =>
    rw [opened] at ends
    exact goesThrough_bind span fun _ => goesThrough_withField keeps (ends.tail rfl)
  · exact nofun

end

theorem goesThrough_parse
    (keeps : ∀ {position}, Text.IsBoundary (Text.trim text) position →
      Text.IsBoundary text position) : GoesThrough (parse text) := by
  have behind := (Text.standsAt_zero (Text.trim text)).dropWhile
    fun char => char != '=' && char != '['
  rw [Nat.zero_add] at behind
  have name := goesThrough_cut (Nat.zero_le _) (Text.isBoundary_zero text)
    (keeps behind.isBoundary)
  unfold parse
  dsimp only
  split
  · split
    · split <;> exact nofun
    · exact nofun
  · next rest bracketed =>
    rw [bracketed] at behind
    split
    · next noName =>
      rw [noName] at behind
      exact goesThrough_withScope keeps (behind.tail rfl)
    · split
      · exact goesThrough_bind name fun _ => goesThrough_withScope keeps (behind.tail rfl)
      · exact nofun
  · split
    · exact goesThrough_bind name fun _ => goesThrough_withLevel keeps behind
    · exact nofun

/-- A directive whose reading breaks off has white space in front and a character beyond
ASCII in it. -/
theorem of_parse_eq_insideCharacter (broken : parse text = .error .insideCharacter) :
    (∃ char ∈ text.head?, Text.isWhiteSpace char = true) ∧ ∃ char ∈ text, 0x80 ≤ char.toNat := by
  constructor
  · by_contra noSpace
    refine goesThrough_parse (Text.isBoundary_of_trim (.inl fun char member => ?_)) broken
    exact Bool.eq_false_iff.mpr fun space => noSpace ⟨char, member, space⟩
  · by_contra ascii
    refine goesThrough_parse (Text.isBoundary_of_trim (.inr fun char member => ?_)) broken
    exact Nat.not_le.mp fun beyond => ascii ⟨char, member, beyond⟩

end Directive

/-! ## Lists of directives -/

section

variable {ε : Type} {read : α → Except ε β} {refusal : ε}

/-- A list is refused when its first member is, or when that reads and the others are
refused. -/
theorem mapM_cons_eq_error_iff {first : α} {more : List α} :
    (first :: more).mapM read = .error refusal ↔
      read first = .error refusal ∨
        (∃ result, read first = .ok result) ∧ more.mapM read = .error refusal := by
  rw [List.mapM_cons]
  cases read first with
  | error other => simp [bind, Except.bind]
  | ok result => cases more.mapM read <;> simp [bind, Except.bind, pure, Except.pure]

/-- A list is refused by the first of its members that does not read. -/
theorem mapM_eq_error_iff {values : List α} :
    values.mapM read = .error refusal ↔
      ∃ before value after, values = before ++ value :: after ∧
        (∀ other ∈ before, ∃ result, read other = .ok result) ∧ read value = .error refusal := by
  induction values with
  | nil => simp [pure, Except.pure]
  | cons first more ih =>
      rw [mapM_cons_eq_error_iff, ih]
      constructor
      · rintro (refused | ⟨reads, before, value, after, rfl, others, refused⟩)
        · exact ⟨[], first, more, rfl, nofun, refused⟩
        · exact ⟨first :: before, value, after, rfl, List.forall_mem_cons.mpr ⟨reads, others⟩,
            refused⟩
      · rintro ⟨before, value, after, split, others, refused⟩
        cases before with
        | nil =>
            obtain ⟨rfl, rfl⟩ := List.cons.inj split
            exact .inl refused
        | cons head before =>
            obtain ⟨rfl, rfl⟩ := List.cons.inj split
            obtain ⟨reads, others⟩ := List.forall_mem_cons.mp others
            exact .inr ⟨reads, before, value, after, rfl, others, refused⟩

end

namespace EventFilter

variable {setting : Option Text}

/-- The reading of a setting breaks off: the first of its parts that does not read is to
be cut inside a character. -/
def BreaksOff (setting : Option Text) : Prop :=
  ∃ text ∈ setting, ∃ before part after, parts text = before ++ part :: after ∧
    (∀ other ∈ before, ∃ directive, Directive.parse other = .ok directive) ∧
    Directive.parse part = .error .insideCharacter

/-- No filter comes of exactly the settings whose reading breaks off. -/
theorem ofSetting?_eq_none_iff : ofSetting? setting = none ↔ BreaksOff setting := by
  cases setting with
  | none => simp [ofSetting?, BreaksOff]
  | some text =>
      simp only [BreaksOff, Option.mem_some_iff, exists_eq_left', ← mapM_eq_error_iff]
      rw [ofSetting?, parse]
      rcases (parts text).mapM Directive.parse with misreading | filter
      · cases misreading <;> simp
      · simp

instance : Decidable (BreaksOff setting) :=
  decidable_of_iff ((ofSetting? setting).isNone = true)
    (Option.isNone_iff_eq_none.trans ofSetting?_eq_none_iff)

-- Behind a part that is malformed, a part that would be cut inside a character is not read.
example : BreaksOff (some "info,\u00a0a=info".toList) ∧
    ¬BreaksOff (some "=,\u00a0a=info".toList) := by
  decide +kernel

/-- Every other setting gives a filter. -/
theorem exists_filter_of_not_breaksOff (unbroken : ¬ BreaksOff setting) :
    ∃ filter, ofSetting? setting = some filter :=
  Option.ne_none_iff_exists'.mp (mt ofSetting?_eq_none_iff.mp unbroken)

/-- A setting whose reading breaks off has a part with white space in front and a
character beyond ASCII in it. -/
theorem BreaksOff.exists_mem_parts (breaks : BreaksOff setting) :
    ∃ text ∈ setting, ∃ part ∈ parts text,
      (∃ char ∈ part.head?, Text.isWhiteSpace char = true) ∧
        ∃ char ∈ part, 0x80 ≤ char.toNat := by
  obtain ⟨text, given, before, part, after, split, _, broken⟩ := breaks
  exact ⟨text, given, part, split ▸ List.mem_append_right _ List.mem_cons_self,
    Directive.of_parse_eq_insideCharacter broken⟩

end EventFilter
end Epics
