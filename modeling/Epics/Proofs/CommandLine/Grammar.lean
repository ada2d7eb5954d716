import Epics.CommandLine.Program
import Epics.FileTree.Operations

/-!
# The grammar of the command line

Up to the first double dash an argument that begins with a dash is a flag, unless it is
a dash alone.  A command line is accepted when there are no flags and at most two values,
none of them empty.  Any other one is refused before a file is read or written.
-/

namespace Epics
namespace Arguments

/-- The argument behind which every argument is a value. -/
def escape : Text := "--".toList

/-- The arguments before the first double dash. -/
def unescaped (arguments : List Text) : List Text :=
  arguments.takeWhile (· ≠ escape)

/-- The arguments that are to be values: all of them but the first double dash. -/
def values (arguments : List Text) : List Text :=
  unescaped arguments ++ (arguments.dropWhile (· ≠ escape)).tail

/-- The values fit the two slots. -/
structure FillSlots (values : List Text) : Prop where
  atMostTwo : values.length ≤ 2
  nonempty : [] ∉ values

/-- Before the first double dash only a dash alone begins with a dash. -/
def HasNoFlags (arguments : List Text) : Prop :=
  ∀ argument ∈ unescaped arguments, argument = ['-'] ∨ argument.head? ≠ some '-'

/-- A command line that follows the grammar. -/
structure IsAccepted (arguments : List Text) : Prop where
  noFlags : HasNoFlags arguments
  fillSlots : FillSlots (values arguments)

instance (arguments : List Text) : Decidable (HasNoFlags arguments) :=
  inferInstanceAs (Decidable (∀ argument ∈ unescaped arguments, _))

instance (values : List Text) : Decidable (FillSlots values) :=
  decidable_of_iff (values.length ≤ 2 ∧ ∀ value ∈ values, value ≠ [])
    ⟨fun ⟨atMostTwo, nonempty⟩ => ⟨atMostTwo, fun member => nonempty [] member rfl⟩,
      fun ⟨atMostTwo, nonempty⟩ => ⟨atMostTwo, fun _ member isEmpty =>
        nonempty (isEmpty ▸ member)⟩⟩

theorem isAccepted_iff (arguments : List Text) :
    IsAccepted arguments ↔ HasNoFlags arguments ∧ FillSlots (values arguments) :=
  ⟨fun ⟨noFlags, fillSlots⟩ => ⟨noFlags, fillSlots⟩,
    fun ⟨noFlags, fillSlots⟩ => ⟨noFlags, fillSlots⟩⟩

instance (arguments : List Text) : Decidable (IsAccepted arguments) :=
  decidable_of_iff _ (isAccepted_iff arguments).symm

variable {given : Arguments} {taken longer arguments later : List Text} {argument : Text}
  {escaped : Bool}

/-! ## Taking values -/

/-- The values that have been taken when the next argument is read: the last of them
has not been looked at. -/
structure Started (taken : List Text) : Prop where
  atMostTwo : taken.length ≤ 2
  nonempty : [] ∉ taken.dropLast

theorem started_concat_iff :
    Started (taken ++ [argument]) ↔ taken.length < 2 ∧ [] ∉ taken := by
  constructor
  · intro started
    have short := started.atMostTwo
    have nonempty := started.nonempty
    rw [List.length_append] at short
    rw [List.dropLast_concat] at nonempty
    exact ⟨short, nonempty⟩
  · rintro ⟨short, nonempty⟩
    refine ⟨?_, ?_⟩
    · rw [List.length_append]
      exact short
    · rwa [List.dropLast_concat]

theorem FillSlots.started (fill : FillSlots (taken ++ later)) : Started taken := by
  constructor
  · have short := fill.atMostTwo
    rw [List.length_append] at short
    omega
  · intro isEmpty
    exact fill.nonempty (List.mem_append_left later (List.dropLast_subset taken isEmpty))

/-- Of a slot that is taken for the first time, the value is looked at. -/
theorem emptySlot?_singleton : emptySlot? [argument] = none ↔ argument ≠ [] := by
  cases argument with
  | nil => simp [emptySlot?]
  | cons char rest => simp [emptySlot?]

theorem emptySlot?_pair {first : Text} : emptySlot? [first, argument] = none ↔ argument ≠ [] := by
  cases argument with
  | nil => simp [emptySlot?]
  | cons char rest => simp [emptySlot?]

/-- When no argument is left, the last value is looked at. -/
theorem emptySlot?_eq_none_iff (started : Started taken) :
    emptySlot? taken = none ↔ FillSlots taken := by
  have fillSlots_iff : FillSlots taken ↔ [] ∉ taken :=
    ⟨FillSlots.nonempty, fun nonempty => ⟨started.atMostTwo, nonempty⟩⟩
  rw [fillSlots_iff]
  obtain ⟨atMostTwo, nonempty⟩ := started
  match taken with
  | [] => simp [emptySlot?]
  | [only] =>
      rw [emptySlot?_singleton, List.mem_singleton, ne_comm]
  | [first, last] =>
      have nonemptyFirst : [] ≠ first := by simpa using nonempty
      rw [emptySlot?_pair, List.mem_cons, List.mem_singleton, not_or, ne_comm]
      exact (and_iff_right nonemptyFirst).symm
  | _ :: _ :: _ :: _ => simp at atMostTwo

theorem addValue_eq_ok_iff :
    addValue taken argument = .ok longer ↔
      Started (taken ++ [argument]) ∧ longer = taken ++ [argument] := by
  rw [started_concat_iff]
  match taken with
  | [] => simp [addValue, emptySlot?, eq_comm]
  | [only] =>
      cases only with
      | nil => simp [addValue, emptySlot?]
      | cons char rest => simp [addValue, emptySlot?, eq_comm]
  | _ :: _ :: _ =>
      simp only [addValue, reduceCtorEq, List.length_cons, false_iff, not_and]
      intro ⟨tooMany, _⟩
      omega

/-! ## Reading arguments -/

/-- Behind the escape nothing is a flag any more. -/
theorem parseFrom_escape : parseFrom taken false (escape :: later) = parseFrom taken true later :=
  rfl

/-- An argument that is no flag is taken as a value. -/
theorem parseFrom_value (isValue : escaped = true ∨ argument = ['-'] ∨ argument.head? ≠ some '-') :
    parseFrom taken escaped (argument :: later) = .ok given ↔
      Started (taken ++ [argument]) ∧
        parseFrom (taken ++ [argument]) escaped later = .ok given := by
  have takes : parseFrom taken escaped (argument :: later) =
      (addValue taken argument).bind fun longer => parseFrom longer escaped later := by
    conv => lhs; unfold parseFrom
    split
    · simp at isValue
    · simp at isValue
    · simp at isValue
    · cases addValue taken argument with
      | error refusal => rfl
      | ok longer => rfl
  rw [takes]
  cases added : addValue taken argument with
  | error refusal =>
      have notStarted : ¬ Started (taken ++ [argument]) := fun started => by
        rw [addValue_eq_ok_iff.mpr ⟨started, rfl⟩] at added
        cases added
      simp [notStarted, Except.bind]
  | ok longer =>
      obtain ⟨started, rfl⟩ := addValue_eq_ok_iff.mp added
      exact (and_iff_right started).symm

/-- A flag is refused. -/
theorem parseFrom_flag (notEscape : argument ≠ escape) (notDash : argument ≠ ['-'])
    (isFlag : argument.head? = some '-') :
    parseFrom taken false (argument :: later) ≠ .ok given := by
  match argument with
  | [first] =>
      obtain rfl : first = '-' := by simpa using isFlag
      exact absurd rfl notDash
  | first :: letter :: rest =>
      obtain rfl : first = '-' := by simpa using isFlag
      unfold parseFrom
      split
      case h_1 isEscape => exact absurd isEscape notEscape
      case h_2 => exact nofun
      case h_3 => exact nofun
      case h_4 notShort => exact absurd rfl (notShort letter rest rfl)

theorem parseFrom_nil (started : Started taken) :
    parseFrom taken escaped [] = .ok given ↔ FillSlots taken ∧ given = ofValues taken := by
  rw [parseFrom, ← emptySlot?_eq_none_iff started]
  cases emptySlot? taken with
  | some slot => simp
  | none => simp [eq_comm]

/-- Behind the escape every argument is taken as a value. -/
theorem parseFrom_escaped_eq_ok_iff (started : Started taken) :
    parseFrom taken true arguments = .ok given ↔
      FillSlots (taken ++ arguments) ∧ given = ofValues (taken ++ arguments) := by
  induction arguments generalizing taken with
  | nil =>
      rw [List.append_nil]
      exact parseFrom_nil started
  | cons argument later ih =>
      have regroup : taken ++ argument :: later = taken ++ [argument] ++ later := by simp
      rw [parseFrom_value (.inl rfl), regroup]
      constructor
      · rintro ⟨longer, reads⟩
        exact (ih longer).mp reads
      · rintro ⟨fill, values⟩
        exact ⟨fill.started, (ih fill.started).mpr ⟨fill, values⟩⟩

/-- Up to the escape flags are refused, and the other arguments are taken as values. -/
theorem parseFrom_eq_ok_iff (started : Started taken) :
    parseFrom taken false arguments = .ok given ↔
      HasNoFlags arguments ∧ FillSlots (taken ++ values arguments) ∧
        given = ofValues (taken ++ values arguments) := by
  induction arguments generalizing taken with
  | nil =>
      rw [parseFrom_nil started]
      simp [HasNoFlags, unescaped, values]
  | cons argument later ih =>
      by_cases isEscape : argument = escape
      · subst isEscape
        rw [parseFrom_escape, parseFrom_escaped_eq_ok_iff started]
        simp [HasNoFlags, unescaped, values]
      have regroup : taken ++ values (argument :: later) =
          taken ++ [argument] ++ values later := by
        simp [values, unescaped, isEscape]
      have noFlags_iff : HasNoFlags (argument :: later) ↔
          (argument = ['-'] ∨ argument.head? ≠ some '-') ∧ HasNoFlags later := by
        simp [HasNoFlags, unescaped, isEscape]
      rw [noFlags_iff, regroup]
      by_cases isValue : argument = ['-'] ∨ argument.head? ≠ some '-'
      · rw [parseFrom_value (.inr isValue), and_iff_right isValue]
        constructor
        · rintro ⟨longer, reads⟩
          exact (ih longer).mp reads
        · rintro ⟨noFlags, fill, values⟩
          exact ⟨fill.started, (ih fill.started).mpr ⟨noFlags, fill, values⟩⟩
      · obtain ⟨notDash, isFlag⟩ := not_or.mp isValue
        refine iff_of_false (parseFrom_flag isEscape notDash (Decidable.not_not.mp isFlag)) ?_
        exact fun ⟨⟨noFlag, _⟩, _⟩ => isValue noFlag

theorem ofValues_eq (values : List Text) :
    ofValues values = ⟨values[0]?.getD defaultInput, values[1]?.getD defaultOutputDirectory⟩ := by
  match values with
  | [] => rfl
  | [_] => rfl
  | _ :: _ :: _ => rfl

/-- A command line is read exactly when it follows the grammar, and then the document is
its first value and the directory its second, where there are such values.  With any
other command line the program ends, on every store and under every setting, without
an access to the store, be it with the refusal or because the setting breaks off. -/
theorem parse_eq_ok_iff (arguments : List Text) :
    (∀ given, parse arguments = .ok given ↔ IsAccepted arguments ∧
      given = ⟨(values arguments)[0]?.getD "epics.md".toList,
        (values arguments)[1]?.getD "epics".toList⟩) ∧
    (¬ IsAccepted arguments → ∃ refusal, parse arguments = .error refusal ∧
      ∀ {m : Type → Type} [Monad m] (store : FileStore m) (setting : Option Text),
        program store arguments setting =
          pure ((EventFilter.ofSetting? setting).elim .aborted fun filter =>
            .ofRefusal filter refusal)) := by
  have reads_iff (given : Arguments) : parse arguments = .ok given ↔
      IsAccepted arguments ∧ given = ofValues (values arguments) := by
    have started : Started [] := ⟨by decide, by decide⟩
    rw [isAccepted_iff, and_assoc]
    exact parseFrom_eq_ok_iff started
  refine ⟨fun given => ?_, fun notAccepted => ?_⟩
  · rw [reads_iff, ofValues_eq]
    rfl
  · cases parsed : parse arguments with
    | ok given => exact absurd ((reads_iff given).mp parsed).1 notAccepted
    | error refusal =>
        refine ⟨refusal, rfl, fun store setting => ?_⟩
        rw [program, parsed]
        cases EventFilter.ofSetting? setting <;> rfl

/-- A dash alone and a second double dash are values, and a flag in front of the double dash
is refused. -/
theorem parse_eq_ok_iff_dashes :
    let accepted := ["-".toList, "--".toList, "--".toList]
    let refused := ["a.md".toList, "-b".toList, "--".toList]
    parse accepted = .ok ⟨"-".toList, "--".toList⟩ ∧
      ∃ refusal, parse refused = .error refusal ∧
        ∀ tree setting, (program FileTree.store refused setting).run tree =
          ((EventFilter.ofSetting? setting).elim .aborted fun filter =>
            .ofRefusal filter refusal, tree) := by
  intro accepted refused
  have isAccepted : IsAccepted accepted := by decide
  have notAccepted : ¬ IsAccepted refused := by decide
  obtain ⟨refusal, refuses, ends⟩ := (parse_eq_ok_iff refused).2 notAccepted
  refine ⟨((parse_eq_ok_iff accepted).1 _).mpr ⟨isAccepted, rfl⟩, refusal, refuses, ?_⟩
  intro tree setting
  rw [ends FileTree.store setting]
  rfl

end Arguments
end Epics
