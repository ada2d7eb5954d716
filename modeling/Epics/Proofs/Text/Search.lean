import Epics.Text.Search

/-!
# Matches of a pattern

What a row of parts matches, part by part.  A literal text matches itself, and a
repetition matches the longest run of its class whenever what follows cannot
begin inside that run, so that nothing has to be given back.
-/

namespace Epics
namespace Text

/-- Whether a line starts at the place of a match makes no difference to it. -/
def IgnoresLineStart (parts : List Part) : Prop :=
  ∀ atLineStart text, match? parts atLineStart text = match? parts false text

theorem ignoresLineStart_char (expected : Char) (parts : List Part) :
    IgnoresLineStart (.char expected :: parts) := by
  intro atLineStart text
  cases text <;> rfl

theorem ignoresLineStart_oneOrMore (isOne : Char → Bool) (parts : List Part) :
    IgnoresLineStart (.oneOrMore isOne :: parts) := by
  intro atLineStart text
  cases text <;> rfl

/-- A literal text and what follows it match that text and a match of what follows. -/
theorem match?_literal_eq_some_iff {parts : List Part} (ignores : IgnoresLineStart parts)
    {expected text found : Text} {atLineStart : Bool} :
    match? (expected.map .char ++ parts) atLineStart text = some found ↔
      ∃ rest more, text = expected ++ rest ∧ found = expected ++ more ∧
        match? parts false rest = some more := by
  induction expected generalizing text found atLineStart with
  | nil =>
      rw [List.map_nil, List.nil_append, ignores]
      simp
  | cons first others ih =>
      cases text with
      | nil => simp [match?]
      | cons char rest =>
          by_cases same : char = first
          · subst same
            simp only [List.map_cons, List.cons_append, match?, if_true,
              Option.map_eq_some_iff, ih, List.cons.injEq, true_and]
            constructor
            · rintro ⟨_, ⟨behind, more, restEq, rfl, matched⟩, rfl⟩
              exact ⟨behind, more, restEq, rfl, matched⟩
            · rintro ⟨behind, more, restEq, rfl, matched⟩
              exact ⟨others ++ more, ⟨behind, more, restEq, rfl, matched⟩, rfl⟩
          · simp [match?, same]

/-- A repetition at the end of a pattern takes the longest run of its class. -/
theorem matchMore?_nil (isOne : Char → Bool) (atLineStart : Bool) (text : Text) :
    matchMore? isOne (match? []) atLineStart text = some (text.takeWhile isOne) := by
  induction text generalizing atLineStart with
  | nil => rfl
  | cons char rest ih =>
      by_cases inClass : isOne char = true
      · simp [matchMore?, inClass, ih]
      · simp [matchMore?, inClass, match?]

/-- A repetition takes the longest run of its class when what follows does not
begin with a character of that class. -/
theorem matchMore?_of_stops {isOne : Char → Bool} {parts : List Part}
    (ignores : IgnoresLineStart parts)
    (stops : ∀ char rest, isOne char = true → match? parts false (char :: rest) = none)
    (atLineStart : Bool) (text : Text) :
    matchMore? isOne (match? parts) atLineStart text =
      (match? parts false (text.dropWhile isOne)).map (text.takeWhile isOne ++ ·) := by
  induction text generalizing atLineStart with
  | nil =>
      rw [matchMore?, ignores]
      simp
  | cons char rest ih =>
      by_cases inClass : isOne char = true
      · have noneHere : match? parts atLineStart (char :: rest) = none := by
          rw [ignores, stops char rest inClass]
        simp only [matchMore?, inClass, if_true, ih, noneHere, Option.or_none,
          List.dropWhile_cons_of_pos, List.takeWhile_cons_of_pos, Option.map_map]
        rfl
      · rw [matchMore?, if_neg inClass, ignores, List.dropWhile_cons_of_neg inClass,
          List.takeWhile_cons_of_neg inClass]
        simp

/-- A repetition at the end of a pattern matches the longest run of its class. -/
theorem match?_oneOrMore_eq_some_iff {isOne : Char → Bool} {text found : Text}
    {atLineStart : Bool} :
    match? [.oneOrMore isOne] atLineStart text = some found ↔
      found = text.takeWhile isOne ∧ found ≠ [] := by
  cases text with
  | nil => simp [match?]
  | cons char rest =>
      by_cases inClass : isOne char = true
      · rw [match?, if_pos inClass, matchMore?_nil, Option.map_some, Option.some.injEq,
          List.takeWhile_cons_of_pos inClass]
        constructor
        · rintro rfl
          exact ⟨rfl, List.cons_ne_nil _ _⟩
        · rintro ⟨rfl, _⟩
          rfl
      · simp [match?, inClass]

/-- A repetition matches the longest run of its class when what follows does not
begin with a character of that class. -/
theorem match?_oneOrMore_cons_eq_some_iff {isOne : Char → Bool} {parts : List Part}
    (ignores : IgnoresLineStart parts)
    (stops : ∀ char rest, isOne char = true → match? parts false (char :: rest) = none)
    {text found : Text} {atLineStart : Bool} :
    match? (.oneOrMore isOne :: parts) atLineStart text = some found ↔
      ∃ more, found = text.takeWhile isOne ++ more ∧ text.takeWhile isOne ≠ [] ∧
        match? parts false (text.dropWhile isOne) = some more := by
  cases text with
  | nil => simp [match?]
  | cons char rest =>
      by_cases inClass : isOne char = true
      · simp only [match?, inClass, if_true, matchMore?_of_stops ignores stops,
          Option.map_map, Option.map_eq_some_iff, List.takeWhile_cons_of_pos,
          List.dropWhile_cons_of_pos]
        constructor
        · rintro ⟨more, matched, rfl⟩
          exact ⟨more, rfl, List.cons_ne_nil _ _, matched⟩
        · rintro ⟨more, rfl, _, matched⟩
          exact ⟨more, matched, rfl⟩
      · simp [match?, inClass]

end Text
end Epics
