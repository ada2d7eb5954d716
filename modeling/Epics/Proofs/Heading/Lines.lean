import Epics.Heading
import Epics.Proofs.Text.Lines
import Epics.Proofs.Text.Search

/-!
# Headings as lines

The search for headings goes character by character and passes over what a match
has taken.  Read line by line it comes to this: every line of the form of a
heading is a match, from its first character to its last one, and there are no
other matches.
-/

namespace Epics
namespace Heading

/-- A line is a heading when the marker, a decimal number, the separator and at
least one more character follow one another from its start on. -/
def IsHeading (line : Text) : Prop :=
  ∃ digits rest, line = marker ++ (digits ++ (separator ++ rest)) ∧
    digits ≠ [] ∧ (∀ digit ∈ digits, digit.isDigit = true) ∧ rest ≠ []

/-- A line is read as a heading from its start on. -/
def isHeading (line : Text) : Bool :=
  let number := line.drop marker.length
  let remainder := number.dropWhile Char.isDigit
  marker.isPrefixOf line && decide (remainder.length < number.length) &&
    separator.isPrefixOf remainder && decide (separator.length < remainder.length)

/-- The number of a heading ends where the separator begins. -/
theorem dropWhile_isDigit_append {digits : Text}
    (allDigits : ∀ digit ∈ digits, digit.isDigit = true) (rest : Text) :
    (digits ++ (separator ++ rest)).dropWhile Char.isDigit = separator ++ rest := by
  rw [List.dropWhile_append_of_pos allDigits]
  rfl

theorem takeWhile_isDigit_append {digits : Text}
    (allDigits : ∀ digit ∈ digits, digit.isDigit = true) (rest : Text) :
    (digits ++ (separator ++ rest)).takeWhile Char.isDigit = digits := by
  rw [List.takeWhile_append_of_pos allDigits]
  exact List.append_nil digits

/-- Reading a line finds out whether it is a heading. -/
theorem isHeading_eq_true_iff {line : Text} : isHeading line = true ↔ IsHeading line := by
  constructor
  · intro heading
    simp only [isHeading, Bool.and_eq_true, decide_eq_true_eq, List.isPrefixOf_iff_prefix]
      at heading
    obtain ⟨⟨⟨⟨number, rfl⟩, someDigit⟩, separated⟩, more⟩ := heading
    rw [List.drop_left] at someDigit separated more
    obtain ⟨rest, split⟩ := separated
    refine ⟨number.takeWhile Char.isDigit, rest, ?_, ?_, ?_, ?_⟩
    · rw [split, List.takeWhile_append_dropWhile]
    · intro noDigit
      have whole := List.takeWhile_append_dropWhile (p := Char.isDigit) (l := number)
      rw [noDigit, List.nil_append] at whole
      rw [whole] at someDigit
      exact Nat.lt_irrefl _ someDigit
    · intro digit member
      exact List.all_eq_true.mp List.all_takeWhile digit member
    · rintro rfl
      rw [← split] at more
      simp at more
  · rintro ⟨digits, rest, rfl, someDigit, allDigits, someRest⟩
    have digitsPositive := List.length_pos_iff.mpr someDigit
    have restPositive := List.length_pos_iff.mpr someRest
    simp only [isHeading, List.drop_left, dropWhile_isDigit_append allDigits,
      Bool.and_eq_true, decide_eq_true_eq, List.isPrefixOf_iff_prefix, List.prefix_append,
      List.length_append, true_and, and_true]
    omega

instance : DecidablePred IsHeading := fun _ => decidable_of_iff _ isHeading_eq_true_iff

/-- The empty line is no heading. -/
theorem not_isHeading_nil : ¬IsHeading [] := by
  decide

/-- A heading stays one when its line goes on. -/
theorem IsHeading.append {line : Text} (heading : IsHeading line) (more : Text) :
    IsHeading (line ++ more) := by
  obtain ⟨digits, rest, rfl, someDigit, allDigits, someRest⟩ := heading
  refine ⟨digits, rest ++ more, ?_, someDigit, allDigits, by simp [someRest]⟩
  simp only [List.append_assoc]

/-! ## Matches of the pattern -/

theorem not_mem_of_isDigit {digits : Text}
    (allDigits : ∀ digit ∈ digits, digit.isDigit = true) : '\n' ∉ digits := by
  intro member
  exact absurd (allDigits '\n' member) (by decide)

/-- What the pattern requires before the rest of a heading has no line feed. -/
theorem takeWhile_of_heading {digits : Text}
    (allDigits : ∀ digit ∈ digits, digit.isDigit = true) (behind : Text) :
    (marker ++ (digits ++ (separator ++ behind))).takeWhile (· != '\n') =
      marker ++ (digits ++ (separator ++ behind.takeWhile (· != '\n'))) := by
  have markerInLine : '\n' ∉ marker := by decide
  have separatorInLine : '\n' ∉ separator := by decide
  rw [Text.takeWhile_append_of_not_mem markerInLine,
    Text.takeWhile_append_of_not_mem (not_mem_of_isDigit allDigits),
    Text.takeWhile_append_of_not_mem separatorInLine]

theorem ignoresLineStart_remainderPattern : Text.IgnoresLineStart remainderPattern :=
  Text.ignoresLineStart_char ':' (.char ' ' :: [.oneOrMore (· != '\n')])

/-- What stands behind the number of a heading goes on to the end of the line. -/
theorem match?_remainderPattern_eq_some_iff {text found : Text} {atLineStart : Bool} :
    Text.match? remainderPattern atLineStart text = some found ↔
      ∃ behind, text = separator ++ behind ∧
        found = separator ++ behind.takeWhile (· != '\n') ∧
        behind.takeWhile (· != '\n') ≠ [] := by
  rw [remainderPattern,
    Text.match?_literal_eq_some_iff (Text.ignoresLineStart_oneOrMore _ [])]
  constructor
  · rintro ⟨behind, more, rfl, rfl, matched⟩
    obtain ⟨rfl, someRest⟩ := Text.match?_oneOrMore_eq_some_iff.mp matched
    exact ⟨behind, rfl, rfl, someRest⟩
  · rintro ⟨behind, rfl, rfl, someRest⟩
    exact ⟨behind, _, rfl, rfl, Text.match?_oneOrMore_eq_some_iff.mpr ⟨rfl, someRest⟩⟩

/-- What stands behind the number of a heading begins with no digit. -/
theorem match?_remainderPattern_of_isDigit {char : Char} (isDigit : char.isDigit = true)
    (rest : Text) : Text.match? remainderPattern false (char :: rest) = none := by
  have noColon : char ≠ ':' := by
    rintro rfl
    exact absurd isDigit (by decide)
  exact if_neg noColon

/-- The number of a heading takes all digits that stand there. -/
theorem match?_number_eq_some_iff {text found : Text} {atLineStart : Bool} :
    Text.match? (.oneOrMore Char.isDigit :: remainderPattern) atLineStart text = some found ↔
      ∃ more, found = text.takeWhile Char.isDigit ++ more ∧
        text.takeWhile Char.isDigit ≠ [] ∧
        Text.match? remainderPattern false (text.dropWhile Char.isDigit) = some more :=
  Text.match?_oneOrMore_cons_eq_some_iff ignoresLineStart_remainderPattern
    fun _ rest isDigit => match?_remainderPattern_of_isDigit isDigit rest

/-- The pattern of a heading matches at the start of a line exactly when the line
is a heading, and then it matches the whole line. -/
theorem match?_pattern_eq_some_iff {text found : Text} :
    Text.match? pattern true text = some found ↔
      found = text.takeWhile (· != '\n') ∧ IsHeading found := by
  change Text.match? (marker.map .char ++ .oneOrMore Char.isDigit :: remainderPattern) true
    text = some found ↔ _
  rw [Text.match?_literal_eq_some_iff (Text.ignoresLineStart_oneOrMore _ _)]
  constructor
  · rintro ⟨number, _, rfl, rfl, matched⟩
    obtain ⟨_, rfl, someDigit, remainderMatched⟩ := match?_number_eq_some_iff.mp matched
    obtain ⟨behind, split, rfl, someRest⟩ :=
      match?_remainderPattern_eq_some_iff.mp remainderMatched
    have allDigits : ∀ digit ∈ number.takeWhile Char.isDigit, digit.isDigit = true :=
      List.all_eq_true.mp List.all_takeWhile
    refine ⟨?_, number.takeWhile Char.isDigit, behind.takeWhile (· != '\n'), rfl,
      someDigit, allDigits, someRest⟩
    rw [← takeWhile_of_heading allDigits, ← split, List.takeWhile_append_dropWhile]
  · rintro ⟨lineEq, digits, rest, rfl, someDigit, allDigits, someRest⟩
    have whole := List.takeWhile_append_dropWhile (p := (· != '\n')) (l := text)
    rw [← lineEq] at whole
    simp only [List.append_assoc] at whole
    rw [← whole, takeWhile_of_heading allDigits] at lineEq
    have restEq : rest = (rest ++ text.dropWhile (· != '\n')).takeWhile (· != '\n') := by
      simpa using lineEq
    refine ⟨_, _, whole.symm, rfl, match?_number_eq_some_iff.mpr ⟨separator ++ rest, ?_⟩⟩
    rw [takeWhile_isDigit_append allDigits, dropWhile_isDigit_append allDigits]
    refine ⟨rfl, someDigit, match?_remainderPattern_eq_some_iff.mpr ⟨_, rfl, ?_, ?_⟩⟩
    · rw [← restEq]
    · rw [← restEq]
      exact someRest

/-! ## The search line by line -/

/-- Where the headings stand among lines of which the first one stands at `offset`. -/
def lineSpans (offset : Nat) : List Text → List Text.Span
  | [] => []
  | line :: below =>
      (if IsHeading line then [⟨offset, offset + Text.utf8Size line⟩] else []) ++
        lineSpans (offset + Text.utf8Size line + 1) below

theorem lineSpans_cons_of_isHeading {line : Text} (heading : IsHeading line) (offset : Nat)
    (below : List Text) :
    lineSpans offset (line :: below) =
      ⟨offset, offset + Text.utf8Size line⟩ ::
        lineSpans (offset + Text.utf8Size line + 1) below := by
  rw [lineSpans, if_pos heading, List.singleton_append]

theorem lineSpans_cons_of_not_isHeading {line : Text} (noHeading : ¬IsHeading line)
    (offset : Nat) (below : List Text) :
    lineSpans offset (line :: below) = lineSpans (offset + Text.utf8Size line + 1) below := by
  rw [lineSpans, if_neg noHeading, List.nil_append]

/-- Away from the start of a line nothing matches. -/
theorem match?_pattern_false (text : Text) : Text.match? pattern false text = none := rfl

/-- No match begins with a line feed. -/
theorem match?_pattern_feed (atLineStart : Bool) (below : Text) :
    Text.match? pattern atLineStart ('\n' :: below) = none := by
  cases atLineStart <;> rfl

/-- The search passes over what is left of a line once it is inside of it. -/
theorem searchFrom_pattern_of_inside {line : Text} (noFeed : '\n' ∉ line) {pending : Nat}
    (short : pending ≤ line.length) (offset : Nat) (below : Text) :
    Text.searchFrom pattern pending false offset (line ++ below) =
      Text.searchFrom pattern 0 false (offset + Text.utf8Size line) below := by
  induction line generalizing pending offset with
  | nil =>
      obtain rfl : pending = 0 := Nat.le_zero.mp short
      rfl
  | cons char rest ih =>
      obtain ⟨noFeedHere, noFeedBehind⟩ := not_or.mp (mt List.mem_cons.mpr noFeed)
      have inside : (char == '\n') = false := beq_eq_false_iff_ne.mpr (Ne.symm noFeedHere)
      rw [List.cons_append, Text.utf8Size_cons, ← Nat.add_assoc]
      cases pending with
      | zero =>
          rw [Text.searchFrom, match?_pattern_false, inside]
          exact ih noFeedBehind (Nat.zero_le _) _
      | succ pending =>
          rw [Text.searchFrom, inside]
          exact ih noFeedBehind (Nat.le_of_succ_le_succ short) _

/-- The search finds a line that is a heading, and nothing else in the line. -/
theorem searchFrom_pattern_line {line below : Text} (noFeed : '\n' ∉ line)
    (ends : below.takeWhile (· != '\n') = []) (offset : Nat) :
    Text.searchFrom pattern 0 true offset (line ++ below) =
      (if IsHeading line then [⟨offset, offset + Text.utf8Size line⟩] else []) ++
        Text.searchFrom pattern 0 line.isEmpty (offset + Text.utf8Size line) below := by
  have lineEq : (line ++ below).takeWhile (· != '\n') = line := by
    rw [Text.takeWhile_append_of_not_mem noFeed, ends, List.append_nil]
  cases line with
  | nil => simp [not_isHeading_nil]
  | cons char rest =>
      obtain ⟨noFeedHere, noFeedBehind⟩ := not_or.mp (mt List.mem_cons.mpr noFeed)
      have inside : (char == '\n') = false := beq_eq_false_iff_ne.mpr (Ne.symm noFeedHere)
      by_cases heading : IsHeading (char :: rest)
      · have found : Text.match? pattern true (char :: (rest ++ below)) = some (char :: rest) :=
          match?_pattern_eq_some_iff.mpr ⟨lineEq.symm, heading⟩
        rw [if_pos heading, List.cons_append, Text.searchFrom, found]
        simp only [inside]
        rw [searchFrom_pattern_of_inside noFeedBehind (Nat.le_refl _), Nat.add_assoc]
        rfl
      · have nothing : Text.match? pattern true (char :: (rest ++ below)) = none := by
          cases found : Text.match? pattern true (char :: (rest ++ below)) with
          | none => rfl
          | some taken =>
              obtain ⟨rfl, isHeading⟩ := match?_pattern_eq_some_iff.mp found
              exact absurd (lineEq ▸ isHeading) heading
        rw [if_neg heading, List.cons_append, Text.searchFrom, nothing]
        simp only [inside]
        rw [searchFrom_pattern_of_inside noFeedBehind (Nat.zero_le _), Nat.add_assoc]
        rfl

/-- The search goes on below a line feed as at the start of a text. -/
theorem searchFrom_pattern_feed (atLineStart : Bool) (offset : Nat) (below : Text) :
    Text.searchFrom pattern 0 atLineStart offset ('\n' :: below) =
      Text.searchFrom pattern 0 true (offset + 1) below := by
  rw [Text.searchFrom, match?_pattern_feed]
  rfl

/-- The search in a text of lines finds the lines that are headings. -/
theorem searchFrom_pattern_joined {lines : List Text} (noFeed : ∀ line ∈ lines, '\n' ∉ line)
    (offset : Nat) :
    Text.searchFrom pattern 0 true offset (Text.joined lines) = lineSpans offset lines := by
  induction lines generalizing offset with
  | nil => rfl
  | cons line below ih =>
      obtain ⟨noFeedHere, noFeedBelow⟩ := List.forall_mem_cons.mp noFeed
      cases below with
      | nil =>
          have whole := searchFrom_pattern_line noFeedHere List.takeWhile_nil offset
          rw [List.append_nil] at whole
          rw [Text.joined_singleton, whole]
          rfl
      | cons next more =>
          rw [Text.joined_cons_cons, searchFrom_pattern_line noFeedHere rfl,
            searchFrom_pattern_feed, ih noFeedBelow]
          rfl

/-- The headings of a text are its lines that have the form of a heading. -/
theorem spans_eq_lineSpans (text : Text) : spans text = lineSpans 0 (Text.lines text) := by
  have inLines : ∀ line ∈ Text.lines text, '\n' ∉ line := fun _ member =>
    Text.not_mem_of_mem_lines member
  have found := searchFrom_pattern_joined inLines 0
  rw [Text.joined_lines] at found
  exact found

/-! ## Counting headings -/

/-- The number of headings among lines. -/
def headingCount (lines : List Text) : Nat :=
  lines.countP fun line => IsHeading line

theorem headingCount_cons_of_isHeading {line : Text} (heading : IsHeading line)
    (below : List Text) : headingCount (line :: below) = headingCount below + 1 :=
  List.countP_cons_of_pos (decide_eq_true heading)

theorem headingCount_cons_of_not_isHeading {line : Text} (noHeading : ¬IsHeading line)
    (below : List Text) : headingCount (line :: below) = headingCount below :=
  List.countP_cons_of_neg (by simpa using noHeading)

theorem headingCount_append (above below : List Text) :
    headingCount (above ++ below) = headingCount above + headingCount below :=
  List.countP_append

theorem length_lineSpans (offset : Nat) (lines : List Text) :
    (lineSpans offset lines).length = headingCount lines := by
  induction lines generalizing offset with
  | nil => rfl
  | cons line below ih =>
      by_cases heading : IsHeading line
      · rw [lineSpans_cons_of_isHeading heading, List.length_cons, ih,
          headingCount_cons_of_isHeading heading]
      · rw [lineSpans_cons_of_not_isHeading heading, ih,
          headingCount_cons_of_not_isHeading heading]

end Heading
end Epics
