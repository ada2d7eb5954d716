import Epics.Text.Slice
import Epics.Proofs.Text.Lines
import Epics.Proofs.Utf8

/-!
# Slices and lines

A slice in range is a part of the text that stands where its positions say.  The lines
of a text are its slices from the start of a line to the end of it.
-/

namespace Epics
namespace Text

variable {text part line above below before after : Text} {position start stop : Nat}

/-! ## Sizes of parts -/

theorem utf8Size_eq_zero_iff : utf8Size text = 0 ↔ text = [] := by
  cases text with
  | nil => simp
  | cons char rest =>
      have positive := char.utf8Size_pos
      simp only [utf8Size_cons, reduceCtorEq, iff_false]
      omega

/-- A text is cut in one way only into a part of a given size and the rest. -/
theorem append_inj_of_utf8Size (same : above ++ below = before ++ after)
    (size : utf8Size above = utf8Size before) : above = before ∧ below = after := by
  constructor
  · rw [← takeBytes_append above below, same, size, takeBytes_append]
  · rw [← dropBytes_append above below, same, size, dropBytes_append]

/-- Of two parts that a text begins with the longer one begins with the shorter one. -/
theorem isPrefix_of_utf8Size_le (shorter : above <+: text) (longer : before <+: text)
    (size : utf8Size above ≤ utf8Size before) : above <+: before := by
  rcases List.prefix_or_prefix_of_prefix shorter longer with inside | ⟨rest, rfl⟩
  · exact inside
  · have noRest : rest = [] := by
      rw [utf8Size_append] at size
      exact utf8Size_eq_zero_iff.mp (by omega)
    exact ⟨[], by rw [noRest, List.append_nil, List.append_nil]⟩

/-! ## Slices -/

/-- A slice in range is what stands between a part of the size of its start and the rest. -/
theorem slice?_eq_some_iff : slice? text start stop = some part ↔
    ∃ before after, text = before ++ (part ++ after) ∧ start = utf8Size before ∧
      stop = utf8Size before + utf8Size part := by
  constructor
  · intro sliced
    obtain ⟨forward, starts, stops⟩ := inRange_of_slice? sliced
    rw [slice?_eq_some forward starts stops] at sliced
    obtain ⟨before, rest, split, rfl⟩ := starts
    obtain ⟨upTo, after, cut, rfl⟩ := stops
    obtain ⟨middle, rfl⟩ := isPrefix_of_utf8Size_le ⟨rest, split.symm⟩ ⟨after, cut.symm⟩ forward
    rw [List.append_assoc] at cut
    rw [utf8Size_append, cut, slice_append_append] at sliced
    obtain rfl := Option.some.inj sliced
    exact ⟨before, after, cut, rfl, utf8Size_append before middle⟩
  · rintro ⟨before, after, rfl, rfl, rfl⟩
    have starts : IsBoundary (before ++ (part ++ after)) (utf8Size before) :=
      ⟨before, _, rfl, rfl⟩
    have stops : IsBoundary (before ++ (part ++ after)) (utf8Size before + utf8Size part) :=
      ⟨before ++ part, after, (List.append_assoc _ _ _).symm, utf8Size_append before part⟩
    rw [slice?_eq_some (Nat.le_add_right _ _) starts stops, slice_append_append]

/-- A slice goes as far as the size of its text. -/
theorem stop_eq_of_slice? (sliced : slice? text start stop = some part) :
    stop = start + utf8Size part := by
  obtain ⟨before, after, _, rfl, stopEq⟩ := slice?_eq_some_iff.mp sliced
  exact stopEq

/-! ## Lines by their positions -/

/-- A line starts at a position: at the start of the text or directly behind a line feed. -/
def LineStartsAt (text : Text) (position : Nat) : Prop :=
  position = 0 ∨
    ∃ before after, text = before ++ '\n' :: after ∧ position = utf8Size before + 1

/-- A line ends at a position: at the end of the text or directly in front of a line feed. -/
def LineEndsAt (text : Text) (position : Nat) : Prop :=
  position = utf8Size text ∨
    ∃ before after, text = before ++ '\n' :: after ∧ position = utf8Size before

/-- A line starts where a part of a text ends a line. -/
theorem lineStartsAt_iff : LineStartsAt (above ++ below) (utf8Size above) ↔ EndsLine above := by
  constructor
  · rintro (atStart | ⟨before, after, split, behind⟩)
    · exact Or.inl (utf8Size_eq_zero_iff.mp atStart)
    · have same : above ++ below = (before ++ ['\n']) ++ after := by
        rw [split, List.append_assoc, List.singleton_append]
      exact Or.inr ⟨before, (append_inj_of_utf8Size same (by simp [behind])).1⟩
  · rintro (rfl | ⟨before, rfl⟩)
    · exact Or.inl rfl
    · exact Or.inr ⟨before, below, by simp, by simp⟩

/-- A line ends in front of a part of a text that has nothing in its first line. -/
theorem lineEndsAt_iff :
    LineEndsAt (above ++ below) (utf8Size above) ↔ below.takeWhile (· != '\n') = [] := by
  constructor
  · rintro (atEnd | ⟨before, after, split, front⟩)
    · have nothing : utf8Size below = 0 := by
        rw [utf8Size_append] at atEnd
        omega
      rw [utf8Size_eq_zero_iff.mp nothing, List.takeWhile_nil]
    · rw [(append_inj_of_utf8Size split front).2]
      rfl
  · intro ends
    cases below with
    | nil => exact Or.inl (by rw [List.append_nil])
    | cons char rest =>
        by_cases feed : char = '\n'
        · subst feed
          exact Or.inr ⟨above, rest, rfl, rfl⟩
        · simp [feed] at ends

/-- The lines of a text are what stands in it between the start and the end of a line,
with no line feed inside. -/
theorem exists_lines_eq_iff :
    (∃ above below, lines text = above ++ line :: below ∧
        start = utf8Size (terminated above) ∧ stop = start + utf8Size line) ↔
      LineStartsAt text start ∧ LineEndsAt text stop ∧ slice? text start stop = some line ∧
        '\n' ∉ line := by
  constructor
  · rintro ⟨above, below, split, rfl, rfl⟩
    obtain ⟨after, joinedEq, ends⟩ := exists_joined_cons line below
    have textEq := eq_terminated_append_joined split
    rw [joinedEq] at textEq
    have isLine : line ∈ lines text := split ▸ List.mem_append_right _ List.mem_cons_self
    rw [textEq]
    refine ⟨lineStartsAt_iff.mpr (endsLine_terminated above), ?_,
      slice?_eq_some_iff.mpr ⟨_, after, rfl, rfl, rfl⟩, not_mem_of_mem_lines isLine⟩
    rw [← List.append_assoc, ← utf8Size_append]
    exact lineEndsAt_iff.mpr ends
  · rintro ⟨starts, ends, sliced, noFeed⟩
    obtain ⟨before, after, rfl, rfl, rfl⟩ := slice?_eq_some_iff.mp sliced
    rw [← List.append_assoc, ← utf8Size_append] at ends
    obtain ⟨above, aboveLines, goOn⟩ := (lineStartsAt_iff.mp starts).exists_lines
    obtain ⟨first, below, belowLines⟩ := List.exists_cons_of_ne_nil (lines_ne_nil (line ++ after))
    have firstEq : line = first := by
      rw [← takeWhile_of_lines belowLines, takeWhile_append_of_not_mem noFeed,
        lineEndsAt_iff.mp ends, List.append_nil]
    have beforeEq : before = terminated above := by
      rw [← joined_lines before, aboveLines, joined_append (List.cons_ne_nil _ _),
        joined_singleton, List.append_nil]
    refine ⟨above, below, ?_, ?_, rfl⟩
    · rw [goOn, belowLines, firstEq]
    · rw [beforeEq]

end Text
end Epics
