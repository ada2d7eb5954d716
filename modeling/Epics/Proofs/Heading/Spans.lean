import Epics.Proofs.Heading.Lines
import Epics.Proofs.Text.Slice

/-!
# Where headings stand

The span of a heading goes from the start of a line to its end, and every stretch of a
text that does so and is a heading is the span of one.  The spans stand in the order of
the text, with a line feed at least between each two of them.
-/

namespace Epics

namespace Text

/-- Spans that stand in a text one behind the other. -/
structure InOrder (text : Text) (spans : List Span) : Prop where
  /-- Every span goes from a boundary -/
  starts : ∀ span ∈ spans, IsBoundary text span.start
  /-- to a boundary -/
  stops : ∀ span ∈ spans, IsBoundary text span.stop
  /-- with something between them, -/
  forward : ∀ span ∈ spans, span.start < span.stop
  /-- and it ends before the later ones start. -/
  apart : spans.Pairwise fun span later => span.stop < later.start

theorem InOrder.tail {text : Text} {first : Span} {later : List Span}
    (inOrder : InOrder text (first :: later)) : InOrder text later where
  starts := (List.forall_mem_cons.mp inOrder.starts).2
  stops := (List.forall_mem_cons.mp inOrder.stops).2
  forward := (List.forall_mem_cons.mp inOrder.forward).2
  apart := (List.pairwise_cons.mp inOrder.apart).2

end Text

namespace Heading

variable {span : Text.Span} {text : Text} {lines : List Text} {offset index : Nat}

/-- A span of lines belongs to a heading, with the headings above it before it. -/
theorem exists_heading_of_lineSpans (found : (lineSpans offset lines)[index]? = some span) :
    ∃ above heading below, lines = above ++ heading :: below ∧ IsHeading heading ∧
      headingCount above = index ∧
      span.start = offset + Text.utf8Size (Text.terminated above) ∧
      span.stop = span.start + Text.utf8Size heading := by
  induction lines generalizing offset index with
  | nil => simp [lineSpans] at found
  | cons line more ih =>
      by_cases isHeading : IsHeading line
      · rw [lineSpans_cons_of_isHeading isHeading] at found
        cases index with
        | zero =>
            obtain rfl := Option.some.inj found
            exact ⟨[], line, more, rfl, isHeading, rfl, rfl, rfl⟩
        | succ index =>
            obtain ⟨above, heading, below, rfl, isNext, rfl, start, stop⟩ := ih found
            refine ⟨line :: above, heading, below, rfl, isNext,
              headingCount_cons_of_isHeading isHeading above, ?_, stop⟩
            rw [start, Text.utf8Size_terminated_cons]
            omega
      · rw [lineSpans_cons_of_not_isHeading isHeading] at found
        obtain ⟨above, heading, below, rfl, isNext, rfl, start, stop⟩ := ih found
        refine ⟨line :: above, heading, below, rfl, isNext,
          headingCount_cons_of_not_isHeading isHeading above, ?_, stop⟩
        rw [start, Text.utf8Size_terminated_cons]
        omega

/-- Every heading among lines has its span, behind the lines above it. -/
theorem mem_lineSpans_append {heading : Text} (isHeading : IsHeading heading)
    (offset : Nat) (above below : List Text) :
    ⟨offset + Text.utf8Size (Text.terminated above),
        offset + Text.utf8Size (Text.terminated above) + Text.utf8Size heading⟩ ∈
      lineSpans offset (above ++ heading :: below) := by
  induction above generalizing offset with
  | nil =>
      rw [List.nil_append, lineSpans_cons_of_isHeading isHeading]
      exact List.mem_cons_self
  | cons line more ih =>
      have later := ih (offset + Text.utf8Size line + 1)
      rw [Text.utf8Size_terminated_cons, List.cons_append, lineSpans]
      simp only [← Nat.add_assoc]
      exact List.mem_append_right _ later

/-- The headings of a text stand where a line starts and goes on to its end as a heading,
and nowhere else. -/
theorem mem_spans_iff : span ∈ spans text ↔
    Text.LineStartsAt text span.start ∧ Text.LineEndsAt text span.stop ∧
      ∃ line, Text.slice? text span.start span.stop = some line ∧ '\n' ∉ line ∧
        IsHeading line := by
  rw [spans_eq_lineSpans]
  constructor
  · intro member
    obtain ⟨index, found⟩ := List.getElem?_of_mem member
    obtain ⟨above, heading, below, split, isHeading, _, start, stop⟩ :=
      exists_heading_of_lineSpans found
    rw [Nat.zero_add] at start
    obtain ⟨starts, ends, sliced, noFeed⟩ :=
      Text.exists_lines_eq_iff.mp ⟨above, below, split, start, stop⟩
    exact ⟨starts, ends, heading, sliced, noFeed, isHeading⟩
  · rintro ⟨starts, ends, heading, sliced, noFeed, isHeading⟩
    obtain ⟨above, below, split, start, stop⟩ :=
      Text.exists_lines_eq_iff.mpr ⟨starts, ends, sliced, noFeed⟩
    have member := mem_lineSpans_append isHeading 0 above below
    rwa [Nat.zero_add, ← start, ← stop, ← split] at member

/-- The spans of lines stand behind the place of the first line. -/
theorem le_start_of_mem_lineSpans (member : span ∈ lineSpans offset lines) :
    offset ≤ span.start := by
  obtain ⟨index, found⟩ := List.getElem?_of_mem member
  obtain ⟨_, _, _, _, _, _, start, _⟩ := exists_heading_of_lineSpans found
  rw [start]
  exact Nat.le_add_right _ _

/-- Between the spans of lines there is a line feed at least. -/
theorem pairwise_lineSpans (offset : Nat) (lines : List Text) :
    (lineSpans offset lines).Pairwise fun span later => span.stop < later.start := by
  induction lines generalizing offset with
  | nil => exact List.Pairwise.nil
  | cons line below ih =>
      by_cases isHeading : IsHeading line
      · rw [lineSpans_cons_of_isHeading isHeading]
        exact List.pairwise_cons.mpr ⟨fun later member => le_start_of_mem_lineSpans member, ih _⟩
      · rw [lineSpans_cons_of_not_isHeading isHeading]
        exact ih _

/-- The headings of a text stand one behind the other. -/
theorem inOrder_spans (text : Text) : Text.InOrder text (spans text) := by
  refine ⟨?starts, ?stops, ?forward, ?apart⟩
  case starts =>
    intro span member
    obtain ⟨_, _, line, sliced, _⟩ := mem_spans_iff.mp member
    exact (Text.inRange_of_slice? sliced).2.1
  case stops =>
    intro span member
    obtain ⟨_, _, line, sliced, _⟩ := mem_spans_iff.mp member
    exact (Text.inRange_of_slice? sliced).2.2
  case forward =>
    intro span member
    obtain ⟨_, _, line, sliced, _, isHeading⟩ := mem_spans_iff.mp member
    have stop := Text.stop_eq_of_slice? sliced
    have someLine : Text.utf8Size line ≠ 0 := fun nothing =>
      not_isHeading_nil (Text.utf8Size_eq_zero_iff.mp nothing ▸ isHeading)
    omega
  case apart =>
    rw [spans_eq_lineSpans]
    exact pairwise_lineSpans 0 _

-- Of two headings one below the other the first ends one byte before the second starts.
example : spans "é\n## Epic 1: A\n## Epic 2: B\nvoilà\n## Epic 3: C".toList =
    [⟨3, 15⟩, ⟨16, 28⟩, ⟨36, 48⟩] := by
  decide +kernel

end Heading
end Epics
