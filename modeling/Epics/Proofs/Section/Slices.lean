import Epics.Section
import Epics.Proofs.Heading.Spans

/-!
# Slices for the sections

Every section of a document is cut out of it by two slices, one for its heading and one
for its body, which goes from the end of the heading to the start of the next one or to
the end of the document.  All of these slices are in range and stand one behind the
other, because the headings do.
-/

namespace Epics
namespace Section

/-- Where a section stands in a document: its heading, and its body below it. -/
structure Extent where
  heading : Text.Span
  body : Text.Span
  deriving DecidableEq, Repr

/-- Where the sections stand of a text whose headings stand at the given spans. -/
def extents (text : Text) : List Text.Span → List Extent
  | [] => []
  | heading :: later => ⟨heading, ⟨heading.stop, bodyStop text later⟩⟩ :: extents text later

/-- The section that is cut out at an extent, or `none` when one of the two slices is not
in range. -/
def ofExtent? (text : Text) (extent : Extent) : Option Section := do
  let heading ← Text.slice? text extent.heading.start extent.heading.stop
  let body ← Text.slice? text extent.body.start extent.body.stop
  return ⟨Text.trim heading, Text.trim body⟩

variable {text : Text} {heading : Text.Span} {spans later : List Text.Span}

/-- There is one extent for every heading. -/
theorem map_heading_extents (text : Text) (spans : List Text.Span) :
    (extents text spans).map Extent.heading = spans := by
  induction spans with
  | nil => rfl
  | cons heading later ih => rw [extents, List.map_cons, ih]

/-- A body ends at a boundary. -/
theorem isBoundary_bodyStop (inOrder : Text.InOrder text later) :
    Text.IsBoundary text (bodyStop text later) := by
  cases later with
  | nil => exact Text.isBoundary_utf8Size text
  | cons next more => exact inOrder.starts next List.mem_cons_self

/-- A body does not end before it starts. -/
theorem stop_le_bodyStop (inOrder : Text.InOrder text (heading :: later)) :
    heading.stop ≤ bodyStop text later := by
  cases later with
  | nil => exact (inOrder.stops heading List.mem_cons_self).le_utf8Size
  | cons next more =>
      have apart := (List.pairwise_cons.mp inOrder.apart).1 next List.mem_cons_self
      exact Nat.le_of_lt apart

/-- No heading below a body starts before the body ends. -/
theorem bodyStop_le_start (inOrder : Text.InOrder text later) (member : heading ∈ later) :
    bodyStop text later ≤ heading.start := by
  cases later with
  | nil => exact absurd member List.not_mem_nil
  | cons next more =>
      rcases List.mem_cons.mp member with rfl | below
      · exact Nat.le_refl _
      · have forward := inOrder.forward next List.mem_cons_self
        have apart := (List.pairwise_cons.mp inOrder.apart).1 heading below
        exact Nat.le_of_lt (Nat.lt_trans forward apart)

/-- Where spans are in order, the two slices for the first section are in range. -/
theorem ofExtent?_eq_some (inOrder : Text.InOrder text (heading :: later)) :
    ofExtent? text ⟨heading, ⟨heading.stop, bodyStop text later⟩⟩ =
      some ⟨Text.trim (Text.slice text heading.start heading.stop),
        Text.trim (Text.slice text heading.stop (bodyStop text later))⟩ := by
  have starts := inOrder.starts heading List.mem_cons_self
  have stops := inOrder.stops heading List.mem_cons_self
  have forward := Nat.le_of_lt (inOrder.forward heading List.mem_cons_self)
  have title := Text.slice?_eq_some forward starts stops
  have body := Text.slice?_eq_some (stop_le_bodyStop inOrder) stops
    (isBoundary_bodyStop inOrder.tail)
  simp only [ofExtent?, title, body, Option.bind_eq_bind, Option.bind_some, Option.pure_def]

/-- Where spans are in order, the slices for all sections are in range. -/
theorem mapM_ofExtent?_extents (inOrder : Text.InOrder text spans) :
    (extents text spans).mapM (ofExtent? text) = some (ofSpans text spans) := by
  induction spans with
  | nil => rfl
  | cons heading later ih =>
      rw [extents, List.mapM_cons, ofExtent?_eq_some inOrder, ih inOrder.tail, ofSpans]
      rfl

/-- Where spans are in order, every section ends before the later ones start. -/
theorem pairwise_extents (inOrder : Text.InOrder text spans) :
    (extents text spans).Pairwise fun extent later => extent.body.stop ≤ later.heading.start := by
  induction spans with
  | nil => exact List.Pairwise.nil
  | cons heading later ih =>
      refine List.pairwise_cons.mpr ⟨fun extent member => ?_, ih inOrder.tail⟩
      have isLater : extent.heading ∈ later := by
        rw [← map_heading_extents text later]
        exact List.mem_map_of_mem member
      exact bodyStop_le_start inOrder.tail isLater

/-- The slices that the sections of a document are cut out with.  A heading is found
wherever a line starts that is one, up to the end of the line, and nowhere else.  The
spans of the headings go from one boundary to a later one, and each ends before the next
one starts.  So no slice for a heading or for a body is out of range: with slices that
are refused when they are, cutting gives all sections of the document.  And every
section ends before the later ones start, so that no two of them have a byte in common. -/
theorem slices_inRange (text : Text) :
    let headings := Heading.spans text
    (∀ heading, heading ∈ headings ↔
      Text.LineStartsAt text heading.start ∧ Text.LineEndsAt text heading.stop ∧
        ∃ line, Text.slice? text heading.start heading.stop = some line ∧ '\n' ∉ line ∧
          Heading.IsHeading line) ∧
    Text.InOrder text headings ∧
    (extents text headings).mapM (ofExtent? text) = some (ofDocument text) ∧
    (extents text headings).Pairwise fun extent later =>
      extent.body.stop ≤ later.heading.start := by
  intro headings
  have inOrder := Heading.inOrder_spans text
  exact ⟨fun _ => Heading.mem_spans_iff, inOrder, mapM_ofExtent?_extents inOrder,
    pairwise_extents inOrder⟩

end Section
end Epics
