import Epics.Section
import Epics.Proofs.Heading.Lines
import Epics.Proofs.Text.Trim

/-!
# Sections as groups of lines

The sections of a document are cut out of it by byte positions.  Read line by
line they are groups: a heading with the lines below it, up to the next heading.
-/

namespace Epics
namespace Section

open Heading

/-- The lines at the top that are no headings. -/
def bodyLines (lines : List Text) : List Text :=
  lines.takeWhile fun line => ¬IsHeading line

/-- The lines from the first heading on. -/
def fromHeading (lines : List Text) : List Text :=
  lines.dropWhile fun line => ¬IsHeading line

/-- The sections of a row of lines: one for every heading, with the lines below
it up to the next heading as its body. -/
def ofLines : List Text → List Section
  | [] => []
  | line :: below =>
      if IsHeading line then
        { title := Text.trim line
          body := Text.trim (Text.joined (bodyLines below)) } :: ofLines below
      else ofLines below

theorem ofLines_cons_of_isHeading {line : Text} (isHeading : IsHeading line)
    (below : List Text) :
    ofLines (line :: below) =
      ⟨Text.trim line, Text.trim (Text.joined (bodyLines below))⟩ :: ofLines below :=
  if_pos isHeading

theorem ofLines_cons_of_not_isHeading {line : Text} (noHeading : ¬IsHeading line)
    (below : List Text) : ofLines (line :: below) = ofLines below :=
  if_neg noHeading

theorem bodyLines_append_fromHeading (lines : List Text) :
    bodyLines lines ++ fromHeading lines = lines :=
  List.takeWhile_append_dropWhile

theorem bodyLines_cons_of_isHeading {line : Text} (isHeading : IsHeading line)
    (below : List Text) : bodyLines (line :: below) = [] :=
  List.takeWhile_cons_of_neg (by simpa using isHeading)

theorem bodyLines_cons_of_not_isHeading {line : Text} (noHeading : ¬IsHeading line)
    (below : List Text) : bodyLines (line :: below) = line :: bodyLines below :=
  List.takeWhile_cons_of_pos (by simpa using noHeading)

theorem fromHeading_cons_of_isHeading {line : Text} (isHeading : IsHeading line)
    (below : List Text) : fromHeading (line :: below) = line :: below :=
  List.dropWhile_cons_of_neg (by simpa using isHeading)

theorem fromHeading_cons_of_not_isHeading {line : Text} (noHeading : ¬IsHeading line)
    (below : List Text) : fromHeading (line :: below) = fromHeading below :=
  List.dropWhile_cons_of_pos (by simpa using noHeading)

/-- Nothing from a heading on is a body line of what stands above it. -/
theorem bodyLines_append_heading {heading : Text} (isHeading : IsHeading heading)
    (above below : List Text) : bodyLines (above ++ heading :: below) = bodyLines above := by
  induction above with
  | nil => exact bodyLines_cons_of_isHeading isHeading below
  | cons line more ih =>
      rw [List.cons_append]
      by_cases another : IsHeading line
      · rw [bodyLines_cons_of_isHeading another, bodyLines_cons_of_isHeading another]
      · rw [bodyLines_cons_of_not_isHeading another, bodyLines_cons_of_not_isHeading another, ih]

/-- The lines from the first heading on begin with a heading, if there are any. -/
theorem fromHeading_eq_nil_or_cons (lines : List Text) :
    fromHeading lines = [] ∨ ∃ heading below, fromHeading lines = heading :: below ∧
      IsHeading heading := by
  cases found : fromHeading lines with
  | nil => exact Or.inl rfl
  | cons heading below =>
      refine Or.inr ⟨heading, below, rfl, ?_⟩
      have stops := List.head?_dropWhile_not (fun line => decide ¬IsHeading line) lines
      rw [show lines.dropWhile (fun line => decide ¬IsHeading line) = heading :: below
        from found] at stops
      simpa using stops

theorem not_isHeading_of_mem_bodyLines {lines : List Text} {line : Text}
    (member : line ∈ bodyLines lines) : ¬IsHeading line := by
  have kept := List.all_eq_true.mp
    (List.all_takeWhile (p := fun line => decide ¬IsHeading line) (l := lines)) line member
  exact of_decide_eq_true kept

/-- Lines without headings hold no spans, but take up room. -/
theorem lineSpans_append {above : List Text} (noHeading : ∀ line ∈ above, ¬IsHeading line)
    (offset : Nat) (below : List Text) :
    lineSpans offset (above ++ below) =
      lineSpans (offset + Text.utf8Size (Text.terminated above)) below := by
  induction above generalizing offset with
  | nil => rfl
  | cons line more ih =>
      obtain ⟨noHeadingHere, noHeadingBelow⟩ := List.forall_mem_cons.mp noHeading
      rw [List.cons_append, lineSpans_cons_of_not_isHeading noHeadingHere,
        ih noHeadingBelow, Text.utf8Size_terminated_cons]
      simp only [Nat.add_assoc]

/-- The spans of lines begin with the first heading, behind the lines above it. -/
theorem lineSpans_eq_fromHeading (offset : Nat) (lines : List Text) :
    lineSpans offset lines =
      lineSpans (offset + Text.utf8Size (Text.terminated (bodyLines lines)))
        (fromHeading lines) := by
  conv => lhs; rw [← bodyLines_append_fromHeading lines]
  exact lineSpans_append (fun _ member => not_isHeading_of_mem_bodyLines member) offset _

/-- The first line of a row of lines, cut out of a text that ends in them. -/
theorem slice_line (above line : Text) (below : List Text) :
    Text.slice (above ++ Text.joined (line :: below)) (Text.utf8Size above)
      (Text.utf8Size above + Text.utf8Size line) = line := by
  obtain ⟨after, joinedEq, _⟩ := Text.exists_joined_cons line below
  rw [joinedEq]
  exact Text.slice_append_append above line after

/-- What stands between a heading and the next one is the body that the lines
below the heading make, with white space around it. -/
theorem trim_slice_body {text before next : Text} {more : List Text}
    (split : text = before ++ '\n' :: Text.joined (next :: more)) :
    Text.trim (Text.slice text (Text.utf8Size before)
        (bodyStop text (lineSpans (Text.utf8Size before + 1) (next :: more)))) =
      Text.trim (Text.joined (bodyLines (next :: more))) := by
  have whole := bodyLines_append_fromHeading (next :: more)
  rw [lineSpans_eq_fromHeading]
  rcases fromHeading_eq_nil_or_cons (next :: more) with
    noneBelow | ⟨heading, below, someBelow, isHeading⟩
  · have cut : Text.slice text (Text.utf8Size before) (Text.utf8Size text) =
        '\n' :: Text.joined (next :: more) := by
      have middle := Text.slice_append_append before ('\n' :: Text.joined (next :: more)) []
      rwa [List.append_nil, ← Text.utf8Size_append, ← split] at middle
    rw [noneBelow, List.append_nil] at whole
    rw [noneBelow, lineSpans, bodyStop, cut, whole, Text.trim_feed_cons]
  · have textEq : text = before ++ (('\n' :: Text.terminated (bodyLines (next :: more))) ++
        Text.joined (heading :: below)) := by
      rw [split, List.cons_append, ← someBelow,
        ← Text.joined_append (by rw [someBelow]; exact List.cons_ne_nil _ _), whole]
    have cut : Text.slice text (Text.utf8Size before)
          (Text.utf8Size before + 1 +
            Text.utf8Size (Text.terminated (bodyLines (next :: more)))) =
        '\n' :: Text.terminated (bodyLines (next :: more)) := by
      rw [textEq, Nat.add_assoc]
      exact Text.slice_append_append _ _ _
    rw [someBelow, lineSpans_cons_of_isHeading isHeading, bodyStop, cut,
      Text.trim_feed_cons, Text.trim_terminated]

/-- The body that is cut out of a text below a heading is made by the lines there,
if there are any. -/
theorem trim_slice_below (above line : Text) (below : List Text) :
    Text.trim (Text.slice (above ++ Text.joined (line :: below))
        (Text.utf8Size above + Text.utf8Size line)
        (bodyStop (above ++ Text.joined (line :: below))
          (lineSpans (Text.utf8Size above + Text.utf8Size line + 1) below))) =
      Text.trim (Text.joined (bodyLines below)) := by
  rw [← Text.utf8Size_append]
  cases below with
  | nil =>
      have atEnd := Text.slice_append_append (above ++ line) [] []
      rw [lineSpans, bodyStop, Text.joined_singleton]
      rw [List.append_nil, List.append_nil, Text.utf8Size_nil, Nat.add_zero] at atEnd
      rw [atEnd]
      rfl
  | cons next more =>
      apply trim_slice_body
      rw [Text.joined_cons_cons, List.append_assoc]

/-- The sections that are cut out of a text at the headings among its lines are
the groups of these lines. -/
theorem ofSpans_lineSpans (above : Text) (lines : List Text) :
    ofSpans (above ++ Text.joined lines) (lineSpans (Text.utf8Size above) lines) =
      ofLines lines := by
  induction lines generalizing above with
  | nil => rfl
  | cons line below ih =>
      have behind : ofSpans (above ++ Text.joined (line :: below))
          (lineSpans (Text.utf8Size above + Text.utf8Size line + 1) below) =
            ofLines below := by
        cases below with
        | nil => rfl
        | cons next more =>
            have later := ih (above ++ (line ++ ['\n']))
            rw [Text.utf8Size_append, Text.utf8Size_append, ← Nat.add_assoc] at later
            simpa using later
      by_cases heading : IsHeading line
      · rw [lineSpans_cons_of_isHeading heading, ofSpans, ofLines, if_pos heading, slice_line,
          trim_slice_below, behind]
      · rw [lineSpans_cons_of_not_isHeading heading, ofLines, if_neg heading, behind]

/-- The sections of a document are the groups of its lines. -/
theorem ofDocument_eq_ofLines (text : Text) : ofDocument text = ofLines (Text.lines text) := by
  have cut := ofSpans_lineSpans [] (Text.lines text)
  rw [List.nil_append, Text.joined_lines] at cut
  rw [ofDocument, spans_eq_lineSpans]
  exact cut

/-! ## An empty line at the end -/

/-- An empty line at the end of a document makes no difference to a body. -/
theorem trim_bodyLines_append_empty (lines : List Text) :
    Text.trim (Text.joined (bodyLines (lines ++ [[]]))) =
      Text.trim (Text.joined (bodyLines lines)) := by
  have keeps : bodyLines [[]] = [[]] := by decide
  unfold bodyLines at keeps ⊢
  rw [List.takeWhile_append, keeps]
  split
  case isTrue whole =>
    rw [(List.takeWhile_prefix _).eq_of_length whole, Text.joined_append (List.cons_ne_nil _ _),
      Text.joined_singleton, List.append_nil, Text.trim_terminated]
  case isFalse => rfl

/-- An empty line at the end of a document makes no difference to its sections. -/
theorem ofLines_append_empty (lines : List Text) : ofLines (lines ++ [[]]) = ofLines lines := by
  induction lines with
  | nil => rfl
  | cons line below ih =>
      rw [List.cons_append, ofLines, ofLines, trim_bodyLines_append_empty, ih]

/-! ## One section for every heading -/

/-- The titles are the headings, in order. -/
theorem map_title_ofLines (lines : List Text) :
    (ofLines lines).map title =
      (lines.filter fun line => IsHeading line).map Text.trim := by
  induction lines with
  | nil => rfl
  | cons line below ih =>
      by_cases heading : IsHeading line
      · simp [ofLines, heading, ih]
      · simp [ofLines, heading, ih]

theorem length_ofLines (lines : List Text) : (ofLines lines).length = headingCount lines := by
  have titles := congrArg List.length (map_title_ofLines lines)
  rw [List.length_map, List.length_map] at titles
  rw [titles, headingCount, List.countP_eq_length_filter]

/-- There are as many sections as headings. -/
theorem length_ofDocument (text : Text) :
    (ofDocument text).length = (Heading.spans text).length := by
  rw [ofDocument_eq_ofLines, length_ofLines, spans_eq_lineSpans, length_lineSpans]

/-- A heading with so many headings above it opens the section of that index. -/
theorem getElem?_ofLines {heading : Text} (isHeading : IsHeading heading)
    (above below : List Text) :
    (ofLines (above ++ heading :: below))[headingCount above]? =
      some ⟨Text.trim heading, Text.trim (Text.joined (bodyLines below))⟩ := by
  induction above with
  | nil =>
      rw [List.nil_append, ofLines, if_pos isHeading]
      rfl
  | cons line more ih =>
      by_cases another : IsHeading line
      · rw [List.cons_append, ofLines, if_pos another, headingCount_cons_of_isHeading another,
          List.getElem?_cons_succ, ih]
      · rw [List.cons_append, ofLines, if_neg another,
          headingCount_cons_of_not_isHeading another, ih]

/-- Lines without headings are the body lines of a heading up to the next one. -/
theorem bodyLines_append {body : List Text} (noHeading : ∀ line ∈ body, ¬IsHeading line)
    {below : List Text} (ends : ∀ line ∈ below.head?, IsHeading line) :
    bodyLines (body ++ below) = body := by
  rw [bodyLines, List.takeWhile_append_of_pos fun line member =>
    decide_eq_true (noHeading line member)]
  cases below with
  | nil => rw [List.takeWhile_nil, List.append_nil]
  | cons next more =>
      have stops : bodyLines (next :: more) = [] := bodyLines_cons_of_isHeading (ends next rfl) more
      rw [bodyLines] at stops
      rw [stops, List.append_nil]

/-- The sections of a document, line by line.  There is one section for every
line that is a heading, and the titles are these lines without the white space
around them, in order.  The body of a section is made of the lines from its
heading down to the next one or to the end of the document, joined by line feeds
and without the white space around them; lines above the first heading are in no
section. -/
theorem ofDocument_groups_lines (text : Text) :
    ofDocument text = ofLines (Text.lines text) ∧
    (ofDocument text).map title =
      ((Text.lines text).filter fun line => IsHeading line).map Text.trim ∧
    ∀ above heading body below,
      Text.lines text = above ++ heading :: (body ++ below) →
      IsHeading heading →
      (∀ line ∈ body, ¬IsHeading line) →
      (∀ line ∈ below.head?, IsHeading line) →
      (ofDocument text)[headingCount above]? =
        some ⟨Text.trim heading, Text.trim (Text.joined body)⟩ := by
  refine ⟨ofDocument_eq_ofLines text, ?_, ?_⟩
  · rw [ofDocument_eq_ofLines, map_title_ofLines]
  · intro above heading body below split isHeading noHeading ends
    rw [ofDocument_eq_ofLines, split, getElem?_ofLines isHeading,
      bodyLines_append noHeading ends]

-- Without a number, or behind a space, the marker opens no section.
example : ofDocument "top\n## Epic 12: A \n\n## Epic : B\n ## Epic 3: C\n## Epic 4: D".toList =
    [⟨"## Epic 12: A".toList, "## Epic : B\n ## Epic 3: C".toList⟩,
      ⟨"## Epic 4: D".toList, []⟩] := by
  decide +kernel

end Section
end Epics
