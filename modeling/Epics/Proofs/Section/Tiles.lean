import Epics.Proofs.Section.RoundTrip

/-!
# Documents laid out in tiles

A document is a preamble and then, for every section, its title and its body with
white space behind each of them.  These tiles leave no gap and do not overlap, so
that a document loses nothing but its preamble and white space when it is cut into
sections.
-/

namespace Epics
namespace Section

open Heading

/-- A section with the white space behind its title and behind its body.  Where
there is a body, it stands on a line below the title. -/
structure Tile where
  part : Section
  below : Text
  behind : Text
  below_isBlank : Text.IsBlank below
  behind_isBlank : Text.IsBlank behind
  feed_mem_below : part.body ≠ [] → '\n' ∈ below

namespace Tile

/-- The stretch of a document that a tile takes. -/
def text (tile : Tile) : Text :=
  tile.part.title ++ (tile.below ++ (tile.part.body ++ tile.behind))

/-- The visible characters of a tile are those of its title and its body. -/
theorem filter_text (tile : Tile) :
    tile.text.filter (!Text.isWhiteSpace ·) =
      (tile.part.title ++ tile.part.body).filter (!Text.isWhiteSpace ·) := by
  have nothing {blank : Text} (isBlank : Text.IsBlank blank) :
      blank.filter (!Text.isWhiteSpace ·) = [] :=
    List.filter_eq_nil_iff.mpr fun char member => by simp [isBlank char member]
  simp only [text, List.filter_append, nothing tile.below_isBlank,
    nothing tile.behind_isBlank, List.nil_append, List.append_nil]

end Tile

/-! ## The text above the first heading -/

/-- The text of the lines above the first heading, up to where the heading begins. -/
def preamble (lines : List Text) : Text :=
  if fromHeading lines = [] then Text.joined (bodyLines lines)
  else Text.terminated (bodyLines lines)

/-- The text of lines is the preamble and what begins with the first heading. -/
theorem joined_eq_preamble_append (lines : List Text) :
    Text.joined lines = preamble lines ++ Text.joined (fromHeading lines) := by
  have whole := bodyLines_append_fromHeading lines
  unfold preamble
  split
  case isTrue noHeading =>
    rw [noHeading, List.append_nil] at whole
    rw [noHeading, whole, Text.joined_nil, List.append_nil]
  case isFalse someHeading =>
    rw [← Text.joined_append someHeading, whole]

theorem trim_preamble (lines : List Text) :
    Text.trim (preamble lines) = Text.trim (Text.joined (bodyLines lines)) := by
  unfold preamble
  split
  · rfl
  · exact Text.trim_terminated _

theorem preamble_cons_of_isHeading {line : Text} (isHeading : IsHeading line)
    (below : List Text) : preamble (line :: below) = [] := by
  rw [preamble, fromHeading_cons_of_isHeading isHeading, if_neg (List.cons_ne_nil line below),
    bodyLines_cons_of_isHeading isHeading, Text.terminated_nil]

theorem preamble_cons_of_not_isHeading {line : Text} (noHeading : ¬IsHeading line)
    {below : List Text} (someBelow : below ≠ []) :
    preamble (line :: below) = line ++ '\n' :: preamble below := by
  have whole := bodyLines_append_fromHeading below
  rw [preamble, preamble, fromHeading_cons_of_not_isHeading noHeading,
    bodyLines_cons_of_not_isHeading noHeading]
  split
  case isTrue none =>
    rw [none, List.append_nil] at whole
    obtain ⟨next, more, rfl⟩ := List.exists_cons_of_ne_nil someBelow
    rw [whole, Text.joined_cons_cons]
  case isFalse => exact Text.terminated_cons line _

theorem preamble_singleton_of_not_isHeading {line : Text} (noHeading : ¬IsHeading line) :
    preamble [line] = line := by
  have goesOn : fromHeading [line] = [] := fromHeading_cons_of_not_isHeading noHeading []
  have goesOver : bodyLines [line] = [line] := bodyLines_cons_of_not_isHeading noHeading []
  rw [preamble, if_pos goesOn, goesOver, Text.joined_singleton]

/-- No line of a preamble is a heading. -/
theorem not_isHeading_of_mem_lines_preamble {lines : List Text}
    (noFeed : ∀ line ∈ lines, '\n' ∉ line) {line : Text}
    (member : line ∈ Text.lines (preamble lines)) : ¬IsHeading line := by
  have noFeedAbove : ∀ line ∈ bodyLines lines, '\n' ∉ line := fun other inside =>
    noFeed other ((List.takeWhile_sublist _).subset inside)
  have emptyOrAbove : line = [] ∨ line ∈ bodyLines lines := by
    unfold preamble at member
    split at member
    · cases above : bodyLines lines with
      | nil => exact Or.inl (by simpa [above, Text.lines] using member)
      | cons first more =>
          rw [above] at member noFeedAbove
          rw [Text.lines_joined (List.cons_ne_nil first more) noFeedAbove] at member
          exact Or.inr member
    · rw [Text.lines_terminated noFeedAbove] at member
      rcases List.mem_append.mp member with inside | isLast
      · exact Or.inr inside
      · exact Or.inl (List.mem_singleton.mp isLast)
  rcases emptyOrAbove with rfl | inside
  · exact not_isHeading_nil
  · exact not_isHeading_of_mem_bodyLines inside

/-- A text has no heading, or it is cut in two where its first heading begins. -/
theorem noHeading_or_exists_cut (text : Text) :
    (Heading.spans text = [] ∧ ∀ line ∈ Text.lines text, ¬IsHeading line) ∨
      ∃ above below stop later, text = above ++ below ∧ Text.EndsLine above ∧
        (∀ line ∈ Text.lines above, ¬IsHeading line) ∧ Opens below ∧
        Heading.spans text = ⟨Text.utf8Size above, stop⟩ :: later := by
  have spans := lineSpans_eq_fromHeading 0 (Text.lines text)
  have whole := bodyLines_append_fromHeading (Text.lines text)
  rw [← spans_eq_lineSpans, Nat.zero_add] at spans
  rcases fromHeading_eq_nil_or_cons (Text.lines text) with none | ⟨heading, below, some, isHeading⟩
  · rw [none] at spans whole
    rw [List.append_nil] at whole
    refine Or.inl ⟨spans, fun line member => not_isHeading_of_mem_bodyLines (whole ▸ member)⟩
  · have someHeading : fromHeading (Text.lines text) ≠ [] := some ▸ List.cons_ne_nil _ _
    have preambleEq : preamble (Text.lines text) = Text.terminated (bodyLines (Text.lines text)) :=
      if_neg someHeading
    have cut := joined_eq_preamble_append (Text.lines text)
    rw [Text.joined_lines] at cut
    have noFeed : ∀ line ∈ heading :: below, '\n' ∉ line := by
      intro line member
      have isLine : line ∈ Text.lines text := by
        rw [← whole, some]
        exact List.mem_append_right _ member
      exact Text.not_mem_of_mem_lines isLine
    rw [some, lineSpans_cons_of_isHeading isHeading, ← preambleEq] at spans
    refine Or.inr ⟨_, _, _, _, cut, ?_, ?_, ?_, spans⟩
    · rw [preambleEq]
      exact Text.endsLine_terminated _
    · exact fun line =>
        not_isHeading_of_mem_lines_preamble fun _ => Text.not_mem_of_mem_lines
    · rw [some]
      exact (opens_iff (Text.lines_joined (List.cons_ne_nil heading below) noFeed)).mpr isHeading

/-! ## Tile by tile -/

/-- A heading and the lines below it, up to the next heading, are a tile. -/
theorem exists_tile {heading : Text} (isHeading : IsHeading heading) (below : List Text) :
    ∃ tile : Tile, tile.part = ⟨Text.trim heading, Text.trim (Text.joined (bodyLines below))⟩ ∧
      Text.joined (heading :: below) = tile.text ++ Text.joined (fromHeading below) := by
  obtain ⟨after, headingEq, afterBlank⟩ := exists_eq_trim_append isHeading
  cases below with
  | nil =>
      refine ⟨⟨⟨Text.trim heading, []⟩, after, [], afterBlank, ?_, ?_⟩, rfl, ?_⟩
      · exact List.forall_mem_nil _
      · exact fun someBody => absurd rfl someBody
      · have noneBelow : fromHeading [] = [] := rfl
        rw [Text.joined_singleton, noneBelow, Text.joined_nil]
        simpa [Tile.text] using headingEq
  | cons next more =>
      obtain ⟨before, behind, preambleEq, beforeBlank, behindBlank⟩ :=
        Text.exists_eq_append_trim_append (preamble (next :: more))
      rw [trim_preamble] at preambleEq
      refine ⟨⟨⟨Text.trim heading, Text.trim (Text.joined (bodyLines (next :: more)))⟩,
        after ++ '\n' :: before, behind, ?_, behindBlank, ?_⟩, rfl, ?_⟩
      · rw [← List.singleton_append]
        exact List.forall_mem_append.mpr ⟨afterBlank,
          List.forall_mem_append.mpr ⟨Text.isBlank_feed, beforeBlank⟩⟩
      · simp
      · rw [Text.joined_cons_cons, joined_eq_preamble_append (next :: more), preambleEq,
          Tile.text]
        conv => lhs; rw [headingEq]
        simp only [List.append_assoc, List.cons_append]

/-- From the first heading on, the text of lines is laid out in the tiles of its
sections. -/
theorem exists_tiles_fromHeading (lines : List Text) :
    ∃ tiles : List Tile, tiles.map Tile.part = ofLines lines ∧
      Text.joined (fromHeading lines) = tiles.flatMap Tile.text := by
  induction lines with
  | nil => exact ⟨[], rfl, rfl⟩
  | cons line below ih =>
      obtain ⟨tiles, parts, laidOut⟩ := ih
      by_cases isHeading : IsHeading line
      · obtain ⟨tile, partEq, first⟩ := exists_tile isHeading below
        refine ⟨tile :: tiles, ?_, ?_⟩
        · rw [List.map_cons, partEq, parts, ofLines, if_pos isHeading]
        · rw [fromHeading_cons_of_isHeading isHeading, first, laidOut, List.flatMap_cons]
      · refine ⟨tiles, ?_, ?_⟩
        · rw [parts, ofLines, if_neg isHeading]
        · rw [fromHeading_cons_of_not_isHeading isHeading, laidOut]

/-- There are sections as soon as there is a heading. -/
theorem ofLines_eq_nil_iff (lines : List Text) : ofLines lines = [] ↔ fromHeading lines = [] := by
  rw [← List.length_eq_zero_iff, length_ofLines, headingCount, List.countP_eq_zero, fromHeading,
    List.dropWhile_eq_nil_iff]
  simp

/-- A document is laid out in a preamble and the tiles of its sections, in order.
No line of the preamble is a heading, and where there are sections it ends where a
line ends; where there are none, the preamble is the whole document.  Every title is
one line, and neither a title nor a body begins or ends with white space.  So the
visible characters of a document are those of its preamble and then, once each and in
order, those of its titles and bodies. -/
theorem exists_tiles_ofDocument (text : Text) :
    ∃ (above : Text) (tiles : List Tile),
      tiles.map Tile.part = ofDocument text ∧
      text = above ++ tiles.flatMap Tile.text ∧
      (∀ line ∈ Text.lines above, ¬IsHeading line) ∧
      (ofDocument text ≠ [] → above = [] ∨ above.getLast? = some '\n') ∧
      (ofDocument text = [] → ∀ line ∈ Text.lines text, ¬IsHeading line) ∧
      (∀ part ∈ ofDocument text, part.title ≠ [] ∧ '\n' ∉ part.title ∧
        Text.IsTrimmed part.title ∧ Text.IsTrimmed part.body) ∧
      text.filter (!Text.isWhiteSpace ·) = above.filter (!Text.isWhiteSpace ·) ++
        (ofDocument text).flatMap fun part =>
          (part.title ++ part.body).filter (!Text.isWhiteSpace ·) := by
  obtain ⟨tiles, parts, laidOut⟩ := exists_tiles_fromHeading (Text.lines text)
  have whole := joined_eq_preamble_append (Text.lines text)
  rw [Text.joined_lines, laidOut] at whole
  rw [← ofDocument_eq_ofLines] at parts
  have noneAbove : ∀ line ∈ Text.lines (preamble (Text.lines text)), ¬IsHeading line :=
    fun line => not_isHeading_of_mem_lines_preamble fun _ => Text.not_mem_of_mem_lines
  refine ⟨preamble (Text.lines text), tiles, parts, whole, noneAbove, ?_, ?_, ?_, ?_⟩
  · intro someSection
    rw [ofDocument_eq_ofLines, Ne, ofLines_eq_nil_iff] at someSection
    rw [preamble, if_neg someSection]
    rcases List.eq_nil_or_concat (bodyLines (Text.lines text)) with none | ⟨others, line, some⟩
    · exact Or.inl (by rw [none, Text.terminated_nil])
    · rw [Text.terminated_eq_joined (by simp [some])]
      exact Or.inr List.getLast?_concat
  · intro noSection
    rw [noSection, List.map_eq_nil_iff] at parts
    rw [parts, List.flatMap_nil, List.append_nil] at whole
    rwa [← whole] at noneAbove
  · intro part member
    have extracted := isExtracted_of_mem_ofDocument member
    refine ⟨?_, ?_, Text.trim_eq_self_iff.mp extracted.trim_title,
      Text.trim_eq_self_iff.mp extracted.trim_body⟩
    · intro isEmpty
      have signs := extracted.count_title_pos
      rw [isEmpty] at signs
      exact absurd signs (by decide)
    · exact Text.not_mem_of_mem_lines (extracted.lines_title ▸ List.mem_singleton_self _)
  · conv => lhs; rw [whole]
    rw [List.filter_append, List.filter_flatMap, ← parts, List.flatMap_map]
    simp only [Tile.filter_text]

end Section
end Epics
