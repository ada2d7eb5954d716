import Epics.Text.Basic

/-!
# Lines

The lines of a text are its pieces between line feeds, so that a text with a
line feed at its end has an empty last line.  Lines are put together again in
two ways: with a line feed between each two of them, which undoes the cutting,
or with a line feed behind each of them.
-/

namespace Epics
namespace Text

/-- Cutting a text at a mark is cutting it as a list. -/
theorem pieces_eq_splitOn (mark : Char) (text : Text) :
    pieces mark text = text.splitOn mark := by
  induction text with
  | nil => rfl
  | cons char rest ih =>
      rw [List.splitOn_cons_eq_if_modifyHead, ← ih]
      by_cases same : char = mark
      · simp [pieces, same]
      · obtain ⟨piece, more, found⟩ := List.exists_cons_of_ne_nil (pieces_ne_nil mark rest)
        simp [pieces, same, found]

/-- The pieces of two texts with a mark between them are the pieces of both. -/
theorem pieces_append_cons (mark : Char) (left right : Text) :
    pieces mark (left ++ mark :: right) = pieces mark left ++ pieces mark right := by
  simp only [pieces_eq_splitOn, List.splitOn_append_cons_self]

/-- A text without the mark is its only piece. -/
theorem pieces_of_not_mem {mark : Char} {text : Text} (absent : mark ∉ text) :
    pieces mark text = [text] := by
  rw [pieces_eq_splitOn, List.splitOn_eq_singleton absent]

/-- No piece contains the mark. -/
theorem not_mem_of_mem_pieces {mark : Char} {text piece : Text}
    (member : piece ∈ pieces mark text) : mark ∉ piece := by
  induction text generalizing piece with
  | nil => simp_all
  | cons char rest ih =>
      by_cases same : char = mark
      · subst same
        rcases List.mem_cons.mp (pieces_cons_self char rest ▸ member) with rfl | later
        · exact List.not_mem_nil
        · exact ih later
      · obtain ⟨first, more, found⟩ := List.exists_cons_of_ne_nil (pieces_ne_nil mark rest)
        simp only [pieces, same, if_false, found, List.mem_cons] at member
        rcases member with rfl | later
        · have absent := ih (found ▸ List.mem_cons_self)
          simp [Ne.symm same, absent]
        · exact ih (found ▸ List.mem_cons_of_mem first later)

/-- The lines of a text. -/
def lines (text : Text) : List Text :=
  pieces '\n' text

/-- Lines with a line feed between each two. -/
def joined (lines : List Text) : Text :=
  ['\n'].intercalate lines

/-- Lines with a line feed behind each of them. -/
def terminated (lines : List Text) : Text :=
  lines.flatMap (· ++ ['\n'])

@[simp] theorem joined_nil : joined [] = [] := rfl

@[simp] theorem joined_singleton (line : Text) : joined [line] = line :=
  List.intercalate_singleton

@[simp] theorem joined_cons_cons (line next : Text) (more : List Text) :
    joined (line :: next :: more) = line ++ '\n' :: joined (next :: more) := by
  simp [joined, List.intercalate_cons_cons]

/-- Joined lines begin with the first of them, up to their end or a line feed. -/
theorem exists_joined_cons (line : Text) (more : List Text) :
    ∃ after, joined (line :: more) = line ++ after ∧ after.takeWhile (· != '\n') = [] := by
  cases more with
  | nil => exact ⟨[], by rw [joined_singleton, List.append_nil], List.takeWhile_nil⟩
  | cons next others => exact ⟨_, joined_cons_cons line next others, rfl⟩

@[simp] theorem terminated_nil : terminated [] = [] := rfl

@[simp] theorem terminated_cons (line : Text) (more : List Text) :
    terminated (line :: more) = line ++ '\n' :: terminated more := by
  simp [terminated]

/-- A line feed takes one byte. -/
@[simp] theorem utf8Size_feed : '\n'.utf8Size = 1 := rfl

/-- The room that a line takes with the line feed behind it. -/
theorem utf8Size_terminated_cons (line : Text) (more : List Text) :
    utf8Size (terminated (line :: more)) =
      utf8Size line + 1 + utf8Size (terminated more) := by
  rw [terminated_cons, utf8Size_append, utf8Size_cons, utf8Size_feed, Nat.add_assoc]

/-- Joining more lines to lines that are there. -/
theorem joined_append {below : List Text} (someBelow : below ≠ []) (above : List Text) :
    joined (above ++ below) = terminated above ++ joined below := by
  induction above with
  | nil => rfl
  | cons line more ih =>
      have someMore : more ++ below ≠ [] := by simp [someBelow]
      obtain ⟨next, others, split⟩ := List.exists_cons_of_ne_nil someMore
      rw [List.cons_append, split, joined_cons_cons, ← split, ih, terminated_cons,
        List.append_assoc, List.cons_append]

/-- A line feed behind each line is one between each two, and one at the end. -/
theorem terminated_eq_joined {lines : List Text} (someLine : lines ≠ []) :
    terminated lines = joined lines ++ ['\n'] := by
  induction lines with
  | nil => exact absurd rfl someLine
  | cons line more ih =>
      cases more with
      | nil => simp
      | cons next others =>
          rw [terminated_cons, ih (List.cons_ne_nil next others), joined_cons_cons,
            List.append_assoc, List.cons_append]

/-- Joining the lines of a text gives the text. -/
@[simp] theorem joined_lines (text : Text) : joined (lines text) = text := by
  rw [joined, lines, pieces_eq_splitOn, List.intercalate_splitOn]

/-- Lines can be read back from the text that they make. -/
theorem lines_joined {lines : List Text} (someLine : lines ≠ [])
    (noFeed : ∀ line ∈ lines, '\n' ∉ line) : Text.lines (joined lines) = lines := by
  rw [Text.lines, pieces_eq_splitOn, joined, List.splitOn_intercalate '\n' noFeed someLine]

/-- Behind the last line feed of a text stands one more line, which is empty. -/
theorem lines_terminated {above : List Text} (noFeed : ∀ line ∈ above, '\n' ∉ line) :
    Text.lines (terminated above) = above ++ [[]] := by
  have joinedEq : joined (above ++ [[]]) = terminated above := by
    rw [joined_append (List.cons_ne_nil _ _), joined_singleton, List.append_nil]
  have noFeedAtEnd : ∀ line ∈ above ++ [[]], '\n' ∉ line := by
    intro line member
    rcases List.mem_append.mp member with inAbove | isLast
    · exact noFeed line inAbove
    · rw [List.mem_singleton.mp isLast]
      exact List.not_mem_nil
  rw [← joinedEq, lines_joined (by simp) noFeedAtEnd]

theorem lines_ne_nil (text : Text) : lines text ≠ [] :=
  pieces_ne_nil '\n' text

/-- No line contains a line feed. -/
theorem not_mem_of_mem_lines {text line : Text} (member : line ∈ lines text) : '\n' ∉ line :=
  not_mem_of_mem_pieces member

/-- Up to the first line feed a text goes on behind a part without one. -/
theorem takeWhile_append_of_not_mem {line : Text} (noFeed : '\n' ∉ line) (behind : Text) :
    (line ++ behind).takeWhile (· != '\n') = line ++ behind.takeWhile (· != '\n') :=
  List.takeWhile_append_of_pos fun char member =>
    bne_iff_ne.mpr fun (feed : char = '\n') => noFeed (feed ▸ member)

/-- The first line of a text goes up to the first line feed. -/
theorem takeWhile_of_lines {text first : Text} {more : List Text}
    (split : lines text = first :: more) : text.takeWhile (· != '\n') = first := by
  have noFeed : '\n' ∉ first := not_mem_of_mem_lines (split ▸ List.mem_cons_self)
  obtain ⟨after, joinedEq, ends⟩ := exists_joined_cons first more
  rw [← joined_lines text, split, joinedEq, takeWhile_append_of_not_mem noFeed, ends,
    List.append_nil]

/-- The text above one of its lines, and the text from this line on. -/
theorem eq_terminated_append_joined {text line : Text} {above below : List Text}
    (split : lines text = above ++ line :: below) :
    text = terminated above ++ joined (line :: below) := by
  rw [← joined_append (List.cons_ne_nil _ _), ← split, joined_lines]

/-- A text without a line feed is one line. -/
theorem lines_of_not_mem {text : Text} (noFeed : '\n' ∉ text) : lines text = [text] :=
  pieces_of_not_mem noFeed

/-- A line feed ends a line. -/
theorem lines_append_cons (above below : Text) :
    lines (above ++ '\n' :: below) = lines above ++ lines below :=
  pieces_append_cons '\n' above below

/-- Where two texts meet, the last line of the first goes on as the first line of
the second. -/
theorem lines_append {left right : Text} {before after : List Text} {last first : Text}
    (leftLines : lines left = before ++ [last]) (rightLines : lines right = first :: after) :
    lines (left ++ right) = before ++ (last ++ first) :: after := by
  have noFeed : ∀ line ∈ before ++ (last ++ first) :: after, '\n' ∉ line := by
    intro line member
    have inLeft : ∀ line ∈ before ++ [last], '\n' ∉ line := fun line inside =>
      not_mem_of_mem_lines (leftLines ▸ inside)
    have inRight : ∀ line ∈ first :: after, '\n' ∉ line := fun line inside =>
      not_mem_of_mem_lines (rightLines ▸ inside)
    simp only [List.mem_append, List.mem_cons] at member
    rcases member with earlier | rfl | later
    · exact inLeft line (List.mem_append_left _ earlier)
    · have noneInLast := inLeft last (by simp)
      have noneInFirst := inRight first (by simp)
      simp [noneInLast, noneInFirst]
    · exact inRight line (List.mem_cons_of_mem first later)
  have whole : joined (before ++ (last ++ first) :: after) = left ++ right := by
    rw [joined_append (List.cons_ne_nil _ _), ← joined_lines left, ← joined_lines right,
      leftLines, rightLines, joined_append (List.cons_ne_nil _ _), joined_singleton,
      List.append_assoc]
    cases after with
    | nil => simp
    | cons next others => simp
  rw [← whole, lines_joined (by simp) noFeed]

/-- A text behind which a line begins: nothing at all, or a text that a line feed ends. -/
def EndsLine (text : Text) : Prop :=
  text = [] ∨ ∃ before, text = before ++ ['\n']

/-- A text of lines that all end in a line feed ends where a line ends. -/
theorem endsLine_terminated (lines : List Text) : EndsLine (terminated lines) := by
  by_cases noLine : lines = []
  · subst noLine
    exact Or.inl terminated_nil
  · exact Or.inr ⟨joined lines, terminated_eq_joined noLine⟩

/-- What stands behind the end of a line has lines of its own. -/
theorem EndsLine.exists_lines {above : Text} (ends : EndsLine above) :
    ∃ whole, lines above = whole ++ [[]] ∧
      ∀ below, lines (above ++ below) = whole ++ lines below := by
  rcases ends with rfl | ⟨before, rfl⟩
  · exact ⟨[], rfl, fun below => rfl⟩
  · refine ⟨lines before, lines_append_cons before [], fun below => ?_⟩
    rw [List.append_assoc, List.singleton_append, lines_append_cons]

/-- The lines of a text have a last one. -/
theorem exists_lines_eq_append (text : Text) : ∃ before last, lines text = before ++ [last] :=
  ⟨_, _, (List.dropLast_concat_getLast (lines_ne_nil text)).symm⟩

/-- Of a part of a text every line but the first is the beginning of a line of the
text. -/
theorem exists_append_mem_lines {before middle after line : Text}
    (member : line ∈ (lines middle).tail) :
    ∃ rest, line ++ rest ∈ lines (before ++ (middle ++ after)) := by
  obtain ⟨above, last, beforeLines⟩ := exists_lines_eq_append before
  obtain ⟨first, below, innerLines⟩ := List.exists_cons_of_ne_nil (lines_ne_nil (middle ++ after))
  have inner : ∀ other ∈ below, other ∈ lines (before ++ (middle ++ after)) := by
    intro other inside
    rw [lines_append beforeLines innerLines]
    exact List.mem_append_right _ (List.mem_cons_of_mem _ inside)
  obtain ⟨middleAbove, middleLast, middleLines⟩ := exists_lines_eq_append middle
  obtain ⟨afterFirst, afterBelow, afterLines⟩ := List.exists_cons_of_ne_nil (lines_ne_nil after)
  rw [lines_append middleLines afterLines] at innerLines
  rw [middleLines] at member
  cases middleAbove with
  | nil => exact absurd member List.not_mem_nil
  | cons middleFirst others =>
      obtain ⟨_, rfl⟩ := List.cons.inj innerLines
      rcases List.mem_append.mp member with whole | isLast
      · exact ⟨[], by
          rw [List.append_nil]
          exact inner line (List.mem_append_left _ whole)⟩
      · rw [List.mem_singleton.mp isLast]
        exact ⟨afterFirst, inner _ (List.mem_append_right _ List.mem_cons_self)⟩

end Text
end Epics
