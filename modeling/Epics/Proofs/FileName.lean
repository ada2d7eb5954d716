import Epics.FileName
import Epics.Proofs.Path

/-!
# File names are names

Whatever a title contains, its file name is the name of an entry: it holds no
slash, and with its extension it is neither a dot nor two dots.
-/

namespace Epics
namespace FileName

variable {char : Char} {title text : Text}

/-! ## What stands in a name -/

/-- The characters that stand in a name as they stand in the title. -/
def isPlain (char : Char) : Bool :=
  Text.isAlphanumeric char || char == '_' || char == '-'

/-- Of the kept characters only the space is written in another way. -/
theorem isPlain_iff : isPlain char = true ↔ isKept char = true ∧ char ≠ ' ' := by
  constructor
  · intro plain
    refine ⟨by rw [isKept, ← isPlain, plain, Bool.true_or], ?_⟩
    rintro rfl
    exact absurd plain (by decide)
  · rintro ⟨kept, noSpace⟩
    rw [isKept, ← isPlain, beq_eq_false_iff_ne.mpr noSpace, Bool.or_false] at kept
    exact kept

/-- The kept characters of a text as they stand in a file name. -/
def spelled (text : Text) : Text :=
  (text.filter isKept).map written

@[simp] theorem spelled_space_cons (text : Text) :
    spelled (' ' :: text) = '_' :: spelled text := by
  rw [spelled, List.filter_cons_of_pos (by decide), List.map_cons]
  rfl

@[simp] theorem spelled_append (before after : Text) :
    spelled (before ++ after) = spelled before ++ spelled after := by
  rw [spelled, List.filter_append, List.map_append]
  rfl

theorem spelled_of_isPlain (plain : ∀ char ∈ text, isPlain char = true) :
    spelled text = text := by
  have kept : text.filter isKept = text :=
    List.filter_eq_self.mpr fun char member => (isPlain_iff.mp (plain char member)).1
  have same : text.map written = text := by
    refine (List.map_congr_left fun char member => ?_).trans (List.map_id text)
    exact if_neg (isPlain_iff.mp (plain char member)).2
  rw [spelled, kept, same]

/-! ## Names of entries -/

/-- What is left of a title are kept characters other than the space. -/
theorem isKept_of_mem_stem (member : char ∈ stem title) : isKept char = true ∧ char ≠ ' ' := by
  obtain ⟨source, inSource, rfl⟩ := List.mem_map.mp member
  have kept := (List.mem_filter.mp ((List.dropWhile_sublist _).subset inSource)).2
  unfold written
  split
  · decide
  case isFalse other => exact ⟨kept, other⟩

/-- A character that is not kept is nowhere in a name before its extension. -/
theorem not_mem_stem (notKept : isKept char = false) (title : Text) : char ∉ stem title := by
  intro member
  rw [(isKept_of_mem_stem member).1] at notKept
  contradiction

/-- A character that is not kept, and not in the extension either, is in no name. -/
theorem not_mem_ofTitle (notKept : isKept char = false) (notExtension : char ∉ extension)
    (title : Text) : char ∉ ofTitle title := by
  rw [ofTitle, List.mem_append, not_or]
  exact ⟨not_mem_stem notKept title, notExtension⟩

/-- Every file name ends in the last letter of the extension. -/
theorem getLast?_ofTitle (title : Text) : (ofTitle title).getLast? = some 'd' := by
  rw [ofTitle, List.getLast?_append]
  rfl

/-- Every title has a file name that names an entry of a directory. -/
theorem isName_ofTitle (title : Text) : Path.IsName (ofTitle title) := by
  refine ⟨fun isEmpty => ?_, not_mem_ofTitle (by decide) (by decide) title,
    fun isDot => ?_, fun isDots => ?_⟩
  · have last := getLast?_ofTitle title
    rw [isEmpty] at last
    contradiction
  · have last := getLast?_ofTitle title
    rw [isDot] at last
    exact absurd last (by decide)
  · have last := getLast?_ofTitle title
    rw [isDots] at last
    exact absurd last (by decide)

end FileName
end Epics
