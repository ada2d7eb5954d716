import Epics.Path
import Epics.Proofs.Text.Lines

/-!
# Paths of entries

Joining the name of an entry to the path of a directory adds one step to the
walk, and the slash that stands between the two is no step of its own.
-/

namespace Epics
namespace Path

/-- A text that can be the name of an entry and leads to no other place. -/
structure IsName (name : Text) : Prop where
  nonempty : name ≠ []
  noSlash : '/' ∉ name
  notStay : name ≠ ['.']
  notUp : name ≠ ['.', '.']

variable {directory name other path : Text}

/-! ## Steps -/

theorem Step.ofPiece_of_isName (isName : IsName name) : Step.ofPiece name = .enter name := by
  rw [Step.ofPiece, if_neg isName.notStay, if_neg isName.notUp]

theorem Step.ofPiece_ne_slash (piece : Text) : Step.ofPiece piece ≠ .slash := by
  unfold Step.ofPiece
  split
  · simp
  · split <;> simp

theorem endsInSlash_iff : endsInSlash path = true ↔ ∃ before, path = before ++ ['/'] := by
  simp [endsInSlash, List.getLast?_eq_some_iff]

/-- The steps of a path without the slash at its end. -/
theorem filter_steps (path : Text) :
    (steps path).filter (· ≠ .slash) =
      ((Text.pieces '/' path).filter (· ≠ [])).map Step.ofPiece := by
  have noneIsSlash : ∀ step ∈ ((Text.pieces '/' path).filter (· ≠ [])).map Step.ofPiece,
      step ≠ .slash := by
    intro step member
    obtain ⟨piece, _, rfl⟩ := List.mem_map.mp member
    exact Step.ofPiece_ne_slash piece
  have tail : (if endsInSlash path then [Step.slash] else []).filter (· ≠ .slash) = [] := by
    split <;> rfl
  rw [steps, List.filter_append, tail, List.append_nil,
    List.filter_eq_self.mpr fun step member => decide_eq_true (noneIsSlash step member)]

/-- A path that ends in a name does not end in a slash. -/
theorem endsInSlash_append_of_isName (isName : IsName name) (before : Text) :
    endsInSlash (before ++ name) = false := by
  rw [Bool.eq_false_iff, Ne, endsInSlash_iff]
  rintro ⟨start, same⟩
  obtain ⟨front, last, rfl⟩ := (List.eq_nil_or_concat name).resolve_left isName.nonempty
  rw [List.concat_eq_append, ← List.append_assoc] at same
  have isSlash := (List.append_inj' same rfl).2
  exact isName.noSlash (by simp_all)

/-- A name is a path of one step. -/
theorem steps_of_isName (isName : IsName name) : steps name = [.enter name] := by
  have noSlash := endsInSlash_append_of_isName isName []
  rw [List.nil_append] at noSlash
  rw [steps, Text.pieces_of_not_mem isName.noSlash, noSlash]
  simp [isName.nonempty, Step.ofPiece_of_isName isName]

/-- A name behind a slash adds a step to those before the slash. -/
theorem steps_append_cons (isName : IsName name) (before : Text) :
    steps (before ++ '/' :: name) =
      (steps before).filter (· ≠ .slash) ++ [.enter name] := by
  have noSlash := endsInSlash_append_of_isName isName (before ++ ['/'])
  rw [List.append_assoc, List.singleton_append] at noSlash
  rw [filter_steps, steps, noSlash, Text.pieces_append_cons,
    Text.pieces_of_not_mem isName.noSlash, List.filter_append, List.map_append]
  simp [isName.nonempty, Step.ofPiece_of_isName isName]

/-- A slash at the end of a path adds no step but the slash. -/
theorem filter_steps_append_slash (before : Text) :
    (steps (before ++ ['/'])).filter (· ≠ .slash) = (steps before).filter (· ≠ .slash) := by
  rw [filter_steps, filter_steps, Text.pieces_append_cons, List.filter_append, List.map_append]
  exact List.append_nil _

/-- A name that is joined to a path adds a step to it. -/
theorem steps_join (isName : IsName name) (directory : Text) :
    steps (join directory name) =
      (steps directory).filter (· ≠ .slash) ++ [.enter name] := by
  unfold join
  split
  case isTrue joined =>
    rcases joined with rfl | ends
    · rw [List.nil_append, steps_of_isName isName]
      rfl
    · obtain ⟨before, rfl⟩ := endsInSlash_iff.mp ends
      rw [filter_steps_append_slash, List.append_assoc, List.singleton_append,
        steps_append_cons isName]
  case isFalse => exact steps_append_cons isName directory

/-- The paths of different names in a directory are different. -/
theorem join_right_inj : join directory name = join directory other ↔ name = other := by
  unfold join
  split <;> simp

/-! ## Sound paths -/

theorem fault?_eq_none_iff : fault? path = none ↔
    '\x00' ∉ path ∧ Text.utf8Size path < pathLimit ∧ path ≠ [] := by
  unfold fault?
  split
  case isTrue nul => simp [nul]
  case isFalse noNul =>
    split
    case isTrue long => simp [noNul, Nat.not_lt.mpr long]
    case isFalse short => simp [noNul, Nat.not_le.mp short]

/-- A slash is put in front of a name unless the path is empty or ends in one. -/
theorem join_eq (directory name : Text) :
    join directory name = directory ++
      ((if directory = [] ∨ directory.getLast? = some '/' then [] else ['/']) ++ name) := by
  unfold join endsInSlash
  simp only [beq_iff_eq]
  split <;> rfl

/-- Where the path of an entry is sound, so is the path of its directory. -/
theorem fault?_eq_none_of_join (someStep : directory ≠ [])
    (sound : fault? (join directory name) = none) : fault? directory = none := by
  rw [join_eq, fault?_eq_none_iff, Text.utf8Size_append] at sound
  obtain ⟨noNul, short, _⟩ := sound
  exact fault?_eq_none_iff.mpr
    ⟨fun nul => noNul (List.mem_append_left _ nul), by omega, someStep⟩

end Path
end Epics
