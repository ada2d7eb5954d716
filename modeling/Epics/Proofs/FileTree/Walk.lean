import Epics.FileTree.Walk

/-!
# Walks that reach a directory

A walk that reaches a directory has met directories and links only.  It reaches
the same directory in every tree in which these still stand, whatever else has
changed, and a longer walk goes on from there.
-/

namespace Epics
namespace FileTree

/-- Every directory and every link of the one tree stands in the other as well. -/
def KeepsWays (before after : FileTree) : Prop :=
  ∀ place entry, before.get? place = some entry →
    (∀ content, entry ≠ .file content) → after.get? place = some entry

namespace KeepsWays

theorem refl (tree : FileTree) : KeepsWays tree tree := fun _ _ found _ => found

theorem trans {first second third : FileTree} (earlier : KeepsWays first second)
    (later : KeepsWays second third) : KeepsWays first third := by
  intro place entry found noFile
  exact later place entry (earlier place entry found noFile) noFile

theorem directory {before after : FileTree} (keeps : KeepsWays before after)
    {place : Location} (found : before.get? place = some .directory) :
    after.get? place = some .directory :=
  keeps place .directory found (by simp)

theorem link {before after : FileTree} (keeps : KeepsWays before after) {place : Location}
    {target : Text} (found : before.get? place = some (.link target)) :
    after.get? place = some (.link target) :=
  keeps place (.link target) found (by simp)

end KeepsWays

variable {tree : FileTree} {purpose : Purpose} {links : Nat} {here place : Location}
  {name : Text} {steps rest : List Path.Step}

/-! ## Step by step -/

/-- The walk that a link begins, with one link less to follow. -/
def walkOn (tree : FileTree) (purpose : Purpose) :
    (links : Nat) → (here : Location) → List Path.Step → Except Fault Spot
  | 0 => fun _ _ => .error .tooManyLinks
  | links + 1 => tree.walk purpose links

@[simp] theorem walk_nil : tree.walk purpose links here [] = .ok (.directory here) := by
  cases links <;> rfl

@[simp] theorem walk_stay :
    tree.walk purpose links here (.stay :: rest) = tree.walk purpose links here rest := by
  cases links <;> rfl

@[simp] theorem walk_slash :
    tree.walk purpose links here (.slash :: rest) = tree.walk purpose links here rest := by
  cases links <;> rfl

@[simp] theorem walk_up :
    tree.walk purpose links here (.up :: rest) = tree.walk purpose links here.tail rest := by
  cases links <;> rfl

theorem walk_enter :
    tree.walk purpose links here (.enter name :: rest) =
      if purpose = .write ∧ rest = [.slash] then .error .isDirectory
      else if Path.nameLimit < Text.utf8Size name then .error .nameTooLong
      else
        match tree.get? (name :: here) with
        | some .directory => tree.walk purpose links (name :: here) rest
        | some (.file content) =>
            if rest = [] then .ok (.file (name :: here) content) else .error .notDirectory
        | some (.link target) =>
            tree.walkOn purpose links (if Path.isRooted target then [] else here)
              (Path.steps target ++ rest)
        | none => if rest = [] then .ok (.vacant (name :: here)) else .error .missing := by
  cases links <;> rfl

/-- Walks are followed by their steps and, at a link, by the number of links that
are left. -/
theorem walk_induction {motive : Nat → Location → List Path.Step → Prop}
    (done : ∀ links here, motive links here [])
    (stay : ∀ links here rest, motive links here rest → motive links here (.stay :: rest))
    (up : ∀ links here rest, motive links here.tail rest → motive links here (.up :: rest))
    (slash : ∀ links here rest, motive links here rest → motive links here (.slash :: rest))
    (enter : ∀ links here name rest, motive links (name :: here) rest →
      (∀ fewer there steps, links = fewer + 1 → motive fewer there steps) →
      motive links here (.enter name :: rest))
    (links : Nat) (here : Location) (steps : List Path.Step) : motive links here steps := by
  have fromSteps (links : Nat)
      (afterLink : ∀ fewer there steps, links = fewer + 1 → motive fewer there steps)
      (here : Location) (steps : List Path.Step) : motive links here steps := by
    induction steps generalizing here with
    | nil => exact done links here
    | cons step rest ih =>
        cases step with
        | stay => exact stay links here rest (ih here)
        | up => exact up links here rest (ih here.tail)
        | slash => exact slash links here rest (ih here)
        | enter name => exact enter links here name rest (ih (name :: here)) afterLink
  induction links generalizing here steps with
  | zero => exact fromSteps 0 (fun fewer _ _ more => absurd more (Nat.zero_ne_add_one fewer)) _ _
  | succ links ih =>
      refine fromSteps (links + 1) (fun fewer there steps same => ?_) here steps
      obtain rfl := Nat.add_right_cancel same
      exact ih there steps

/-- A name leads on to a directory through a directory or through a link. -/
theorem walk_enter_eq_directory_iff :
    tree.walk .inspect links here (.enter name :: rest) = .ok (.directory place) ↔
      Text.utf8Size name ≤ Path.nameLimit ∧
        (tree.get? (name :: here) = some .directory ∧
            tree.walk .inspect links (name :: here) rest = .ok (.directory place) ∨
          ∃ target fewer, tree.get? (name :: here) = some (.link target) ∧ links = fewer + 1 ∧
            tree.walk .inspect fewer (if Path.isRooted target then [] else here)
              (Path.steps target ++ rest) = .ok (.directory place)) := by
  rw [walk_enter, if_neg (by simp)]
  by_cases long : Path.nameLimit < Text.utf8Size name
  · rw [if_pos long]
    constructor
    · intro reached
      contradiction
    · rintro ⟨short, _⟩
      exact absurd long (Nat.not_lt.mpr short)
  · rw [if_neg long]
    cases found : tree.get? (name :: here) with
    | none =>
        by_cases last : rest = [] <;> simp [last]
    | some entry =>
        cases entry with
        | directory => simp [Nat.not_lt.mp long]
        | file content =>
            by_cases last : rest = [] <;> simp [last]
        | link target =>
            cases links with
            | zero => simp [walkOn]
            | succ links => simp [walkOn, Nat.not_lt.mp long]

/-! ## Steps that lead nowhere -/

/-- Dots and slashes can be left out of a path without a difference to the directory
that it leads to. -/
theorem walk_filter_iff {kept : Path.Step → Bool}
    (moves : ∀ step, step ≠ .stay → step ≠ .slash → kept step = true) :
    tree.walk .inspect links here (steps.filter kept) = .ok (.directory place) ↔
      tree.walk .inspect links here steps = .ok (.directory place) := by
  induction links, here, steps using walk_induction with
  | done links here => rfl
  | stay links here rest ih => rw [List.filter_cons]; split <;> simpa using ih
  | up links here rest ih =>
      rw [List.filter_cons_of_pos (moves .up (by simp) (by simp))]
      simpa using ih
  | slash links here rest ih => rw [List.filter_cons]; split <;> simpa using ih
  | enter links here name rest ih afterLink =>
      have onLink (fewer : Nat) (more : links = fewer + 1) (there : Location) (target : Text) :
          tree.walk .inspect fewer there (Path.steps target ++ rest.filter kept) =
              .ok (.directory place) ↔
            tree.walk .inspect fewer there (Path.steps target ++ rest) =
              .ok (.directory place) := by
        rw [← afterLink fewer there (Path.steps target ++ rest) more,
          ← afterLink fewer there (Path.steps target ++ rest.filter kept) more,
          List.filter_append, List.filter_append, List.filter_filter]
        simp only [Bool.and_self]
      rw [List.filter_cons_of_pos (moves _ (by simp) (by simp)), walk_enter_eq_directory_iff,
        walk_enter_eq_directory_iff, ih]
      refine and_congr_right fun _ => or_congr_right ?_
      constructor
      · rintro ⟨target, fewer, found, more, reached⟩
        exact ⟨target, fewer, found, more, (onLink fewer more _ target).mp reached⟩
      · rintro ⟨target, fewer, found, more, reached⟩
        exact ⟨target, fewer, found, more, (onLink fewer more _ target).mpr reached⟩

/-- Slashes in a path make no difference to the directory that it leads to. -/
theorem walk_filter_slash_iff :
    tree.walk .inspect links here (steps.filter (· ≠ .slash)) = .ok (.directory place) ↔
      tree.walk .inspect links here steps = .ok (.directory place) :=
  walk_filter_iff fun _ _ noSlash => decide_eq_true noSlash

/-- A slash at the end of a path makes no difference to the directory that it leads to. -/
theorem walk_append_slash_iff :
    tree.walk .inspect links here (steps ++ [.slash]) = .ok (.directory place) ↔
      tree.walk .inspect links here steps = .ok (.directory place) := by
  have bare : (steps ++ [Path.Step.slash]).filter (· ≠ Path.Step.slash) =
      steps.filter (· ≠ Path.Step.slash) := by
    rw [List.filter_append]
    exact List.append_nil _
  rw [← walk_filter_slash_iff, bare, walk_filter_slash_iff]

/-! ## Longer walks and other trees -/

/-- More than a single slash stays more than a single slash with steps before it. -/
theorem append_ne_slash {rest : List Path.Step} (someRest : rest ≠ [])
    (noSlash : rest ≠ [.slash]) (before : List Path.Step) : before ++ rest ≠ [.slash] := by
  intro single
  rcases List.append_eq_singleton_iff.mp single with ⟨_, isSlash⟩ | ⟨_, isEmpty⟩
  · exact noSlash isSlash
  · exact someRest isEmpty

/-- Where a walk has reached a directory, every longer walk goes on from there
with some number of links left, whatever it is for, and in every tree in which
the directories and links of the first still stand. -/
theorem exists_walk_append
    (reached : tree.walk .inspect links here steps = .ok (.directory place)) :
    ∃ remaining, ∀ after, KeepsWays tree after → ∀ purpose rest, rest ≠ [] → rest ≠ [.slash] →
      after.walk purpose links here (steps ++ rest) = after.walk purpose remaining place rest := by
  induction links, here, steps using walk_induction with
  | done links here =>
      rw [walk_nil] at reached
      obtain rfl := Spot.directory.inj (Except.ok.inj reached)
      exact ⟨links, fun _ _ _ _ _ _ => rfl⟩
  | stay links here rest ih =>
      rw [walk_stay] at reached
      simpa using ih reached
  | up links here rest ih =>
      rw [walk_up] at reached
      simpa using ih reached
  | slash links here rest ih =>
      rw [walk_slash] at reached
      simpa using ih reached
  | enter links here name before ih afterLink =>
      obtain ⟨short, onward⟩ := walk_enter_eq_directory_iff.mp reached
      have notLong := Nat.not_lt.mpr short
      rcases onward with ⟨found, reachedBehind⟩ | ⟨target, fewer, found, more, reachedBehind⟩
      · obtain ⟨remaining, goesOn⟩ := ih reachedBehind
        refine ⟨remaining, fun after keeps purpose rest someRest noSlash => ?_⟩
        rw [List.cons_append, walk_enter, if_neg fun stopped =>
          append_ne_slash someRest noSlash before stopped.2, if_neg notLong,
          keeps.directory found]
        exact goesOn after keeps purpose rest someRest noSlash
      · obtain ⟨remaining, goesOn⟩ := afterLink _ _ _ more reachedBehind
        refine ⟨remaining, fun after keeps purpose rest someRest noSlash => ?_⟩
        rw [List.cons_append, walk_enter, if_neg fun stopped =>
          append_ne_slash someRest noSlash before stopped.2, if_neg notLong, keeps.link found,
          more, ← goesOn after keeps purpose rest someRest noSlash, List.append_assoc]
        rfl

/-- A walk reaches the same directory in every tree in which the directories and
links of the first still stand. -/
theorem walk_directory_of_keepsWays {before after : FileTree} (keeps : KeepsWays before after)
    (reached : before.walk .inspect links here steps = .ok (.directory place)) :
    after.walk .inspect links here steps = .ok (.directory place) := by
  obtain ⟨remaining, goesOn⟩ := exists_walk_append reached
  rw [← walk_append_slash_iff, ← walk_append_slash_iff, List.append_assoc]
  have twice := goesOn after keeps .inspect [.slash, .slash] (by simp) (by simp)
  rw [walk_slash, walk_slash, walk_nil] at twice
  exact twice

/-- A walk that reaches a directory comes through one after every part of its steps. -/
theorem exists_walk_of_walk_append
    (reached : tree.walk .inspect links here (steps ++ rest) = .ok (.directory place)) :
    ∃ middle, tree.walk .inspect links here steps = .ok (.directory middle) := by
  induction links, here, steps using walk_induction with
  | done links here => exact ⟨here, walk_nil⟩
  | stay links here before ih =>
      rw [List.cons_append, walk_stay] at reached
      simpa using ih reached
  | up links here before ih =>
      rw [List.cons_append, walk_up] at reached
      simpa using ih reached
  | slash links here before ih =>
      rw [List.cons_append, walk_slash] at reached
      simpa using ih reached
  | enter links here name before ih afterLink =>
      rw [List.cons_append, walk_enter_eq_directory_iff] at reached
      obtain ⟨short, ⟨found, behind⟩ | ⟨target, fewer, found, more, behind⟩⟩ := reached
      · obtain ⟨middle, through⟩ := ih behind
        exact ⟨middle, walk_enter_eq_directory_iff.mpr ⟨short, Or.inl ⟨found, through⟩⟩⟩
      · rw [← List.append_assoc] at behind
        obtain ⟨middle, through⟩ := afterLink fewer _ _ more behind
        exact ⟨middle, walk_enter_eq_directory_iff.mpr
          ⟨short, Or.inr ⟨target, fewer, found, more, through⟩⟩⟩

/-! ## Where a walk can be -/

/-- Directories stand at a place and at all places on the way up from it. -/
def HasWay (tree : FileTree) (place : Location) : Prop :=
  ∀ outer, outer <:+ place → tree.get? outer = some .directory

theorem hasWay_nil (tree : FileTree) : tree.HasWay [] := by
  intro outer within
  rw [List.suffix_nil.mp within]
  exact get?_nil tree

namespace HasWay

theorem tail (way : tree.HasWay place) : tree.HasWay place.tail :=
  fun outer within => way outer (within.trans (List.tail_suffix place))

theorem cons (way : tree.HasWay here) (stands : tree.get? (name :: here) = some .directory) :
    tree.HasWay (name :: here) := by
  intro outer within
  rcases List.suffix_cons_iff.mp within with rfl | further
  · exact stands
  · exact way outer further

end HasWay

/-- Where a walk goes up, it goes to a directory that stands there, so that this is so
of the directory that it reaches. -/
theorem hasWay_of_walk (way : tree.HasWay here)
    (reached : tree.walk .inspect links here steps = .ok (.directory place)) :
    tree.HasWay place := by
  induction links, here, steps using walk_induction with
  | done links here =>
      rw [walk_nil] at reached
      obtain rfl := Spot.directory.inj (Except.ok.inj reached)
      exact way
  | stay links here rest ih =>
      rw [walk_stay] at reached
      exact ih way reached
  | up links here rest ih =>
      rw [walk_up] at reached
      exact ih way.tail reached
  | slash links here rest ih =>
      rw [walk_slash] at reached
      exact ih way reached
  | enter links here name rest ih afterLink =>
      obtain ⟨_, ⟨found, behind⟩ | ⟨target, fewer, _, more, behind⟩⟩ :=
        walk_enter_eq_directory_iff.mp reached
      · exact ih (way.cons found) behind
      · refine afterLink fewer _ _ more ?_ behind
        split
        · exact hasWay_nil tree
        · exact way

end FileTree
end Epics
