import Epics.Proofs.FileTree.Write

/-!
# Making directories

Making directories, in part or as a whole, puts directories where nothing stood
and changes nothing else.  When it succeeds, its path leads to a directory.
-/

namespace Epics
namespace FileTree

/-- The second tree is the first one with directories added. -/
def AddsDirectories (before after : FileTree) : Prop :=
  ∀ place, after.get? place = before.get? place ∨
    before.get? place = none ∧ after.get? place = some .directory

namespace AddsDirectories

variable {before after : FileTree} {place : Location} {entry : Entry}

theorem refl (tree : FileTree) : AddsDirectories tree tree := fun _ => Or.inl rfl

theorem trans {first second third : FileTree} (earlier : AddsDirectories first second)
    (later : AddsDirectories second third) : AddsDirectories first third := by
  intro place
  rcases earlier place with same | ⟨vacant, made⟩
  · rw [← same]
    exact later place
  · rcases later place with same | ⟨stillVacant, _⟩
    · exact Or.inr ⟨vacant, same.trans made⟩
    · rw [made] at stillVacant
      contradiction

/-- Putting a directory where nothing stands adds a directory. -/
theorem of_set (vacant : before.get? place = none) :
    AddsDirectories before (before.set place .directory) := by
  intro other
  by_cases same : other = place
  · subst same
    have below : other ≠ [] := by
      rintro rfl
      contradiction
    exact Or.inr ⟨vacant, get?_set_self below before .directory⟩
  · exact Or.inl (get?_set_of_ne same before .directory)

/-- What stands anywhere stays there. -/
theorem get?_eq_some (adds : AddsDirectories before after)
    (stands : before.get? place = some entry) : after.get? place = some entry := by
  rcases adds place with same | ⟨vacant, _⟩
  · rw [same, stands]
  · rw [vacant] at stands
    contradiction

/-- No link is added. -/
theorem get?_eq_link_iff (adds : AddsDirectories before after) {target : Text} :
    after.get? place = some (.link target) ↔ before.get? place = some (.link target) := by
  constructor
  · intro isLink
    rcases adds place with same | ⟨_, made⟩
    · rw [← same, isLink]
    · rw [made] at isLink
      exact absurd isLink (by simp)
  · exact adds.get?_eq_some

theorem keepsWays (adds : AddsDirectories before after) : KeepsWays before after :=
  fun _ _ stands _ => adds.get?_eq_some stands

end AddsDirectories

variable {tree made after : FileTree} {steps before : List Path.Step} {path : Text}
  {chain : List (List Path.Step)} {fault : Fault}

/-! ## One directory -/

theorem isDirectory_iff : tree.isDirectory steps = true ↔
    ∃ place, tree.walk .inspect linkLimit [] steps = .ok (.directory place) := by
  unfold isDirectory
  split
  case h_1 place reached => simp [reached]
  case h_2 other =>
    constructor
    · intro isDirectory
      contradiction
    · rintro ⟨place, reached⟩
      exact absurd reached (other place)

/-- The place that steps name is an entry of the directory that the steps before
the last one lead to. -/
theorem exists_of_namedPlace {place : Location}
    (named : tree.namedPlace steps = .ok (some place)) :
    ∃ before name home, steps.filter (· ≠ .slash) = before ++ [.enter name] ∧
      tree.walk .inspect linkLimit [] before = .ok (.directory home) ∧
      Text.utf8Size name ≤ Path.nameLimit ∧ place = name :: home := by
  unfold namedPlace at named
  dsimp only at named
  split at named
  · contradiction
  case h_2 home reached =>
    split at named
    case h_1 name last =>
      split at named
      · contradiction
      case isFalse notLong =>
        obtain ⟨before, split⟩ := List.getLast?_eq_some_iff.mp last
        rw [split, List.dropLast_concat, walk_append_slash_iff] at reached
        obtain rfl := Option.some.inj (Except.ok.inj named)
        exact ⟨before, name, home, split, reached, Nat.not_lt.mp notLong, rfl⟩
    case h_2 => simp at named
  · contradiction

/-- Making a directory puts it at a place where nothing stands, and the steps
lead to it. -/
theorem makeDirectory_ok (done : tree.makeDirectory steps = .ok made) :
    AddsDirectories tree made ∧ made.isDirectory steps = true := by
  unfold makeDirectory at done
  split at done
  · contradiction
  · contradiction
  case h_3 place named =>
    split at done
    · contradiction
    case h_2 vacant =>
      obtain rfl := Except.ok.inj done
      obtain ⟨before, name, home, split, reached, short, rfl⟩ :=
        exists_of_namedPlace named
      have adds := AddsDirectories.of_set vacant
      refine ⟨adds, isDirectory_iff.mpr ⟨name :: home, ?_⟩⟩
      obtain ⟨remaining, goesOn⟩ := exists_walk_append reached
      rw [← walk_filter_slash_iff, split,
        goesOn _ adds.keepsWays .inspect [.enter name] (by simp) (by simp),
        walk_enter_eq_directory_iff]
      exact ⟨short, Or.inl ⟨get?_set_self (List.cons_ne_nil name home) tree .directory, walk_nil⟩⟩

theorem ensureDirectory_adds (tree : FileTree) (steps : List Path.Step) :
    AddsDirectories tree (tree.ensureDirectory steps).2 := by
  unfold ensureDirectory
  split
  case h_1 made done => exact (makeDirectory_ok done).1
  case h_2 => exact AddsDirectories.refl tree

theorem ensureDirectory_ok (done : tree.ensureDirectory steps = (.ok (), after)) :
    after.isDirectory steps = true := by
  unfold ensureDirectory at done
  split at done
  case h_1 made isMade =>
    obtain rfl := (Prod.mk.inj done).2
    exact (makeDirectory_ok isMade).2
  case h_2 fault failed =>
    obtain ⟨result, rfl⟩ := Prod.mk.inj done
    split at result
    case isTrue isThere => exact isThere
    case isFalse => contradiction

/-- Where a directory could not be made, there is none. -/
theorem ensureDirectory_error (failed : tree.ensureDirectory steps = (.error fault, after)) :
    after = tree ∧ tree.isDirectory steps = false := by
  unfold ensureDirectory at failed
  split at failed
  · simp at failed
  · obtain ⟨result, rfl⟩ := Prod.mk.inj failed
    split at result
    · contradiction
    case isFalse notThere => exact ⟨rfl, Bool.eq_false_iff.mpr notThere⟩

/-- No directory is made where the steps lead to one. -/
theorem makeDirectory_ne_ok_of_isDirectory (isThere : tree.isDirectory steps = true) :
    tree.makeDirectory steps ≠ .ok made := by
  intro done
  unfold makeDirectory at done
  split at done
  · contradiction
  · contradiction
  case h_3 place named =>
    split at done
    · contradiction
    case h_2 vacant =>
      obtain ⟨before, name, home, split, reached, _, rfl⟩ := exists_of_namedPlace named
      obtain ⟨there, isReached⟩ := isDirectory_iff.mp isThere
      obtain ⟨remaining, goesOn⟩ := exists_walk_append reached
      rw [← walk_filter_slash_iff, split,
        goesOn tree (KeepsWays.refl tree) .inspect [.enter name] (by simp) (by simp),
        walk_enter_eq_directory_iff] at isReached
      rcases isReached.2 with ⟨stands, _⟩ | ⟨target, fewer, stands, _⟩
      · rw [vacant] at stands
        contradiction
      · rw [vacant] at stands
        contradiction

/-- A directory that is there needs not be made. -/
theorem ensureDirectory_of_isDirectory (isThere : tree.isDirectory steps = true) :
    tree.ensureDirectory steps = (.ok (), tree) := by
  unfold ensureDirectory
  split
  case h_1 made done => exact absurd done (makeDirectory_ne_ok_of_isDirectory isThere)
  case h_2 => rw [if_pos isThere]

/-! ## All directories of a path -/

theorem ensureAll_adds (tree : FileTree) (chain : List (List Path.Step)) :
    AddsDirectories tree (tree.ensureAll chain).2 := by
  induction chain generalizing tree with
  | nil => exact AddsDirectories.refl tree
  | cons steps more ih =>
      have first := ensureDirectory_adds tree steps
      unfold ensureAll
      split
      case h_1 next done =>
        rw [done] at first
        exact first.trans (ih next)
      case h_2 => exact first

theorem ensureAll_cons_ok (done : tree.ensureAll (steps :: chain) = (.ok (), after)) :
    ∃ next, tree.ensureDirectory steps = (.ok (), next) ∧
      next.ensureAll chain = (.ok (), after) := by
  rw [ensureAll] at done
  split at done
  case h_1 next isThere => exact ⟨next, isThere, done⟩
  case h_2 failed => exact absurd done (failed _)

/-- The last of the directories that have been made one after the other is there. -/
theorem ensureAll_append_ok (done : tree.ensureAll (chain ++ [steps]) = (.ok (), after)) :
    after.isDirectory steps = true := by
  induction chain generalizing tree with
  | nil =>
      obtain ⟨next, isThere, nothingLeft⟩ := ensureAll_cons_ok done
      obtain rfl := (Prod.mk.inj nothingLeft).2
      exact ensureDirectory_ok isThere
  | cons first more ih =>
      obtain ⟨next, _, later⟩ := ensureAll_cons_ok done
      exact ih later

/-- Directories that are made one after the other fail at one that is not there. -/
theorem ensureAll_error (failed : tree.ensureAll chain = (.error fault, after)) :
    ∃ steps ∈ chain, after.isDirectory steps = false := by
  induction chain generalizing tree with
  | nil => simp [ensureAll] at failed
  | cons steps more ih =>
      rw [ensureAll] at failed
      split at failed
      · obtain ⟨missing, isLater, notThere⟩ := ih failed
        exact ⟨missing, List.mem_cons_of_mem steps isLater, notThere⟩
      · obtain ⟨rfl, notThere⟩ := ensureDirectory_error failed
        exact ⟨steps, List.mem_cons_self, notThere⟩

/-- Where steps lead to a directory, the shorter paths that have to be made before it
do so as well. -/
theorem isDirectory_of_mem_ancestors (isThere : tree.isDirectory steps = true)
    (member : before ∈ ancestors steps) : tree.isDirectory before = true := by
  obtain ⟨place, reached⟩ := isDirectory_iff.mp isThere
  have moves (step : Path.Step) (noStay : step ≠ .stay) (noSlash : step ≠ .slash) :
      (step ≠ .stay && step ≠ .slash : Bool) = true := by
    simp [noStay, noSlash]
  have moving := (walk_filter_iff moves).mpr reached
  obtain ⟨count, _, rfl⟩ := List.mem_map.mp member
  rw [← List.take_append_drop (count + 1) (steps.filter _)] at moving
  exact isDirectory_iff.mpr (exists_walk_of_walk_append moving)

/-- Whether or not it succeeds, making the directories of a path adds directories
and changes nothing else. -/
theorem makeDirectories_adds (tree : FileTree) (path : Text) :
    AddsDirectories tree (tree.makeDirectories path).2 := by
  unfold makeDirectories
  split
  · exact AddsDirectories.refl tree
  · split
    · exact AddsDirectories.refl tree
    · dsimp only
      split
      · exact ensureAll_adds tree _
      · exact ensureDirectory_adds tree _

/-- When the directories of a path have been made, the path leads to a directory. -/
theorem makeDirectories_ok (done : tree.makeDirectories path = (.ok (), after)) :
    ∃ home, after.home? path = some home := by
  unfold makeDirectories at done
  split at done
  case isTrue isEmpty =>
    subst isEmpty
    exact ⟨[], home?_nil⟩
  case isFalse someStep =>
    split at done
    · simp at done
    case h_2 sound =>
      have isDirectory : after.isDirectory (Path.steps path) = true := by
        dsimp only at done
        split at done
        · exact ensureAll_append_ok done
        · exact ensureDirectory_ok done
      obtain ⟨home, reached⟩ := isDirectory_iff.mp isDirectory
      exact ⟨home, (home?_eq_some_iff someStep).mpr ⟨sound, reached⟩⟩

/-- When the directories of a path could not all be made, the path leads to none. -/
theorem makeDirectories_error (failed : tree.makeDirectories path = (.error fault, after)) :
    after.home? path = none := by
  unfold makeDirectories at failed
  split at failed
  · simp at failed
  case isFalse someStep =>
    rw [Option.eq_none_iff_forall_ne_some]
    intro home found
    obtain ⟨sound, reached⟩ := (home?_eq_some_iff someStep).mp found
    have isThere := isDirectory_iff.mpr ⟨home, reached⟩
    rw [sound] at failed
    dsimp only at failed
    split at failed
    · obtain ⟨steps, member, notThere⟩ := ensureAll_error failed
      rcases List.mem_append.mp member with shorter | isLast
      · rw [isDirectory_of_mem_ancestors isThere shorter] at notThere
        contradiction
      · rw [List.mem_singleton.mp isLast, isThere] at notThere
        contradiction
    · obtain ⟨rfl, notThere⟩ := ensureDirectory_error failed
      rw [isThere] at notThere
      contradiction

/-- Where a path leads to a directory, making its directories changes nothing. -/
theorem makeDirectories_of_home? {home : Location} (found : tree.home? path = some home) :
    tree.makeDirectories path = (.ok (), tree) := by
  unfold makeDirectories
  split
  · rfl
  case isFalse someStep =>
    obtain ⟨sound, reached⟩ := (home?_eq_some_iff someStep).mp found
    rw [sound]
    dsimp only
    rw [ensureDirectory_of_isDirectory (isDirectory_iff.mpr ⟨home, reached⟩)]

end FileTree
end Epics
