import Epics.Proofs.FileTree.Write

/-!
# Paths that lead to files

A walk that ends at a file, or where a file can be put, is derived step by step.
Writing files leaves all such walks as they are, so that what was written under a
path is read under it, through whatever links it leads.
-/

namespace Epics
namespace FileTree

/-- A file stands at a place, or nothing does, so that one can be put there. -/
def TakesFile (tree : FileTree) (place : Location) : Prop :=
  tree.get? place = none ∨ ∃ content, tree.get? place = some (.file content)

/-- The walk of some steps comes to a place that takes a file. -/
inductive WalksTo (tree : FileTree) : (links : Nat) → (here : Location) → List Path.Step →
    (place : Location) → Prop
  | stay {links : Nat} {here place : Location} {rest : List Path.Step}
      (onward : WalksTo tree links here rest place) :
      WalksTo tree links here (.stay :: rest) place
  | slash {links : Nat} {here place : Location} {rest : List Path.Step}
      (onward : WalksTo tree links here rest place) :
      WalksTo tree links here (.slash :: rest) place
  | up {links : Nat} {here place : Location} {rest : List Path.Step}
      (onward : WalksTo tree links here.tail rest place) :
      WalksTo tree links here (.up :: rest) place
  | directory {links : Nat} {here place : Location} {name : Text} {rest : List Path.Step}
      (short : Text.utf8Size name ≤ Path.nameLimit)
      (stands : tree.get? (name :: here) = some .directory)
      (onward : WalksTo tree links (name :: here) rest place) :
      WalksTo tree links here (.enter name :: rest) place
  | link {links : Nat} {here place : Location} {name target : Text} {rest : List Path.Step}
      (short : Text.utf8Size name ≤ Path.nameLimit)
      (stands : tree.get? (name :: here) = some (.link target))
      (onward : WalksTo tree links (if Path.isRooted target then [] else here)
        (Path.steps target ++ rest) place) :
      WalksTo tree (links + 1) here (.enter name :: rest) place
  | arrives {links : Nat} {here : Location} {name : Text}
      (short : Text.utf8Size name ≤ Path.nameLimit) (takes : tree.TakesFile (name :: here)) :
      WalksTo tree links here [.enter name] (name :: here)

/-- The place of a spot. -/
def Spot.place : Spot → Location
  | .directory place | .file place _ | .vacant place => place

/-- What a walk finds at a place that takes a file. -/
def fileSpot (tree : FileTree) (place : Location) : Spot :=
  match tree.get? place with
  | some (.file content) => .file place content
  | _ => .vacant place

variable {tree before after : FileTree} {purpose : Purpose} {links : Nat}
  {here place other : Location} {name path : Text} {steps rest : List Path.Step}
  {content : Bytes}

@[simp] theorem place_fileSpot (tree : FileTree) (place : Location) :
    (tree.fileSpot place).place = place := by
  unfold fileSpot
  split <;> rfl

/-- Where a file can be put stands nothing but a file. -/
theorem TakesFile.get?_ne {entry : Entry} (takes : tree.TakesFile place)
    (noFile : ∀ content, entry ≠ .file content) : tree.get? place ≠ some entry := by
  intro stands
  rcases takes with vacant | ⟨content, isFile⟩
  · rw [vacant] at stands
    contradiction
  · exact noFile content (Option.some.inj (stands.symm.trans isFile))

namespace WalksTo

theorem takesFile (walksTo : WalksTo tree links here steps place) : tree.TakesFile place := by
  induction walksTo with
  | stay _ ih => exact ih
  | slash _ ih => exact ih
  | up _ ih => exact ih
  | directory _ _ _ ih => exact ih
  | link _ _ _ ih => exact ih
  | arrives _ takes => exact takes

/-- The last step of a walk to a file is a name. -/
theorem exists_getLast? (walksTo : WalksTo tree links here steps place) :
    ∃ last, steps.getLast? = some (.enter last) := by
  have longer {first : Path.Step} {rest : List Path.Step} {last : Text}
      (isLast : rest.getLast? = some (.enter last)) :
      ∃ last, (first :: rest).getLast? = some (.enter last) := by
    refine ⟨last, ?_⟩
    rw [List.getLast?_cons, isLast]
    rfl
  induction walksTo with
  | stay _ ih => exact ih.elim fun _ => longer
  | slash _ ih => exact ih.elim fun _ => longer
  | up _ ih => exact ih.elim fun _ => longer
  | directory _ _ _ ih => exact ih.elim fun _ => longer
  | @link _ _ _ name target rest _ _ _ ih =>
      -- The induction gives the last step of the target with the rest behind it, which
      -- is the last step of the rest unless there is none.
      obtain ⟨last, isLast⟩ := ih
      cases rest with
      | nil => exact ⟨name, rfl⟩
      | cons step more =>
          rw [List.getLast?_append, List.getLast?_cons, Option.some_or] at isLast
          exact longer ((List.getLast?_cons (a := step)).trans isLast)
  | @arrives _ _ name _ _ => exact ⟨name, rfl⟩

theorem ne_slash (walksTo : WalksTo tree links here (.enter name :: rest) place) :
    rest ≠ [.slash] := by
  rintro rfl
  obtain ⟨last, isLast⟩ := walksTo.exists_getLast?
  simp at isLast

/-- A derived walk is what the walk of the steps finds, whatever it is for. -/
theorem walk_eq (walksTo : WalksTo tree links here steps place) (purpose : Purpose) :
    tree.walk purpose links here steps = .ok (tree.fileSpot place) := by
  have noSlash {purpose : Purpose} {links : Nat} {here place : Location} {name : Text}
      {rest : List Path.Step} (walksTo : WalksTo tree links here (.enter name :: rest) place) :
      ¬(purpose = .write ∧ rest = [.slash]) := fun stopped => walksTo.ne_slash stopped.2
  -- The purpose matters only where a slash ends the steps and a write stops before it.
  induction walksTo with
  | stay _ ih => rw [walk_stay, ih]
  | slash _ ih => rw [walk_slash, ih]
  | up _ ih => rw [walk_up, ih]
  | directory short stands onward ih =>
      rw [walk_enter, if_neg (noSlash (.directory short stands onward)),
        if_neg (Nat.not_lt.mpr short), stands]
      exact ih
  | link short stands onward ih =>
      rw [walk_enter, if_neg (noSlash (.link short stands onward)),
        if_neg (Nat.not_lt.mpr short), stands]
      exact ih
  | arrives short takes =>
      rw [walk_enter, if_neg (by simp), if_neg (Nat.not_lt.mpr short), fileSpot]
      rcases takes with vacant | ⟨content, isFile⟩
      · rw [vacant]
        rfl
      · rw [isFile]
        rfl

/-- The place that steps walk to is the only one. -/
theorem unique (walksTo : WalksTo tree links here steps place)
    (walksToOther : WalksTo tree links here steps other) : place = other := by
  have same := (walksTo.walk_eq .inspect).symm.trans (walksToOther.walk_eq .inspect)
  have samePlace := congrArg Spot.place (Except.ok.inj same)
  rwa [place_fileSpot, place_fileSpot] at samePlace

end WalksTo

/-- A walk that finds a file, or a place for one, can be derived. -/
theorem walksTo_of_walk {spot : Spot} (found : tree.walk purpose links here steps = .ok spot)
    (noDirectory : ∀ place, spot ≠ .directory place) :
    ∃ place, WalksTo tree links here steps place := by
  induction links, here, steps using walk_induction with
  | done links here =>
      rw [walk_nil] at found
      exact absurd (Except.ok.inj found).symm (noDirectory here)
  | stay links here rest ih =>
      rw [walk_stay] at found
      obtain ⟨place, onward⟩ := ih found
      exact ⟨place, .stay onward⟩
  | up links here rest ih =>
      rw [walk_up] at found
      obtain ⟨place, onward⟩ := ih found
      exact ⟨place, .up onward⟩
  | slash links here rest ih =>
      rw [walk_slash] at found
      obtain ⟨place, onward⟩ := ih found
      exact ⟨place, .slash onward⟩
  | enter links here name rest ih afterLink =>
      rw [walk_enter] at found
      split at found
      · contradiction
      · split at found
        · contradiction
        case isFalse notLong =>
          have short := Nat.not_lt.mp notLong
          split at found
          case h_1 stands =>
            obtain ⟨place, onward⟩ := ih found
            exact ⟨place, .directory short stands onward⟩
          case h_2 content stands =>
            split at found
            case isTrue isLast =>
              subst isLast
              exact ⟨_, .arrives short (Or.inr ⟨content, stands⟩)⟩
            case isFalse => contradiction
          case h_3 target stands =>
            cases links with
            | zero => contradiction
            | succ fewer =>
                obtain ⟨place, onward⟩ := afterLink fewer _ _ rfl found
                exact ⟨place, .link short stands onward⟩
          case h_4 vacant =>
            split at found
            case isTrue isLast =>
              subst isLast
              exact ⟨_, .arrives short (Or.inl vacant)⟩
            case isFalse => contradiction

/-! ## Files that are written -/

/-- The second tree is the first one with files written, where files stood or
nothing did. -/
structure WritesFiles (before after : FileTree) : Prop where
  keepsWays : KeepsWays before after
  takesFile : ∀ place, before.TakesFile place → after.TakesFile place

namespace WritesFiles

theorem refl (tree : FileTree) : WritesFiles tree tree :=
  ⟨KeepsWays.refl tree, fun _ takes => takes⟩

theorem trans {first second third : FileTree} (earlier : WritesFiles first second)
    (later : WritesFiles second third) : WritesFiles first third :=
  ⟨earlier.keepsWays.trans later.keepsWays, fun place takes =>
    later.takesFile place (earlier.takesFile place takes)⟩

theorem of_set (takes : tree.TakesFile place) (content : Bytes) :
    WritesFiles tree (tree.set place (.file content)) := by
  constructor
  · exact keepsWays_set (takes.get?_ne nofun) (fun _ => takes.get?_ne nofun) content
  · intro other otherTakes
    by_cases same : other = place
    · subst same
      by_cases isTop : other = []
      · subst isTop
        exact otherTakes
      · exact Or.inr ⟨content, get?_set_self isTop tree _⟩
    · rw [TakesFile, get?_set_of_ne same]
      exact otherTakes

end WritesFiles

/-- A walk to a file stays as it is as long as directories and links stay and its place
takes a file. -/
theorem WalksTo.of_keepsWays (keeps : KeepsWays before after)
    (walksTo : WalksTo before links here steps place) (takes : after.TakesFile place) :
    WalksTo after links here steps place := by
  induction walksTo with
  | stay _ ih => exact .stay (ih takes)
  | slash _ ih => exact .slash (ih takes)
  | up _ ih => exact .up (ih takes)
  | directory short stands _ ih => exact .directory short (keeps.directory stands) (ih takes)
  | link short stands _ ih => exact .link short (keeps.link stands) (ih takes)
  | arrives short _ => exact .arrives short takes

/-! ## Paths -/

/-- A path leads to a place that takes a file. -/
def LeadsTo (tree : FileTree) (path : Text) (place : Location) : Prop :=
  Path.fault? path = none ∧ WalksTo tree linkLimit [] (Path.steps path) place

namespace LeadsTo

theorem takesFile (leads : tree.LeadsTo path place) : tree.TakesFile place :=
  leads.2.takesFile

theorem unique (leads : tree.LeadsTo path place) (leadsToOther : tree.LeadsTo path other) :
    place = other :=
  leads.2.unique leadsToOther.2

theorem of_keepsWays (keeps : KeepsWays before after) (leads : before.LeadsTo path place)
    (takes : after.TakesFile place) : after.LeadsTo path place :=
  ⟨leads.1, leads.2.of_keepsWays keeps takes⟩

/-- Paths lead to the same places when files are written. -/
theorem of_writesFiles (writes : WritesFiles before after)
    (leads : before.LeadsTo path place) : after.LeadsTo path place :=
  leads.of_keepsWays writes.keepsWays (writes.takesFile place leads.takesFile)

theorem locate_eq (leads : tree.LeadsTo path place) (purpose : Purpose) :
    tree.locate purpose path = .ok (tree.fileSpot place) := by
  rw [locate, leads.1]
  exact leads.2.walk_eq purpose

theorem writeFile_eq (leads : tree.LeadsTo path place) (content : Bytes) :
    tree.writeFile path content = (.ok (), tree.set place (.file content)) := by
  rw [writeFile, leads.locate_eq, fileSpot]
  rcases leads.takesFile with vacant | ⟨old, isFile⟩
  · rw [vacant]
  · rw [isFile]

theorem readFile_eq (leads : tree.LeadsTo path place)
    (isFile : tree.get? place = some (.file content)) : tree.readFile path = .ok content := by
  rw [readFile, leads.locate_eq, fileSpot, isFile]

/-- The working directory is no place for a file. -/
theorem ne_nil (leads : tree.LeadsTo path place) : place ≠ [] := by
  rintro rfl
  rcases leads.takesFile with vacant | ⟨content, isFile⟩
  · simp at vacant
  · simp at isFile

end LeadsTo

/-- A path by which something other than a directory is found leads to its place. -/
theorem leadsTo_of_locate {spot : Spot} (found : tree.locate purpose path = .ok spot)
    (noDirectory : ∀ place, spot ≠ .directory place) :
    tree.LeadsTo path spot.place ∧ spot = tree.fileSpot spot.place := by
  have leads : ∃ place, tree.LeadsTo path place := by
    unfold locate at found
    split at found
    · contradiction
    case h_2 sound =>
      obtain ⟨place, walksTo⟩ := walksTo_of_walk found noDirectory
      exact ⟨place, sound, walksTo⟩
  obtain ⟨place, leads⟩ := leads
  have spotEq := Except.ok.inj (found.symm.trans (leads.locate_eq purpose))
  rw [spotEq, place_fileSpot]
  exact ⟨leads, rfl⟩

/-- A write succeeds exactly when its path leads to a place that takes a file, and
then it puts the file there. -/
theorem writeFile_eq_ok_iff : tree.writeFile path content = (.ok (), after) ↔
    ∃ place, tree.LeadsTo path place ∧ after = tree.set place (.file content) := by
  constructor
  · intro done
    unfold writeFile at done
    split at done
    · simp at done
    · simp at done
    case h_3 place old found =>
      exact ⟨place, (leadsTo_of_locate found (by simp)).1, (Prod.mk.inj done).2.symm⟩
    case h_4 place found =>
      exact ⟨place, (leadsTo_of_locate found (by simp)).1, (Prod.mk.inj done).2.symm⟩
  · rintro ⟨place, leads, rfl⟩
    exact leads.writeFile_eq content

/-- A path is read exactly when it leads to a file. -/
theorem readFile_eq_ok_iff : tree.readFile path = .ok content ↔
    ∃ place, tree.LeadsTo path place ∧ tree.get? place = some (.file content) := by
  constructor
  · intro done
    unfold readFile at done
    split at done
    · contradiction
    case h_2 place stands found =>
      obtain rfl := Except.ok.inj done
      obtain ⟨leads, spotEq⟩ := leadsTo_of_locate found (by simp)
      unfold fileSpot at spotEq
      split at spotEq
      case h_1 old isFile =>
        obtain ⟨_, rfl⟩ := Spot.file.inj spotEq
        exact ⟨place, leads, isFile⟩
      case h_2 => contradiction
    · contradiction
    · contradiction
  · rintro ⟨place, leads, isFile⟩
    exact leads.readFile_eq isFile

/-- The second tree is the first one with a file of this content put at a place where
a file stood or nothing did. -/
structure PutsFile (place : Location) (content : Bytes) (before after : FileTree) : Prop where
  takesFile : before.TakesFile place
  isFile : after.get? place = some (.file content)
  keeps : ∀ other, other ≠ place → after.get? other = before.get? other

theorem LeadsTo.putsFile (leads : tree.LeadsTo path place) (content : Bytes) :
    PutsFile place content tree (tree.set place (.file content)) :=
  ⟨leads.takesFile, get?_set_self leads.ne_nil tree _,
    fun _ different => get?_set_of_ne different tree _⟩

/-! ## Entries of a directory -/

/-- A walk to a file comes through the directory that the steps before the last one
lead to. -/
theorem WalksTo.exists_directory
    (walksTo : WalksTo tree links here (steps ++ [.enter name]) place) :
    ∃ home remaining, tree.walk .inspect links here steps = .ok (.directory home) ∧
      WalksTo tree remaining home [.enter name] place := by
  induction links, here, steps using walk_induction with
  | done links here => exact ⟨here, links, walk_nil, walksTo⟩
  | stay links here rest ih =>
      cases walksTo with
      | stay onward => simpa using ih onward
  | up links here rest ih =>
      cases walksTo with
      | up onward => simpa using ih onward
  | slash links here rest ih =>
      cases walksTo with
      | slash onward => simpa using ih onward
  | enter links here other rest ih afterLink =>
      rw [List.cons_append] at walksTo
      generalize behind : rest ++ [Path.Step.enter name] = more at walksTo
      cases walksTo with
      | directory short stands onward =>
          obtain ⟨home, remaining, reached, entry⟩ := ih (behind ▸ onward)
          exact ⟨home, remaining,
            walk_enter_eq_directory_iff.mpr ⟨short, Or.inl ⟨stands, reached⟩⟩, entry⟩
      | @link fewer _ _ _ target _ short stands onward =>
          rw [← behind, ← List.append_assoc] at onward
          obtain ⟨home, remaining, reached, entry⟩ := afterLink fewer _ _ rfl onward
          exact ⟨home, remaining, walk_enter_eq_directory_iff.mpr
            ⟨short, Or.inr ⟨target, fewer, stands, rfl, reached⟩⟩, entry⟩
      | arrives short takes => simp at behind

/-- A single name at which no link stands is a place in the directory. -/
theorem WalksTo.place_eq (walksTo : WalksTo tree links here [.enter name] place)
    (noLink : ∀ target, tree.get? (name :: here) ≠ some (.link target)) :
    place = name :: here := by
  cases walksTo with
  | directory _ _ onward => nomatch onward
  | link _ stands _ => exact absurd stands (noLink _)
  | arrives _ _ => rfl

/-- A path to a file in a directory leads through this directory. -/
theorem LeadsTo.exists_home {directory : Text}
    (leads : tree.LeadsTo (Path.join directory name) place) (isName : Path.IsName name) :
    ∃ home remaining, tree.home? directory = some home ∧
      WalksTo tree remaining home [.enter name] place := by
  obtain ⟨sound, walksTo⟩ := leads
  rw [Path.steps_join isName] at walksTo
  obtain ⟨home, remaining, reached, entry⟩ := walksTo.exists_directory
  refine ⟨home, remaining, ?_, entry⟩
  by_cases isEmpty : directory = []
  · subst isEmpty
    obtain rfl := Spot.directory.inj (Except.ok.inj (walk_nil.symm.trans reached))
    exact home?_nil
  · exact (home?_eq_some_iff isEmpty).mpr
      ⟨Path.fault?_eq_none_of_join isEmpty sound, walk_filter_slash_iff.mp reached⟩

end FileTree
end Epics
