import Epics.Proofs.Splitter.Again

/-!
# Splitting into an empty directory

In a directory that holds files only, the name of a section is all that can keep the
section from being saved.  A split into an empty directory therefore succeeds exactly
when every name is short enough, as long as the paths are.  Otherwise it stops at the
first name that is too long.
-/

namespace Epics

variable {text directory : Text} {home : Location} {folder : Folder} {part : Section}
  {parts : List Section} {tree prepared before after : FileTree} {fault : Fault}

/-- The name of the file of a section has no more bytes than a name may have. -/
def Section.HasShortName (part : Section) : Prop :=
  Text.utf8Size part.fileName ≤ Path.nameLimit

instance (part : Section) : Decidable part.HasShortName :=
  inferInstanceAs (Decidable (Text.utf8Size part.fileName ≤ Path.nameLimit))

/-- How the problem with a name that is too long reads. -/
theorem Problem.message_nameTooLong (path : Text) :
    message (.storage (.file path .nameTooLong)) =
      "Storage error: Could not write section file ".toList ++ path ++
        ": File name too long (os error 36)".toList := by
  have opening : "Storage error: Could not write section file ".toList =
      "Storage error: ".toList ++ "Could not write section file ".toList := rfl
  have closing : ": File name too long (os error 36)".toList =
      ": ".toList ++ Fault.nameTooLong.message := by decide
  calc message (.storage (.file path .nameTooLong))
    _ = "Storage error: ".toList ++ ("Could not write section file ".toList ++ path ++
          ": ".toList ++ Fault.nameTooLong.message) := rfl
    _ = "Storage error: ".toList ++ "Could not write section file ".toList ++ path ++
          (": ".toList ++ Fault.nameTooLong.message) := by simp only [List.append_assoc]
    _ = _ := congrArg₂ (· ++ path ++ ·) opening.symm closing.symm

/-! ## Saving among files -/

namespace Folder

/-- The path of the folder leads to the directory at a place, in which there are only
files. -/
structure HoldsFiles (folder : Folder) (home : Location) (tree : FileTree) : Prop where
  found : tree.home? folder.path = some home
  takesFile : ∀ name, tree.TakesFile (name :: home)

theorem HoldsFiles.noLinks (holds : folder.HoldsFiles home tree) (parts : List Section) :
    NoLinks home parts tree :=
  fun part _ _ => (holds.takesFile part.fileName).get?_ne nofun

/-- Writing files leaves files only. -/
theorem HoldsFiles.of_writesFiles (holds : folder.HoldsFiles home before)
    (writes : FileTree.WritesFiles before after) : folder.HoldsFiles home after :=
  ⟨FileTree.home?_of_keepsWays writes.keepsWays holds.found,
    fun name => writes.takesFile _ (holds.takesFile name)⟩

/-- The length of its name decides whether a section can be saved among files. -/
theorem HoldsFiles.writeFile_eq (holds : folder.HoldsFiles home tree)
    (sound : Path.fault? (folder.filePath part.title) = none) (content : Bytes) :
    tree.writeFile (folder.filePath part.title) content =
      if Path.nameLimit < Text.utf8Size part.fileName then (.error .nameTooLong, tree)
      else (.ok (), tree.set (part.fileName :: home) (.file content)) := by
  have noDirectory : tree.get? (part.fileName :: home) ≠ some .directory :=
    (holds.takesFile part.fileName).get?_ne nofun
  have noLink := holds.noLinks [part] part List.mem_cons_self
  have written := FileTree.writeFile_join holds.found (FileName.isName_ofTitle part.title)
    noLink content
  rw [filePath] at sound ⊢
  rw [written, sound]
  exact if_congr Iff.rfl rfl (if_neg noDirectory)

theorem HoldsFiles.hasShortName (holds : folder.HoldsFiles home before)
    (sound : Path.fault? (folder.filePath part.title) = none)
    (saves : folder.Saves part before after) : part.HasShortName := by
  by_contra long
  rw [Saves, holds.writeFile_eq sound, if_pos (Nat.not_le.mp long)] at saves
  cases saves

theorem HoldsFiles.fault_eq (holds : folder.HoldsFiles home tree)
    (sound : Path.fault? (folder.filePath part.title) = none)
    (fails : folder.FailsToSave part tree fault) : ¬part.HasShortName ∧ fault = .nameTooLong := by
  rw [FailsToSave, holds.writeFile_eq sound] at fails
  split at fails
  case isTrue long =>
    cases fails
    exact ⟨Nat.not_le.mpr long, rfl⟩
  case isFalse => cases fails

/-- Sections that have been saved among files, one after the other, all have short names,
also those that share one. -/
theorem HoldsFiles.of_savesAll (holds : folder.HoldsFiles home before)
    (saves : folder.SavesAll parts before after)
    (sound : ∀ part ∈ parts, Path.fault? (folder.filePath part.title) = none) :
    (∀ part ∈ parts, part.HasShortName) ∧ folder.HoldsFiles home after := by
  induction saves with
  | nil tree => exact ⟨fun _ member => absurd member List.not_mem_nil, holds⟩
  | @cons part later before next after first rest ih =>
      have short := holds.hasShortName (sound part List.mem_cons_self) first
      -- The file that has been put is one of those among which the others are saved.
      obtain ⟨shortLater, holdsAfter⟩ := ih (holds.of_writesFiles first.holds.1)
        fun other inLater => sound other (List.mem_cons_of_mem part inLater)
      exact ⟨List.forall_mem_cons.mpr ⟨short, shortLater⟩, holdsAfter⟩

end Folder

/-! ## Splitting -/

/-- A directory can be made ready and is empty then, and the paths of the files that the
sections of a text are to have in it are short enough. -/
structure StartsEmpty (text directory : Text) (home : Location) (tree prepared : FileTree) :
    Prop where
  ready : ∃ folder events, (Folder.prepare FileTree.store directory).run tree =
    (⟨.ok folder, events⟩, prepared)
  found : prepared.home? directory = some home
  isEmpty : ∀ name, prepared.get? (name :: home) = none
  fits : ∀ part ∈ Section.ofDocument text,
    Text.utf8Size (Path.join directory part.fileName) < Path.pathLimit

/-- Sections have been saved in the directory at a place, and it holds nothing else. -/
structure SavedAlone (home : Location) (sections : List Section) (before after : FileTree) :
    Prop extends SavedIn home sections before after where
  alone : ∀ name, after.get? (name :: home) ≠ none → ∃ part ∈ sections, part.fileName = name

namespace StartsEmpty

variable (start : StartsEmpty text directory home tree prepared)
include start

theorem makeDirectories_eq : tree.makeDirectories directory = (.ok (), prepared) := by
  obtain ⟨folder, events, ready⟩ := start.ready
  obtain ⟨after, _, ⟨fault, _, failed⟩ | ⟨made, run⟩⟩ := run_prepare tree directory
  · rw [ready] at failed
    cases failed
  · rw [ready] at run
    cases run
    exact made

theorem holdsFiles : Folder.HoldsFiles ⟨directory⟩ home prepared :=
  ⟨start.found, fun name => Or.inl (start.isEmpty name)⟩

/-- There is nothing wrong with the path of a section. -/
theorem fault?_eq_none (member : part ∈ Section.ofDocument text) :
    Path.fault? (Path.join directory part.fileName) = none := by
  have noNul : '\x00' ∉ directory := by
    by_cases isEmpty : directory = []
    · rw [isEmpty]
      exact List.not_mem_nil
    · have sound := ((FileTree.home?_eq_some_iff isEmpty).mp start.found).1
      exact (Path.fault?_eq_none_iff.mp sound).1
  have noNulInName : '\x00' ∉ part.fileName :=
    FileName.not_mem_ofTitle (by decide) (by decide) part.title
  have someName : part.fileName ≠ [] := (FileName.isName_ofTitle part.title).nonempty
  refine Path.fault?_eq_none_iff.mpr ⟨?_, start.fits part member, ?_⟩
  · rw [Path.join_eq]
    split <;> simp [noNul, noNulInName]
  · rw [Path.join_eq]
    simp [someName]

/-- What has been saved in a directory that was empty is all that it holds. -/
theorem savedAlone (saves : Folder.SavesAll ⟨directory⟩ parts prepared after) :
    SavedAlone home parts prepared after := by
  have saved := (savedIn_of_savesAll saves start.found (start.holdsFiles.noLinks parts)).1
  refine ⟨saved, fun name stands => ?_⟩
  by_contra noPart
  refine stands ((saved.keeps (name :: home) fun part member same => ?_).trans
    (start.isEmpty name))
  exact noPart ⟨part, member, (List.cons.inj same).1.symm⟩

end StartsEmpty

/-- A split into a directory that is empty when it has been made ready, with paths that
are short enough.  It succeeds exactly when every name is short, and then the directory
holds the files of the sections and nothing else.  Otherwise it stops at the first section
whose name is too long and says so, and the directory holds the files of the sections
before it and nothing else. -/
theorem run_split_of_startsEmpty (start : StartsEmpty text directory home tree prepared) :
    let sections := Section.ofDocument text
    let done := (split FileTree.store text directory).run tree
    ((∃ summary, done.1.result = .ok summary) ↔ ∀ part ∈ sections, part.HasShortName) ∧
    ((∀ part ∈ sections, part.HasShortName) → SavedAlone home sections prepared done.2) ∧
    ((¬∀ part ∈ sections, part.HasShortName) →
      ∃ earlier part later problem, sections = earlier ++ part :: later ∧
        (∀ above ∈ earlier, above.HasShortName) ∧ ¬part.HasShortName ∧
        done.1.result = .error problem ∧
        problem = .storage (.file (Path.join directory part.fileName) .nameTooLong) ∧
        problem.message = "Storage error: Could not write section file ".toList ++
          Path.join directory part.fileName ++ ": File name too long (os error 36)".toList ∧
        SavedAlone home earlier prepared done.2) := by
  intro sections done
  have made := start.makeDirectories_eq
  rcases Folder.savesAll_or_failsToSave ⟨directory⟩ sections prepared with
    ⟨after, saves⟩ | ⟨earlier, part, later, after, fault, parts, saves, fails⟩
  · have short := (start.holdsFiles.of_savesAll saves fun _ => start.fault?_eq_none).1
    have run : done = _ := run_split_of_savesAll made saves
    rw [run]
    exact ⟨iff_of_true ⟨_, rfl⟩ short, fun _ => start.savedAlone saves, absurd short⟩
  · have sound (other : Section) (member : other ∈ earlier ++ part :: later) :
        Path.fault? (Folder.filePath ⟨directory⟩ other.title) = none := by
      rw [← parts] at member
      exact start.fault?_eq_none member
    obtain ⟨short, holds⟩ := start.holdsFiles.of_savesAll saves fun other above =>
      sound other (List.mem_append_left _ above)
    have member : part ∈ earlier ++ part :: later := List.mem_append_right _ List.mem_cons_self
    obtain ⟨long, rfl⟩ := holds.fault_eq (sound part member) fails
    have someLong : ¬∀ part ∈ sections, part.HasShortName := by
      intro allShort
      rw [parts] at allShort
      exact long (allShort part member)
    have run : done = _ := run_split_of_failsToSave made parts saves fails
    rw [run]
    refine ⟨iff_of_false (fun ⟨_, succeeded⟩ => nomatch succeeded) someLong,
      fun allShort => absurd allShort someLong, fun _ => ?_⟩
    exact ⟨earlier, part, later, _, parts, short, long, rfl, rfl,
      Problem.message_nameTooLong _, start.savedAlone saves⟩

/-- A name of fewer characters than bytes stops a split into a directory that has to be
made, and the section before it is all that stands there. -/
theorem run_split_of_startsEmpty_accents :
    let out := "out".toList
    let first : Section := ⟨"## Epic 1: A".toList, "x".toList⟩
    let second : Section := ⟨"## Epic 2: ".toList ++ List.replicate 130 'é', "y".toList⟩
    let text := first.render ++ '\n' :: second.render ++ "\n## Epic 3: C".toList
    let prepared : FileTree := ⟨[(["out".toList], .directory)]⟩
    let done := (split FileTree.store text out).run .empty
    StartsEmpty text out [out] .empty prepared ∧
      done.1.result = .error (.storage (.file (Path.join out second.fileName) .nameTooLong)) ∧
      SavedAlone [out] [first] prepared done.2 := by
  intro out first second text prepared done
  have made : FileTree.empty.makeDirectories out = (.ok (), prepared) := by decide +kernel
  have sections : Section.ofDocument text = [first, second, ⟨"## Epic 3: C".toList, []⟩] := by
    decide +kernel
  have start : StartsEmpty text out [out] .empty prepared := by
    refine ⟨⟨_, _, run_prepare_ok made⟩, by decide +kernel, fun name => ?_, ?_⟩
    · simp [FileTree.get?, FileTree.find?, prepared]
    · rw [sections]
      decide +kernel
  have isShort : first.HasShortName := by decide +kernel
  have isLong : ¬second.HasShortName := by decide +kernel
  have someLong : ¬∀ part ∈ Section.ofDocument text, part.HasShortName := by
    intro allShort
    exact isLong (allShort second (by simp [sections]))
  obtain ⟨earlier, part, later, problem, parts, short, long, fails, rfl, _, saved⟩ :=
    (run_split_of_startsEmpty start).2.2 someLong
  rw [sections] at parts
  clear_value first second
  cases earlier with
  | nil =>
      obtain ⟨rfl, _⟩ := List.cons.inj parts
      exact absurd isShort long
  | cons above others =>
      obtain ⟨rfl, rest⟩ := List.cons.inj parts
      cases others with
      | nil =>
          obtain ⟨rfl, _⟩ := List.cons.inj rest
          exact ⟨start, fails, saved⟩
      | cons next _ =>
          obtain ⟨rfl, _⟩ := List.cons.inj rest
          exact absurd (short second (by simp)) isLong

end Epics
