import Epics.Proofs.Splitter.Again

/-!
# Histories of calls

The operations can be called any number of times, in any order and with any folders, and
each of them can fail.  Whatever the history, all that happens to a tree is that
directories and files are added and files are overwritten.  What a file holds then is a
section that has been saved, under a path that leads to the file.
-/

namespace Epics

/-- A section and the folder that it is saved into. -/
structure Save where
  folder : Folder
  part : Section
  deriving DecidableEq, Repr

/-- The path of the file that a section is saved in. -/
def Save.path (save : Save) : Text :=
  save.folder.filePath save.part.title

/-- The event of a section that has been saved. -/
def Save.event (save : Save) : Event :=
  save.folder.savedEvent save.part

/-- The event is that of a section that has been saved. -/
def Event.isSaved : Event → Bool
  | .sectionSaved _ _ => true
  | _ => false

/-! ## What saves account for -/

/-- The file at a place holds one of the saved sections, whose path leads there. -/
def HoldsOne (saves : List Save) (tree : FileTree) (place : Location) : Prop :=
  ∃ save ∈ saves, save.folder.Holds tree save.part place

/-- The second tree is the first one with directories and files added and files
overwritten. -/
structure FileTree.OnlyAdds (before after : FileTree) : Prop where
  /-- Directories stay, and links keep their targets. -/
  keepsWays : KeepsWays before after
  /-- Where a file stood, there is a file. -/
  keepsFiles : ∀ place content, before.get? place = some (.file content) →
    ∃ other, after.get? place = some (.file other)
  /-- What is added is no link. -/
  addsNoLink : ∀ place target, after.get? place = some (.link target) →
    before.get? place = some (.link target)

/-- The saves of sections, in their order, account for events and for the way in which
two trees differ. -/
structure Accounts (saves : List Save) (events : List Event) (before after : FileTree) :
    Prop where
  /-- There is one event for each save. -/
  told : events.filter Event.isSaved = saves.map Save.event
  /-- Every place is as before, or a directory has been added, or a file has been added
  or overwritten, which holds one of the sections and which the path of this one leads to. -/
  only : ∀ place, after.get? place = before.get? place ∨
    before.get? place = none ∧ after.get? place = some .directory ∨
    before.TakesFile place ∧ HoldsOne saves after place
  /-- The path of each section leads to a file that holds one of them. -/
  stays : ∀ save ∈ saves, ∃ place, after.LeadsTo save.path place ∧ HoldsOne saves after place

variable {saves more parts : List Save} {events others : List Event} {folder : Folder}
  {part : Section} {sections : List Section}
  {tree first second third before after : FileTree} {place : Location}

namespace HoldsOne

theorem append_right (holds : HoldsOne more tree place) (saves : List Save) :
    HoldsOne (saves ++ more) tree place := by
  obtain ⟨save, member, held⟩ := holds
  exact ⟨save, List.mem_append_right saves member, held⟩

/-- Where a section is held there is a file. -/
theorem exists_file (holds : HoldsOne saves tree place) :
    ∃ content, tree.get? place = some (.file content) := by
  obtain ⟨save, _, held⟩ := holds
  exact ⟨_, held.2⟩

end HoldsOne

namespace Accounts

theorem onlyAdds (accounts : Accounts saves events before after) :
    FileTree.OnlyAdds before after := by
  constructor
  · intro place entry stands noFile
    rcases accounts.only place with same | ⟨vacant, _⟩ | ⟨vacant | ⟨content, isFile⟩, _⟩
    · rw [same, stands]
    · simp [vacant] at stands
    · simp [vacant] at stands
    · exact absurd (Option.some.inj (stands.symm.trans isFile)) (noFile content)
  · intro place content isFile
    rcases accounts.only place with same | ⟨vacant, _⟩ | ⟨_, holds⟩
    · exact ⟨content, same.trans isFile⟩
    · simp [vacant] at isFile
    · exact holds.exists_file
  · intro place target isLink
    rcases accounts.only place with same | ⟨_, made⟩ | ⟨_, holds⟩
    · exact same.symm.trans isLink
    · simp [made] at isLink
    · obtain ⟨content, isFile⟩ := holds.exists_file
      simp [isFile] at isLink

/-- Where a section was held before other saves, it or one of theirs is held after them. -/
theorem holdsOne_append (accounts : Accounts more events before after)
    (holds : HoldsOne saves before place) : HoldsOne (saves ++ more) after place := by
  obtain ⟨save, member, leads, isFile⟩ := holds
  rcases accounts.only place with same | ⟨vacant, _⟩ | ⟨_, overwritten⟩
  · have isFileStill := same.trans isFile
    have leadsStill := leads.of_keepsWays accounts.onlyAdds.keepsWays (Or.inr ⟨_, isFileStill⟩)
    exact ⟨save, List.mem_append_left more member, leadsStill, isFileStill⟩
  · simp [vacant] at isFile
  · exact overwritten.append_right saves

/-- Events and differences that come one after the other are accounted for by the saves
of both. -/
theorem append (earlier : Accounts saves events first second)
    (later : Accounts more others second third) :
    Accounts (saves ++ more) (events ++ others) first third := by
  constructor
  · rw [List.filter_append, List.map_append, earlier.told, later.told]
  · intro place
    -- What the later saves have left alone is what the earlier ones made of it.
    rcases later.only place with same | ⟨vacant, made⟩ | ⟨takes, overwritten⟩
    · rcases earlier.only place with sameBefore | ⟨vacant, made⟩ | ⟨takes, holds⟩
      · exact Or.inl (same.trans sameBefore)
      · exact Or.inr (Or.inl ⟨vacant, same.trans made⟩)
      · exact Or.inr (Or.inr ⟨takes, later.holdsOne_append holds⟩)
    · rcases earlier.only place with sameBefore | ⟨_, madeBefore⟩ | ⟨_, holds⟩
      · exact Or.inr (Or.inl ⟨sameBefore ▸ vacant, made⟩)
      · simp [madeBefore] at vacant
      · obtain ⟨content, isFile⟩ := holds.exists_file
        simp [isFile] at vacant
    · refine Or.inr (Or.inr ⟨?_, overwritten.append_right saves⟩)
      rcases earlier.only place with sameBefore | ⟨_, madeBefore⟩ | ⟨takesBefore, _⟩
      · rwa [FileTree.TakesFile, sameBefore] at takes
      · simp [FileTree.TakesFile, madeBefore] at takes
      · exact takesBefore
  · intro save member
    rcases List.mem_append.mp member with isEarlier | isLater
    · obtain ⟨place, leads, holds⟩ := earlier.stays save isEarlier
      have holdsAfter := later.holdsOne_append holds
      exact ⟨place, leads.of_keepsWays later.onlyAdds.keepsWays (Or.inr holdsAfter.exists_file),
        holdsAfter⟩
    · obtain ⟨place, leads, holds⟩ := later.stays save isLater
      exact ⟨place, leads, holds.append_right saves⟩

/-- Where only directories have been added, there is nothing to account for. -/
theorem of_addsDirectories (adds : FileTree.AddsDirectories before after)
    (silent : ∀ event ∈ events, event.isSaved = false) : Accounts [] events before after := by
  refine ⟨List.filter_eq_nil_iff.mpr fun event member => by simp [silent event member], ?_, ?_⟩
  · intro place
    rcases adds place with same | made
    · exact Or.inl same
    · exact Or.inr (Or.inl made)
  · intro save member
    exact absurd member List.not_mem_nil

/-- Where nothing has changed, there is nothing to account for. -/
theorem refl (tree : FileTree) (silent : ∀ event ∈ events, event.isSaved = false) :
    Accounts [] events tree tree :=
  of_addsDirectories (FileTree.AddsDirectories.refl tree) silent

/-- Events that are not of saved sections need no saves. -/
theorem append_silent (accounts : Accounts saves events before after)
    (silent : ∀ event ∈ others, event.isSaved = false) :
    Accounts saves (events ++ others) before after := by
  have both := accounts.append (refl after silent)
  rwa [List.append_nil] at both

/-- One save accounts for the file that it writes. -/
theorem of_saves (saved : folder.Saves part before after) :
    Accounts [⟨folder, part⟩] [folder.savedEvent part] before after := by
  obtain ⟨home, _, holds, puts, _⟩ := saved.exists_putsFile
  refine ⟨rfl, ?_, ?_⟩
  · intro place
    by_cases isHome : place = home
    · subst isHome
      exact Or.inr (Or.inr ⟨puts.takesFile, _, List.mem_cons_self, holds⟩)
    · exact Or.inl (puts.keeps place isHome)
  · intro save member
    obtain rfl := List.mem_singleton.mp member
    exact ⟨home, holds.1, _, List.mem_cons_self, holds⟩

/-- The saves of sections account for what has been written. -/
theorem of_savesAll (saved : folder.SavesAll sections before after) :
    Accounts (sections.map (Save.mk folder)) (sections.map folder.savedEvent) before after := by
  induction saved with
  | nil tree => exact refl tree (List.forall_mem_nil _)
  | cons first _ ih => exact (of_saves first).append ih

/-- The saves that have been told of are as many as there are events of them. -/
theorem take_countP (accounts : Accounts saves events before after) (isPrefix : saves <+: parts) :
    parts.take (events.countP Event.isSaved) = saves := by
  rw [List.countP_eq_length_filter, accounts.told, List.length_map]
  exact (List.prefix_iff_eq_take.mp isPrefix).symm

end Accounts

/-! ## Calls -/

/-- A call of one of the operations; a folder to save into need not have been made ready. -/
inductive Call
  | read (input : Text)
  | prepare (directory : Text)
  | save (folder : Folder) (part : Section)
  | split (text directory : Text)
  | splitFile (input directory : Text)
  | run (given : Arguments)

/-- The events of an operation and the tree that it leaves. -/
def effects {ε α : Type} (operation : StateM FileTree (Report ε α)) (tree : FileTree) :
    List Event × FileTree :=
  ((operation.run tree).1.events, (operation.run tree).2)

/-- The events of a call and the tree that it leaves. -/
def Call.perform : Call → FileTree → List Event × FileTree
  | .read input => effects (readDocument FileTree.store input)
  | .prepare directory => effects (Folder.prepare FileTree.store directory)
  | .save folder part => effects (folder.save FileTree.store part)
  | .split text directory => effects (Epics.split FileTree.store text directory)
  | .splitFile input directory => effects (Epics.splitFile FileTree.store input directory)
  | .run given => effects (Epics.run FileTree.store given)

/-- The saves of all sections of a document. -/
def documentSaves (text directory : Text) : List Save :=
  (Section.ofDocument text).map (Save.mk ⟨directory⟩)

/-- The saves of all sections of a file, if it can be read as a document. -/
def fileSaves (tree : FileTree) (input directory : Text) : List Save :=
  match ((readDocument FileTree.store input).run tree).1.result with
  | .error _ => []
  | .ok text => documentSaves text directory

/-- The saves that a call has to make, in order. -/
def Call.due : Call → FileTree → List Save
  | .read _, _ | .prepare _, _ => []
  | .save folder part, _ => [⟨folder, part⟩]
  | .split text directory, _ => documentSaves text directory
  | .splitFile input directory, tree => fileSaves tree input directory
  | .run given, tree => fileSaves tree given.input given.outputDirectory

/-- The saves that a call has made: as many of those that it has to make as there are
events of saved sections. -/
def Call.made (call : Call) (tree : FileTree) : List Save :=
  (call.due tree).take ((call.perform tree).1.countP Event.isSaved)

/-- The events of calls that are made one after the other, and the tree that they leave. -/
def performAll : List Call → FileTree → List Event × FileTree
  | [], tree => ([], tree)
  | call :: later, tree =>
      let next := (call.perform tree).2
      ((call.perform tree).1 ++ (performAll later next).1, (performAll later next).2)

/-- The saves that calls have made, one after the other. -/
def madeByAll : List Call → FileTree → List Save
  | [], _ => []
  | call :: later, tree => call.made tree ++ madeByAll later (call.perform tree).2

/-! ## Call by call -/

/-- Before the first section is saved, no event is that of a saved section. -/
theorem isSaved_of_mem_preparedEvents {text directory : Text} {event : Event}
    (member : event ∈ preparedEvents text directory) : event.isSaved = false := by
  simp only [preparedEvents, findingEvents, List.mem_cons, List.mem_append, List.mem_map]
    at member
  rcases member with rfl | (opening | ⟨part, _, rfl⟩) | rfl | none
  · rfl
  · split at opening
    · rw [List.mem_singleton.mp opening]
      rfl
    · split at opening
      · exact absurd opening List.not_mem_nil
      · rw [List.mem_singleton.mp opening]
        rfl
  · rfl
  · rfl
  · exact absurd none List.not_mem_nil

/-- A split saves the sections of its document up to the first that cannot be written. -/
theorem exists_accounts_split (tree : FileTree) (text directory : Text) :
    ∃ done, done <+: documentSaves text directory ∧
      Accounts done (effects (split FileTree.store text directory) tree).1 tree
        (effects (split FileTree.store text directory) tree).2 := by
  have adds := FileTree.makeDirectories_adds tree directory
  rcases split_cases tree text directory with
    ⟨fault, after, failed⟩ | ⟨prepared, after, made, saved |
      ⟨done, part, later, fault, sections, saved, fails⟩⟩
  · rw [failed] at adds
    rw [effects, run_split_of_makeDirectories_error failed]
    exact ⟨[], List.nil_prefix, .of_addsDirectories adds (List.forall_mem_nil _)⟩
  · rw [made] at adds
    rw [effects, run_split_of_savesAll made saved]
    exact ⟨_, List.prefix_refl _,
      (Accounts.of_addsDirectories adds fun _ => isSaved_of_mem_preparedEvents).append
        (.of_savesAll saved)⟩
  · rw [made] at adds
    rw [effects, run_split_of_failsToSave made sections saved fails]
    refine ⟨done.map (Save.mk ⟨directory⟩), ?_,
      (Accounts.of_addsDirectories adds fun _ => isSaved_of_mem_preparedEvents).append
        (.of_savesAll saved)⟩
    rw [documentSaves, sections, List.map_append]
    exact List.prefix_append _ _

theorem exists_accounts_splitFile (tree : FileTree) (input directory : Text) :
    ∃ done, done <+: fileSaves tree input directory ∧
      Accounts done (effects (splitFile FileTree.store input directory) tree).1 tree
        (effects (splitFile FileTree.store input directory) tree).2 := by
  rcases run_readDocument tree input with ⟨problem, _, read⟩ | ⟨content, text, _, _, read⟩
  · rw [effects, run_splitFile_of_error read, fileSaves, read]
    exact ⟨[], List.nil_prefix, .refl tree (List.forall_mem_nil _)⟩
  · obtain ⟨done, isPrefix, accounts⟩ := exists_accounts_split tree text directory
    rw [effects, run_splitFile_of_ok read rfl, fileSaves, read]
    have silent : ∀ event ∈ [Event.documentRead content.length input], event.isSaved = false := by
      simp [Event.isSaved]
    exact ⟨done, isPrefix, (Accounts.refl tree silent).append accounts⟩

theorem exists_accounts_run (tree : FileTree) (given : Arguments) :
    ∃ done, done <+: fileSaves tree given.input given.outputDirectory ∧
      Accounts done (effects (run FileTree.store given) tree).1 tree
        (effects (run FileTree.store given) tree).2 := by
  obtain ⟨done, isPrefix, accounts⟩ :=
    exists_accounts_splitFile tree given.input given.outputDirectory
  rw [effects, run_run_of_splitFile rfl]
  refine ⟨done, isPrefix, accounts.append_silent ?_⟩
  split <;> simp [Event.isSaved]

/-- The saves that a call has made account for it. -/
theorem Call.accounts (call : Call) (tree : FileTree) :
    Accounts (call.made tree) (call.perform tree).1 tree (call.perform tree).2 := by
  have ofPrefix (found : ∃ done, done <+: call.due tree ∧
      Accounts done (call.perform tree).1 tree (call.perform tree).2) :
      Accounts (call.made tree) (call.perform tree).1 tree (call.perform tree).2 := by
    obtain ⟨done, isPrefix, accounts⟩ := found
    rw [Call.made, accounts.take_countP isPrefix]
    exact accounts
  apply ofPrefix
  cases call with
  | read input =>
      refine ⟨[], List.nil_prefix, ?_⟩
      rcases run_readDocument tree input with ⟨problem, _, done⟩ | ⟨content, text, _, _, done⟩
      · rw [perform, effects, done]
        exact .refl tree (List.forall_mem_nil _)
      · rw [perform, effects, done]
        exact .refl tree (by simp [Event.isSaved])
  | prepare directory =>
      refine ⟨[], List.nil_prefix, ?_⟩
      obtain ⟨after, adds, ⟨fault, _, done⟩ | ⟨_, done⟩⟩ := run_prepare tree directory
      · rw [perform, effects, done]
        exact .of_addsDirectories adds (List.forall_mem_nil _)
      · rw [perform, effects, done]
        exact .of_addsDirectories adds (by simp [Event.isSaved])
  | save folder part =>
      rcases Folder.saves_or_failsToSave folder part tree with ⟨after, saved⟩ | ⟨fault, fails⟩
      · rw [perform, effects, Folder.run_save_of_saves saved]
        exact ⟨_, List.prefix_refl _, .of_saves saved⟩
      · rw [perform, effects, Folder.run_save_of_failsToSave fails]
        exact ⟨[], List.nil_prefix, .refl tree (List.forall_mem_nil _)⟩
  | split text directory => exact exists_accounts_split tree text directory
  | splitFile input directory => exact exists_accounts_splitFile tree input directory
  | run given => exact exists_accounts_run tree given

theorem performAll_accounts (calls : List Call) (tree : FileTree) :
    Accounts (madeByAll calls tree) (performAll calls tree).1 tree (performAll calls tree).2 := by
  induction calls generalizing tree with
  | nil => exact .refl tree (List.forall_mem_nil _)
  | cons call later ih => exact (call.accounts tree).append (ih _)

/-- Calls of the operations, any number of them in any order and with any outcome, from
any tree.  Directories stay, links keep their targets, files stay files, and what is
added are directories and files.  Only where the path of a saved section leads can a
file be added or change its content, and it holds a section that has been saved there.
The events tell of every saved section, in order. -/
theorem performAll_onlyAdds (calls : List Call) (tree : FileTree) :
    FileTree.OnlyAdds tree (performAll calls tree).2 ∧
      Accounts (madeByAll calls tree) (performAll calls tree).1 tree
        (performAll calls tree).2 := by
  have accounts := performAll_accounts calls tree
  exact ⟨accounts.onlyAdds, accounts⟩

-- The link leads both calls to one directory, in which another one stands where the
-- second section of the document belongs.
example :
    let tree : FileTree := ⟨[(["a".toList], .directory), (["b".toList], .link "a".toList),
      (["Epic_2_B.md".toList, "a".toList], .directory)]⟩
    let first : Save := ⟨⟨"b".toList⟩, "## Epic 1: A".toList, []⟩
    let second : Save := ⟨⟨"a".toList⟩, "## Epic 1: A!".toList, "x".toList⟩
    madeByAll [.save first.folder first.part,
      .split "## Epic 1: A!\nx\n## Epic 2: B".toList "a".toList] tree = [first, second] := by
  decide +kernel

end Epics
