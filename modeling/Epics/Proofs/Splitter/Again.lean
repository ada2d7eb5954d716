import Epics.Proofs.FileTree.Files
import Epics.Proofs.Section.Reread
import Epics.Proofs.Splitter.FinalState
import Epics.Proofs.Utf8

/-!
# Splitting a written file again

A file that a split has written holds one of the sections, also where links lead
several file names to one file.  Splitting it again into the same directory changes
nothing, unless trimming has made a heading of the first line of the body.
-/

namespace Epics

open Heading

variable {folder : Folder} {part : Section} {parts later : List Section}
  {text directory input path : Text} {place : Location} {summary : Summary}
  {tree before next after : FileTree}

/-! ## Files that hold sections -/

namespace Folder

/-- The path of a section leads to a file that holds this section. -/
def Holds (folder : Folder) (tree : FileTree) (part : Section) (place : Location) : Prop :=
  tree.LeadsTo (folder.filePath part.title) place ∧
    tree.get? place = some (.file (Utf8.encode part.render))

theorem saves_iff : folder.Saves part before after ↔
    ∃ place, before.LeadsTo (folder.filePath part.title) place ∧
      after = before.set place (.file (Utf8.encode part.render)) :=
  FileTree.writeFile_eq_ok_iff

/-- Saving a section puts a file where its path leads, which holds the section then. -/
theorem Saves.exists_putsFile (saves : folder.Saves part before after) :
    ∃ place, before.LeadsTo (folder.filePath part.title) place ∧
      folder.Holds after part place ∧
      FileTree.PutsFile place (Utf8.encode part.render) before after ∧
      FileTree.WritesFiles before after := by
  obtain ⟨place, leads, rfl⟩ := saves_iff.mp saves
  have writes := FileTree.WritesFiles.of_set leads.takesFile (Utf8.encode part.render)
  have puts := leads.putsFile (Utf8.encode part.render)
  exact ⟨place, leads, ⟨leads.of_writesFiles writes, puts.isFile⟩, puts, writes⟩

/-- A section that has been saved is in the file that its path leads to, and all
other places are as before. -/
theorem Saves.holds (saves : folder.Saves part before after) :
    FileTree.WritesFiles before after ∧
      ∃ place, folder.Holds after part place ∧
        ∀ other, other ≠ place → after.get? other = before.get? other := by
  obtain ⟨place, _, holds, puts, writes⟩ := saves.exists_putsFile
  exact ⟨writes, place, holds, puts.keeps⟩

/-- Saving a section where it is held already changes nothing. -/
theorem Holds.saves (holds : folder.Holds tree part place) : folder.Saves part tree tree :=
  saves_iff.mpr ⟨place, holds.1, (FileTree.set_of_get? holds.1.ne_nil holds.2).symm⟩

/-- After sections have been saved, every place is as before or is the file of one
of them. -/
theorem SavesAll.get?_eq_or_holds (saves : folder.SavesAll parts before after) :
    FileTree.WritesFiles before after ∧
      ∀ place, after.get? place = before.get? place ∨
        ∃ last ∈ parts, folder.Holds after last place := by
  induction saves with
  | nil tree => exact ⟨FileTree.WritesFiles.refl tree, fun _ => Or.inl rfl⟩
  | @cons part later before next after first rest ih =>
      obtain ⟨writesFirst, home, holds, others⟩ := first.holds
      obtain ⟨writesLater, laterHolds⟩ := ih
      refine ⟨writesFirst.trans writesLater, fun place => ?_⟩
      -- A later section can be saved at the same place, where names or links meet; then
      -- that one is held.
      rcases laterHolds place with same | ⟨last, inLater, holdsLast⟩
      · by_cases isHome : place = home
        · subst isHome
          exact Or.inr ⟨part, List.mem_cons_self, holds.1.of_writesFiles writesLater,
            same.trans holds.2⟩
        · exact Or.inl (same.trans (others place isHome))
      · exact Or.inr ⟨last, List.mem_cons_of_mem part inLater, holdsLast⟩

/-- A section that has been saved before others is held still, or one of the others is
held at its place. -/
theorem Saves.holds_or_overwritten (first : folder.Saves part before next)
    (rest : folder.SavesAll later next after) :
    ∃ place, after.LeadsTo (folder.filePath part.title) place ∧
      (folder.Holds after part place ∨ ∃ last ∈ later, folder.Holds after last place) := by
  obtain ⟨_, place, holds, _⟩ := first.holds
  obtain ⟨writes, laterHolds⟩ := rest.get?_eq_or_holds
  have leads := holds.1.of_writesFiles writes
  refine ⟨place, leads, ?_⟩
  rcases laterHolds place with same | overwritten
  · exact Or.inl ⟨leads, same.trans holds.2⟩
  · exact Or.inr overwritten

/-- After sections have been saved, the path of each leads to a file that holds one
of them. -/
theorem SavesAll.exists_holds (saves : folder.SavesAll parts before after)
    (member : part ∈ parts) :
    ∃ last ∈ parts, ∃ place, after.LeadsTo (folder.filePath part.title) place ∧
      folder.Holds after last place := by
  induction saves with
  | nil tree => exact absurd member List.not_mem_nil
  | @cons first later before next after saved rest ih =>
      rcases List.mem_cons.mp member with rfl | inLater
      · obtain ⟨place, leads, holds | ⟨last, isLater, holds⟩⟩ := saved.holds_or_overwritten rest
        · exact ⟨part, List.mem_cons_self, place, leads, holds⟩
        · exact ⟨last, List.mem_cons_of_mem part isLater, place, leads, holds⟩
      · obtain ⟨last, isLater, place, leads, holds⟩ := ih inLater
        exact ⟨last, List.mem_cons_of_mem first isLater, place, leads, holds⟩

/-- Saving one section again changes nothing exactly when it is what is read under
its path. -/
theorem savesAll_singleton_iff : folder.SavesAll [part] tree tree ↔
    tree.readFile (folder.filePath part.title) = .ok (Utf8.encode part.render) := by
  rw [FileTree.readFile_eq_ok_iff]
  constructor
  · intro saves
    obtain ⟨last, isLast, place, _, holds⟩ := saves.exists_holds List.mem_cons_self
    rw [List.mem_singleton.mp isLast] at holds
    exact ⟨place, holds⟩
  · rintro ⟨place, holds⟩
    exact .cons (Holds.saves holds) (.nil tree)

end Folder

/-! ## Runs that change nothing -/

/-- Splitting a file into a directory succeeds and changes nothing. -/
def KeepsTree (tree : FileTree) (input directory : Text) : Prop :=
  ∃ summary, ((splitFile FileTree.store input directory).run tree).1.result = .ok summary ∧
    ((splitFile FileTree.store input directory).run tree).2 = tree

/-- A file that holds the UTF-8 form of a text is read as this text. -/
theorem run_readDocument_of_encode (read : tree.readFile input = .ok (Utf8.encode text)) :
    (readDocument FileTree.store input).run tree =
      (⟨.ok text, [.documentRead (Utf8.encode text).length input]⟩, tree) := by
  have run : (FileTree.store.readFile input).run tree = (tree.readFile input, tree) := rfl
  rw [read] at run
  rw [readDocument, run_bind_of_run run]
  simp only [Utf8.decode_encode]
  rfl

/-- Where the directory is there and the file can be read, splitting the file
changes nothing exactly when saving its sections changes nothing. -/
theorem keepsTree_iff {home : Location} (found : tree.home? directory = some home)
    (read : tree.readFile input = .ok (Utf8.encode text)) :
    KeepsTree tree input directory ↔
      Folder.SavesAll ⟨directory⟩ (Section.ofDocument text) tree tree := by
  have made := FileTree.makeDirectories_of_home? found
  constructor
  · rintro ⟨summary, succeeded, same⟩
    cases run : (split FileTree.store text directory).run tree with
    | mk report after =>
        have runFile := run_splitFile_of_ok (run_readDocument_of_encode read) run
        rw [runFile] at succeeded same
        obtain rfl : after = tree := same
        have splitSucceeded :
            ((split FileTree.store text directory).run after).1.result = .ok summary := by
          rw [run]
          exact succeeded
        obtain ⟨prepared, madeHere, saves, _⟩ := savesAll_of_split_ok splitSucceeded
        obtain rfl : after = prepared := congrArg Prod.snd (made.symm.trans madeHere)
        rw [run] at saves
        exact saves
  · intro saves
    have runFile := run_splitFile_of_ok (run_readDocument_of_encode read)
      (run_split_of_savesAll made saves)
    exact ⟨_, congrArg (fun done => done.1.result) runFile, congrArg Prod.snd runFile⟩

/-! ## Files that a split has written -/

/-- After a successful split, from any tree and through any links, each path that it
reports leads to a file that holds one of the sections.  Splitting this file again
into the directory succeeds and changes nothing if the body of the section does not
begin with a heading, which it does only where it was indented.  If it does, splitting
the file again fails or changes the tree, unless the title is no heading any more: then
the section that the first line of the body opens is all that is found in the file, and
nothing changes exactly when it stands in its own file already. -/
theorem splitFile_of_mem_written
    (succeeded : ((split FileTree.store text directory).run tree).1.result = .ok summary)
    (member : path ∈ summary.written) :
    let after := ((split FileTree.store text directory).run tree).2
    ∃ part ∈ Section.ofDocument text,
      after.readFile path = .ok (Utf8.encode part.render) ∧
      (Opens part.body → Section.IsIndented text part) ∧
      (¬Opens part.body → KeepsTree after path directory) ∧
      (Opens part.body → HasText part.title → ¬KeepsTree after path directory) ∧
      (Opens part.body → ¬HasText part.title →
        ∃ inner, Section.ofDocument part.render = [inner] ∧
          Section.ofDocument part.body = [inner] ∧
          inner.title = Text.trim (part.body.takeWhile (· != '\n')) ∧
          (KeepsTree after path directory ↔
            after.readFile (Path.join directory inner.fileName) =
              .ok (Utf8.encode inner.render))) := by
  obtain ⟨prepared, made, saves, rfl⟩ := savesAll_of_split_ok succeeded
  intro after
  obtain ⟨home, foundPrepared⟩ := FileTree.makeDirectories_ok made
  have found : after.home? directory = some home :=
    FileTree.home?_of_keepsWays saves.get?_eq_or_holds.1.keepsWays foundPrepared
  obtain ⟨source, isSource, rfl⟩ := List.mem_map.mp member
  obtain ⟨part, isPart, place, leads, holds⟩ := saves.exists_holds isSource
  have read : after.readFile (Path.join directory source.fileName) =
      .ok (Utf8.encode part.render) := leads.readFile_eq holds.2
  have extracted := Section.isExtracted_of_mem_ofDocument isPart
  refine ⟨part, isPart, read, Section.isIndented_of_opens isPart, ?_, ?_, ?_⟩
  · intro closed
    rw [keepsTree_iff found read, Section.ofDocument_render_of_closed extracted closed]
    split
    · exact .cons holds.saves (.nil after)
    · exact .nil after
  · intro opens titled
    rw [extracted.hasText_iff] at titled
    rw [keepsTree_iff found read]
    intro savesAgain
    obtain ⟨inner, only, _⟩ := Section.exists_ofDocument_body extracted opens
    have sections := Section.ofDocument_render_of_opens extracted opens only
    rw [if_pos titled] at sections
    -- The first section of the file has its title, hence its path, so what is saved
    -- there is another content for the place of the file.
    obtain ⟨again, isAgain, other, leadsAgain, holdsAgain⟩ :=
      savesAgain.exists_holds (sections ▸ List.mem_cons_self)
    obtain rfl := holds.1.unique leadsAgain
    have sameContent := Entry.file.inj (Option.some.inj (holdsAgain.2.symm.trans holds.2))
    exact Section.render_ne_of_mem_ofDocument_render extracted titled opens isAgain
      (Utf8.encode_inj.mp sameContent)
  · intro opens spoiled
    rw [extracted.hasText_iff] at spoiled
    obtain ⟨inner, only, title⟩ := Section.exists_ofDocument_body extracted opens
    have sections := Section.ofDocument_render_of_opens extracted opens only
    rw [if_neg spoiled] at sections
    refine ⟨inner, sections, only, title, ?_⟩
    rw [keepsTree_iff found read, sections, Folder.savesAll_singleton_iff]
    rfl

/-- Where a link leads the name of the second section to the file of the first, the
path of the first leads to the second section, and splitting it changes nothing. -/
theorem splitFile_of_mem_written_through_link :
    let out := "out".toList
    let first := "out/Epic_1_A.md".toList
    let second := "out/Epic_2_B.md".toList
    let tree : FileTree := ⟨[([out], .directory),
      (["Epic_2_B.md".toList, out], .link "Epic_1_A.md".toList)]⟩
    let text := "## Epic 1: A\nx\n## Epic 2: B\n\ny ## Epic 3: C".toList
    ((split FileTree.store text out).run tree).1.result = .ok ⟨out, 2, [first, second]⟩ ∧
    first ∈ [first, second] ∧
    (∀ part ∈ Section.ofDocument text, ¬Opens part.body) ∧
    KeepsTree ((split FileTree.store text out).run tree).2 first out := by
  intro out first second tree text
  have succeeded : ((split FileTree.store text out).run tree).1.result =
      .ok ⟨out, 2, [first, second]⟩ := by decide +kernel
  have isWritten : first ∈ [first, second] := List.mem_cons_self
  have closed : ∀ part ∈ Section.ofDocument text, ¬Opens part.body := by decide +kernel
  obtain ⟨part, isPart, _, _, keeps, _⟩ := splitFile_of_mem_written succeeded isWritten
  exact ⟨succeeded, isWritten, closed, keeps (closed part isPart)⟩

/-- A heading behind a space belongs to the body above it, but without the space it
opens a section when the file of that body is split again. -/
theorem not_keepsTree_of_indented_heading :
    let out := "out".toList
    let path := "out/Epic_1_A.md".toList
    let text := "## Epic 1: A\n ## Epic 2: B\nx".toList
    ((split FileTree.store text out).run .empty).1.result = .ok ⟨out, 1, [path]⟩ ∧
    ¬KeepsTree ((split FileTree.store text out).run .empty).2 path out := by
  intro out path text
  have changed : ((splitFile FileTree.store path out).run
      ((split FileTree.store text out).run .empty).2).2 ≠
        ((split FileTree.store text out).run .empty).2 := by decide +kernel
  refine ⟨by decide +kernel, ?_⟩
  rintro ⟨_, _, same⟩
  exact changed same

end Epics
