import Epics.Proofs.Splitter.Again

/-!
# What a folder does to a tree

A folder has two operations, and each of them leaves a tree in which it can be done
again.  Making the folder ready adds directories and nothing else, and it succeeds
exactly when the path of the folder leads to a directory afterwards.  Saving a section
either puts one file, from which the section is read back, or changes nothing.
-/

namespace Epics

/-- Making a folder ready, from any tree and for any path.  Whatever comes of it, every
entry stays as it is and what is added are directories.  When it succeeds, the folder
has the path that was given, which leads to a directory, the working directory if it is
empty; done again, it has the same result and changes nothing.  When it fails, the
problem names the path, which leads to no directory. -/
theorem run_prepare_keeps (tree : FileTree) (directory : Text) :
    match (Folder.prepare FileTree.store directory).run tree with
    | (⟨.ok folder, events⟩, after) =>
        FileTree.AddsDirectories tree after ∧ folder.path = directory ∧
        (∃ home, after.home? folder.path = some home ∧ after.HasWay home ∧
          (directory = [] → home = [])) ∧
        (Folder.prepare FileTree.store directory).run after = (⟨.ok folder, events⟩, after)
    | (⟨.error problem, _⟩, after) =>
        FileTree.AddsDirectories tree after ∧ after.home? directory = none ∧
        ∃ fault, problem = .directory directory fault := by
  obtain ⟨after, adds, ⟨fault, failed, run⟩ | ⟨made, run⟩⟩ := run_prepare tree directory
  · rw [run]
    exact ⟨adds, FileTree.makeDirectories_error failed, fault, rfl⟩
  · rw [run]
    obtain ⟨home, found⟩ := FileTree.makeDirectories_ok made
    refine ⟨adds, rfl, ⟨home, found, FileTree.hasWay_of_home? found, ?_⟩,
      run_prepare_ok (FileTree.makeDirectories_of_home? found)⟩
    rintro rfl
    exact (Option.some.inj (FileTree.home?_nil.symm.trans found)).symm

-- Two dots go up from a directory that has to be made first, and a directory that has
-- been made stays when a file is in the way of the next one.
example :
    let tree : FileTree := ⟨[(["file".toList], .file [])]⟩
    (tree.makeDirectories "new/../file/below".toList).1 = .error .occupied ∧
      (tree.makeDirectories "new/../file/below".toList).2.get? ["new".toList] =
        some .directory := by
  decide +kernel

/-- Saving a section with any title and body in any folder and tree.  When it fails, its
path leads to no place that takes a file, the problem names this path, and nothing has
changed.  When it succeeds, it gives its path, which leads to one place before and
after; a file has been put there, or the file there has been replaced, and this is all
that has changed.  Reading the document under the path then gives exactly what was
written. -/
theorem run_save_reads_back (folder : Folder) (part : Section) (tree : FileTree) :
    match (folder.save FileTree.store part).run tree with
    | (⟨.ok path, _⟩, after) =>
        path = Path.join folder.path part.fileName ∧
        (∃ place, tree.LeadsTo path place ∧ after.LeadsTo path place ∧
          FileTree.PutsFile place (Utf8.encode part.render) tree after) ∧
        (readDocument FileTree.store path).run after =
          (⟨.ok part.render, [.documentRead (Utf8.encode part.render).length path]⟩, after)
    | (⟨.error problem, _⟩, after) =>
        (∃ fault, problem = .file (Path.join folder.path part.fileName) fault) ∧
        (∀ place, ¬tree.LeadsTo (Path.join folder.path part.fileName) place) ∧ after = tree := by
  rcases Folder.saves_or_failsToSave folder part tree with ⟨after, saves⟩ | ⟨fault, fails⟩
  · rw [Folder.run_save_of_saves saves]
    obtain ⟨place, leads, ⟨leadsAfter, isFile⟩, puts, _⟩ := saves.exists_putsFile
    exact ⟨rfl, ⟨place, leads, leadsAfter, puts⟩,
      run_readDocument_of_encode (leadsAfter.readFile_eq isFile)⟩
  · rw [Folder.run_save_of_failsToSave fails]
    refine ⟨⟨fault, rfl⟩, fun place leads => ?_, rfl⟩
    exact absurd (fails.symm.trans (leads.writeFile_eq _)) (by simp)

end Epics
