import Epics.Proofs.FileTree.Files
import Epics.Proofs.Splitter.Run
import Epics.Proofs.Utf8.Faults

/-!
# Reading a document

A file is read as the text whose UTF-8 form it holds, byte for byte.  When it holds
something else, the problem says where its first fault is.
-/

namespace Epics

variable {tree : FileTree} {path : Text} {content : Bytes}

/-- Reading a document leaves the tree as it is. -/
theorem run_readDocument_tree (tree : FileTree) (path : Text) :
    ((readDocument FileTree.store path).run tree).2 = tree := by
  rcases run_readDocument tree path with ⟨problem, _, run⟩ | ⟨content, text, _, _, run⟩
  · rw [run]
  · rw [run]

/-- What can be read is decoded. -/
theorem run_readDocument_result (read : tree.readFile path = .ok content) :
    ((readDocument FileTree.store path).run tree).1.result =
      (Utf8.decode content).mapError (.notUtf8 path) := by
  have run : (FileTree.store.readFile path).run tree = (.ok content, tree) := by
    rw [← read]
    rfl
  rw [readDocument, run_bind_of_run run]
  dsimp only
  cases Utf8.decode content with
  | error fault => rfl
  | ok text => rfl

/-- Reading a document, from any tree and by any path, changes nothing.  When the path
leads to a file, it succeeds exactly if the content is UTF-8, with the text of which the
content is the form.  Otherwise the problem names the path and the size of the longest
well-formed part in front, and tells what is wrong behind it. -/
theorem run_readDocument_decodes (tree : FileTree) (path : Text) :
    let done := (readDocument FileTree.store path).run tree
    done.2 = tree ∧
    ∀ place content, tree.LeadsTo path place → tree.get? place = some (.file content) →
      ((∃ text, done.1.result = .ok text) ↔ Utf8.IsWellFormed content) ∧
      (∀ text, done.1.result = .ok text → Utf8.encode text = content) ∧
      (¬Utf8.IsWellFormed content → ∃ fault words,
        done.1.result = .error (.notUtf8 path fault) ∧
        (InputProblem.notUtf8 path fault).message =
          "Input file ".toList ++ path ++ " is not valid UTF-8: ".toList ++ words ∧
        Utf8.LongestText content fault.index ∧ Utf8.Diagnosis content fault.index words) := by
  intro done
  refine ⟨run_readDocument_tree tree path, fun place content leads isFile => ?_⟩
  have result : done.1.result = _ := run_readDocument_result (leads.readFile_eq isFile)
  rw [result]
  rcases Utf8.decode_cases content with
    ⟨text, decoded, encoded⟩ | ⟨fault, decoded, notWellFormed, longest, diagnosis⟩
  · have wellFormed : Utf8.IsWellFormed content := ⟨text, encoded⟩
    rw [decoded]
    refine ⟨⟨fun _ => wellFormed, fun _ => ⟨text, rfl⟩⟩, ?_,
      fun notWellFormed => absurd wellFormed notWellFormed⟩
    intro given succeeded
    cases succeeded
    exact encoded
  · rw [decoded]
    refine ⟨⟨?_, fun wellFormed => absurd wellFormed notWellFormed⟩, nofun,
      fun _ => ⟨fault, fault.message, rfl, rfl, longest, diagnosis⟩⟩
    rintro ⟨text, succeeded⟩
    cases succeeded

/-- A file whose last character is cut off by another one behind its third byte. -/
theorem run_readDocument_decodes_cut_character :
    let path := "epics.md".toList
    let content := Utf8.encode "né".toList ++ [0xF0, 0x9F, 0x98, 0x41]
    let tree : FileTree := ⟨[([path], .file content)]⟩
    tree.LeadsTo path [path] ∧ tree.get? [path] = some (.file content) ∧
    ¬Utf8.IsWellFormed content ∧
    ((readDocument FileTree.store path).run tree).1.result =
      .error (.notUtf8 path ⟨3, some 3⟩) ∧
    Utf8.LongestText content 3 ∧
    Utf8.Diagnosis content 3 "invalid utf-8 sequence of 3 bytes from index 3".toList := by
  intro path content tree
  have isFile : tree.get? [path] = some (.file content) := by decide +kernel
  have leads : tree.LeadsTo path [path] :=
    ⟨by decide +kernel, .arrives (by decide) (Or.inr ⟨content, isFile⟩)⟩
  have failed : ((readDocument FileTree.store path).run tree).1.result =
      .error (.notUtf8 path ⟨3, some 3⟩) := rfl
  obtain ⟨succeeds, _, faulty⟩ := (run_readDocument_decodes tree path).2 [path] content leads isFile
  have notWellFormed : ¬Utf8.IsWellFormed content := by
    intro wellFormed
    obtain ⟨text, succeeded⟩ := succeeds.mpr wellFormed
    exact absurd (failed.symm.trans succeeded) nofun
  obtain ⟨fault, words, failedHere, message, longest, diagnosis⟩ := faulty notWellFormed
  obtain ⟨_, rfl⟩ := InputProblem.notUtf8.inj (Except.error.inj (failed.symm.trans failedHere))
  have worded : (InputProblem.notUtf8 path ⟨3, some 3⟩).message =
      "Input file ".toList ++ path ++ " is not valid UTF-8: ".toList ++
        "invalid utf-8 sequence of 3 bytes from index 3".toList := by decide +kernel
  obtain rfl := List.append_cancel_left (worded.symm.trans message)
  exact ⟨leads, isFile, notWellFormed, failed, longest, diagnosis⟩

end Epics
