import Epics.Event
import Epics.FileName
import Epics.FileStore
import Epics.Problem
import Epics.Section

/-!
# Splitting a document into files

Splitting makes the directory ready, finds all sections of the document, and
only then writes one file per section, in order, up to the first that fails.
Every operation reports its result together with the events it has caused.
-/

namespace Epics

/-- The result of an operation and the events that it has caused, in order. -/
structure Report (ε α : Type) where
  result : Except ε α
  events : List Event

/-- What a split has done: the directory as it was given, the number of sections
and the paths of the files in the order in which they were written. -/
structure Summary where
  outputDirectory : Text
  sectionsFound : Nat
  written : List Text
  deriving DecidableEq, Repr

/-- A directory that has been made ready to hold the files of sections. -/
structure Folder where
  path : Text
  deriving DecidableEq, Repr

variable {m : Type → Type} [Monad m]

/-- Reads a document, which has to be UTF-8. -/
def readDocument (store : FileStore m) (path : Text) : m (Report InputProblem Text) := do
  match ← store.readFile path with
  | .error fault => return ⟨.error (.unreadable path fault), []⟩
  | .ok bytes =>
      match Utf8.decode bytes with
      | .error fault => return ⟨.error (.notUtf8 path fault), []⟩
      | .ok text => return ⟨.ok text, [.documentRead bytes.length path]⟩

/-- Makes a directory ready to hold the files of sections. -/
def Folder.prepare (store : FileStore m) (path : Text) : m (Report StorageProblem Folder) := do
  match ← store.makeDirectories path with
  | .error fault => return ⟨.error (.directory path fault), []⟩
  | .ok () => return ⟨.ok ⟨path⟩, [.directoryReady path]⟩

/-- The path of the file that holds the section with a title. -/
def Folder.filePath (folder : Folder) (title : Text) : Text :=
  Path.join folder.path (FileName.ofTitle title)

/-- Writes the file of a section and gives its path. -/
def Folder.save (store : FileStore m) (folder : Folder) (part : Section) :
    m (Report StorageProblem Text) := do
  let path := folder.filePath part.title
  match ← store.writeFile path (Utf8.encode part.render) with
  | .error fault => return ⟨.error (.file path fault), []⟩
  | .ok () => return ⟨.ok path, [.sectionSaved part.title path]⟩

/-- Writes the files of sections in order, up to the first that fails, and gives
their paths. -/
def Folder.saveAll (store : FileStore m) (folder : Folder) :
    List Section → m (Report StorageProblem (List Text))
  | [] => return ⟨.ok [], []⟩
  | part :: later => do
      let saved ← folder.save store part
      match saved.result with
      | .error problem => return ⟨.error problem, saved.events⟩
      | .ok path =>
          let rest ← folder.saveAll store later
          return ⟨(path :: ·) <$> rest.result, saved.events ++ rest.events⟩

/-- The events of finding the sections of a document. -/
def findingEvents (text : Text) : List Event :=
  let opening : List Event :=
    match Heading.spans text with
    | [] => [.noHeadings (Text.utf8Size text)]
    | first :: _ => if first.start = 0 then [] else [.preambleDiscarded first.start]
  opening ++
    (Section.ofDocument text).map fun part =>
      .sectionFound part.title (Text.utf8Size part.body)

/-- Splits a document into one file per section in a directory. -/
def split (store : FileStore m) (text directory : Text) : m (Report Problem Summary) := do
  let prepared ← Folder.prepare store directory
  match prepared.result with
  | .error problem => return ⟨.error (.storage problem), prepared.events⟩
  | .ok folder =>
      let sections := Section.ofDocument text
      let found := findingEvents text ++ [.sectionsCounted sections.length]
      let saved ← folder.saveAll store sections
      let events := prepared.events ++ found ++ saved.events
      match saved.result with
      | .error problem => return ⟨.error (.storage problem), events⟩
      | .ok written => return ⟨.ok ⟨folder.path, sections.length, written⟩, events⟩

/-- Reads a document and splits it; a document that cannot be read leaves the
directory untouched. -/
def splitFile (store : FileStore m) (input directory : Text) :
    m (Report Problem Summary) := do
  let read ← readDocument store input
  match read.result with
  | .error problem => return ⟨.error (.input problem), read.events⟩
  | .ok text =>
      let done ← split store text directory
      return ⟨done.result, read.events ++ done.events⟩

/-- Splits the document that the arguments name into the directory that they name. -/
def run (store : FileStore m) (arguments : Arguments) : m (Report Problem Summary) := do
  let done ← splitFile store arguments.input arguments.outputDirectory
  match done.result with
  | .error _ => return done
  | .ok summary =>
      return ⟨done.result,
        done.events ++ [.finished summary.sectionsFound summary.written.length]⟩

end Epics
