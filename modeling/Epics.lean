import Epics.Main
import Epics.Proofs.Text.Lines
import Epics.Proofs.Text.Search
import Epics.Proofs.Text.Trim
import Epics.Proofs.Heading.Lines
import Epics.Proofs.Section.Lines
import Epics.Proofs.Section.Cut
import Epics.Proofs.Section.Extracted
import Epics.Proofs.Section.RoundTrip
import Epics.Proofs.FileName
import Epics.Proofs.FileTree.Walk
import Epics.Proofs.FileTree.Write
import Epics.Proofs.FileTree.Directories
import Epics.Proofs.Splitter.Run
import Epics.Proofs.Splitter.FinalState
import Epics.Proofs.Splitter.Failure
import Epics.Proofs.Section.SharedName
import Epics.Proofs.Section.Tiles
import Epics.Proofs.Section.LineEndings
import Epics.Proofs.FileTree.Files
import Epics.Proofs.Section.Reread
import Epics.Proofs.Splitter.Again
import Epics.Proofs.Section.Append
import Epics.Proofs.Splitter.Repeated
import Epics.Proofs.Splitter.Append
import Epics.Proofs.Splitter.Confined
import Epics.Proofs.Splitter.Folder
import Epics.Proofs.Splitter.Events
import Epics.Proofs.Splitter.History
import Epics.Proofs.CommandLine.Program
import Epics.Proofs.Utf8.Faults
import Epics.Proofs.Splitter.Document
import Epics.Proofs.FileName.NormalForm
import Epics.Proofs.CommandLine.Grammar
import Epics.Proofs.Splitter.NameLength
import Epics.Proofs.Text.Slice
import Epics.Proofs.Heading.Spans
import Epics.Proofs.Section.Slices
