import Epics.Proofs.Section.Tiles
import Epics.Proofs.Splitter.Failure
import Epics.Proofs.Utf8

/-!
# The events of a split

The events of a split tell what has happened, in order: the directory is there, the
sections of the whole document are located and counted, and then those are saved that
can be.  A run that stops has located all sections as well, since nothing is written
before; how many it has saved says where it has stopped.
-/

namespace Epics

open Heading

/-- The events of locating the sections of a text: either there is no heading, or what
stands above the first one is discarded and every section is found. -/
inductive LocatingEvents (text : Text) : List Event → Prop
  | nothing (noHeading : ∀ line ∈ Text.lines text, ¬IsHeading line) :
      LocatingEvents text [.noHeadings (Utf8.encode text).length]
  | sections {above below : Text} (cut : text = above ++ below) (ends : Text.EndsLine above)
      (noHeading : ∀ line ∈ Text.lines above, ¬IsHeading line) (opens : Opens below) :
      LocatingEvents text
        ((if (Utf8.encode above).length = 0 then []
          else [.preambleDiscarded (Utf8.encode above).length]) ++
          (Section.ofDocument text).map fun part =>
            .sectionFound part.title (Utf8.encode part.body).length)

/-- The events of finding sections, which go by spans, are those of locating them. -/
theorem locatingEvents_findingEvents (text : Text) :
    LocatingEvents text (findingEvents text) := by
  rcases Section.noHeading_or_exists_cut text with
    ⟨spans, noHeading⟩ | ⟨above, below, stop, later, cut, ends, noHeading, opens, spans⟩
  · have events : findingEvents text = [.noHeadings (Utf8.encode text).length] := by
      rw [findingEvents, Section.ofDocument, spans, Utf8.length_encode]
      rfl
    rw [events]
    exact .nothing noHeading
  · have located := LocatingEvents.sections cut ends noHeading opens
    simp only [Utf8.length_encode] at located
    rw [findingEvents, spans]
    exact located

/-- The events of a split, from any tree.  There are none when the directory cannot be
made.  Otherwise the directory is ready, all sections of the document are located and
counted, and there is one event, with title and path, for each section that has been
saved: for those above the section that could not be written, or for all of them. -/
theorem run_split_events (text : Text) :
    ∃ located, LocatingEvents text located ∧ ∀ tree directory,
      let sections := Section.ofDocument text
      let prepared := Event.directoryReady directory ::
        (located ++ [.sectionsCounted sections.length])
      let saved (part : Section) := Event.sectionSaved part.title (Path.join directory part.fileName)
      match (split FileTree.store text directory).run tree with
      | (⟨.error (.input _), _⟩, _) => False
      | (⟨.error (.storage (.directory _ _)), events⟩, _) => events = []
      | (⟨.error (.storage (.file path fault)), events⟩, after) =>
          ∃ index heading part, StoppedAt text directory index heading part fault tree after ∧
            path = Path.join directory part.fileName ∧
            events = prepared ++ (sections.take index).map saved
      | (⟨.ok summary, events⟩, _) =>
          summary.sectionsFound = sections.length ∧
          summary.written = sections.map (fun part => Path.join directory part.fileName) ∧
          events = prepared ++ sections.map saved := by
  refine ⟨findingEvents text, locatingEvents_findingEvents text, fun tree directory => ?_⟩
  intro sections prepared saved
  rcases split_cases tree text directory with
    ⟨fault, after, failed⟩ | ⟨ready, after, made, saves |
      ⟨done, part, later, fault, split, saves, fails⟩⟩
  · rw [run_split_of_makeDirectories_error failed]
  · rw [run_split_of_savesAll made saves]
    exact ⟨rfl, rfl, rfl⟩
  · obtain ⟨heading, stopped⟩ := exists_stoppedAt made split saves fails
    have above : sections.take done.length = done := by
      rw [show sections = _ from split, List.take_left]
    rw [run_split_of_failsToSave made split saves fails]
    refine ⟨done.length, heading, part, stopped, rfl, ?_⟩
    rw [above]
    rfl

-- What stands above the first heading is measured in bytes, and so are the bodies.
example : findingEvents "né\n## Epic 1: A\nvoilà\n## Epic 2: B".toList =
    [.preambleDiscarded 4, .sectionFound "## Epic 1: A".toList 6,
      .sectionFound "## Epic 2: B".toList 0] := by
  decide +kernel

end Epics
