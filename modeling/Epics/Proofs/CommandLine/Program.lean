import Epics.CommandLine.Program
import Epics.Proofs.CommandLine.Refusal
import Epics.Proofs.EventFilter
import Epics.Proofs.Splitter.FinalState

/-!
# The program and the run

What the program comes to is settled by its arguments and the run over the file tree,
unless the reading of its setting breaks off.  Any other setting decides which of the
events are printed, and nothing else: under its filter they are some of those printed
under the finest one.
-/

namespace Epics

/-! ## The events that are printed -/

/-- The lines that are printed for events under a filter. -/
def printed (filter : EventFilter) (events : List Event) : List Text :=
  (events.filter filter.allows).map Event.line

theorem logLines_eq_flatten (filter : EventFilter) (events : List Event) :
    logLines filter events = (printed filter events).flatten :=
  List.flatMap_def

namespace EventFilter

/-- The filter for the finest level: one directive for all events. -/
def finest : EventFilter := [⟨none, .everywhere, some .trace⟩]

theorem ofSetting?_trace : ofSetting? (some "trace".toList) = some finest := by
  decide +kernel

/-- The finest filter lets all events through. -/
theorem allows_finest (event : Event) : finest.allows event = true := by
  cases event <;> rfl

end EventFilter

theorem printed_finest (events : List Event) : printed .finest events = events.map Event.line := by
  rw [printed, List.filter_eq_self.mpr fun event _ => EventFilter.allows_finest event]

/-- The lines printed under any filter are some of those printed under the finest, in the
same order. -/
theorem printed_sublist (filter : EventFilter) (events : List Event) :
    (printed filter events).Sublist (printed .finest events) := by
  rw [printed_finest]
  exact List.filter_sublist.map _

/-! ## What the program comes to -/

/-- What the program comes to, before any filter has chosen from its events. -/
structure Outcome where
  code : Nat
  output : Text
  /-- What has happened, in order. -/
  events : List Event
  /-- What is said on standard error behind the log lines. -/
  complaint : Text
  /-- The tree that is left. -/
  tree : FileTree

/-- How an outcome shows under a filter. -/
def Outcome.exit (outcome : Outcome) (filter : EventFilter) : Exit :=
  ⟨outcome.code, outcome.output, (printed filter outcome.events).flatten ++ outcome.complaint⟩

/-- What the program has to come to with a list of arguments on a tree. -/
inductive ComesTo (tree : FileTree) (arguments : List Text) : Outcome → Prop
  /-- Help is given on standard output. -/
  | help (asked : Arguments.parse arguments = .error .help) :
      ComesTo tree arguments ⟨0, helpText, [.recording], [], tree⟩
  /-- The version is given on standard output. -/
  | version (asked : Arguments.parse arguments = .error .version) :
      ComesTo tree arguments ⟨0, versionText, [.recording], [], tree⟩
  /-- Other arguments that cannot be read are refused on standard error. -/
  | refused {refusal : Refusal} (refuses : Arguments.parse arguments = .error refusal)
      (noHelp : refusal ≠ .help) (noVersion : refusal ≠ .version) :
      ComesTo tree arguments ⟨2, [], [.recording], refusal.written, tree⟩
  /-- A run that succeeds is confirmed on standard output. -/
  | done {given : Arguments} {summary : Summary} {events : List Event} {after : FileTree}
      (reads : Arguments.parse arguments = .ok given)
      (runs : (run FileTree.store given).run tree = (⟨.ok summary, events⟩, after)) :
      ComesTo tree arguments
        ⟨0, "Successfully split epics into folder: ".toList ++ given.outputDirectory ++ ['\n'],
          .recording :: .started given :: events, [], after⟩
  /-- The problem of a run that fails is told on standard error. -/
  | failed {given : Arguments} {problem : Problem} {events : List Event} {after : FileTree}
      (reads : Arguments.parse arguments = .ok given)
      (runs : (run FileTree.store given).run tree = (⟨.error problem, events⟩, after)) :
      ComesTo tree arguments
        ⟨1, [], .recording :: .started given :: events,
          "Error: ".toList ++ problem.message ++ ['\n'], after⟩

variable {tree after : FileTree} {arguments : List Text} {refusal : Refusal}
  {given : Arguments} {report : Report Problem Summary} {setting : Option Text}
  {filter : EventFilter}

/-- A setting whose reading breaks off ends the program before anything else. -/
theorem run_program_of_breaksOff (breaks : EventFilter.BreaksOff setting) (tree : FileTree)
    (arguments : List Text) :
    (program FileTree.store arguments setting).run tree = (.aborted, tree) := by
  rw [program, EventFilter.ofSetting?_eq_none_iff.mpr breaks]
  rfl

theorem run_program_of_refusal (tree : FileTree)
    (refuses : Arguments.parse arguments = .error refusal)
    (reads : EventFilter.ofSetting? setting = some filter) :
    (program FileTree.store arguments setting).run tree =
      (.ofRefusal filter refusal, tree) := by
  rw [program, reads, refuses]
  rfl

theorem run_program_of_arguments (parses : Arguments.parse arguments = .ok given)
    (runs : (run FileTree.store given).run tree = (report, after))
    (reads : EventFilter.ofSetting? setting = some filter) :
    (program FileTree.store arguments setting).run tree =
      (.ofReport filter given report, after) := by
  rw [program, reads, parses]
  dsimp only
  rw [run_bind_of_run runs]
  rfl

/-- An outcome is what the program comes to on a tree under every setting that reads. -/
def ShowsAs (tree : FileTree) (arguments : List Text) (outcome : Outcome) : Prop :=
  ∀ {setting filter}, EventFilter.ofSetting? setting = some filter →
    (program FileTree.store arguments setting).run tree = (outcome.exit filter, outcome.tree)

/-- Arguments that give no run come to an answer or to a refusal. -/
theorem exists_comesTo_of_refusal (tree : FileTree)
    (refuses : Arguments.parse arguments = .error refusal) :
    ∃ outcome, ComesTo tree arguments outcome ∧ ShowsAs tree arguments outcome := by
  have program {setting filter} (reads : EventFilter.ofSetting? setting = some filter) :=
    run_program_of_refusal tree refuses reads
  simp only [Exit.ofRefusal, logLines_eq_flatten] at program
  cases refusal with
  | help =>
      refine ⟨_, .help refuses, fun reads => ?_⟩
      rw [program reads, Outcome.exit, List.append_nil]
      rfl
  | version =>
      refine ⟨_, .version refuses, fun reads => ?_⟩
      rw [program reads, Outcome.exit, List.append_nil]
      rfl
  | unknown | attached | empty =>
      exact ⟨_, .refused refuses nofun nofun, program⟩

/-- Arguments that give a run come to its result. -/
theorem exists_comesTo_of_arguments (tree : FileTree)
    (parses : Arguments.parse arguments = .ok given) :
    ∃ outcome, ComesTo tree arguments outcome ∧ ShowsAs tree arguments outcome := by
  cases runs : (run FileTree.store given).run tree with
  | mk report after =>
      obtain ⟨result, events⟩ := report
      cases result with
      | error problem =>
          refine ⟨_, .failed parses runs, fun reads => ?_⟩
          rw [run_program_of_arguments parses runs reads, Outcome.exit, Exit.ofReport,
            logLines_eq_flatten]
          simp only [List.append_assoc]
      | ok summary =>
          -- The confirmation names the directory of the summary, which is the given one.
          have directory := outputDirectory_of_run_ok runs
          refine ⟨_, .done parses runs, fun reads => ?_⟩
          rw [run_program_of_arguments parses runs reads, Outcome.exit, Exit.ofReport,
            logLines_eq_flatten, List.append_nil]
          simp only [directory]

theorem exists_comesTo (tree : FileTree) (arguments : List Text) :
    ∃ outcome, ComesTo tree arguments outcome ∧ ShowsAs tree arguments outcome := by
  cases parsed : Arguments.parse arguments with
  | error refusal => exact exists_comesTo_of_refusal tree parsed
  | ok given => exact exists_comesTo_of_arguments tree parsed

/-- Under every setting whose reading does not break off, the program does on every tree
and with every list of arguments what the run does, and tells its result by its exit code
and its output.  The setting has no part in this, nor in the tree and the error message:
the lines that are printed before the message are some of those printed under the setting
for the finest level, in their order.  The message for arguments without controls that are
refused is the refusal as it reads.  A setting whose reading breaks off, which takes white
space in front of a part that is not ASCII, ends the program with the tree as it was and
with nothing written, whatever the arguments are. -/
theorem program_refines_run (tree : FileTree) (arguments : List Text) :
    (∃ outcome, ComesTo tree arguments outcome ∧
      (∀ setting, ¬ EventFilter.BreaksOff setting →
        ∃ filter, EventFilter.ofSetting? setting = some filter ∧
          (program FileTree.store arguments setting).run tree =
            (outcome.exit filter, outcome.tree) ∧
          (printed filter outcome.events).Sublist (printed .finest outcome.events)) ∧
      ∀ refusal, Arguments.parse arguments = .error refusal →
        (∀ argument ∈ arguments, Text.IsPrintable argument) →
          refusal.written = refusal.message) ∧
    EventFilter.ofSetting? (some "trace".toList) = some .finest ∧
    ∀ setting, EventFilter.BreaksOff setting →
      (program FileTree.store arguments setting).run tree = (⟨101, [], []⟩, tree) ∧
      ∃ text ∈ setting, ∃ part ∈ EventFilter.parts text,
        (∃ char ∈ part.head?, Text.isWhiteSpace char = true) ∧
          ∃ char ∈ part, 0x80 ≤ char.toNat := by
  obtain ⟨outcome, comesTo, shows⟩ := exists_comesTo tree arguments
  refine ⟨⟨outcome, comesTo, fun setting unbroken => ?_, fun _ => Refusal.written_eq_message⟩,
    EventFilter.ofSetting?_trace, fun setting breaks => ?_⟩
  · obtain ⟨filter, reads⟩ := EventFilter.exists_filter_of_not_breaksOff unbroken
    exact ⟨filter, reads, shows reads, printed_sublist filter outcome.events⟩
  · exact ⟨run_program_of_breaksOff breaks tree arguments, breaks.exists_mem_parts⟩

/-- A flag with two letters exchanged is refused under the setting for the finest level,
and not even looked at under a setting that breaks off. -/
theorem program_refines_run_mistyped_flag :
    let arguments := ["--hlep".toList]
    let refusal : Refusal := .unknown "--hlep".toList (.similar .help) 0
    Arguments.parse arguments = .error refusal ∧
    ∀ tree,
      (program FileTree.store arguments (some "trace".toList)).run tree =
        (⟨2, [], Event.recording.line ++ refusal.message⟩, tree) ∧
      (program FileTree.store arguments (some "a=info,\u00a0b=info".toList)).run tree =
        (⟨101, [], []⟩, tree) := by
  intro arguments refusal
  have refuses : Arguments.parse arguments = .error refusal := rfl
  have printable : ∀ argument ∈ arguments, Text.IsPrintable argument := by decide
  have reads : ¬ EventFilter.BreaksOff (some "trace".toList) := by decide +kernel
  have breaks : EventFilter.BreaksOff (some "a=info,\u00a0b=info".toList) := by decide +kernel
  refine ⟨refuses, fun tree => ?_⟩
  obtain ⟨⟨outcome, comesTo, exits, message⟩, trace, aborts⟩ := program_refines_run tree arguments
  obtain ⟨filter, isFinest, exit, _⟩ := exits _ reads
  refine ⟨?_, (aborts _ breaks).1⟩
  obtain rfl := Option.some.inj (isFinest.symm.trans trace)
  rw [exit, ← message refusal refuses printable]
  cases comesTo with
  | refused parsed =>
      obtain rfl := Except.error.inj (refuses.symm.trans parsed)
      rfl
  | help asked | version asked => exact absurd (refuses.symm.trans asked) (by simp [refusal])
  | done parsed | failed parsed => exact absurd (refuses.symm.trans parsed) (by simp)

/-- A setting can end the program where help is asked for, since it is read first, and the
refusal of an argument with white space inside a control sequence is not written to a
stream as it reads. -/
theorem setting_aborts_help_and_stream_shortens_refusal :
    let argument := "c\x1b[\n\x07md".toList
    let arguments := ["a".toList, "b".toList, argument]
    let refusal : Refusal := .unknown argument .nothing 0
    (∀ tree,
      (program FileTree.store ["--help".toList] none).run tree = (⟨0, helpText, []⟩, tree) ∧
      (program FileTree.store ["--help".toList] (some "\u00a0a=info".toList)).run tree =
        (⟨101, [], []⟩, tree)) ∧
    Arguments.parse arguments = .error refusal ∧
    (∀ tree, (program FileTree.store arguments none).run tree =
      (⟨2, [], refusal.written⟩, tree)) ∧
    ¬ refusal.message <:+ refusal.written := by
  intro argument arguments refusal
  have asked : Arguments.parse ["--help".toList] = .error .help := rfl
  have refuses : Arguments.parse arguments = .error refusal := rfl
  have unset : EventFilter.ofSetting? none = some .standard := rfl
  have breaks : EventFilter.BreaksOff (some "\u00a0a=info".toList) := by decide +kernel
  have shorter : refusal.written.length < refusal.message.length := by decide +kernel
  exact ⟨fun tree => ⟨run_program_of_refusal tree asked unset,
      run_program_of_breaksOff breaks tree _⟩,
    refuses, fun tree => run_program_of_refusal tree refuses unset,
    fun ends => Nat.not_le_of_lt shorter ends.length_le⟩

end Epics
