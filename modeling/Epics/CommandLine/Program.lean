import Epics.CommandLine.Usage
import Epics.EventFilter
import Epics.Splitter

/-!
# The program

What the program as a whole leaves behind: an exit code, a text on standard
output, and on standard error the log lines of the events that pass the filter,
followed by the error message if there is one.
-/

namespace Epics

/-- What a run of the program ends with: its exit code, and what it has itself written to
standard output and to standard error. -/
structure Exit where
  code : Nat
  output : Text
  errors : Text
  deriving DecidableEq, Repr

/-- The log lines of the events that a filter lets through. -/
def logLines (filter : EventFilter) (events : List Event) : Text :=
  (events.filter filter.allows).flatMap Event.line

/-- How the program ends when its arguments are refused. -/
def Exit.ofRefusal (filter : EventFilter) (refusal : Refusal) : Exit :=
  let log := logLines filter [.recording]
  if refusal.isAnswer then ⟨0, refusal.written, log⟩
  else ⟨2, [], log ++ refusal.written⟩

/-- How the program ends after a run with the given arguments. -/
def Exit.ofReport (filter : EventFilter) (arguments : Arguments)
    (report : Report Problem Summary) : Exit :=
  let log := logLines filter (.recording :: .started arguments :: report.events)
  match report.result with
  | .ok summary =>
      ⟨0, "Successfully split epics into folder: ".toList ++ summary.outputDirectory ++ ['\n'],
        log⟩
  | .error problem => ⟨1, [], log ++ "Error: ".toList ++ problem.message ++ ['\n']⟩

/-- How the program ends when the reading of its setting breaks off.  It has written
nothing then; what the system tells of such an end, on standard error, is not the
program's and not part of its exit. -/
def Exit.aborted : Exit := ⟨101, [], []⟩

/-- Runs the program with a list of arguments and a setting for the filter, which is
read first. -/
def program {m : Type → Type} [Monad m] (store : FileStore m) (arguments : List Text)
    (setting : Option Text) : m Exit := do
  match EventFilter.ofSetting? setting with
  | none => return .aborted
  | some filter =>
      match Arguments.parse arguments with
      | .error refusal => return .ofRefusal filter refusal
      | .ok arguments => return .ofReport filter arguments (← run store arguments)

end Epics
