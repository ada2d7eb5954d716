import Epics.CommandLine.Program

/-!
# The command line

Runs the program on the files of the disk.
-/

namespace Epics
namespace Disk

/-- The number under which the system reports an error; some calls give it with
a minus sign. -/
def errorNumber? : IO.Error → Option Nat
  | .noFileOrDirectory _ number _ | .alreadyExists _ number _ | .invalidArgument _ number _
  | .inappropriateType _ number _ | .noSuchThing _ number _ | .otherError number _ =>
      some number.toInt32.toInt.natAbs
  | _ => none

/-- Performs an action on a path that names something a system can look up, and
turns the errors that have a fault of their own into that fault. -/
def attempt {α : Type} (path : Text) (action : IO α) : IO (Except Fault α) := do
  match Path.fault? path with
  | some fault => return .error fault
  | none =>
      try
        return .ok (← action)
      catch error =>
        match (errorNumber? error).bind Fault.ofNumber? with
        | some fault => return .error fault
        | none => throw error

/-- The store whose files are those of the disk. -/
def store : FileStore IO where
  readFile path :=
    attempt path do return (← IO.FS.readBinFile (String.ofList path)).toList
  writeFile path content :=
    attempt path (IO.FS.writeBinFile (String.ofList path) ⟨content.toArray⟩)
  makeDirectories path := do
    if path = [] then return .ok ()
    match ← attempt path (IO.FS.createDir (String.ofList path)) with
    | .error .missing | .error .occupied =>
        attempt path (IO.FS.createDirAll (String.ofList path))
    | result => return result

end Disk
end Epics

/-- Runs the program with the arguments of the command line; the environment
variable for the filter is the one that log filters of this form are read from. -/
def main (arguments : List String) : IO UInt32 := do
  let setting ← IO.getEnv "RUST_LOG"
  let exit ← Epics.program Epics.Disk.store (arguments.map String.toList)
    (setting.map String.toList)
  (← IO.getStderr).putStr (String.ofList exit.errors)
  (← IO.getStdout).putStr (String.ofList exit.output)
  return exit.code.toUInt32
