import SearchLink.CommandLine.Report

/-!
# `SearchLink.Main`: the program

Reads the file that the command needs, runs the command, and writes its report. The program has
no socket of its own to listen at, so it can take no requests.
-/

set_option autoImplicit false

namespace SearchLink.CommandLine

/-- The content of a file, if it can be read. -/
def readFile? (name : String) : IO (Option Text) := do
  try
    return some (← IO.FS.readFile name).toList
  catch _ => return none

/-- The surroundings in which a command finds the file that it reads. -/
def surroundings (command : Except Interruption Command) :
    IO Surroundings := do
  let canListen : Text → Bool := fun _ => false
  match command.toOption.bind Command.file? with
  | none => return { content? := fun _ => none, canListen }
  | some file =>
    let content ← readFile? (String.ofList file)
    return { content? := fun name => if name = file then content else none, canListen }

end SearchLink.CommandLine

open SearchLink.CommandLine in
/-- Runs a command line. -/
def main (arguments : List String) : IO UInt32 := do
  let arguments := arguments.map String.toList
  let report := run (← surroundings (Command.parse arguments)) arguments
  IO.print (String.ofList report.output)
  IO.eprint (String.ofList report.complaint)
  return UInt32.ofNat report.code
