import TapeSheet.CommandLine
import TapeSheet.Disk

/-!
# Sessions

What a program does to files and to its two streams of text, and how it ends. Whatever was done before a program ends
stays done.
-/

namespace TapeSheet

/-- Files, and the text on the two output streams so far. -/
structure World where
  disk : Disk
  out : Text
  err : Text

/-- An early end: with a status, or by a fault that nothing handles. -/
inductive Ending
  | exit (status : Nat)
  | died (fault : Fault)

/-- A part of a program. -/
abbrev Session (α : Type) := EStateM Ending World α

namespace Session

/-- Writes a line. A line with halves of characters is refused, and nothing of it is written. -/
def say (line : Text) : Session Unit :=
  match line.misfit? with
  | none => modify fun w => { w with out := w.out ++ (line ++ Text.ofString "\n") }
  | some misfit => throw (.died (.unprintable misfit))

/-- Writes a line to the stream for warnings, which takes any letter. -/
def warn (line : Text) : Session Unit := modify fun w => { w with err := w.err ++ (line ++ Text.ofString "\n") }

/-- Ends with a status. -/
def exit {α : Type} (status : Nat) : Session α := throw (.exit status)

/-- Ends with a message. -/
def fail {α : Type} (message : Text) : Session α := do
  warn message
  exit 1

/-- A result, or the end of the program by its fault. -/
def orDie {α : Type} : Except Fault α → Session α
  | .ok x => pure x
  | .error fault => throw (.died fault.reported)

/-- A result; a fault of the configuration is reported, any other one ends the program. -/
def orReport {α : Type} : Except Fault α → Session α
  | .ok x => pure x
  | .error fault =>
    match fault.reported with
    | .config fault => fail (Text.ofString "error: " ++ fault.message)
    | fault => throw (.died fault)

/-- The files as they are. -/
def disk : Session Disk := do pure (← get).disk

/-- A request to the files, which may change them even if it fails. -/
def onDisk {α : Type} (request : Disk → Disk × Except Fault α) : Session α := do
  let (changed, result) := request (← disk)
  modify fun w => { w with disk := changed }
  orDie result

/-- The options of a command line, or the end that a refused one has. -/
def options (program : String) (known : List CommandLine.Opt) (tokens : List Text) :
    Session (List (String × CommandLine.Argument)) :=
  match CommandLine.parse known tokens with
  | .ok given => pure given
  | .error .help => exit 0
  | .error refusal => do
    warn (Text.ofString (program ++ ": error: ") ++ refusal.message)
    exit 2

end Session

/-- How a program ends and what it leaves; one that ends by itself has the status zero. -/
def Session.outcome (program : Session Unit) (w : World) : Ending × World :=
  match program w with
  | .ok () w => (.exit 0, w)
  | .error ending w => (ending, w)

end TapeSheet
