import Std.Time.DateTime
import TapeSheet.Command.Batch
import TapeSheet.Value.Calendar

/-!
# The programs

Runs the program that the first argument names on the files of the machine. A program is run on the part of the file
tree that is known so far; where it has changed something that was not known, that is looked up and the program is run
again, and the changes of the last run are made.
-/

namespace TapeSheet

/-- The part of the file tree that is known: what stands there, and all places that have been looked up. -/
structure Known where
  disk : Disk
  places : List Location

/-- A text as it is printed; no half of a character can be. -/
def readable (t : Text) : String := String.ofList t.shape

/-- Name of a place on the machine. -/
def placeName (place : Location) : String := "/" ++ Text.joined "/" (place.map readable)

/-- What stands at a place of the machine. -/
def readPlace (place : Location) : IO (Option Entry) := do
  match ← (IO.FS.readFile (placeName place)).toBaseIO with
  | .ok text => pure (some (.file text))
  | .error (.noFileOrDirectory ..) => pure none
  | .error (.inappropriateType ..) => pure (some .directory)
  | .error e => throw e

/-- Looks up a place that is not known yet. -/
def Known.look (k : Known) (place : Location) : IO Known := do
  if k.places.contains place then return k
  let disk ← match ← readPlace place with
    | some entry => pure (k.disk.set place entry)
    | none => pure k.disk
  pure ⟨disk, place :: k.places⟩

/-- Looks up a place and all places on the way to it. -/
def Known.lookAlong (k : Known) (place : Location) : IO Known :=
  (List.range place.length).foldlM (fun k n => k.look (place.take (n + 1))) k

/-- Looks up the path that a text names. -/
def Known.lookText (k : Known) (text : Text) : IO Known :=
  let path := Path.ofText text
  k.lookAlong (k.disk.start path.anchor ++ path.names)

/-- Runs a program until it touches nothing that is not known. -/
partial def settle (program : Session Unit) (k : Known) : IO (Known × Ending × World) := do
  let (ending, w) := program.outcome ⟨k.disk, "", ""⟩
  let touched := (w.disk.entries.map (·.1)).filter fun place => !k.places.contains place
  if touched.isEmpty then pure (k, ending, w) else settle program (← touched.foldlM Known.lookAlong k)

/-- Makes the changes from one state of the tree to another. -/
def makeChanges (before after : Disk) : IO Unit := do
  for (place, entry) in after.entries do
    if before.entry? place != some entry then
      match entry with
      | .directory => IO.FS.createDirAll (placeName place)
      | .file text => IO.FS.writeFile (placeName place) text

/-- The texts that may name files to read: the tokens, what follows an equals sign in them, and the usual document. -/
def mentioned (tokens : List Text) : List Text :=
  Text.ofString "grids.yaml" :: tokens ++ tokens.map fun token => ⟨(token.letters.dropWhile (· ≠ .char '=')).drop 1⟩

/-- The program of a name. -/
def programOf? (now : Moment) (tokens : List Text) : String → Option (Session Unit)
  | "compile" => some (compileCommand now tokens)
  | "verify" => some (verifyCommand compileSheet tokens)
  | "batch" => some (batchCommand now compileSheet tokens)
  | _ => none

/-- Runs a program on the machine. -/
def runProgram (program : Session Unit) (tokens : List Text) : IO UInt32 := do
  let here := (Path.ofText (.ofString (← IO.currentDir).toString)).names
  let known ← Known.lookAlong ⟨⟨[], here⟩, []⟩ here
  let known ← (mentioned tokens).foldlM Known.lookText known
  let (known, ending, w) ← settle program known
  makeChanges known.disk w.disk
  IO.print (readable w.out)
  IO.eprint (readable w.err)
  match ending with
  | .exit status => pure (UInt32.ofNat status)
  | .died fault => do
    IO.eprintln (readable fault.message)
    pure 1

end TapeSheet

/-- Runs the program that the first argument names with the arguments behind it. -/
def main (args : List String) : IO UInt32 := do
  let seconds := (← Std.Time.Timestamp.now).toSecondsSinceUnixEpoch.val.toNat
  let tokens := (args.drop 1).map TapeSheet.Text.ofString
  match TapeSheet.programOf? (TapeSheet.Moment.ofSeconds seconds) tokens (args.headD "") with
  | some program => TapeSheet.runProgram program tokens
  | none => do
    IO.eprintln "usage: (compile | verify | batch) [options]"
    pure 2
