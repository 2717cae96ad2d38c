import TapeSheet.Command.Compile
import TapeSheet.Command.Verify
import TapeSheet.Disk.Appender
import TapeSheet.Summary

/-!
# Building a batch of grids

The program that compiles every grid of a document, writes its rules, logs it and adds a record to a summary. It does
nothing at all if one of the grids is wrong or if there is too much work. Records for the summary are gathered, at the
latest until the last grid is done or a grid fails.
-/

namespace TapeSheet

open CommandLine

/-- Most assignments that a batch may look at. -/
def workCeiling : Nat := 50000000

/-- What the program is asked for. -/
structure BatchOptions where
  config : Place
  dryRun : Bool
  verify : Bool
  buildDirectory : Place
  resultDirectory : Place
  log : Place

namespace BatchOptions

/-- Name of the program in messages. -/
def program : String := "orchestrator.py"

/-- The options that the program knows. -/
def known : List Opt :=
  [option "--config" .text, option "--dry-run" .nothing, option "--verify" .nothing, option "--build-dir" .text,
   option "--result-dir" .text, option "--log" .text]

/-- The options that are given. -/
def ofGiven (given : List (String × Argument)) : BatchOptions :=
  let placeOr (name : String) (fallback : Path) := (place? name given).getD (.path fallback)
  { config := placeOr "--config" (.ofText "grids.yaml")
    dryRun := isGiven "--dry-run" given
    verify := isGiven "--verify" given
    buildDirectory := placeOr "--build-dir" (.ofText "build")
    resultDirectory := placeOr "--result-dir" (.ofText "results")
    log := placeOr "--log" defaultLog }

/-- The path of the document. -/
def document (o : BatchOptions) : Except Fault Path :=
  match o.config with
  | .path p => .ok p
  | .nowhere => .error (.type (.notPath "list"))

/-- Where the rules of a grid are written. A grid without a file of its own needs a directory. -/
def target (o : BatchOptions) (g : Grid) : Except Fault Path :=
  match o.buildDirectory with
  | .path directory => g.target directory
  | .nowhere =>
    match g.outfile with
    | some outfile => .ok outfile
    | none => g.name.plain?.bind fun _ => .error (.type (.noQuotient "list" "str"))

end BatchOptions

/-- Name of the file with the summary. -/
def summaryName : Path := .ofText "summary.csv"

/-- All assignments that the grids of a batch look at. -/
def totalWork : List Grid → Nat
  | [] => 0
  | g :: rest => g.work + totalWork rest

/-- A count with commas, if it has not too many digits. -/
def groupedCount (n : Nat) : Except Fault String :=
  Decimal.ifWritable [(n : Int)] (Decimal.grouped n)

/-- The lower one of two numbers. -/
def lower (x y : Binary64) : Binary64 := if y.lt x then y else x

/-- The lowest accuracy of a sheet over all preset root rows, with four places. -/
def lowestAccuracy (s : Sheet) (cols : Nat) : Except Fault String := do
  let scores ← Preset.keys.mapM fun key => do
    let root ← presetRow (.ofString key) cols defaultSeed
    let score ← s.scoreOn root
    pure score.double
  match scores with
  | [] => pure ""
  | first :: rest => pure ((rest.foldl lower first).fixed 4)

/-- What a dry run says of a grid. -/
def plannedLine (o : BatchOptions) (g : Grid) : Except Fault Text := do
  let name ← g.name.plain?
  let rows ← (Value.int g.rows).plain?
  let cols ← (Value.int g.cols).plain?
  let outfile ← o.target g
  pure (Text.glued "" ["[dry-run] ", name, ": ", rows, "x", cols, " → ", outfile.text])

/-- Compiles, writes and logs one grid; the answer is its record for the summary. -/
def buildGrid (now : Moment) (compiler : Compiler) (o : BatchOptions) (g : Grid) : Session String := do
  let s ← Session.orDie (compiler (.int g.rows) (.int g.cols) (.int g.cap))
  let s ← Session.orDie s.checkNote
  let outfile ← Session.orDie (o.target g)
  Session.onDisk fun d => d.writeSheet outfile g.format s
  let log ← Session.orDie (o.log.asked "parent")
  Session.onDisk fun d => d.logCompilation log now g.name s
  let accuracy ← if o.verify then Session.orDie (lowestAccuracy s g.cols) else pure ""
  let name ← Session.orDie g.name.plain?
  match s.note with
  | some note => Session.warn (Text.glued "" ["[warning] ", name, ": ", note])
  | none => pure ()
  Session.say (Text.glued "" ["Grid ", name, ": ", Decimal.grouped s.rules.length, " rules → ", outfile.text])
  Session.orDie (Summary.record? now g s accuracy outfile)

/-- Adds the records that are still gathered to the summary. -/
def closeSummary (a : Appender) : Session Unit := modify fun w => { w with disk := (a.flush w.disk).1 }

/-- Builds grids one after the other. Whatever the end is, the summary gets all records. -/
def buildAll (build : Grid → Session String) : List Grid → Appender → Session Unit
  | [], a => closeSummary a
  | g :: rest, a => fun w =>
    match build g w with
    | .ok record w =>
      let (disk, a) := a.add w.disk record
      buildAll build rest a { w with disk }
    | .error ending w => (do closeSummary a; throw ending : Session Unit) w

/-- Opens a file for adding. -/
def openForAdding (p : Path) : Session Location :=
  Session.onDisk fun d =>
    match d.openFile p with
    | .ok (d, place) => (d, .ok place)
    | .error fault => (d, .error fault)

/-- Opens the summary and builds all grids. A new summary starts with a header. -/
def buildBatch (now : Moment) (compiler : Compiler) (o : BatchOptions) (grids : List Grid) : Session Unit := do
  let results ← Session.orDie (o.resultDirectory.asked "mkdir")
  Session.onDisk fun d => d.makeDirectories results
  let summary := results.join summaryName
  let header ← if ← Session.orDie ((← Session.disk).holds summary) then pure "" else
    Session.orDie (Summary.record Summary.header).written
  let place ← openForAdding summary
  buildAll (buildGrid now compiler o) grids ⟨place, header⟩

/-- The program that builds a batch. -/
def batchCommand (now : Moment) (compiler : Compiler) (tokens : List Text) : Session Unit := do
  let o := BatchOptions.ofGiven (← Session.options BatchOptions.program BatchOptions.known tokens)
  let disk ← Session.disk
  let grids ← Session.orReport do Grid.loadList disk (← o.document)
  let total ← Session.orDie (groupedCount (totalWork grids))
  if workCeiling < totalWork grids then
    Session.fail ("Projected work (" ++ total ++ " assignments) exceeds hard ceiling "
      ++ Decimal.grouped workCeiling ++ ". Aborting.")
  Session.say (Decimal.ofNat grids.length ++ " grids, " ++ total ++ " assignments to enumerate")
  if o.dryRun then
    grids.forM fun g => do Session.say (← Session.orDie (plannedLine o g))
  else
    buildBatch now compiler o grids

end TapeSheet
