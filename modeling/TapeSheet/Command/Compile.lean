import TapeSheet.Command.Session
import TapeSheet.Grid.Document
import TapeSheet.BuildFiles

/-!
# Compiling one grid

The program that writes the rules of one grid to a file. The grid comes from a document, from options, or from both,
and then the options count.
-/

namespace TapeSheet

open CommandLine

/-- Where compilations are logged if nothing else is asked for. -/
def defaultLog : Path := .ofText "logs/compile.log"

/-- What the program is asked for. -/
structure CompileOptions where
  config : Option Path
  rows : Option Value
  cols : Option Value
  cap : Option Value
  format : Option Value
  outfile : Option Place
  log : Place
  noLog : Bool

namespace CompileOptions

/-- Name of the program in messages. -/
def program : String := "compile_stylesheet.py"

/-- The options that the program knows. -/
def known : List Opt :=
  [option "--config" .text, option "--rows" .number, option "--cols" .number, option "--cap" .number,
   option "--format" (.choice SheetFormat.names), option "--outfile" .text, option "--log" .text,
   option "--no-log" .nothing]

/-- The options that are given. A document at no place is none. -/
def ofGiven (given : List (String × Argument)) : CompileOptions :=
  { config := (place? "--config" given).bind Place.path?
    rows := value? "--rows" given
    cols := value? "--cols" given
    cap := value? "--cap" given
    format := value? "--format" given
    outfile := place? "--outfile" given
    log := (place? "--log" given).getD (.path defaultLog)
    noLog := isGiven "--no-log" given }

/-- The values of a grid with those replaced that options give. -/
def override (o : CompileOptions) (d : GridDraft) : GridDraft :=
  { d with
    rows := o.rows.getD d.rows
    cols := o.cols.getD d.cols
    cap := o.cap.getD d.cap
    format := o.format.getD d.format
    outfile := (o.outfile.bind Place.path?).or d.outfile }

/-- The grid that is asked for. That of a document has to be right before options replace anything. -/
def resolve (o : CompileOptions) (d : Disk) : Except Fault Grid := do
  let base ← match o.config with
    | some path => Grid.load d path
    | none => GridDraft.default.check
  (o.override base.draft).check

/-- The place for the rules of a grid: the one that is asked for, or the file of the grid. -/
def target (o : CompileOptions) (g : Grid) : Option Place := o.outfile.or (g.outfile.map .path)

/-- The grid that is asked for, with the place for its rules. -/
def resolveWithTarget (o : CompileOptions) (d : Disk) : Except Fault (Grid × Place) := do
  let grid ← o.resolve d
  match o.target grid with
  | some place => pure (grid, place)
  | none => throw (.config .noOutfile)

end CompileOptions

/-- The last line on a sheet that was written, if its deepest row has not too many digits. -/
def writtenLine (s : Sheet) (outfile : Path) : Except Fault Text :=
  Decimal.ifWritable [s.maxRow]
    (Text.ofString ("Wrote " ++ Decimal.grouped s.rules.length ++ " rules (rows 1-" ++ Decimal.ofInt s.maxRow ++ ") to ")
      ++ outfile.text)

/-- The program that compiles one grid. -/
def compileCommand (now : Moment) (tokens : List Text) : Session Unit := do
  let o := CompileOptions.ofGiven (← Session.options CompileOptions.program CompileOptions.known tokens)
  let (grid, place) ← Session.orReport (o.resolveWithTarget (← Session.disk))
  let s ← Session.orReport grid.compile
  let outfile ← Session.orDie (place.asked "parent")
  Session.onDisk fun d => d.writeSheet outfile grid.format s
  unless o.noLog do
    let log ← Session.orDie (o.log.asked "parent")
    Session.onDisk fun d => d.logCompilation log now grid.name s
  match s.note with
  | some note => Session.warn (Text.ofString "[warning] " ++ note)
  | none => pure ()
  Session.say (← Session.orDie (writtenLine s outfile))

end TapeSheet
