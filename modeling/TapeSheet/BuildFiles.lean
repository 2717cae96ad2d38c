import TapeSheet.Disk
import TapeSheet.Stylesheet

/-!
# Files that a compilation leaves

The file with the rules, and a log with one JSON record on a line for each compilation. Either request may fail
after some directories have been made or the file was emptied; a record that has no JSON text leaves the log as it is.
-/

namespace TapeSheet

namespace Moment

/-- Day and time to the second in universal time, as in a log. -/
def stamp (m : Moment) : String :=
  m.date.text ++ "T" ++ Decimal.padded 2 m.hour ++ ":" ++ Decimal.padded 2 m.minute ++ ":"
    ++ Decimal.padded 2 m.second ++ "Z"

/-- Day and time to the second with a blank between, as in a table. -/
def spaced (m : Moment) : String :=
  m.date.text ++ " " ++ Decimal.padded 2 m.hour ++ ":" ++ Decimal.padded 2 m.minute ++ ":"
    ++ Decimal.padded 2 m.second

end Moment

/-- What a log keeps of a sheet that was compiled at a moment. -/
def Sheet.summary (s : Sheet) (now : Moment) (name : Value) : Value :=
  .map [(.ofString "ts", .ofString now.stamp), (.ofString "name", name), (.ofString "rows", .int s.rows),
    (.ofString "cols", .int s.cols), (.ofString "max_row", .int s.maxRow),
    (.ofString "rule_count", .int s.rules.length), (.ofString "note", s.note.elim .null .text)]

/-- A text as a file holds it. -/
def Text.written (t : Text) : Except Fault String := t.encode.mapError .unencodable

/-- The line of a log for a sheet. -/
def Sheet.logLine (s : Sheet) (now : Moment) (name : Value) : Except Fault String :=
  match Json.print (s.summary now name) with
  | .ok text => (text ++ Text.ofString "\n").written
  | .error fault => .error (.json fault)

namespace Disk

/-- Makes all directories above a path and then goes on with the tree as it is. -/
def below (d : Disk) (p : Path) (next : Disk → Disk × Except Fault Unit) : Disk × Except Fault Unit :=
  match d.makeDirectories p.parent with
  | (d, .error fault) => (d, .error fault)
  | (d, .ok ()) => next d

/-- Puts a sheet into a file. A sheet that cannot be written leaves what could be written before the fault. -/
def writeSheet (d : Disk) (outfile : Path) (format : SheetFormat) (s : Sheet) : Disk × Except Fault Unit :=
  d.below outfile fun d =>
    let (text, outcome) : String × Except Fault Unit := match s.written format with
      | .ok text => (text, .ok ())
      | .error fault => (s.beginning format, .error fault)
    match d.write outfile text with
    | .error fault => (d, .error fault)
    | .ok written => (written, outcome)

/-- Adds the line for a sheet to a log, which is made if it is not there. -/
def logCompilation (d : Disk) (log : Path) (now : Moment) (name : Value) (s : Sheet) : Disk × Except Fault Unit :=
  d.below log fun d =>
    match d.openFile log with
    | .error fault => (d, .error fault)
    | .ok (d, place) =>
      match s.logLine now name with
      | .error fault => (d, .error fault)
      | .ok line => (d.append place line, .ok ())

end Disk

end TapeSheet
