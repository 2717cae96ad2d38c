import TapeSheet.Stylesheet
import TapeSheet.Value.Order

/-!
# Grids

The description of a grid that is to be compiled: its sizes, the depth down to which it is compiled, its name, and
where and in which form its rules are written. A description is checked once, when it is made.
-/

namespace TapeSheet

/-- A grid that can be compiled. -/
structure Grid where
  rows : Nat
  cols : Nat
  cap : Nat
  name : Value
  outfile : Option Path
  format : SheetFormat
  rows_pos : 0 < rows
  cols_pos : 0 < cols
  cap_pos : 0 < cap
  cap_le : cap ≤ maxCompiledRow

/-- Values of a grid that are still to be checked. -/
structure GridDraft where
  rows : Value
  cols : Value
  cap : Value
  name : Value
  outfile : Option Path
  format : Value

namespace GridDraft

/-- The grid that is compiled where nothing else is asked for. -/
def default : GridDraft :=
  { rows := .int 15
    cols := .int 40
    cap := .int maxCompiledRow
    name := .ofString "rule110"
    outfile := none
    format := .ofString SheetFormat.css.name }

/-- Names of the values of a grid. -/
def keys : List String := ["rows", "cols", "cap", "name", "outfile", "format"]

/-- A positive whole number. -/
def size (key : String) (v : Value) : Except Fault { n : Nat // 0 < n } :=
  match v with
  | .int (n : Nat) => if positive : 0 < n then .ok ⟨n, positive⟩ else .error (.config (.notPositiveInteger key v))
  | _ => .error (.config (.notPositiveInteger key v))

/-- A written form by its name. -/
def formatOf (v : Value) : Except Fault SheetFormat :=
  if v == .ofString SheetFormat.css.name then .ok .css
  else if v == .ofString SheetFormat.jsonl.name then .ok .jsonl
  else .error (.config (.unknownFormat SheetFormat.names v))

/-- Checks all values in order. -/
def check (d : GridDraft) : Except Fault Grid := do
  let ⟨rows, rows_pos⟩ ← size "rows" d.rows
  let ⟨cols, cols_pos⟩ ← size "cols" d.cols
  let ⟨cap, cap_pos⟩ ← size "cap" d.cap
  if cap_le : cap ≤ maxCompiledRow then
    let format ← formatOf d.format
    pure { rows, cols, cap, name := d.name, outfile := d.outfile, format, rows_pos, cols_pos, cap_pos, cap_le }
  else throw (.config (.capTooLarge maxCompiledRow cap))

/-- The path that a value names. -/
def pathOf : Value → Except Fault (Option Path)
  | .null => .ok none
  | .text path => .ok (some (.ofText path))
  | .bytes _ => .error (.type .bytesPath)
  | v => .error (.type (.notPath v.typeName))

/-- A key is the name of a value of a grid. -/
def isKey (key : Value) : Bool := keys.any fun known => key == .ofString known

/-- The keys of entries that are no names of values of a grid. -/
def unknownKeys (entries : List (Value × Value)) : List Value := (entries.map (·.1)).filter fun key => !isKey key

/-- The values that entries give, with those of the default for what they leave out. -/
def ofEntries (entries : List (Value × Value)) : Except Fault GridDraft :=
  match unknownKeys entries with
  | [] => do
    let given (key : String) (fallback : Value) := (Value.lookup (.ofString key) entries).getD fallback
    let outfile ← pathOf (given "outfile" .null)
    pure
      { rows := given "rows" default.rows
        cols := given "cols" default.cols
        cap := given "cap" default.cap
        name := given "name" default.name
        outfile
        format := given "format" default.format }
  | unknown =>
    match Value.sorted unknown with
    | .ok keys => .error (.config (.unknownKeys keys))
    | .error (a, b) => .error (.type (.unordered a b))

end GridDraft

namespace Grid

/-- The values of a grid, as they would be checked again. -/
def draft (g : Grid) : GridDraft :=
  { rows := .int g.rows
    cols := .int g.cols
    cap := .int g.cap
    name := g.name
    outfile := g.outfile
    format := .ofString g.format.name }

/-- The grid that a value describes. -/
def ofValue : Value → Except Fault Grid
  | .map entries =>
    match GridDraft.ofEntries entries with
    | .ok draft => draft.check
    | .error fault => .error fault
  | v => .error (.config (.notMapping v))

/-- Deepest row of the grid that is compiled. -/
def depth (g : Grid) : Nat := min g.rows g.cap

/-- Number of assignments of the windows of one column, from the first row down to a depth. -/
def columnWork : Nat → Nat
  | 0 => 0
  | above + 1 => columnWork above + Nat.pow 2 (2 * (above + 1) + 1)

/-- Number of assignments that are looked at when the grid is compiled. -/
def work (g : Grid) : Nat := g.cols * columnWork g.depth

/-- Where the rules of the grid are written: its own file, or one named for the grid in a directory. -/
def target (g : Grid) (directory : Path) : Except Fault Path :=
  match g.outfile with
  | some outfile => .ok outfile
  | none => g.name.plain?.map fun name => directory.join (.ofText (name ++ Text.ofString ("." ++ g.format.name)))

/-- The sheet of the grid. -/
def compile (g : Grid) : Except Fault Sheet := compiled (.int g.rows) (.int g.cols) (.int g.cap)

end Grid

end TapeSheet
