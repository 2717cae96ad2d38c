import TapeSheet.Sheet

/-!
# The written forms of a sheet

A style sheet, with one line for each rule between a header and a note, and a text of records with one line for
each rule. A number with too many digits has no written form, and then the sheet has none either.
-/

namespace TapeSheet

/-- Comment at the start of a style sheet and styles that hold for all grids, with the line after them. -/
def sheetHeader (cols maxRow : Int) : String :=
  "/*\n * GENERATED RULE 110 LOGIC\n *\n * Grid: " ++ Decimal.ofInt cols ++ " columns, rows 1-"
    ++ Decimal.ofInt maxRow ++ " compiled from the input tape.\n"
    ++ " * Each rule targets one cell for one combination of the tape inputs\n"
    ++ " * it depends on; a cell is active when any of its rules match.\n */\n\n"
    ++ "/* Default State */\n.cell \x7b background-color: #1a1a25; \x7d\n"
    ++ ".cell.active \x7b background-color: var(--primary-color); "
    ++ "box-shadow: 0 0 5px var(--primary-color); \x7d\n\n"

/-- Comment at the end of a style sheet; an empty note is none. -/
def sheetNote (note : Option Text) : Text :=
  match note with
  | none => ""
  | some note => if note.isEmpty then "" else Text.ofString "\n/* Note: " ++ note ++ Text.ofString " */\n"

/-- A text for each item, each on a line of its own, after the text before them. -/
def linesAfter {α : Type} (before : String) (line : α → String) (items : List α) : String :=
  items.foldl (fun text item => text ++ line item ++ "\n") before

/-- A written sheet: lines of characters, and a last part that may hold halves of characters. -/
structure Writing where
  lines : String
  ending : Text

namespace Writing

/-- A written sheet as one text. -/
def text (w : Writing) : Text := Text.ofString w.lines ++ w.ending

/-- The string that a written sheet is kept as in a file. -/
def encode (w : Writing) : Except Text.Misfit String :=
  match w.ending.encode with
  | .ok ending => .ok (w.lines ++ ending)
  | .error misfit => .error { misfit with place := w.lines.length + misfit.place }

end Writing

namespace Sheet

/-- All numbers of the rules of a sheet. -/
def ruleNumbers (s : Sheet) : List Int := s.rules.flatMap SheetRule.numbers

/-- The style sheet with its numbers spelled, however many digits they have. -/
def cssText (s : Sheet) : Writing :=
  ⟨linesAfter (sheetHeader s.cols s.maxRow) SheetRule.css s.rules, sheetNote s.note⟩

/-- A sheet as a style sheet. -/
def css (s : Sheet) : Except Fault Writing := Decimal.ifWritable (s.cols :: s.maxRow :: s.ruleNumbers) s.cssText

/-- The text of records with their numbers spelled, however many digits they have. -/
def recordsText (s : Sheet) : String := linesAfter "" SheetRule.record s.rules

/-- A sheet as a text of records. -/
def records (s : Sheet) : Except Fault String := Decimal.ifWritable s.ruleNumbers s.recordsText

/-- The records before the first rule that cannot be written. -/
def recordsBefore (s : Sheet) : String := linesAfter "" SheetRule.record (s.rules.takeWhile SheetRule.isWritable)

end Sheet

/-- A written form. -/
inductive SheetFormat
  | css
  | jsonl
  deriving DecidableEq

namespace SheetFormat

/-- Name of a written form, also used in file names. -/
def name : SheetFormat → String
  | css => "css"
  | jsonl => "jsonl"

/-- Names of all written forms. -/
def names : List String := [css.name, jsonl.name]

/-- The written form of a name; a name that is none means a style sheet. -/
def orCss (name : String) : SheetFormat := if name = jsonl.name then jsonl else css

end SheetFormat

namespace Sheet

/-- A sheet in one of its written forms, as a file holds it. -/
def written (s : Sheet) : SheetFormat → Except Fault String
  | .css => s.css.bind fun w => w.encode.mapError .unencodable
  | .jsonl => s.records

/-- What a file gets of a sheet that cannot be written. A style sheet is written at once, records one by one. -/
def beginning (s : Sheet) : SheetFormat → String
  | .css => ""
  | .jsonl => s.recordsBefore

theorem written_css {s : Sheet} {text : String} : s.written .css = .ok text ↔
    (s.cols :: s.maxRow :: s.ruleNumbers).all Decimal.isWritable = true ∧ s.cssText.encode = .ok text := by
  rw [written, css, Decimal.ifWritable]
  cases (s.cols :: s.maxRow :: s.ruleNumbers).all Decimal.isWritable with
  | false => simp [Except.bind]
  | true =>
    simp only [↓reduceIte, Except.bind, true_and]
    cases s.cssText.encode with
    | ok own => exact ⟨fun same => by cases same; rfl, fun same => by cases same; rfl⟩
    | error _ => exact ⟨nofun, nofun⟩

theorem written_jsonl {s : Sheet} {text : String} : s.written .jsonl = .ok text ↔
    s.ruleNumbers.all Decimal.isWritable = true ∧ s.recordsText = text :=
  Decimal.ifWritable_ok

end Sheet

end TapeSheet
