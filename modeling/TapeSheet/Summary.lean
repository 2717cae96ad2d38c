import TapeSheet.Accuracy
import TapeSheet.Grid
import TapeSheet.BuildFiles

/-!
# The summary of a batch

A table of comma-separated fields with one record for each grid. A field that holds a comma, a double quote or a line
end stands in double quotes, and a double quote inside is written twice.
-/

namespace TapeSheet.Summary

/-- A field with this character stands in quotes. -/
def needsQuotes (c : Char) : Bool := c = ',' || c = '"' || c = '\r' || c = '\n'

/-- The letters of a field between quotes. -/
def doubled : List Letter → List Letter
  | [] => []
  | l :: rest => if l = .char '"' then .char '"' :: .char '"' :: doubled rest else l :: doubled rest

/-- A field as it is written. -/
def field (t : Text) : Text :=
  if t.letters.any fun l => l.char?.any needsQuotes then ⟨.char '"' :: doubled t.letters ++ [.char '"']⟩ else t

/-- A record as it is written, with the end of its line. -/
def record (fields : List Text) : Text := Text.glued "," (fields.map field) ++ Text.ofString "\r\n"

/-- Names of the fields. -/
def header : List Text :=
  ["date_utc", "grid", "rows", "cols", "max_row", "rule_count", "min_accuracy", "outfile"]

/-- Text of a value in a field; null leaves it empty. -/
def valueText? : Value → Except Fault Text
  | .null => .ok ""
  | v => v.plain?

/-- The record for a grid that was compiled at a moment and written to a file. -/
def record? (now : Moment) (g : Grid) (s : Sheet) (accuracy : String) (outfile : Path) : Except Fault String := do
  let name ← valueText? g.name
  let fields : List Text := [now.spaced, name, Decimal.ofNat g.rows, Decimal.ofNat g.cols, Decimal.ofInt s.maxRow,
    Decimal.ofNat s.rules.length, accuracy, outfile.text]
  (record (← Decimal.ifWritable [g.rows, g.cols, s.maxRow] fields)).written

end TapeSheet.Summary
