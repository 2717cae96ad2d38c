import TapeSheet.Value.Text

/-!
# JSON text of values

A value on one line: a comma or a colon is followed by a blank, and of all characters only the double quote, the
backslash and the control characters below the blank are escaped. Lists and mappings that are part of themselves have
no JSON text, nor have days, moments, bytes, sets, numbers with too many digits, and what is nested too deeply.
-/

namespace TapeSheet.Json

/-- Why a value has no JSON text. -/
inductive Fault
  | value (typeName : String)
  | key (typeName : String)
  | circular
  | unwritable
  | nesting
  deriving DecidableEq

/-- Why a number with too many digits has no text. -/
def unwritableMessage : String :=
  "Exceeds the limit (" ++ Decimal.ofNat Decimal.digitLimit
    ++ " digits) for integer string conversion; use sys.set_int_max_str_digits() to increase the limit"

/-- Wording of a fault of printing. -/
def Fault.message : Fault → String
  | .value typeName => "Object of type " ++ typeName ++ " is not JSON serializable"
  | .key typeName => "keys must be str, int, float, bool or None, not " ++ typeName
  | .circular => "Circular reference detected"
  | .unwritable => unwritableMessage
  | .nesting => "maximum recursion depth exceeded while encoding a JSON object"

/-- How one character is written inside a JSON string. -/
def escaped (c : Char) : List Char :=
  if c = '"' then ['\\', '"']
  else if c = '\\' then ['\\', '\\']
  else if c = '\n' then ['\\', 'n']
  else if c = '\r' then ['\\', 'r']
  else if c = '\t' then ['\\', 't']
  else if c = '\x08' then ['\\', 'b']
  else if c = '\x0c' then ['\\', 'f']
  else if c.toNat < 0x20 then '\\' :: 'u' :: Text.hex 4 c.toNat
  else [c]

/-- How one letter is written inside a JSON string. -/
def escapedLetter : Letter → List Letter
  | .char c => (escaped c).map .char
  | .half unit => [.half unit]

/-- A JSON string. -/
def quoted (s : Text) : Text := ⟨.char '"' :: s.letters.flatMap escapedLetter ++ [.char '"']⟩

/-- A truth value as a JSON literal. -/
def boolText (b : Bool) : String := if b then "true" else "false"

/-- A number as a JSON number; what no JSON number can say has a word. -/
def floatText : Binary64 → String
  | .nan => "NaN"
  | .infinite negative => if negative then "-Infinity" else "Infinity"
  | x => x.text

/-- A whole number as a JSON number. -/
def intText (n : Int) : Except Fault String :=
  if Decimal.isWritable n then .ok (Decimal.ofInt n) else .error .unwritable

/-- The JSON string that stands for a key of a mapping. -/
def keyText : Value → Except Fault Text
  | .text s => .ok s
  | .null => .ok "null"
  | .bool b => .ok (boolText b)
  | .int n => (intText n).map Text.ofString
  | .float x => .ok (floatText x)
  | v => .error (.key v.fullTypeName)

/-- Texts in brackets of a kind. -/
def enclosed (left right : Char) (parts : List Text) : Text :=
  ⟨.char left :: (Text.glued ", " parts).letters ++ [.char right]⟩

mutual

/-- JSON text of a value inside of collections that leave `room` for more. -/
def printWithin (room : Nat) : Value → Except Fault Text
  | .null => .ok "null"
  | .bool b => .ok (boolText b)
  | .int n => (intText n).map Text.ofString
  | .float x => .ok (floatText x)
  | .text s => .ok (quoted s)
  | .list items => match room with
    | 0 => .error .nesting
    | room + 1 => (printItems room items).map (enclosed '[' ']')
  | .pair a b => match room with
    | 0 => .error .nesting
    | room + 1 =>
      match printWithin room a with
      | .error fault => .error fault
      | .ok first => (printWithin room b).map fun second => enclosed '[' ']' [first, second]
  | .map entries => match room with
    | 0 => .error .nesting
    | room + 1 => (printEntries room entries).map (enclosed '\x7b' '\x7d')
  | .listAgain => .error (if room = 0 then .nesting else .circular)
  | .mapAgain => .error (if room = 0 then .nesting else .circular)
  | v => .error (.value v.typeName)

/-- JSON texts of the items of a list. -/
def printItems (room : Nat) : List Value → Except Fault (List Text)
  | [] => .ok []
  | x :: xs =>
    match printWithin room x with
    | .error fault => .error fault
    | .ok first => (printItems room xs).map (first :: ·)

/-- JSON texts of the entries of a mapping. -/
def printEntries (room : Nat) : List (Value × Value) → Except Fault (List Text)
  | [] => .ok []
  | (k, v) :: rest =>
    match keyText k with
    | .error fault => .error fault
    | .ok key =>
      match printWithin room v with
      | .error fault => .error fault
      | .ok value => (printEntries room rest).map ((quoted key ++ (Text.ofString ": " ++ value)) :: ·)

end

/-- JSON text of a value. -/
def print (v : Value) : Except Fault Text := printWithin Value.nestingLimit v

end TapeSheet.Json
