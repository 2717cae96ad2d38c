import TapeSheet.Binary64.Text
import TapeSheet.Value

/-!
# Reading JSON

A JSON text as a value. A number with a fraction or an exponent is a double and any other one a whole number; of
two entries with one key the later value stands at the earlier place.
-/

namespace TapeSheet.Json

/-- A character that may stand between the tokens. -/
def isBlank (c : Char) : Bool := c = ' ' || c = '\n' || c = '\r' || c = '\t'

/-- Value of a hexadecimal digit. -/
def hexValue? (c : Char) : Option Nat :=
  if '0' ≤ c ∧ c ≤ '9' then some (c.toNat - '0'.toNat)
  else if 'a' ≤ c ∧ c ≤ 'f' then some (c.toNat - 'a'.toNat + 10)
  else if 'A' ≤ c ∧ c ≤ 'F' then some (c.toNat - 'A'.toNat + 10)
  else none

/-- Value of four hexadecimal digits. -/
def hex4? (a b c d : Char) : Option Nat := do
  let a ← hexValue? a
  let b ← hexValue? b
  let c ← hexValue? c
  let d ← hexValue? d
  pure (((a * 16 + b) * 16 + c) * 16 + d)

/-- The letter of a code point; there are no others than those that can be named. -/
def letter (code : Nat) : Letter := (Letter.ofCode? code).getD (.char '\ufffd')

/-- What a one-letter escape stands for. -/
def simpleEscape? : Char → Option Char
  | '"' => some '"'
  | '\\' => some '\\'
  | '/' => some '/'
  | 'b' => some '\x08'
  | 'f' => some '\x0c'
  | 'n' => some '\n'
  | 'r' => some '\r'
  | 't' => some '\t'
  | _ => none

/-- The two code units are the halves of one character. -/
def isPair (high low : Nat) : Bool := 0xd800 ≤ high && high < 0xdc00 && 0xdc00 ≤ low && low < 0xe000

/-- Reads a string after its opening quote, up to and with the closing one; `acc` holds what has been read,
backwards. -/
def readText (acc : List Letter) : List Char → Option (Text × List Char)
  | [] => none
  | '"' :: rest => some (⟨acc.reverse⟩, rest)
  | '\\' :: 'u' :: a :: b :: c :: d :: '\\' :: 'u' :: e :: f :: g :: h :: rest =>
    match hex4? a b c d with
    | none => none
    | some high =>
      match hex4? e f g h with
      | none => none
      | some low =>
        if isPair high low then
          readText (letter (0x10000 + (high - 0xd800) * 0x400 + (low - 0xdc00)) :: acc) rest
        else readText (letter high :: acc) ('\\' :: 'u' :: e :: f :: g :: h :: rest)
  | '\\' :: 'u' :: a :: b :: c :: d :: rest =>
    match hex4? a b c d with
    | none => none
    | some code => readText (letter code :: acc) rest
  | '\\' :: c :: rest =>
    match simpleEscape? c with
    | none => none
    | some plain => readText (.char plain :: acc) rest
  | c :: rest => if c.toNat < 0x20 ∨ c = '\\' then none else readText (.char c :: acc) rest
termination_by text => text.length

/-- The digits at the start of a text, and the rest. -/
def readDigits (text : List Char) : List Char × List Char := text.span fun c => '0' ≤ c && c ≤ '9'

/-- Reads the exponent of a number, if there is one. -/
def readExponent (text : List Char) : Option (Option Int × List Char) :=
  match text with
  | c :: rest =>
    if c = 'e' ∨ c = 'E' then
      let (negative, rest) := match rest with
        | '-' :: more => (true, more)
        | '+' :: more => (false, more)
        | more => (false, more)
      match readDigits rest with
      | ([], _) => none
      | (digits, more) =>
        let size := Binary64.digitsValue digits
        some (some (if negative then -(size : Int) else size), more)
    else some (none, text)
  | [] => some (none, [])

/-- Reads a number after its sign. -/
def readNumber (negative : Bool) (text : List Char) : Option (Value × List Char) :=
  match readDigits text with
  | ([], _) => none
  | (whole, rest) =>
    if whole.length > 1 ∧ whole.head? = some '0' then none
    else
      let size := Binary64.digitsValue whole
      let fraction : Option (List Char × List Char) := match rest with
        | '.' :: more => match readDigits more with
          | ([], _) => none
          | (digits, more) => some (digits, more)
        | more => some ([], more)
      match fraction with
      | none => none
      | some (digits, rest) =>
        match readExponent rest with
        | none => none
        | some (exponent, more) =>
          if digits.isEmpty ∧ exponent.isNone then
            some (.int (if negative then -(size : Int) else size), more)
          else some (.float (Binary64.ofParts negative whole digits (exponent.getD 0)), more)

mutual

/-- Reads one value, with blanks before it; the fuel bounds the number of steps. -/
def readValue : Nat → List Char → Option (Value × List Char)
  | 0, _ => none
  | fuel + 1, text =>
    match text.dropWhile isBlank with
    | 'n' :: 'u' :: 'l' :: 'l' :: rest => some (.null, rest)
    | 't' :: 'r' :: 'u' :: 'e' :: rest => some (.bool true, rest)
    | 'f' :: 'a' :: 'l' :: 's' :: 'e' :: rest => some (.bool false, rest)
    | 'N' :: 'a' :: 'N' :: rest => some (.float .nan, rest)
    | 'I' :: 'n' :: 'f' :: 'i' :: 'n' :: 'i' :: 't' :: 'y' :: rest => some (.float (.infinite false), rest)
    | '-' :: 'I' :: 'n' :: 'f' :: 'i' :: 'n' :: 'i' :: 't' :: 'y' :: rest => some (.float (.infinite true), rest)
    | '"' :: rest => (readText [] rest).map fun (s, more) => (.text s, more)
    | '[' :: rest =>
      match rest.dropWhile isBlank with
      | ']' :: more => some (.list [], more)
      | _ => readItems fuel [] rest
    | '\x7b' :: rest =>
      match rest.dropWhile isBlank with
      | '\x7d' :: more => some (.map [], more)
      | _ => readEntries fuel [] rest
    | '-' :: rest => readNumber true rest
    | rest => readNumber false rest

/-- Reads the items of a list up to its closing bracket. -/
def readItems : Nat → List Value → List Char → Option (Value × List Char)
  | 0, _, _ => none
  | fuel + 1, items, text =>
    match readValue fuel text with
    | none => none
    | some (item, rest) =>
      match rest.dropWhile isBlank with
      | ',' :: more => readItems fuel (item :: items) more
      | ']' :: more => some (.list (item :: items).reverse, more)
      | _ => none

/-- Reads the entries of a mapping up to its closing brace. -/
def readEntries : Nat → List (Value × Value) → List Char → Option (Value × List Char)
  | 0, _, _ => none
  | fuel + 1, entries, text =>
    match text.dropWhile isBlank with
    | '"' :: rest =>
      match readText [] rest with
      | none => none
      | some (key, rest) =>
        match rest.dropWhile isBlank with
        | ':' :: rest =>
          match readValue fuel rest with
          | none => none
          | some (value, rest) =>
            let entries := Value.insert (.text key) value entries
            match rest.dropWhile isBlank with
            | ',' :: more => readEntries fuel entries more
            | '\x7d' :: more => some (.map entries, more)
            | _ => none
        | _ => none
    | _ => none

end

/-- Reads a whole text as one JSON value. -/
def parse (text : String) : Option Value :=
  let chars := text.toList
  match readValue (chars.length + 1) chars with
  | some (value, rest) => if rest.all isBlank then some value else none
  | none => none

end TapeSheet.Json
