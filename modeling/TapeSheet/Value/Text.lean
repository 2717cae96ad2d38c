import TapeSheet.Binary64.Text
import TapeSheet.Text.Quoted
import TapeSheet.Value

/-!
# Values as text

How a value is shown in a message: texts in quotes, lists in brackets, mappings in braces in the order of their
entries. Outside of a list or a mapping a text may also be shown plainly. A number with too many digits has no text,
nor has a value that is nested too deeply.
-/

namespace TapeSheet

/-- Year, month and day with hyphens. -/
def Date.text (d : Date) : String :=
  Decimal.padded 4 d.year ++ "-" ++ Decimal.padded 2 d.month ++ "-" ++ Decimal.padded 2 d.day

namespace Moment

/-- An offset as sign, hours and minutes, with seconds only where they are not zero. -/
def offsetText (offset : Int) : String :=
  let seconds := offset.natAbs
  (if offset < 0 then "-" else "+") ++ Decimal.padded 2 (seconds / 3600) ++ ":"
    ++ Decimal.padded 2 (seconds / 60 % 60)
    ++ (if seconds % 60 = 0 then "" else ":" ++ Decimal.padded 2 (seconds % 60))

/-- Day and time with a blank between, fractions of a second only where they are not zero. -/
def text (m : Moment) : String :=
  m.date.text ++ " " ++ Decimal.padded 2 m.hour ++ ":" ++ Decimal.padded 2 m.minute ++ ":"
    ++ Decimal.padded 2 m.second
    ++ (if m.micro = 0 then "" else "." ++ Decimal.padded 6 m.micro)
    ++ (m.offset.elim "" offsetText)

/-- A span of seconds as days and seconds, the latter never negative. -/
def spanText (seconds : Int) : String :=
  let days := seconds.fdiv 86400
  let rest := seconds.fmod 86400
  let parts := (if days = 0 then [] else ["days=" ++ Decimal.ofInt days])
    ++ (if rest = 0 then [] else ["seconds=" ++ Decimal.ofInt rest])
  "datetime.timedelta(" ++ (if parts.isEmpty then "0" else Text.joined ", " parts) ++ ")"

/-- All fields of a moment, seconds and microseconds only as far as they are not zero. -/
def shown (m : Moment) : String :=
  let clock := [m.date.year, m.date.month, m.date.day, m.hour, m.minute]
    ++ (if m.second = 0 ∧ m.micro = 0 then [] else [m.second])
    ++ (if m.micro = 0 then [] else [m.micro])
  "datetime.datetime(" ++ Text.joined ", " (clock.map Decimal.ofNat)
    ++ (match m.offset with
      | none => ""
      | some 0 => ", tzinfo=datetime.timezone.utc"
      | some seconds => ", tzinfo=datetime.timezone(" ++ spanText seconds ++ ")")
    ++ ")"

end Moment

namespace Value

/-- A truth value in words. -/
def boolText (b : Bool) : String := if b then "True" else "False"

/-- A byte inside of quotes. -/
def shownByte (quote : Char) (byte : UInt8) : List Char :=
  let c := Char.ofNat byte.toNat
  if c = quote ∨ c = '\\' then ['\\', c]
  else if c = '\n' then ['\\', 'n']
  else if c = '\r' then ['\\', 'r']
  else if c = '\t' then ['\\', 't']
  else if byte < 0x20 ∨ 0x7f ≤ byte then '\\' :: 'x' :: Text.hex 2 byte.toNat
  else [c]

/-- Bytes between quotes, with escapes inside. -/
def shownBytes (data : List UInt8) : String :=
  let quote := Text.quoteFor (.ofChars (data.map fun byte => Char.ofNat byte.toNat))
  String.ofList ('b' :: quote :: data.flatMap (shownByte quote) ++ [quote])

/-- The members of a set in braces; the empty set has a name. -/
def shownSet (members : List String) : String :=
  if members.isEmpty then "set()" else "\x7b" ++ Text.joined ", " members ++ "\x7d"

mutual

/-- A value as it stands in a message, with texts in quotes. -/
def shown : Value → String
  | null => "None"
  | bool b => boolText b
  | int n => Decimal.ofInt n
  | float x => x.text
  | text s => s.quoted
  | bytes data => shownBytes data
  | list items => "[" ++ Text.joined ", " (shownItems items) ++ "]"
  | pair a b => "(" ++ shown a ++ ", " ++ shown b ++ ")"
  | map entries => "\x7b" ++ Text.joined ", " (shownEntries entries) ++ "\x7d"
  | set members => shownSet (shownItems members)
  | date d =>
    "datetime.date(" ++ Text.joined ", " ([d.year, d.month, d.day].map Decimal.ofNat) ++ ")"
  | moment m => m.shown
  | listAgain => "[...]"
  | mapAgain => "\x7b...\x7d"

/-- The items of a list, each as in a message. -/
def shownItems : List Value → List String
  | [] => []
  | x :: xs => shown x :: shownItems xs

/-- The entries of a mapping, each as key, colon and value. -/
def shownEntries : List (Value × Value) → List String
  | [] => []
  | (k, v) :: rest => (shown k ++ ": " ++ shown v) :: shownEntries rest

end

/-- Why a value has no text: a number in it has too many digits, or it is nested too deeply. -/
inductive Hindrance
  | digits
  | depth

/-- Deepest nesting of a value that has a text. -/
def nestingLimit : Nat := 985

mutual

/-- What keeps a value from having a text, if anything does, inside of collections that leave `room` for more. Of
several things the one that comes first counts. -/
def hindrance? : Nat → Value → Option Hindrance
  | 0, _ => some .depth
  | _ + 1, int n => if Decimal.isWritable n then none else some .digits
  | room + 1, list items => firstHindrance? room items
  | room + 1, pair a b => (hindrance? room a).or (hindrance? room b)
  | room + 1, map entries => entriesHindrance? room entries
  | room + 1, set members => firstHindrance? room members
  | _, _ => none

/-- What keeps one of several values from having a text. -/
def firstHindrance? : Nat → List Value → Option Hindrance
  | _, [] => none
  | room, x :: xs => (hindrance? room x).or (firstHindrance? room xs)

/-- What keeps a key or value of an entry from having a text. -/
def entriesHindrance? : Nat → List (Value × Value) → Option Hindrance
  | _, [] => none
  | room, (k, v) :: rest => (hindrance? room k).or ((hindrance? room v).or (entriesHindrance? room rest))

end

/-- A value put into running text: a text as it is, a day or moment by its digits, all else as in a message. -/
def plain : Value → Text
  | text s => s
  | date d => d.text
  | moment m => m.text
  | v => v.shown

end Value

end TapeSheet
