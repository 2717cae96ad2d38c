import TapeSheet.Binary64
import TapeSheet.Text

/-!
# Values of documents

What a configuration document or a JSON text can hold, with truth and equality of such values.
-/

namespace TapeSheet

/-- A calendar day. -/
structure Date where
  year : Nat
  month : Nat
  day : Nat
  deriving DecidableEq

/-- A time of day on a calendar day, with the offset from universal time in seconds where one is known. -/
structure Moment where
  date : Date
  hour : Nat
  minute : Nat
  second : Nat
  micro : Nat
  offset : Option Int
  deriving DecidableEq

namespace Date

/-- Days before the first day of a year, from the first day of the year one. -/
def daysBeforeYear (year : Nat) : Nat :=
  let past := year - 1
  past * 365 + past / 4 - past / 100 + past / 400

/-- A year with a twenty-ninth of February. -/
def isLeap (year : Nat) : Bool := year % 4 == 0 && (year % 100 != 0 || year % 400 == 0)

/-- Days of the months of a year. -/
def monthDays (year : Nat) : List Nat :=
  [31, if isLeap year then 29 else 28, 31, 30, 31, 30, 31, 31, 30, 31, 30, 31]

/-- Days before a month, for months with the given lengths. -/
def daysBeforeMonth (months : List Nat) (month : Nat) : Nat := (months.take (month - 1)).foldl (· + ·) 0

/-- Number of a day, the first of January of the year one being one. -/
def ordinal (d : Date) : Nat := daysBeforeYear d.year + daysBeforeMonth (monthDays d.year) d.month + d.day

end Date

/-- Microseconds since the start of the year one in universal time, for a clock with the given offset. -/
def Moment.instant (m : Moment) (offset : Int) : Int :=
  ((m.date.ordinal : Int) * 86400 + m.hour * 3600 + m.minute * 60 + m.second - offset) * 1000000 + m.micro

/-- A value with no fixed type. The entries of a mapping are in the order of their first occurrence. A list or mapping
may be part of itself; where it comes round again stands a mark that tells which of the two it is. -/
inductive Value
  | null
  | bool (b : Bool)
  | int (n : Int)
  | float (x : Binary64)
  | text (s : Text)
  | bytes (data : List UInt8)
  | list (items : List Value)
  | pair (first second : Value)
  | map (entries : List (Value × Value))
  | set (members : List Value)
  | date (d : Date)
  | moment (m : Moment)
  | listAgain
  | mapAgain

/-- Something that can stand in a cell of a tape, alive or dead. -/
class Cell (α : Type) where
  alive : α → Bool

instance : Cell Bool := ⟨id⟩

namespace Value

/-- False for nothing, for a zero and for what is empty, and true for everything else. -/
def truth : Value → Bool
  | null => false
  | bool b => b
  | int n => n != 0
  | float x => x.truth
  | text s => !s.isEmpty
  | bytes data => !data.isEmpty
  | list items => !items.isEmpty
  | map entries => !entries.isEmpty
  | set members => !members.isEmpty
  | _ => true

instance : Cell Value := ⟨truth⟩

/-- Name of a value's type in messages. -/
def typeName : Value → String
  | null => "NoneType"
  | bool _ => "bool"
  | int _ => "int"
  | float _ => "float"
  | text _ => "str"
  | bytes _ => "bytes"
  | list _ => "list"
  | pair .. => "tuple"
  | map _ => "dict"
  | set _ => "set"
  | date _ => "date"
  | moment _ => "datetime"
  | listAgain => "list"
  | mapAgain => "dict"

/-- Name of a value's type with the module that it is from, where that is said. -/
def fullTypeName : Value → String
  | date _ => "datetime.date"
  | moment _ => "datetime.datetime"
  | v => v.typeName

/-- The whole number that a truth value or a whole number counts as. -/
def number? : Value → Option Int
  | bool b => some (if b then 1 else 0)
  | int n => some n
  | _ => none

/-- Moments with known offsets are equal as instants, others as clock readings. -/
def sameMoment (a b : Moment) : Bool :=
  match a.offset, b.offset with
  | some x, some y => a.instant x == b.instant y
  | none, none => a == b
  | _, _ => false

/-- What is no number and so not equal to itself. -/
def isNan : Value → Bool
  | float .nan => true
  | _ => false

mutual

/-- Equality of values: truth values and numbers of all types compare as numbers, lists by their items, and mappings
by the values of equal keys. -/
def same : Value → Value → Bool
  | null, null => true
  | bool a, b => sameNumber (if a then 1 else 0) b
  | int a, b => sameNumber a b
  | float x, float y => x.same y
  | float x, b => match b.number? with
    | some n => x.isInt n
    | none => false
  | text s, text t => s == t
  | bytes s, bytes t => s == t
  | list xs, list ys => sameItems xs ys
  | pair a b, pair c d => ((a.isNan && c.isNan) || same a c) && ((b.isNan && d.isNan) || same b d)
  | map xs, map ys => xs.length == ys.length && sameEntries xs ys
  | set xs, set ys => xs.length == ys.length && sameMembers xs ys
  | date c, date d => c == d
  | moment a, moment b => sameMoment a b
  | _, _ => false

/-- Equality of a whole number with a value. -/
def sameNumber (n : Int) : Value → Bool
  | bool b => n == if b then 1 else 0
  | int m => n == m
  | float x => x.isInt n
  | _ => false

/-- Equality item by item. Inside of a collection all that is no number is one thing. -/
def sameItems : List Value → List Value → Bool
  | [], [] => true
  | x :: xs, y :: ys => ((x.isNan && y.isNan) || same x y) && sameItems xs ys
  | _, _ => false

/-- Every entry has an equal one among the entries of the other mapping. -/
def sameEntries : List (Value × Value) → List (Value × Value) → Bool
  | [], _ => true
  | (k, v) :: rest, others =>
    (others.any fun other => same k other.1 && ((v.isNan && other.2.isNan) || same v other.2))
      && sameEntries rest others

/-- Every member is one of the other set too. -/
def sameMembers : List Value → List Value → Bool
  | [], _ => true
  | x :: xs, others => (others.any fun other => same x other) && sameMembers xs others

end

instance : BEq Value := ⟨same⟩

/-- The value of a string. -/
def ofString (s : String) : Value := text (.ofString s)

/-- The value at a key of a mapping. -/
def lookup (key : Value) (entries : List (Value × Value)) : Option Value :=
  (entries.find? fun entry => same key entry.1).map (·.2)

/-- Entries with a key set: an equal key keeps its place and its own form, a new key goes to the end. -/
def insert (key value : Value) : List (Value × Value) → List (Value × Value)
  | [] => [(key, value)]
  | (k, v) :: rest => if same k key then (k, value) :: rest else (k, v) :: insert key value rest

end Value

end TapeSheet
