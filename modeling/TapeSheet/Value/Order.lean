import TapeSheet.Value

/-!
# Values in order

Numbers and truth values are ordered as numbers, texts by their letters, days and moments in time. Values of
different kinds have no order, and neither have moments if the offset of only one of them is known.
-/

namespace TapeSheet.Value

/-- A kind of values that have an order among themselves. -/
inductive Kind
  | number
  | text
  | bytes
  | date
  | moment
  | placedMoment
  | other
  deriving DecidableEq

/-- The kind of a value. -/
def kind : Value → Kind
  | bool _ => .number
  | int _ => .number
  | float _ => .number
  | text _ => .text
  | bytes _ => .bytes
  | date _ => .date
  | moment m => if m.offset.isSome then .placedMoment else .moment
  | _ => .other

/-- A number as minus one, zero or one for a negative infinite, a finite or a positive infinite one, and as units. -/
def magnitude : Value → Int × Int
  | bool b => (0, (if b then 1 else 0) * Binary64.one)
  | int n => (0, n * Binary64.one)
  | float (.finite negative units) => (0, Binary64.signedUnits negative units)
  | float (.infinite negative) => (if negative then -1 else 1, 0)
  | _ => (0, 0)

/-- Order of sequences of bytes, byte by byte. -/
def bytesLe : List UInt8 → List UInt8 → Bool
  | [], _ => true
  | _ :: _, [] => false
  | a :: s, b :: t => a < b || (a == b && bytesLe s t)

/-- Order of two values of one kind. -/
def notAbove : Value → Value → Bool
  | text s, text t => s.le t
  | bytes s, bytes t => bytesLe s t
  | date c, date d => c.ordinal ≤ d.ordinal
  | moment a, moment b => a.instant (a.offset.getD 0) ≤ b.instant (b.offset.getD 0)
  | a, b =>
    let (side, units) := a.magnitude
    let (side', units') := b.magnitude
    side < side' || (side == side' && units ≤ units')

/-- Values in ascending order, or two of them that have no order. -/
def sorted : List Value → Except (Value × Value) (List Value)
  | [] => .ok []
  | [v] => .ok [v]
  | first :: rest =>
    match rest.find? fun v => v.kind != first.kind || v.kind == .other with
    | some v => .error (v, first)
    | none => .ok ((first :: rest).mergeSort notAbove)

end TapeSheet.Value
