/-!
# Double-precision numbers

A finite double is a sign and a whole number of units of 2⁻¹⁰⁷⁴, the smallest positive double. Every operation is its
exact result rounded to the nearest double, a tie going to the even significand.
-/

namespace TapeSheet

/-- A double-precision number; all bit patterns that are not numbers are one value. -/
inductive Binary64
  | finite (negative : Bool) (units : Nat)
  | infinite (negative : Bool)
  | nan
  deriving DecidableEq

namespace Binary64

/-- Units in the number one. -/
def one : Nat := Nat.pow 2 1074

/-- The quotient to the nearest whole number, a half to the even neighbour. -/
def roundDiv (num den : Nat) : Nat :=
  let q := num / den
  let r := num % den
  if 2 * r < den ∨ (2 * r = den ∧ q % 2 = 0) then q else q + 1

/-- Units between neighbouring doubles around a number of units, as a power of two. -/
def spacing (units : Nat) : Nat := units.log2 - 52

/-- The double nearest to `num / den` units. -/
def ofUnits (negative : Bool) (num den : Nat) : Binary64 :=
  let s := spacing (num / den)
  let units := roundDiv num (den <<< s) <<< s
  if units < Nat.pow 2 2098 then .finite negative units else .infinite negative

/-- The double nearest to the fraction `num / den`. -/
def ofQuotient (negative : Bool) (num den : Nat) : Binary64 := ofUnits negative (num * one) den

/-- The double nearest to a natural number. -/
def ofNat (n : Nat) : Binary64 := ofQuotient false n 1

/-- The double nearest to `digits · 10 ^ exponent`. -/
def ofDecimal (negative : Bool) (digits : Nat) (exponent : Int) : Binary64 :=
  if digits = 0 then .finite negative 0
  else
    let magnitude := exponent + digits.log2 / 3
    if 400 < exponent then .infinite negative
    else if magnitude < -400 then .finite negative 0
    else match exponent with
      | .ofNat e => ofQuotient negative (digits * Nat.pow 10 e) 1
      | .negSucc e => ofQuotient negative digits (Nat.pow 10 (e + 1))

/-- Signed number of units. -/
def signedUnits (negative : Bool) (units : Nat) : Int := if negative then -(units : Int) else units

/-- Sum, correctly rounded. -/
def add : Binary64 → Binary64 → Binary64
  | .nan, _ => .nan
  | _, .nan => .nan
  | .infinite a, .infinite b => if a = b then .infinite a else .nan
  | .infinite a, .finite .. => .infinite a
  | .finite .., .infinite b => .infinite b
  | .finite a m, .finite b n =>
    let total := signedUnits a m + signedUnits b n
    if total = 0 then .finite (a && b) 0 else ofUnits (total < 0) total.natAbs 1

/-- The number with the other sign. -/
def neg : Binary64 → Binary64
  | .finite negative units => .finite (!negative) units
  | .infinite negative => .infinite (!negative)
  | .nan => .nan

/-- Product, correctly rounded. -/
def mul : Binary64 → Binary64 → Binary64
  | .nan, _ => .nan
  | _, .nan => .nan
  | .infinite a, .infinite b => .infinite (a != b)
  | .infinite a, .finite b n => if n = 0 then .nan else .infinite (a != b)
  | .finite a m, .infinite b => if m = 0 then .nan else .infinite (a != b)
  | .finite a m, .finite b n => ofUnits (a != b) (m * n) one

/-- Equality of the numbers: the two zeros are equal, and what is no number differs from itself. -/
def same : Binary64 → Binary64 → Bool
  | .finite a m, .finite b n => signedUnits a m == signedUnits b n
  | .infinite a, .infinite b => a == b
  | _, _ => false

/-- Equality with a whole number. -/
def isInt : Binary64 → Int → Bool
  | .finite a m, n => signedUnits a m == n * one
  | _, _ => false

/-- Order of the numbers; what is no number is below and above nothing. -/
def lt : Binary64 → Binary64 → Bool
  | .nan, _ => false
  | _, .nan => false
  | .infinite a, .infinite b => a && !b
  | .infinite a, .finite .. => a
  | .finite .., .infinite b => !b
  | .finite a m, .finite b n => signedUnits a m < signedUnits b n

/-- Neither zero of either sign; what is no number counts. -/
def truth : Binary64 → Bool
  | .finite _ units => units != 0
  | _ => true

/-- The interchange format: a sign bit, eleven exponent bits and fifty-two fraction bits. -/
def bits : Binary64 → Nat
  | .finite negative units =>
    let s := spacing units
    let magnitude := if units < Nat.pow 2 52 then units else (s + 1) * Nat.pow 2 52 + (units >>> s - Nat.pow 2 52)
    if negative then Nat.pow 2 63 + magnitude else magnitude
  | .infinite negative => if negative then 0xfff0000000000000 else 0x7ff0000000000000
  | .nan => 0x7ff8000000000000

end Binary64

end TapeSheet
