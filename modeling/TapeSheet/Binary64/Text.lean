import TapeSheet.Binary64
import TapeSheet.Text.Decimal

/-!
# Doubles in decimal text

The fewest digits that read back as the same double, a fixed number of places, and reading.
-/

namespace TapeSheet.Binary64

/-! ## Fewest digits -/

/-- Negated decimal exponent of a positive number of units below the number one: how often it is multiplied by ten
until it reaches one. -/
def stepsToOne : Nat → Nat → Nat
  | 0, _ => 0
  | fuel + 1, units => if one ≤ units then 0 else stepsToOne fuel (units * 10) + 1

/-- Decimal exponent of the leading digit of a positive number of units. -/
def decimalExponent (units : Nat) : Int :=
  if one ≤ units then (Decimal.ofNat (units / one)).length - 1 else -(stepsToOne 400 units : Int)

/-- The grid points of spacing `10 ^ exponent` just below and just above a number of units. -/
def neighbours (units : Nat) (exponent : Int) : List Nat :=
  let lower := match exponent with
    | .ofNat e => units / (one * Nat.pow 10 e)
    | .negSucc e => units * Nat.pow 10 (e + 1) / one
  [lower, lower + 1]

/-- Distance of a grid point from a number of units, on a common scale for all points of the grid. -/
def distance (units : Nat) (exponent : Int) (point : Nat) : Nat :=
  let (a, b) := match exponent with
    | .ofNat e => (units, point * Nat.pow 10 e * one)
    | .negSucc e => (units * Nat.pow 10 (e + 1), point * one)
  a - b + (b - a)

/-- The grid point nearest to a number of units among those that read back as it; a tie goes to the even point. -/
def readingBack? (units : Nat) (exponent : Int) : Option Nat :=
  match (neighbours units exponent).filter fun point =>
      decide (ofDecimal false point exponent = .finite false units) with
  | [] => none
  | [point] => some point
  | low :: high :: _ =>
    let below := distance units exponent low
    let above := distance units exponent high
    some (if below < above ∨ (below = above ∧ low % 2 = 0) then low else high)

/-- The first of the given counts of digits for which some decimal reads back, with the decimal's exponent. -/
def shortestFrom (units : Nat) (leading : Int) : Nat → Nat → Nat × Int
  | 0, _ => (units, 0)
  | fuel + 1, count =>
    let exponent := leading - count + 1
    match readingBack? units exponent with
    | some point => (point, exponent)
    | none => shortestFrom units leading fuel (count + 1)

/-- A positive number of units as the shortest `digits · 10 ^ exponent` that reads back. -/
def shortest (units : Nat) : Nat × Int := shortestFrom units (decimalExponent units) 20 1

/-- Digits without the zeros at their end, and their decimal exponent as that of the leading digit. -/
def significant (digits : Nat) (exponent : Int) : List Char × Int :=
  let text := (Decimal.ofNat digits).toList
  ((text.reverse.dropWhile (· = '0')).reverse, exponent + text.length - 1)

/-- Positional or scientific text of digits whose leading one has the given decimal exponent: positional for
exponents from -4 to 15, with at least one digit after the point. -/
def layout (digits : List Char) (leading : Int) : String :=
  if -4 ≤ leading ∧ leading < 16 then
    if leading < 0 then
      "0." ++ String.ofList (List.replicate (-leading - 1).toNat '0' ++ digits)
    else
      let whole := leading.toNat + 1
      let integer := digits.take whole ++ List.replicate (whole - digits.length) '0'
      let fraction := digits.drop whole
      String.ofList integer ++ "." ++ (if fraction.isEmpty then "0" else String.ofList fraction)
  else
    let mantissa := match digits with
      | [d] => String.ofList [d]
      | d :: rest => String.ofList (d :: '.' :: rest)
      | [] => ""
    mantissa ++ "e" ++ (if leading < 0 then "-" else "+") ++ Decimal.padded 2 leading.natAbs

/-- The shortest text that reads back as the same number, always with a point or an exponent. -/
def text : Binary64 → String
  | .nan => "nan"
  | .infinite negative => if negative then "-inf" else "inf"
  | .finite negative units =>
    let magnitude :=
      if units = 0 then "0.0"
      else
        let (digits, exponent) := shortest units
        let (digits, leading) := significant digits exponent
        layout digits leading
    if negative then "-" ++ magnitude else magnitude

/-! ## Fixed places -/

/-- Text with exactly `places` digits after the point, a tie to the even neighbour. -/
def fixed (places : Nat) : Binary64 → String
  | .nan => "nan"
  | .infinite negative => if negative then "-inf" else "inf"
  | .finite negative units =>
    let scaled := roundDiv (units * Nat.pow 10 places) one
    let magnitude := Decimal.ofNat (scaled / Nat.pow 10 places) ++
      (if places = 0 then "" else "." ++ Decimal.padded places (scaled % Nat.pow 10 places))
    if negative then "-" ++ magnitude else magnitude

/-! ## Reading -/

/-- Value of decimal digits of the ten ASCII characters. -/
def digitsValue (digits : List Char) : Nat :=
  digits.foldl (fun acc c => acc * 10 + (c.toNat - '0'.toNat)) 0

/-- The double nearest to a decimal with the given digits before and after the point and the given exponent. -/
def ofParts (negative : Bool) (whole fraction : List Char) (exponent : Int) : Binary64 :=
  ofDecimal negative (digitsValue (whole ++ fraction)) (exponent - fraction.length)

end TapeSheet.Binary64
