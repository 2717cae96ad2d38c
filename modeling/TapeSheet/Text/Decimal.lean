/-!
# Decimal text of whole numbers

Plain decimal text of an integer, and the same with commas between groups of three digits. Numbers of more than 4300
digits are not written at all where a text is made for readers.
-/

namespace TapeSheet.Decimal

/-- Decimal digits without leading zeros, after a minus sign for a negative number. -/
def ofInt : Int → String
  | .ofNat n => Nat.repr n
  | .negSucc n => "-" ++ Nat.repr (n + 1)

/-- Decimal digits of a natural number without leading zeros. -/
def ofNat (n : Nat) : String := Nat.repr n

/-- Decimal text filled up with zeros on the left to at least `width` digits. -/
def padded (width n : Nat) : String :=
  let digits := ofNat n
  String.ofList (List.replicate (width - digits.length) '0') ++ digits

/-- Commas between groups of three, for digits given from the last to the first. -/
def commas : List Char → List Char
  | a :: b :: c :: d :: rest => a :: b :: c :: ',' :: commas (d :: rest)
  | rest => rest

/-- Decimal text with a comma before every third digit counted from the right. -/
def grouped (n : Nat) : String := String.ofList (commas (ofNat n).toList.reverse).reverse

/-- Most digits of a whole number that is read or written. -/
def digitLimit : Nat := 4300

/-- The least number with too many digits. -/
def unwritable : Nat := Nat.pow 10 digitLimit

/-- A number has not too many digits. -/
def isWritable (n : Int) : Bool := n.natAbs < unwritable

end TapeSheet.Decimal
