import TapeSheet.Text.Decimal
import TapeSheet.Text.Quoted

/-!
# Whole numbers in text

Reading a whole number in a given base: blanks around it, a sign, digits of any decimal script, and single
underscores between digits.
-/

namespace TapeSheet.Numeral

/-- Code points of the zeros of all decimal scripts; the digits one to nine follow each. -/
def scriptZeros : List Nat :=
  [0x30, 0x660, 0x6f0, 0x7c0, 0x966, 0x9e6, 0xa66, 0xae6, 0xb66, 0xbe6, 0xc66, 0xce6, 0xd66, 0xde6, 0xe50, 0xed0,
   0xf20, 0x1040, 0x1090, 0x17e0, 0x1810, 0x1946, 0x19d0, 0x1a80, 0x1a90, 0x1b50, 0x1bb0, 0x1c40, 0x1c50, 0xa620,
   0xa8d0, 0xa900, 0xa9d0, 0xa9f0, 0xaa50, 0xabf0, 0xff10, 0x104a0, 0x10d30, 0x11066, 0x110f0, 0x11136, 0x111d0,
   0x112f0, 0x11450, 0x114d0, 0x11650, 0x116c0, 0x11730, 0x118e0, 0x11950, 0x11c50, 0x11d50, 0x11da0, 0x16a60,
   0x16ac0, 0x16b50, 0x1d7ce, 0x1d7d8, 0x1d7e2, 0x1d7ec, 0x1d7f6, 0x1e140, 0x1e2f0, 0x1e950, 0x1fbf0]

/-- Value of a decimal digit of any script. -/
def decimalDigit? (c : Char) : Option Nat :=
  (scriptZeros.find? fun first => first ≤ c.toNat ∧ c.toNat < first + 10).map (c.toNat - ·)

/-- Value of a digit in bases up to thirty-six: a decimal digit, or a Latin letter from ten on. -/
def digit? (c : Char) : Option Nat :=
  if 'a' ≤ c ∧ c ≤ 'z' then some (c.toNat - 'a'.toNat + 10)
  else if 'A' ≤ c ∧ c ≤ 'Z' then some (c.toNat - 'A'.toNat + 10)
  else decimalDigit? c

/-- Blanks outside ASCII. -/
def isWideBlank (c : Char) : Bool :=
  [0x85, 0xa0, 0x1680, 0x2028, 0x2029, 0x202f, 0x205f, 0x3000].contains c.toNat
    || (0x2000 ≤ c.toNat && c.toNat ≤ 0x200a)

/-- Blanks that may stand around a numeral. -/
def isBlank (c : Char) : Bool :=
  c = ' ' || ('\t' ≤ c && c ≤ '\r') || isWideBlank c

/-- A text without the blanks at its two ends. -/
def trimmed (text : List Char) : List Char :=
  ((text.dropWhile isBlank).reverse.dropWhile isBlank).reverse

/-- A digit of a base, or an underscore. -/
def isNumeralChar (base : Nat) (c : Char) : Bool := c = '_' || (digit? c).any (· < base)

/-- Value of digits in a base, continued from `acc`; `after` says that a digit has just been read, so that an
underscore may follow. -/
def digitsFrom? (base acc : Nat) (after : Bool) : List Char → Option Nat
  | [] => if after then some acc else none
  | '_' :: rest => if after then digitsFrom? base acc false rest else none
  | c :: rest =>
    match digit? c with
    | some d => if d < base then digitsFrom? base (acc * base + d) true rest else none
    | none => none

/-- The digits after the mark of their base, which may be followed by one underscore. -/
def withoutMark (base : Nat) : List Char → List Char
  | '0' :: mark :: rest =>
    if base = 2 ∧ (mark = 'b' ∨ mark = 'B') ∨ base = 8 ∧ (mark = 'o' ∨ mark = 'O')
        ∨ base = 16 ∧ (mark = 'x' ∨ mark = 'X') then
      match rest with
      | '_' :: more => more
      | more => more
    else '0' :: mark :: rest
  | rest => rest

/-- Why a text is no whole number. -/
inductive Fault
  | malformed (base : Nat) (text : Text)
  | tooLong (digits : Nat)
  deriving DecidableEq

/-- Most characters of a malformed numeral that a message shows, quotes and escapes included. -/
def shownLimit : Nat := 200

/-- Wording of a numeral fault. -/
def Fault.message : Fault → String
  | .malformed base text =>
    "invalid literal for int() with base " ++ Decimal.ofNat base ++ ": "
      ++ String.ofList (text.quoted.toList.take shownLimit)
  | .tooLong digits =>
    "Exceeds the limit (" ++ Decimal.ofNat Decimal.digitLimit ++ " digits) for integer string conversion: value has "
      ++ Decimal.ofNat digits ++ " digits; use sys.set_int_max_str_digits() to increase the limit"

/-- Value of the numeral that characters without a sign start with; only blanks may follow it. Too many digits are a
fault whatever follows. -/
def magnitude (base : Nat) (text : Text) (chars : List Char) : Except Fault Nat :=
  let chars := withoutMark base chars
  let numeral := chars.takeWhile (isNumeralChar base)
  match digitsFrom? base 0 false numeral with
  | none => .error (.malformed base text)
  | some n =>
    let count := (numeral.filter (· ≠ '_')).length
    if base = 10 ∧ Decimal.digitLimit < count then .error (.tooLong count)
    else if (chars.drop numeral.length).all isBlank then .ok n
    else .error (.malformed base text)

/-- Reads a whole number written in a base. -/
def parse (base : Nat) (text : Text) : Except Fault Int :=
  match text.shape.dropWhile isBlank with
  | '-' :: digits => (magnitude base text digits).map fun n => -(n : Int)
  | '+' :: digits => (magnitude base text digits).map fun n => (n : Int)
  | digits => (magnitude base text digits).map fun n => (n : Int)

end TapeSheet.Numeral
