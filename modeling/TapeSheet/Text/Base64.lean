import TapeSheet.Text

/-!
# Bytes in sixty-four characters

Reading bytes that are written with six bits for each character. Characters outside the alphabet do not count, and
nothing behind the padding of a group is read.
-/

namespace TapeSheet.Base64

/-- Value of a character of the alphabet. -/
def digit? (c : Char) : Option Nat :=
  if 'A' ≤ c ∧ c ≤ 'Z' then some (c.toNat - 'A'.toNat)
  else if 'a' ≤ c ∧ c ≤ 'z' then some (c.toNat - 'a'.toNat + 26)
  else if '0' ≤ c ∧ c ≤ '9' then some (c.toNat - '0'.toNat + 52)
  else if c = '+' then some 62
  else if c = '/' then some 63
  else none

/-- A group of four characters read in part: the number of its characters so far, the bits that are part of no byte
yet, and the number of padding marks since the last character. -/
structure Group where
  size : Nat
  bits : Nat
  padding : Nat

/-- The start of a group. -/
def Group.start : Group := ⟨0, 0, 0⟩

/-- The bytes that a character completes, at most one, and the group with it. -/
def Group.add (g : Group) (digit : Nat) : List UInt8 × Group :=
  match g.size with
  | 0 => ([], ⟨1, digit, 0⟩)
  | 1 => ([UInt8.ofNat (g.bits * 4 + digit / 16)], ⟨2, digit % 16, 0⟩)
  | 2 => ([UInt8.ofNat (g.bits * 16 + digit / 4)], ⟨3, digit % 4, 0⟩)
  | _ => ([UInt8.ofNat (g.bits * 64 + digit)], .start)

/-- Reads on the bytes of characters. A group that is not padded to its end has none. -/
def decodeFrom (g : Group) : List Char → Option (List UInt8)
  | [] => if g.size = 0 then some [] else none
  | c :: rest =>
    if c = '=' then
      if g.size < 2 then decodeFrom g rest
      else if 4 ≤ g.size + g.padding + 1 then some []
      else decodeFrom { g with padding := g.padding + 1 } rest
    else
      match digit? c with
      | none => decodeFrom g rest
      | some digit =>
        let (bytes, g) := g.add digit
        (decodeFrom g rest).map (bytes ++ ·)

/-- The bytes that characters stand for. -/
def decode (chars : List Char) : Option (List UInt8) := decodeFrom .start chars

end TapeSheet.Base64
