/-!
# Texts

A text is a sequence of letters: characters, and halves of surrogate pairs that stand alone. Escapes in documents can
name such halves, but no file can hold them.
-/

namespace TapeSheet

/-- A character, or half of a surrogate pair. -/
inductive Letter
  | char (c : Char)
  | half (unit : Fin 0x800)
  deriving DecidableEq

namespace Letter

/-- Code point of a letter. -/
def code : Letter → Nat
  | char c => c.toNat
  | half unit => 0xd800 + unit

/-- The letter of a code point. -/
def ofCode? (code : Nat) : Option Letter :=
  if valid : code.isValidChar then some (.char (Char.ofNatAux code valid))
  else if isHalf : 0xd800 ≤ code ∧ code < 0xe000 then some (.half ⟨code - 0xd800, by omega⟩)
  else none

/-- The character that a letter is. -/
def char? : Letter → Option Char
  | char c => some c
  | half _ => none

/-- Half of a surrogate pair. -/
def isHalf : Letter → Bool
  | char _ => false
  | half _ => true

/-- Number of bytes of a letter, where the halves count as other letters of their size do. -/
def byteSize : Letter → Nat
  | char c => c.utf8Size
  | half _ => 3

end Letter

/-- A sequence of letters. -/
structure Text where
  letters : List Letter
  deriving DecidableEq

namespace Text

/-- The text of characters. -/
def ofChars (chars : List Char) : Text := ⟨chars.map .char⟩

/-- The text of a string. -/
def ofString (s : String) : Text := ofChars s.toList

instance : Coe String Text := ⟨ofString⟩

/-- One text behind another. -/
def append (s t : Text) : Text := ⟨s.letters ++ t.letters⟩

instance : Append Text := ⟨append⟩

/-- A text without letters. -/
def isEmpty (t : Text) : Bool := t.letters.isEmpty

/-- Number of letters. -/
def length (t : Text) : Nat := t.letters.length

/-- The characters of a text without halves. -/
def chars? (t : Text) : Option (List Char) := t.letters.mapM Letter.char?

/-- The characters of a text, with the replacement character in place of halves, for rules that know neither. -/
def shape (t : Text) : List Char := t.letters.map fun l => l.char?.getD '\ufffd'

/-- The string of a text without halves. -/
def string? (t : Text) : Option String := t.chars?.map String.ofList

/-- Order by code points, letter by letter. -/
def codesLe : List Letter → List Letter → Bool
  | [], _ => true
  | _ :: _, [] => false
  | a :: s, b :: t => a.code < b.code || (a.code == b.code && codesLe s t)

/-- Order of texts by the code points of their letters. -/
def le (s t : Text) : Bool := codesLe s.letters t.letters

/-- Texts with another one between each two of them. -/
def glued (separator : Text) : List Text → Text
  | [] => ⟨[]⟩
  | [piece] => piece
  | piece :: rest => piece ++ (separator ++ glued separator rest)

/-! ## Texts that cannot be written -/

/-- Halves in a row that stand in the way of writing a text, and the place of the first one. -/
structure Misfit where
  place : Nat
  halves : List Letter

/-- The first letter of a kind with all halves that follow it. -/
def misfitFrom (stands : Letter → Bool) (place : Nat) : List Letter → Option Misfit
  | [] => none
  | l :: rest =>
    if stands l then some ⟨place, l :: rest.takeWhile Letter.isHalf⟩ else misfitFrom stands (place + 1) rest

/-- What stands in the way of writing a text to a file. -/
def misfit? (t : Text) : Option Misfit := misfitFrom Letter.isHalf 0 t.letters

/-- The string that a text is written as. -/
def encode (t : Text) : Except Misfit String :=
  match t.misfit? with
  | some misfit => .error misfit
  | none => .ok (String.ofList (t.letters.filterMap Letter.char?))

end Text

end TapeSheet
