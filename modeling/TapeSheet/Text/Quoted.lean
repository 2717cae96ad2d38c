import TapeSheet.Text
import TapeSheet.Text.Printable

/-!
# Quoted text

Text in quotes on one line, as it stands in messages: single quotes, or double quotes when the text holds a single
quote and no double one. A backslash and the active quote are written after a backslash, and letters that are not
printable by their code point.
-/

namespace TapeSheet.Text

/-- Lower-case hexadecimal digit of a number below sixteen. -/
def hexDigit (n : Nat) : Char := "0123456789abcdef".toList.getD n '0'

/-- Exactly `width` hexadecimal digits of a number, the last ones. -/
def hex : Nat → Nat → List Char
  | 0, _ => []
  | width + 1, n => hexDigit (n / Nat.pow 16 width % 16) :: hex width n

/-- A letter by its code point. -/
def codeEscape (code : Nat) : List Char :=
  if code < 0x100 then '\\' :: 'x' :: hex 2 code
  else if code < 0x10000 then '\\' :: 'u' :: hex 4 code
  else '\\' :: 'U' :: hex 8 code

/-- How one letter is written inside the quotes `quote`. -/
def escaped (quote : Char) : Letter → List Char
  | .half unit => codeEscape (Letter.half unit).code
  | .char c =>
    if c = quote ∨ c = '\\' then ['\\', c]
    else if c = '\n' then ['\\', 'n']
    else if c = '\r' then ['\\', 'r']
    else if c = '\t' then ['\\', 't']
    else if isPrintable c then [c]
    else codeEscape c.toNat

/-- The quote that goes around a text. -/
def quoteFor (t : Text) : Char :=
  if .char '\'' ∈ t.letters ∧ .char '"' ∉ t.letters then '"' else '\''

/-- A text between quotes, with escapes inside. -/
def quoted (t : Text) : String :=
  String.ofList (quoteFor t :: t.letters.flatMap (escaped (quoteFor t)) ++ [quoteFor t])

/-- Pieces between a separator. -/
def joined (separator : String) : List String → String
  | [] => ""
  | [piece] => piece
  | piece :: rest => piece ++ separator ++ joined separator rest

/-- Words in quotes with commas between them. -/
def quotedWords (words : List String) : String := joined ", " (words.map fun word => (ofString word).quoted)

/-- Why a text cannot be written, in words. -/
def Misfit.message (m : Misfit) : String :=
  match m.halves with
  | [l] =>
    "'utf-8' codec can't encode character '" ++ String.ofList (codeEscape l.code) ++ "' in position "
      ++ Nat.repr m.place ++ ": surrogates not allowed"
  | halves =>
    "'utf-8' codec can't encode characters in position " ++ Nat.repr m.place ++ "-"
      ++ Nat.repr (m.place + halves.length - 1) ++ ": surrogates not allowed"

end TapeSheet.Text
