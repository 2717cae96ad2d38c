import TapeSheet.Fault

/-!
# A place in a document's text

The rest of the text and its length, with the position as a count of characters and as line and column, and the
classes of characters that the grammar of documents speaks of. A NUL character stands for the end of the text.
-/

namespace TapeSheet.Yaml

/-- Why a document has no value: its text is malformed, or a scalar in it is refused. -/
inductive Stop
  | malformed
  | refused (fault : Fault)

/-- Mark of the end of a text. -/
def endMark : Char := '\x00'

/-- A line ends here. -/
def isBreak (c : Char) : Bool := c = '\n' || c = '\u0085' || c = '\u2028' || c = '\u2029'

/-- A line or the text ends here. -/
def isBreakOrEnd (c : Char) : Bool := isBreak c || c = endMark

/-- A blank stands here, or a line or the text ends. -/
def isGap (c : Char) : Bool := c = ' ' || isBreakOrEnd c

/-- A blank or a tab stands here, or a line or the text ends. -/
def isWideGap (c : Char) : Bool := c = '\t' || isGap c

/-- A decimal digit. -/
def isDigit (c : Char) : Bool := '0' ≤ c && c ≤ '9'

/-- A hexadecimal digit. -/
def isHexDigit (c : Char) : Bool := isDigit c || ('a' ≤ c && c ≤ 'f') || ('A' ≤ c && c ≤ 'F')

/-- A character of the names of anchors, directives and tag handles. -/
def isNameChar (c : Char) : Bool :=
  isDigit c || ('a' ≤ c && c ≤ 'z') || ('A' ≤ c && c ≤ 'Z') || c = '-' || c = '_'

/-- A character that a document may hold. -/
def isAllowed (c : Char) : Bool :=
  c = '\t' || c = '\n' || c = '\r' || c = '\u0085' || ('\x20' ≤ c && c ≤ '\x7e')
    || (0xa0 ≤ c.toNat && c.toNat ≤ 0xfffd) || 0x10000 ≤ c.toNat

/-- The byte order mark. -/
def byteOrderMark : Char := '\ufeff'

/-- A place in a text. -/
structure Cursor where
  rest : List Char
  left : Nat
  index : Nat
  line : Nat
  column : Nat

namespace Cursor

/-- The start of a text. -/
def start (text : List Char) : Cursor := ⟨text, text.length, 0, 0, 0⟩

/-- The character at an offset from a place. -/
def peekAt (c : Cursor) (offset : Nat) : Char := c.rest.getD offset endMark

/-- The character at a place. -/
def peek (c : Cursor) : Char := c.peekAt 0

/-- The place behind one character. -/
def next (c : Cursor) : Cursor :=
  match c.rest with
  | [] => c
  | ch :: rest =>
    if isBreak ch then ⟨rest, c.left - 1, c.index + 1, c.line + 1, 0⟩
    else ⟨rest, c.left - 1, c.index + 1, c.line, if ch = byteOrderMark then c.column else c.column + 1⟩

/-- The place behind a number of characters. -/
def advance : Nat → Cursor → Cursor
  | 0, c => c
  | n + 1, c => advance n c.next

/-- The place behind all characters of a class. -/
def skip (p : Char → Bool) (c : Cursor) : Cursor := c.advance (c.rest.takeWhile p).length

/-- The characters of a class from a place on, and the place behind them. -/
def run (p : Char → Bool) (c : Cursor) : List Char × Cursor := (c.rest.takeWhile p, c.skip p)

/-- A line break as it counts in a scalar, and the place behind it. -/
def lineBreak (c : Cursor) : List Char × Cursor :=
  let ch := c.peek
  if isBreak ch then ([if ch = '\u0085' then '\n' else ch], c.next) else ([], c)

/-- Three equal marks that separate documents, with a gap behind them. -/
def atSeparator (c : Cursor) (mark : Char) : Bool :=
  c.peekAt 0 = mark && c.peekAt 1 = mark && c.peekAt 2 = mark && isWideGap (c.peekAt 3)

/-- A document starts or ends here. -/
def atDocumentMark (c : Cursor) : Bool := c.atSeparator '-' || c.atSeparator '.'

/-- The place behind blanks and a comment, at the end of the line. -/
def skipComment (c : Cursor) : Cursor :=
  let c := c.skip (· = ' ')
  if c.peek = '#' then c.skip (fun ch => !isBreakOrEnd ch) else c

end Cursor

end TapeSheet.Yaml
