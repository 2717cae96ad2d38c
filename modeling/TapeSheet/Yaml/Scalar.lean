import TapeSheet.Json.Reader
import TapeSheet.Yaml.Cursor

/-!
# Scalars in a document's text

The text that a plain, a quoted or a block scalar stands for, read from its place in a document.
-/

namespace TapeSheet.Yaml

/-! ## Plain scalars -/

/-- The characters of a plain scalar up to a gap, a value mark or, inside brackets, a bracket or comma. -/
def plainRun (inFlow : Bool) : List Char → List Char
  | [] => []
  | ch :: rest =>
    let following := rest.headD endMark
    if isWideGap ch
        || (ch = ':' && (isWideGap following || (inFlow && ",[]{}".toList.contains following)))
        || (inFlow && ",?[]{}".toList.contains ch) then []
    else ch :: plainRun inFlow rest

/-- Blanks and line breaks after the first break inside a plain scalar: the further breaks, or nothing where a
document ends, and the place behind. -/
def plainBreaks : Nat → List Char → Cursor → Option (List Char) × Cursor
  | 0, breaks, c => (some breaks, c)
  | fuel + 1, breaks, c =>
    if c.peek = ' ' then plainBreaks fuel breaks c.next
    else if isBreak c.peek then
      let (line, c) := c.lineBreak
      if c.atDocumentMark then (none, c) else plainBreaks fuel (breaks ++ line) c
    else (some breaks, c)

/-- What breaks between two parts of a scalar stand for: a single one is a blank. -/
def foldedBreaks (first further : List Char) : List Char :=
  (if first ≠ ['\n'] then first else if further.isEmpty then [' '] else []) ++ further

/-- The gap between two parts of a plain scalar, the place behind it, and whether a line has ended in it. -/
def plainGap (c : Cursor) : List Char × Cursor × Bool :=
  let (blanks, c) := c.run (· = ' ')
  if isBreak c.peek then
    let (first, c) := c.lineBreak
    if c.atDocumentMark then ([], c, true)
    else
      match plainBreaks (c.left + 1) [] c with
      | (none, c) => ([], c, true)
      | (some further, c) => (foldedBreaks first further, c, true)
  else (blanks, c, false)

/-- A plain scalar as far as it goes, its text backwards. -/
structure PlainScalar where
  backwards : List Char
  rest : Cursor
  lineEnded : Bool

/-- Text of a plain scalar. -/
def PlainScalar.text (s : PlainScalar) : List Char := s.backwards.reverse

/-- Reads on a plain scalar whose lines are indented to at least `indent` outside of brackets; `gap` stands between
the text so far and the next part. -/
def plainFrom (inFlow : Bool) (indent : Int) : Nat → List Char → PlainScalar → PlainScalar
  | 0, _, s => s
  | fuel + 1, gap, s =>
    let part := if s.rest.peek = '#' then [] else plainRun inFlow s.rest.rest
    if part.isEmpty then s
    else
      let (gap', c, ended) := plainGap (s.rest.advance part.length)
      let s := ⟨part.reverseAux (gap.reverseAux s.backwards), c, ended⟩
      if gap'.isEmpty || c.peek = '#' || (!inFlow && (c.column : Int) < indent) then s
      else plainFrom inFlow indent fuel gap' s

/-- Reads a plain scalar. -/
def readPlain (inFlow : Bool) (indent : Int) (c : Cursor) : PlainScalar :=
  plainFrom inFlow indent (c.left + 1) [] ⟨[], c, false⟩

/-! ## Quoted scalars -/

/-- What an escape of one letter stands for. -/
def letterEscape? : Char → Option Char
  | '0' => some '\x00'
  | 'a' => some '\x07'
  | 'b' => some '\x08'
  | 't' => some '\t'
  | '\t' => some '\t'
  | 'n' => some '\n'
  | 'v' => some '\x0b'
  | 'f' => some '\x0c'
  | 'r' => some '\r'
  | 'e' => some '\x1b'
  | ' ' => some ' '
  | '"' => some '"'
  | '\\' => some '\\'
  | '/' => some '/'
  | 'N' => some '\u0085'
  | '_' => some '\u00a0'
  | 'L' => some '\u2028'
  | 'P' => some '\u2029'
  | _ => none

/-- Count of hexadecimal digits after an escape by code point. -/
def codeEscape? : Char → Option Nat
  | 'x' => some 2
  | 'u' => some 4
  | 'U' => some 8
  | _ => none

/-- Value of hexadecimal digits. -/
def hexValue (digits : List Char) : Nat :=
  digits.foldl (fun acc d => acc * 16 + (Json.hexValue? d).getD 0) 0

/-- Line breaks inside a quoted scalar, with blanks and tabs around them; a document must not end there. -/
def quotedBreaks : Nat → List Char → Cursor → Except Stop (List Char × Cursor)
  | 0, breaks, c => .ok (breaks, c)
  | fuel + 1, breaks, c =>
    if c.atDocumentMark then .error .malformed
    else
      let c := c.skip fun ch => ch = ' ' || ch = '\t'
      if isBreak c.peek then
        let (line, c) := c.lineBreak
        quotedBreaks fuel (breaks ++ line) c
      else .ok (breaks, c)

/-- Blanks and line breaks between two parts of a quoted scalar. -/
def quotedGap (c : Cursor) : Except Stop (List Char × Cursor) :=
  let (blanks, c) := c.run fun ch => ch = ' ' || ch = '\t'
  if c.peek = endMark then .error .malformed
  else if isBreak c.peek then
    let (first, c) := c.lineBreak
    match quotedBreaks (c.left + 1) [] c with
    | .error stop => .error stop
    | .ok (further, c) => .ok (foldedBreaks first further, c)
  else .ok (blanks, c)

/-- Largest number that is looked up as a code point at all. -/
def codeLimit : Nat := 0x7fffffff

/-- The letter of a code point in an escape. -/
def letterOf (code : Nat) : Except Stop Letter :=
  if codeLimit < code then .error (.refused (.overflow .character))
  else
    match Letter.ofCode? code with
    | some l => .ok l
    | none => .error (.refused (.range .characterOutOfRange))

/-- What the escape behind a backslash stands for. -/
def readEscape (c : Cursor) : Except Stop (List Letter × Cursor) :=
  match letterEscape? c.peek, codeEscape? c.peek with
  | some plain, _ => .ok ([.char plain], c.next)
  | none, some count =>
    let digits := c.next.rest.take count
    if digits.length = count ∧ digits.all isHexDigit then
      (letterOf (hexValue digits)).map fun l => ([l], c.next.advance count)
    else .error .malformed
  | none, none =>
    if isBreak c.peek then
      let c := c.lineBreak.2
      (quotedBreaks (c.left + 1) [] c).map fun (breaks, c) => (breaks.map .char, c)
    else .error .malformed

/-- Reads on a quoted scalar up to its closing quote; `acc` holds its letters so far backwards. -/
def quotedFrom (double : Bool) : Nat → List Letter → Cursor → Except Stop (Text × Cursor)
  | 0, _, _ => .error .malformed
  | fuel + 1, acc, c =>
    let ch := c.peek
    if ch = endMark then .error .malformed
    else if isWideGap ch then
      match quotedGap c with
      | .error stop => .error stop
      | .ok (gap, c) => quotedFrom double fuel ((gap.map .char).reverseAux acc) c
    else if double then
      if ch = '"' then .ok (⟨acc.reverse⟩, c.next)
      else if ch = '\\' then
        match readEscape c.next with
        | .error stop => .error stop
        | .ok (plain, c) => quotedFrom double fuel (plain.reverseAux acc) c
      else quotedFrom double fuel (.char ch :: acc) c.next
    else if ch = '\'' then
      if c.peekAt 1 = '\'' then quotedFrom double fuel (.char ch :: acc) (c.advance 2) else .ok (⟨acc.reverse⟩, c.next)
    else quotedFrom double fuel (.char ch :: acc) c.next

/-- Reads a quoted scalar at its opening quote. -/
def readQuoted (c : Cursor) : Except Stop (Text × Cursor) :=
  quotedFrom (c.peek = '"') (c.left + 1) [] c.next

/-! ## Block scalars -/

/-- What becomes of the line breaks at the end of a block scalar. -/
inductive Chomping
  | strip
  | clip
  | keep
  deriving DecidableEq

/-- The chomping that a mark asks for. -/
def chompingOf? : Char → Option Chomping
  | '+' => some .keep
  | '-' => some .strip
  | _ => none

/-- An indentation indicator other than zero. -/
def indentationOf (c : Cursor) : Except Stop (Option Nat × Cursor) :=
  if isDigit c.peek then
    if c.peek = '0' then .error .malformed else .ok (some (c.peek.toNat - '0'.toNat), c.next)
  else .ok (none, c)

/-- Reads the indicators of a block scalar, in either order, and the rest of its first line. -/
def blockHeader (c : Cursor) : Except Stop (Chomping × Option Nat × Cursor) := do
  let (chomping, indentation, c) ← match chompingOf? c.peek with
    | some chomping =>
      let (indentation, c) ← indentationOf c.next
      pure (chomping, indentation, c)
    | none =>
      let (indentation, c) ← indentationOf c
      match indentation, chompingOf? c.peek with
      | some _, some chomping => pure (chomping, indentation, c.next)
      | _, _ => pure (Chomping.clip, indentation, c)
  if !isGap c.peek then throw .malformed
  let c := c.skipComment
  if !isBreakOrEnd c.peek then throw .malformed
  pure (chomping, indentation, c.lineBreak.2)

/-- Breaks and blanks before the first line of a block scalar: the breaks, the deepest column, and the place. -/
def leadingBreaks : Nat → List Char → Nat → Cursor → List Char × Nat × Cursor
  | 0, breaks, deepest, c => (breaks, deepest, c)
  | fuel + 1, breaks, deepest, c =>
    if c.peek = ' ' then
      let c := c.next
      leadingBreaks fuel breaks (max deepest c.column) c
    else if isBreak c.peek then
      let (line, c) := c.lineBreak
      leadingBreaks fuel (breaks ++ line) deepest c
    else (breaks, deepest, c)

/-- The place behind the blanks before a column. -/
def skipIndent (indent : Nat) (c : Cursor) : Cursor :=
  c.advance ((c.rest.take (indent - c.column)).takeWhile (· = ' ')).length

/-- Breaks of empty lines and the indentation of the next line. -/
def blockBreaks (indent : Nat) : Nat → List Char → Cursor → List Char × Cursor
  | 0, breaks, c => (breaks, c)
  | fuel + 1, breaks, c =>
    let c := skipIndent indent c
    if isBreak c.peek then
      let (line, c) := c.lineBreak
      blockBreaks indent fuel (breaks ++ line) c
    else (breaks, c)

/-- A block scalar as far as it goes: its text backwards, the break of its last line, and the breaks behind it. -/
structure BlockScalar where
  backwards : List Char
  lastBreak : List Char
  breaks : List Char
  rest : Cursor

/-- The place is at a line of a block scalar. -/
def atBlockLine (indent : Nat) (c : Cursor) : Bool := c.column == indent && c.peek != endMark

/-- Reads on a block scalar, line by line. -/
def blockLines (folded : Bool) (indent : Nat) : Nat → BlockScalar → BlockScalar
  | 0, s => s
  | fuel + 1, s =>
    let flush := s.rest.peek != ' ' && s.rest.peek != '\t'
    let (line, c) := s.rest.run fun ch => !isBreakOrEnd ch
    let (lastBreak, c) := c.lineBreak
    let (breaks, c) := blockBreaks indent (c.left + 1) [] c
    let backwards := line.reverseAux (s.breaks.reverseAux s.backwards)
    if atBlockLine indent c then
      let joint :=
        if folded && lastBreak == ['\n'] && flush && c.peek != ' ' && c.peek != '\t' then
          if breaks.isEmpty then [' '] else []
        else lastBreak
      blockLines folded indent fuel ⟨joint.reverseAux backwards, lastBreak, breaks, c⟩
    else ⟨backwards, lastBreak, breaks, c⟩

/-- Reads a block scalar at its mark, inside a block of the given indentation. -/
def readBlock (folded : Bool) (outer : Int) (c : Cursor) : Except Stop (List Char × Cursor) := do
  let (chomping, indentation, c) ← blockHeader c.next
  let least := (max 1 (outer + 1)).toNat
  let (breaks, indent, c) := match indentation with
    | none =>
      let (breaks, deepest, c) := leadingBreaks (c.left + 1) [] 0 c
      (breaks, max least deepest, c)
    | some more =>
      let indent := least + more - 1
      let (breaks, c) := blockBreaks indent (c.left + 1) [] c
      (breaks, indent, c)
  let s : BlockScalar := ⟨[], [], breaks, c⟩
  let s := if atBlockLine indent c then blockLines folded indent (c.left + 1) s else s
  pure (s.backwards.reverse ++ (if chomping = .strip then [] else s.lastBreak)
    ++ (if chomping = .keep then s.breaks else []), s.rest)

end TapeSheet.Yaml
