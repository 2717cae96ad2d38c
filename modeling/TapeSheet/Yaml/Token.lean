import TapeSheet.Yaml.Scalar

/-!
# Tokens of a document

The text of a document as a sequence of tokens. Indentation becomes start and end tokens of blocks. Whether
something is the key of a mapping shows only at the colon behind it, so the key token is put in front of it then. A
text that cannot be read to its end has the tokens that are certain by then, and the reason behind them.
-/

namespace TapeSheet.Yaml

/-- A token. -/
inductive Token
  | version (major : Nat)
  | tagHandle (handle replacement : String)
  | directive
  | documentStart
  | documentEnd
  | streamEnd
  | blockSequence
  | blockMapping
  | blockEnd
  | openBracket
  | closeBracket
  | openBrace
  | closeBrace
  | comma
  | entry
  | key
  | value
  | alias (name : String)
  | anchor (name : String)
  | tag (handle : Option String) (suffix : String)
  | scalar (text : Text) (plain : Bool)
  | stopped (stop : Stop)

/-! ## Tokens with names -/

/-- The characters of a name, of which there has to be at least one. -/
def readName (c : Cursor) : Except Stop (List Char × Cursor) :=
  match c.run isNameChar with
  | ([], _) => .error .malformed
  | found => .ok found

/-- Reads the name of an anchor or alias behind its mark. -/
def readAnchor (c : Cursor) : Except Stop (String × Cursor) := do
  let (name, c) ← readName c
  if isWideGap c.peek || "?:,]\x7d%@\x60".toList.contains c.peek then pure (String.ofList name, c)
  else throw .malformed

/-- Reads a tag handle: one mark, or a name between two. -/
def readHandle (c : Cursor) : Except Stop (String × Cursor) :=
  if c.peek ≠ '!' then .error .malformed
  else if c.peekAt 1 = ' ' then .ok ("!", c.next)
  else
    let (name, c) := c.next.run isNameChar
    if c.peek = '!' then .ok (String.ofList ('!' :: name ++ ['!']), c.next) else .error .malformed

/-- A character of a tag as it is written. -/
def isTagChar (c : Char) : Bool := isNameChar c || ";/?:@&=+$,.!~*'()[]".toList.contains c

/-- Bytes given by hexadecimal digits, each behind a percent sign. -/
def readBytes : Nat → ByteArray → Cursor → Except Stop (ByteArray × Cursor)
  | 0, bytes, c => .ok (bytes, c)
  | fuel + 1, bytes, c =>
    if c.peek = '%' then
      if isHexDigit (c.peekAt 1) && isHexDigit (c.peekAt 2) then
        readBytes fuel (bytes.push (UInt8.ofNat (hexValue [c.peekAt 1, c.peekAt 2]))) (c.advance 3)
      else .error .malformed
    else .ok (bytes, c)

/-- Reads on the text of a tag. -/
def tagTextFrom : Nat → List Char → Cursor → Except Stop (List Char × Cursor)
  | 0, acc, c => .ok (acc, c)
  | fuel + 1, acc, c =>
    if c.peek = '%' then
      match readBytes (c.left + 1) ByteArray.empty c with
      | .error stop => .error stop
      | .ok (bytes, c) =>
        match String.fromUTF8? bytes with
        | some text => tagTextFrom fuel (acc ++ text.toList) c
        | none => .error .malformed
    else if isTagChar c.peek then tagTextFrom fuel (acc ++ [c.peek]) c.next
    else .ok (acc, c)

/-- Reads the text of a tag, which must not be empty. -/
def readTagText (c : Cursor) : Except Stop (String × Cursor) := do
  let (text, rest) ← tagTextFrom (c.left + 1) [] c
  if rest.index = c.index then throw .malformed
  pure (String.ofList text, rest)

/-- Reads a tag at its mark. -/
def readTag (c : Cursor) : Except Stop (Token × Cursor) := do
  let (token, c) ←
    if c.peekAt 1 = '<' then do
      let (suffix, c) ← readTagText (c.advance 2)
      if c.peek ≠ '>' then throw .malformed
      pure (Token.tag none suffix, c.next)
    else if isWideGap (c.peekAt 1) then pure (Token.tag none "!", c.next)
    else do
      let hasHandle := (c.next.rest.takeWhile fun ch => !isGap ch).contains '!'
      let (handle, c) ← if hasHandle then readHandle c else pure ("!", c.next)
      let (suffix, c) ← readTagText c
      pure (Token.tag (some handle) suffix, c)
  if isGap c.peek then pure (token, c) else throw .malformed

/-! ## Directives -/

/-- Reads a number of a version. -/
def readVersionPart (c : Cursor) : Except Stop (Nat × Cursor) :=
  match c.run isDigit with
  | ([], _) => .error .malformed
  | (digits, c) =>
    match Numeral.magnitude 10 (.ofChars digits) digits with
    | .ok n => .ok (n, c)
    | .error fault => .error (.refused (.range (.numeral fault)))

/-- The end of a line with nothing but blanks and a comment. -/
def endOfLine (c : Cursor) : Except Stop Cursor :=
  let c := c.skipComment
  if isBreakOrEnd c.peek then .ok c.lineBreak.2 else .error .malformed

/-- Reads a directive at its mark, with its line. -/
def readDirective (c : Cursor) : Except Stop (Token × Cursor) := do
  let (name, c) ← readName c.next
  if !isGap c.peek then throw .malformed
  let (token, c) ←
    if name = "YAML".toList then do
      let (major, c) ← readVersionPart (c.skip (· = ' '))
      if c.peek ≠ '.' then throw .malformed
      let (_, c) ← readVersionPart c.next
      if !isGap c.peek then throw .malformed
      pure (Token.version major, c)
    else if name = "TAG".toList then do
      let (handle, c) ← readHandle (c.skip (· = ' '))
      if c.peek ≠ ' ' then throw .malformed
      let (replacement, c) ← readTagText (c.skip (· = ' '))
      if !isGap c.peek then throw .malformed
      pure (Token.tagHandle handle replacement, c)
    else pure (Token.directive, c.skip fun ch => !isBreakOrEnd ch)
  pure (token, ← endOfLine c)

/-! ## The sequence of tokens -/

/-- A place where a key may turn out to have started: the number of its first token, whether it has to be a key, and
its position. -/
structure PendingKey where
  token : Nat
  required : Bool
  index : Nat
  line : Nat
  column : Nat

/-- A text read in part, with its tokens so far backwards and their number. Pending keys are kept by the depth of
brackets. -/
structure Lexer where
  cursor : Cursor
  backwards : List Token
  size : Nat
  depth : Nat
  indent : Int
  indents : List Int
  keyAllowed : Bool
  pending : List (Nat × PendingKey)

namespace Lexer

/-- The start of a text. -/
def start (text : List Char) : Lexer :=
  { cursor := .start text, backwards := [], size := 0, depth := 0, indent := -1, indents := [], keyAllowed := true,
    pending := [] }

/-- A token is added. -/
def push (lx : Lexer) (token : Token) : Lexer := { lx with backwards := token :: lx.backwards, size := lx.size + 1 }

/-- A token is put in front of the one with a number. -/
def insert (lx : Lexer) (number : Nat) (token : Token) : Lexer :=
  let behind := lx.size - number
  { lx with backwards := lx.backwards.take behind ++ token :: lx.backwards.drop behind, size := lx.size + 1 }

/-- The lexer at another place. -/
def goTo (lx : Lexer) (c : Cursor) : Lexer := { lx with cursor := c }

/-- The place behind a number of characters. -/
def advance (lx : Lexer) (n : Nat) : Lexer := lx.goTo (lx.cursor.advance n)

/-- Whether keys may start from here on. -/
def allowKey (lx : Lexer) (allowed : Bool) : Lexer := { lx with keyAllowed := allowed }

/-- Nothing on another line or more than 1024 characters back is a key. -/
def isStale (lx : Lexer) (k : PendingKey) : Bool := k.line != lx.cursor.line || 1024 < lx.cursor.index - k.index

/-- Forgets the pending keys that are no keys; one that has to be a key is an error. -/
def dropStale (lx : Lexer) : Except Stop Lexer :=
  if lx.pending.any fun (_, k) => lx.isStale k && k.required then .error .malformed
  else .ok { lx with pending := lx.pending.filter fun (_, k) => !lx.isStale k }

/-- Forgets the pending key at the depth of the lexer; one that has to be a key is an error. -/
def dropPending (lx : Lexer) : Except Stop Lexer :=
  match lx.pending.lookup lx.depth with
  | some k =>
    if k.required then .error .malformed
    else .ok { lx with pending := lx.pending.filter (·.1 != lx.depth) }
  | none => .ok lx

/-- Notes that a key may start here. -/
def notePending (lx : Lexer) : Except Stop Lexer :=
  if lx.keyAllowed then
    lx.dropPending.map fun lx =>
      let c := lx.cursor
      let required := lx.depth == 0 && lx.indent == c.column
      { lx with pending := (lx.depth, ⟨lx.size, required, c.index, c.line, c.column⟩) :: lx.pending }
  else .ok lx

/-- Ends all blocks that are indented more than a column. -/
def unwind (column : Int) : List Int → Lexer → Lexer
  | outer :: rest, lx =>
    if column < lx.indent then unwind column rest { lx.push .blockEnd with indent := outer, indents := rest }
    else lx
  | [], lx => lx

/-- Ends all blocks that are indented more than a column, outside of brackets. -/
def unwindTo (lx : Lexer) (column : Int) : Lexer :=
  if lx.depth = 0 then unwind column lx.indents lx else lx

/-- Starts a block at a column if it is indented more than the current one; says whether it did. -/
def indentTo (lx : Lexer) (column : Nat) : Bool × Lexer :=
  if lx.indent < column then (true, { lx with indent := column, indents := lx.indent :: lx.indents }) else (false, lx)

/-- The place behind blanks, comments and line breaks; a new line outside of brackets may start with a key. -/
def skipGap : Nat → Lexer → Lexer
  | 0, lx => lx
  | fuel + 1, lx =>
    let c := lx.cursor.skipComment
    if isBreak c.peek then
      skipGap fuel ((lx.goTo c.lineBreak.2).allowKey (lx.keyAllowed || lx.depth == 0))
    else lx.goTo c

/-- The place of the next token. -/
def toNextToken (lx : Lexer) : Lexer :=
  let c := lx.cursor
  let c := if c.index = 0 ∧ c.peek = byteOrderMark then c.next else c
  skipGap (c.left + 1) (lx.goTo c)

/-- Leaves all blocks before a mark that stands outside of documents. -/
def leaveBlocks (lx : Lexer) : Except Stop Lexer := (lx.unwindTo (-1)).dropPending.map (·.allowKey false)

/-- A bracket opens. -/
def openFlow (lx : Lexer) (token : Token) : Except Stop Lexer :=
  lx.notePending.map fun lx => (({ lx with depth := lx.depth + 1 }.allowKey true).advance 1).push token

/-- A bracket closes. -/
def closeFlow (lx : Lexer) (token : Token) : Except Stop Lexer :=
  lx.dropPending.map fun lx => (({ lx with depth := lx.depth - 1 }.allowKey false).advance 1).push token

/-- A mark that starts an item of a block, which starts the block if it is indented more. -/
def startItem (lx : Lexer) (block : Token) : Except Stop Lexer :=
  if lx.depth = 0 then
    if lx.keyAllowed then
      let (started, lx) := lx.indentTo lx.cursor.column
      .ok (if started then lx.push block else lx)
    else .error .malformed
  else .ok lx

/-- The hyphen of a sequence item. -/
def readEntry (lx : Lexer) : Except Stop Lexer := do
  let lx ← lx.startItem .blockSequence
  let lx ← (lx.allowKey true).dropPending
  pure ((lx.advance 1).push .entry)

/-- The question mark of a key. -/
def readKey (lx : Lexer) : Except Stop Lexer := do
  let lx ← lx.startItem .blockMapping
  let lx ← (lx.allowKey (lx.depth == 0)).dropPending
  pure ((lx.advance 1).push .key)

/-- The colon of a value. A pending key gets its token now, and a block mapping its start. -/
def readValue (lx : Lexer) : Except Stop Lexer :=
  match lx.pending.lookup lx.depth with
  | some k =>
    let lx := { lx with pending := lx.pending.filter (·.1 != lx.depth) }.insert k.token .key
    let (started, lx) := if lx.depth = 0 then lx.indentTo k.column else (false, lx)
    let lx := if started then lx.insert k.token .blockMapping else lx
    .ok (((lx.allowKey false).advance 1).push .value)
  | none => do
    let lx ← lx.startItem .blockMapping
    let lx ← (lx.allowKey (lx.depth == 0)).dropPending
    pure ((lx.advance 1).push .value)

/-- A token that may be a key, with the place behind it. -/
def pushNode (lx : Lexer) (read : Cursor → Except Stop (Token × Cursor)) : Except Stop Lexer := do
  let lx ← lx.notePending
  let (token, c) ← read lx.cursor
  pure (((lx.allowKey false).goTo c).push token)

/-- A plain scalar may start with the character at this place. -/
def atPlain (lx : Lexer) : Bool :=
  let c := lx.cursor
  let ch := c.peek
  !(isWideGap ch || "-?:,[]\x7b\x7d#&*!|>'\"%@\x60".toList.contains ch)
    || (!isWideGap (c.peekAt 1) && (ch = '-' || (lx.depth == 0 && (ch = '?' || ch = ':'))))

/-- Reads the tokens at the place of the next one, which is not the end of the text. -/
def readToken (lx : Lexer) : Except Stop Lexer :=
  let c := lx.cursor
  let marks := isWideGap (c.peekAt 1)
  let inFlow := lx.depth != 0
  let atStart := c.column == 0
  match c.peek with
  | '[' => lx.openFlow .openBracket
  | '\x7b' => lx.openFlow .openBrace
  | ']' => lx.closeFlow .closeBracket
  | '\x7d' => lx.closeFlow .closeBrace
  | ',' => (lx.allowKey true).dropPending.map fun lx => (lx.advance 1).push .comma
  | ch =>
    if ch = '%' && atStart then do
      let lx ← lx.leaveBlocks
      let (token, c) ← readDirective lx.cursor
      pure ((lx.goTo c).push token)
    else if atStart && c.atSeparator '-' then lx.leaveBlocks.map fun lx => (lx.advance 3).push .documentStart
    else if atStart && c.atSeparator '.' then lx.leaveBlocks.map fun lx => (lx.advance 3).push .documentEnd
    else if ch = '-' && marks then lx.readEntry
    else if ch = '?' && (inFlow || marks) then lx.readKey
    else if ch = ':' && (inFlow || marks) then lx.readValue
    else if ch = '*' then
      lx.pushNode fun c => (readAnchor c.next).map fun (name, c) => (.alias name, c)
    else if ch = '&' then
      lx.pushNode fun c => (readAnchor c.next).map fun (name, c) => (.anchor name, c)
    else if ch = '!' then lx.pushNode readTag
    else if (ch = '|' || ch = '>') && !inFlow then do
      let lx ← (lx.allowKey true).dropPending
      let (text, c) ← readBlock (ch = '>') lx.indent lx.cursor
      pure ((lx.goTo c).push (.scalar (.ofChars text) false))
    else if ch = '\'' || ch = '"' then
      lx.pushNode fun c => (readQuoted c).map fun (text, c) => (.scalar text false, c)
    else if lx.atPlain then do
      let lx ← lx.notePending
      let s := readPlain inFlow (lx.indent + 1) lx.cursor
      pure (((lx.allowKey s.lineEnded).goTo s.rest).push (.scalar (.ofChars s.text) true))
    else .error .malformed

/-- Number of tokens that are certain: those in front of all pending keys that can still be keys. -/
def certain (lx : Lexer) : Nat :=
  lx.pending.foldl (fun count (_, k) => if lx.isStale k then count else min count k.token) lx.size

/-- The tokens in front of one with a number, and a last one. -/
def ended (lx : Lexer) (number : Nat) (last : Token) : List Token :=
  (last :: lx.backwards.drop (lx.size - number)).reverse

/-- The certain tokens, and behind them the reason why there are no more. -/
def stopped (lx : Lexer) (stop : Stop) : List Token := lx.ended lx.certain (.stopped stop)

/-- Reads on to the end of the text. -/
def readAll : Nat → Lexer → List Token
  | 0, lx => lx.stopped .malformed
  | fuel + 1, lx =>
    match (lx.toNextToken).dropStale with
    | .error stop => lx.stopped stop
    | .ok next =>
      let next := next.unwindTo next.cursor.column
      if next.cursor.peek = endMark then
        match next.leaveBlocks with
        | .error stop => lx.stopped stop
        | .ok next => next.ended next.size .streamEnd
      else
        match next.readToken >>= dropStale with
        | .error stop => lx.stopped stop
        | .ok next => readAll fuel next

end Lexer

/-- The tokens of a text. -/
def tokens (text : List Char) : List Token :=
  (Lexer.start text).readAll (text.length + 2)

end TapeSheet.Yaml
