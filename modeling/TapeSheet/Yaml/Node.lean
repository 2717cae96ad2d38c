import TapeSheet.Yaml.Tag
import TapeSheet.Yaml.Token

/-!
# Nodes of a document

The scalars, sequences and mappings that the tokens of a text make up, as a numbered list of nodes. An alias gives
the number of the node that its anchor names, so that a node may be an item of several others, or of itself.
-/

namespace TapeSheet.Yaml

/-- What a node is made of, with its items and entries by the numbers of their nodes. -/
inductive Content
  | scalar (text : Text)
  | sequence (items : List Nat)
  | mapping (entries : List (Nat × Nat))

/-- A node: its type and what it is made of. -/
structure Node where
  tag : Tag
  content : Content

/-- The node where nothing is written. -/
def Node.empty : Node := ⟨.null, .scalar ""⟩

/-- The nodes of a document by their numbers. -/
abbrev Graph := Array Node

namespace Graph

/-- The node of a number. -/
def node (g : Graph) (number : Nat) : Node := g.getD number .empty

/-- The type of a node. -/
def tag (g : Graph) (number : Nat) : Tag := (g.node number).tag

/-- The entries of a mapping; other nodes have none. -/
def entries (g : Graph) (number : Nat) : List (Nat × Nat) :=
  match (g.node number).content with
  | .mapping entries => entries
  | _ => []

/-- Sets what a node is made of. -/
def fill (g : Graph) (number : Nat) (content : Content) : Graph := g.modify number fun node => { node with content }

/-- Sets the type of a node. -/
def retag (g : Graph) (number : Nat) (tag : Tag) : Graph := g.modify number fun node => { node with tag }

end Graph

/-- A sequence of tokens read in part, with the nodes read so far, the numbers of those that have names, what the
handles of tags stand for, and the number of collections around the next node. -/
structure Reader where
  tokens : List Token
  graph : Graph
  anchors : List (String × Nat)
  handles : List (String × String)
  depth : Nat

/-- Most collections inside of each other. -/
def nestingLimit : Nat := 486

namespace Reader

/-- The next token. -/
def peek (r : Reader) : Token := r.tokens.headD (.stopped .malformed)

/-- The tokens behind the next one. -/
def next (r : Reader) : Reader := { r with tokens := r.tokens.tail }

/-- Why a token cannot stand where it does. -/
def unexpected (r : Reader) : Stop :=
  match r.peek with
  | .stopped stop => stop
  | _ => .malformed

/-- The tokens behind one that has to come next. -/
def expect (r : Reader) (matching : Token → Bool) : Except Stop Reader :=
  if matching r.peek then .ok r.next else .error r.unexpected

/-- Adds a node; it gets the next number. -/
def add (r : Reader) (node : Node) : Nat × Reader := (r.graph.size, { r with graph := r.graph.push node })

/-- Adds the node where nothing is written. -/
def addEmpty (r : Reader) : Nat × Reader := r.add .empty

/-- Sets what a node is made of. -/
def fill (r : Reader) (number : Nat) (content : Content) : Reader := { r with graph := r.graph.fill number content }

end Reader

/-! ## Kinds of tokens -/

namespace Token

/-- The dash in front of an item of a block sequence. -/
def isEntry : Token → Bool
  | entry => true
  | _ => false

/-- The mark in front of a key. -/
def isKey : Token → Bool
  | key => true
  | _ => false

/-- The colon in front of a value. -/
def isValue : Token → Bool
  | value => true
  | _ => false

/-- The end of a block collection. -/
def isBlockEnd : Token → Bool
  | blockEnd => true
  | _ => false

/-- The comma between items in brackets. -/
def isComma : Token → Bool
  | comma => true
  | _ => false

/-- The end of a sequence in brackets. -/
def isCloseBracket : Token → Bool
  | closeBracket => true
  | _ => false

/-- The end of a mapping in braces. -/
def isCloseBrace : Token → Bool
  | closeBrace => true
  | _ => false

/-- The line that marks the start of a document. -/
def isDocumentStart : Token → Bool
  | documentStart => true
  | _ => false

/-- No content can start with such a token. -/
def endsContent : Token → Bool
  | version _ => true
  | tagHandle .. => true
  | directive => true
  | documentStart => true
  | documentEnd => true
  | streamEnd => true
  | _ => false

/-- A document that starts with such a token has no content in front of its start mark. -/
def startsDocument : Token → Bool
  | documentEnd => false
  | token => token.endsContent

end Token

/-! ## Properties of nodes -/

/-- The anchor and the full name of the tag in front of a node. -/
structure Properties where
  anchor : Option String
  tag : Option String

/-- Neither anchor nor tag. -/
def Properties.empty : Properties := ⟨none, none⟩

/-- The full name of a tag. -/
def Reader.tagName (r : Reader) (handle : Option String) (suffix : String) : Except Stop String :=
  match handle with
  | none => .ok suffix
  | some handle =>
    match r.handles.lookup handle with
    | some replacement => .ok (replacement ++ suffix)
    | none => .error .malformed

/-- Reads an anchor and a tag in either order. A tag in front counts only with the token behind it. -/
def readProperties (r : Reader) : Except Stop (Properties × Reader) :=
  match r.peek, r.next.peek with
  | .anchor name, .tag handle suffix =>
    (r.tagName handle suffix).map fun tag => (⟨some name, some tag⟩, r.next.next)
  | .tag .., .stopped stop => .error stop
  | .tag handle suffix, .anchor name =>
    (r.tagName handle suffix).map fun tag => (⟨some name, some tag⟩, r.next.next)
  | .anchor name, _ => .ok (⟨some name, none⟩, r.next)
  | .tag handle suffix, _ => (r.tagName handle suffix).map fun tag => (⟨none, some tag⟩, r.next)
  | _, _ => .ok (.empty, r)

namespace Properties

/-- Tag of a scalar. -/
def scalarTag (p : Properties) (plain : Bool) (text : Text) : Tag :=
  match p.tag with
  | none => if plain then Tag.ofForm text else .text
  | some "!" => Tag.ofForm text
  | some name => Tag.ofName name

/-- Tag of a sequence or mapping, which has one of its own. -/
def collectionTag (p : Properties) (own : Tag) : Tag :=
  match p.tag with
  | none => own
  | some "!" => own
  | some name => Tag.ofName name

/-- Adds a node with its anchor, which no other node may have. -/
def add (p : Properties) (node : Node) (r : Reader) : Except Stop (Nat × Reader) :=
  let (number, r) := r.add node
  match p.anchor with
  | none => .ok (number, r)
  | some name =>
    if (r.anchors.lookup name).isSome then .error .malformed
    else .ok (number, { r with anchors := (name, number) :: r.anchors })

/-- Adds a collection, whose anchor its own items may name, and reads on what it is made of. -/
def addCollection (p : Properties) (own : Tag) (read : Reader → Except Stop (Content × Reader)) (r : Reader) :
    Except Stop (Nat × Reader) :=
  match p.add ⟨p.collectionTag own, .scalar ""⟩ r with
  | .error stop => .error stop
  | .ok (number, r) =>
    if r.depth = nestingLimit then .error (.refused (.nesting .unfolding))
    else
      (read { r with depth := r.depth + 1 }).map fun (content, inner) =>
        (number, { inner.fill number content with depth := r.depth })

end Properties

/-! ## Collections

Every function that reads on has an amount of fuel, of which three units for each token are enough. -/

/-- Where a node stands: inside brackets, in a block, or in a block mapping, where the items of a sequence need no
indentation. -/
inductive Place
  | flow
  | block
  | blockEntry
  deriving DecidableEq

mutual

/-- Reads a node. -/
def readNode : Nat → Place → Reader → Except Stop (Nat × Reader)
  | 0, _, _ => .error .malformed
  | fuel + 1, place, r =>
    match r.peek with
    | .alias name =>
      match r.anchors.lookup name with
      | some number => .ok (number, r.next)
      | none => .error .malformed
    | _ =>
      match readProperties r with
      | .error stop => .error stop
      | .ok (properties, r) => readContent fuel place properties r

/-- Reads a node behind its properties. -/
def readContent : Nat → Place → Properties → Reader → Except Stop (Nat × Reader)
  | 0, _, _, _ => .error .malformed
  | fuel + 1, place, p, r =>
    let sequenceBy (read : Reader → Except Stop (List Nat × Reader)) :=
      p.addCollection .sequence (fun r => (read r).map fun (items, r) => (.sequence items, r)) r
    let mappingBy (read : Reader → Except Stop (List (Nat × Nat) × Reader)) :=
      p.addCollection .mapping (fun r => (read r).map fun (entries, r) => (.mapping entries, r)) r
    match r.peek with
    | .stopped stop => .error stop
    | .scalar text plain => p.add ⟨p.scalarTag plain text, .scalar text⟩ r.next
    | .openBracket => sequenceBy fun r => readFlowItems fuel true r.next
    | .openBrace => mappingBy fun r => readFlowEntries fuel true r.next
    | token =>
      match place, token with
      | .blockEntry, .entry => sequenceBy fun r => readItems fuel false r
      | .flow, _ => readNothing p r
      | _, .blockSequence => sequenceBy fun r => readItems fuel true r.next
      | _, .blockMapping => mappingBy fun r => readEntries fuel r.next
      | _, _ => readNothing p r

/-- Where no content stands, properties make an empty node. -/
def readNothing (p : Properties) (r : Reader) : Except Stop (Nat × Reader) :=
  if p.anchor.isSome || p.tag.isSome then p.add ⟨p.scalarTag true "", .scalar ""⟩ r else .error .malformed

/-- Reads on the items of a block sequence. One that is not indented ends where no further item starts. -/
def readItems : Nat → Bool → Reader → Except Stop (List Nat × Reader)
  | 0, _, _ => .error .malformed
  | fuel + 1, indented, r =>
    if r.peek.isEntry then
      match readUnless fuel .block
          (fun t => t.isEntry || t.isBlockEnd || (!indented && (t.isKey || t.isValue))) r.next with
      | .error stop => .error stop
      | .ok (item, r) => (readItems fuel indented r).map fun (items, r) => (item :: items, r)
    else if indented then (r.expect Token.isBlockEnd).map ([], ·)
    else .ok ([], r)

/-- Reads on the entries of a block mapping. -/
def readEntries : Nat → Reader → Except Stop (List (Nat × Nat) × Reader)
  | 0, _ => .error .malformed
  | fuel + 1, r =>
    if r.peek.isKey then
      match readEntry fuel .blockEntry (fun t => t.isKey || t.isValue || t.isBlockEnd) r.next with
      | .error stop => .error stop
      | .ok (entry, r) => (readEntries fuel r).map fun (entries, r) => (entry :: entries, r)
    else (r.expect Token.isBlockEnd).map ([], ·)

/-- Reads on the items of a sequence in brackets. An entry among them is a mapping of its own. -/
def readFlowItems : Nat → Bool → Reader → Except Stop (List Nat × Reader)
  | 0, _, _ => .error .malformed
  | fuel + 1, first, r =>
    if r.peek.isCloseBracket then .ok ([], r.next)
    else
      match if first then .ok r else r.expect Token.isComma with
      | .error stop => .error stop
      | .ok r =>
        if r.peek.isCloseBracket then .ok ([], r.next)
        else
          match if r.peek.isKey then readLoneEntry fuel r.next else readNode fuel .flow r with
          | .error stop => .error stop
          | .ok (item, r) => (readFlowItems fuel false r).map fun (items, r) => (item :: items, r)

/-- Reads a mapping with one entry and no braces. -/
def readLoneEntry : Nat → Reader → Except Stop (Nat × Reader)
  | 0, _ => .error .malformed
  | fuel + 1, r =>
    Properties.empty.addCollection .mapping
      (fun r =>
        (readEntry fuel .flow (fun t => t.isValue || t.isComma || t.isCloseBracket) r).map fun (entry, r) =>
          (.mapping [entry], r)) r

/-- Reads on the entries of a mapping in braces. A node alone is a key without a value. -/
def readFlowEntries : Nat → Bool → Reader → Except Stop (List (Nat × Nat) × Reader)
  | 0, _, _ => .error .malformed
  | fuel + 1, first, r =>
    if r.peek.isCloseBrace then .ok ([], r.next)
    else
      match if first then .ok r else r.expect Token.isComma with
      | .error stop => .error stop
      | .ok r =>
        if r.peek.isKey then
          match readEntry fuel .flow (fun t => t.isValue || t.isComma || t.isCloseBrace) r.next with
          | .error stop => .error stop
          | .ok (entry, r) => (readFlowEntries fuel false r).map fun (entries, r) => (entry :: entries, r)
        else if r.peek.isCloseBrace then .ok ([], r.next)
        else
          match readNode fuel .flow r with
          | .error stop => .error stop
          | .ok (key, r) =>
            let (value, r) := r.addEmpty
            (readFlowEntries fuel false r).map fun (entries, r) => ((key, value) :: entries, r)

/-- Reads the key behind its mark and the value, either of which may be missing. -/
def readEntry : Nat → Place → (Token → Bool) → Reader → Except Stop ((Nat × Nat) × Reader)
  | 0, _, _, _ => .error .malformed
  | fuel + 1, place, ends, r =>
    match readUnless fuel place ends r with
    | .error stop => .error stop
    | .ok (key, r) =>
      if r.peek.isValue then
        let endsValue (t : Token) := ends t && (place = .blockEntry || !t.isValue)
        (readUnless fuel place endsValue r.next).map fun (value, r) => ((key, value), r)
      else
        let (value, r) := r.addEmpty
        .ok ((key, value), r)

/-- Reads a node unless a token comes next that shows it to be missing. -/
def readUnless : Nat → Place → (Token → Bool) → Reader → Except Stop (Nat × Reader)
  | 0, _, _, _ => .error .malformed
  | fuel + 1, place, missing, r => if missing r.peek then .ok r.addEmpty else readNode fuel place r

end

/-! ## Documents -/

/-- The handles that stand for something without being declared. -/
def defaultHandles : List (String × String) := [("!", "!"), ("!!", tagBase)]

/-- Reads the directives in front of a document; `versioned` says that one has given a version. -/
def readDirectives : List Token → Bool → List (String × String) → Except Stop (List Token × List (String × String))
  | .version major :: rest, versioned, handles =>
    if versioned || major != 1 then .error .malformed else readDirectives rest true handles
  | .tagHandle handle replacement :: rest, versioned, handles =>
    if (handles.lookup handle).isSome then .error .malformed
    else readDirectives rest versioned ((handle, replacement) :: handles)
  | .directive :: rest, versioned, handles => readDirectives rest versioned handles
  | rest, _, handles => .ok (rest, handles)

/-- Tokens without the marks for the end of a document in front of them. -/
def skipDocumentEnds : List Token → List Token
  | .documentEnd :: rest => skipDocumentEnds rest
  | rest => rest

/-- Reads the start of a document: directives and the start mark. -/
def readStart (tokens : List Token) : Except Stop Reader := do
  let (rest, declared) ← readDirectives tokens false []
  let r : Reader := ⟨rest, #[], [], declared ++ defaultHandles, 0⟩
  r.expect Token.isDocumentStart

/-- Nothing follows the only document. The start of a further one is still read. -/
def endOfStream (r : Reader) : Except Stop Unit :=
  match skipDocumentEnds r.tokens with
  | [.streamEnd] => .ok ()
  | tokens => do
    let _ ← readStart tokens
    throw .malformed

/-- A graph and the number of its root. -/
structure RootedGraph where
  graph : Graph
  root : Nat

/-- Reads a document with nothing behind it. -/
def readOnly (r : Reader) : Except Stop (Option RootedGraph) := do
  let (root, r) ← readNode (3 * r.tokens.length + 8) .block r
  endOfStream r
  pure (some ⟨r.graph, root⟩)

/-- Reads the document that tokens make up, if there is one. -/
def readDocument (tokens : List Token) : Except Stop (Option RootedGraph) := do
  let r : Reader := ⟨tokens, #[], [], defaultHandles, 0⟩
  if !r.peek.startsDocument then readOnly r
  else
    match r.peek with
    | .streamEnd => pure none
    | _ =>
      let r ← readStart tokens
      if r.peek.endsContent then
        endOfStream r
        pure (some ⟨#[.empty], 0⟩)
      else readOnly r

end TapeSheet.Yaml
