import TapeSheet.Value.Scatter
import TapeSheet.Yaml.Merge
import TapeSheet.Yaml.ScalarValue

/-!
# Documents

A document's text as a numbered list of parts: scalars have their values, and collections name their items by number,
so that a collection may be part of itself. Collections are filled from the root down, one depth after the other. Of
several faults the one that comes first in that order counts; but a text that is malformed anywhere has no parts at
all, whatever its scalars are.
-/

namespace TapeSheet.Yaml

/-- A part of a document. The value of a scalar that is no number belongs to one node, or to all that are written with
the word for it. -/
inductive Part
  | scalar (value : Value) (owner : Option Nat)
  | list (items : List Nat)
  | pairs (entries : List (Nat × Nat))
  | map (entries : List (Nat × Nat))
  | set (members : List Nat)

/-- The parts of a document by the numbers of their nodes, and the number of the root. -/
structure Document where
  parts : Array (Option Part)
  root : Nat

/-! ## Making parts -/

/-- The text of a node that stands for a scalar. A mapping stands for the one at its default key. -/
def scalarText (g : Graph) : Nat → Nat → Except Stop Text
  | 0, _ => .error (.refused (.nesting .unfolding))
  | fuel + 1, number =>
    match (g.node number).content with
    | .scalar text => .ok text
    | .sequence _ => .error .malformed
    | .mapping entries =>
      match entries.find? fun (key, _) => g.tag key = .default with
      | some (_, value) => scalarText g fuel value
      | none => .error .malformed

/-- The value that a text stands for in a node. A point in time has to be written in the node itself. -/
def scalarValue (node : Node) (text : Text) : Except Stop Value :=
  match node.tag, node.content with
  | .timestamp, .mapping _ => .error (.refused (.type .notTimeText))
  | tag, _ => valueOfText tag text

/-- The part of a scalar. -/
def scalarPart (g : Graph) (number : Nat) : Except Stop Part := do
  let text ← scalarText g Value.nestingLimit number
  let value ← scalarValue (g.node number) text
  pure (.scalar value (if ⟨(pointed text).2⟩ = nanWord then none else some number))

/-- The part of a collection that is still to be filled. -/
def Tag.emptyPart? : Tag → Option Part
  | .sequence => some (.list [])
  | .ordered => some (.pairs [])
  | .pairs => some (.pairs [])
  | .mapping => some (.map [])
  | .set => some (.set [])
  | _ => none

/-- A document made in part. Collections that wait to be filled are given backwards. -/
structure Builder where
  graph : Graph
  parts : Array (Option Part)
  waiting : List Nat
  mergeFuel : Nat

namespace Builder

/-- A document of which no part is made. -/
def start (g : Graph) : Builder := ⟨g, Array.replicate g.size none, [], g.mergeFuel⟩

/-- The part of a node, if it is made. -/
def part? (b : Builder) (number : Nat) : Option Part := b.parts.getD number none

/-- Sets the part of a node. -/
def setPart (b : Builder) (number : Nat) (part : Part) : Builder :=
  { b with parts := b.parts.setIfInBounds number (some part) }

/-- Makes the part of a node. A collection is filled later. -/
def make (b : Builder) (number : Nat) : Except Stop Builder :=
  match b.part? number, (b.graph.tag number).emptyPart? with
  | some _, _ => .ok b
  | none, some part => .ok { b.setPart number part with waiting := number :: b.waiting }
  | none, none =>
    match b.graph.tag number with
    | .merge | .default | .unknown => .error .malformed
    | _ => (scalarPart b.graph number).map (b.setPart number)

/-- Makes the parts of several nodes in order. -/
def makeAll (b : Builder) (numbers : List Nat) : Except Stop Builder := numbers.foldlM make b

/-- Two nodes are one key of a mapping. -/
def sameKey (b : Builder) (one other : Nat) : Bool :=
  match b.part? one, b.part? other with
  | some (.scalar x owner), some (.scalar y owner') => (x.isNan && y.isNan && owner == owner') || x.same y
  | _, _ => false

/-- Entries with a key set: a key that is there keeps its place. -/
def insert (b : Builder) (key value : Nat) : List (Nat × Nat) → List (Nat × Nat)
  | [] => [(key, value)]
  | (k, v) :: rest => if b.sameKey k key then (k, value) :: rest else (k, v) :: insert b key value rest

/-- Adds an entry to those of a mapping that have been made. Collections are no keys. -/
def addEntry (b : Builder) (done : List (Nat × Nat)) (entry : Nat × Nat) :
    Except Stop (Builder × List (Nat × Nat)) := do
  let b ← b.make entry.1
  match b.part? entry.1 with
  | some (.scalar ..) => do
    let b ← b.make entry.2
    pure (b, b.insert entry.1 entry.2 done)
  | _ => throw .malformed

/-- The entries of a mapping with all that it takes over. -/
def ownEntries (b : Builder) (number : Nat) : Except Stop (Builder × List (Nat × Nat)) := do
  match (b.graph.node number).content with
  | .mapping _ =>
    let graph ← b.graph.flattenFrom b.mergeFuel Value.nestingLimit number 0 []
    (graph.entries number).foldlM (fun (b, done) entry => addEntry b done entry) ({ b with graph }, [])
  | _ => throw .malformed

/-- The items of a sequence. -/
def ownItems (b : Builder) (number : Nat) : Except Stop (List Nat) :=
  match (b.graph.node number).content with
  | .sequence items => .ok items
  | _ => .error .malformed

/-- The entry of a mapping that has no other one. -/
def onlyEntry (b : Builder) (number : Nat) : Except Stop (Nat × Nat) :=
  match b.graph.entries number with
  | [entry] => .ok entry
  | _ => .error .malformed

/-- Adds the entry of a mapping to a list of pairs. -/
def addPair (b : Builder) (done : List (Nat × Nat)) (item : Nat) : Except Stop (Builder × List (Nat × Nat)) := do
  let (key, value) ← b.onlyEntry item
  let b ← b.makeAll [key, value]
  pure (b, (key, value) :: done)

/-- Fills the part of a collection. -/
def fill (b : Builder) (number : Nat) : Except Stop Builder := do
  match b.part? number with
  | some (.list _) => do
    let items ← b.ownItems number
    let b ← b.makeAll items
    pure (b.setPart number (.list items))
  | some (.pairs _) => do
    let items ← b.ownItems number
    let (b, pairs) ← items.foldlM (fun (b, done) item => addPair b done item) (b, [])
    pure (b.setPart number (.pairs pairs.reverse))
  | some (.map _) => do
    let (b, entries) ← b.ownEntries number
    pure (b.setPart number (.map entries))
  | some (.set _) => do
    let (b, entries) ← b.ownEntries number
    pure (b.setPart number (.set (entries.map (·.1))))
  | _ => pure b

/-- Fills the waiting collections, and those that turn up at each depth below them. -/
def fillAll : Nat → Builder → Except Stop Builder
  | 0, b => .ok b
  | depths + 1, b =>
    if b.waiting.isEmpty then .ok b
    else
      match b.waiting.reverse.foldlM fill { b with waiting := [] } with
      | .error stop => .error stop
      | .ok b => fillAll depths b

end Builder

/-- The document of a graph. -/
def RootedGraph.document (r : RootedGraph) : Except Stop Document := do
  let b ← (Builder.start r.graph).make r.root
  let b ← b.fillAll (r.graph.size + 1)
  pure ⟨b.parts, r.root⟩

/-! ## Values of parts -/

namespace Document

/-- The part of a node. -/
def part? (d : Document) (number : Nat) : Option Part := d.parts.getD number none

/-- The value of a node inside of the collections on a path; what comes round again is marked. -/
def unfold (d : Document) : Nat → List Nat → Nat → Value
  | 0, _, _ => .null
  | fuel + 1, path, number =>
    let inside := unfold d fuel (number :: path)
    let again := path.contains number
    match d.part? number with
    | none => .null
    | some (.scalar value _) => value
    | some (.list items) => if again then .listAgain else .list (items.map inside)
    | some (.pairs entries) =>
      if again then .listAgain else .list (entries.map fun (key, value) => .pair (inside key) (inside value))
    | some (.map entries) =>
      if again then .mapAgain else .map (entries.map fun (key, value) => (inside key, inside value))
    | some (.set members) => .set (Scatter.listed (members.map inside))

/-- The value of a node. No path is longer than there are nodes. -/
def value (d : Document) (number : Nat) : Value := d.unfold (d.parts.size + 2) [] number

/-- The value of a node without what is inside of it. -/
def outline (d : Document) (number : Nat) : Value :=
  match d.part? number with
  | none => .null
  | some (.scalar value _) => value
  | some (.list _) => .list []
  | some (.pairs _) => .list []
  | some (.map _) => .map []
  | some (.set _) => .set []

/-- The entries of a mapping, with the values of the keys. -/
def entries? (d : Document) (number : Nat) : Option (List (Value × Nat)) :=
  match d.part? number with
  | some (.map entries) => some (entries.map fun (key, value) => (d.outline key, value))
  | _ => none

end Document

/-! ## Texts -/

/-- A text whose lines all end in one line feed. -/
def unifyBreaks : List Char → List Char
  | [] => []
  | '\r' :: '\n' :: rest => '\n' :: unifyBreaks rest
  | '\r' :: rest => '\n' :: unifyBreaks rest
  | c :: rest => c :: unifyBreaks rest

/-- The document of a text, if there is one in it. -/
def Document.read (text : String) : Except Stop (Option Document) :=
  let text := unifyBreaks text.toList
  if text.all isAllowed then
    match readDocument (tokens text) with
    | .error stop => .error stop
    | .ok none => .ok none
    | .ok (some graph) => graph.document.map some
  else .error .malformed

end TapeSheet.Yaml
