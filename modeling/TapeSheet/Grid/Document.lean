import TapeSheet.Disk
import TapeSheet.Grid
import TapeSheet.Yaml.Document

/-!
# Grids in documents

A document with one grid, at its top level or under the key `grid`, and a document with a list of grids under the
key `grids`.
-/

namespace TapeSheet

/-- A document with the entries of the mapping at its top level. -/
structure TopLevel where
  document : Yaml.Document
  entries : List (Value × Nat)

namespace TopLevel

/-- The top level of a text without a document, or with nothing in it. -/
def empty : TopLevel := ⟨⟨#[], 0⟩, []⟩

/-- The top level of a document. -/
def ofDocument (path : Path) (d : Yaml.Document) : Except Fault TopLevel :=
  match d.entries? d.root, d.outline d.root with
  | some entries, _ => .ok ⟨d, entries⟩
  | none, .null => .ok empty
  | none, _ => .error (.config (.topLevel path))

/-- The top level of the document in a text. -/
def read (path : Path) (text : String) : Except Fault TopLevel :=
  match Yaml.Document.read text with
  | .error .malformed => .error (.config (.malformed path))
  | .error (.refused fault) => .error fault
  | .ok none => .ok empty
  | .ok (some d) => ofDocument path d

/-- The top level of the document in a file. -/
def load (d : Disk) (path : Path) : Except Fault TopLevel :=
  match d.read path with
  | .ok text => read path text
  | .error fault => .error fault

/-- The number of the node at a key. -/
def number? (t : TopLevel) (key : String) : Option Nat :=
  (t.entries.find? fun entry => Value.same (.ofString key) entry.1).map (·.2)

end TopLevel

namespace Grid

/-- The grid of the entries of a mapping in a document. What stands at keys that no grid has does not matter. -/
def ofDocumentEntries (d : Yaml.Document) (entries : List (Value × Nat)) : Except Fault Grid :=
  ofValue (.map (entries.map fun (key, number) =>
    (key, if GridDraft.isKey key then d.value number else .null)))

/-- The grid of a node of a document. -/
def ofNode (d : Yaml.Document) (number : Nat) : Except Fault Grid :=
  match d.entries? number with
  | some entries => ofDocumentEntries d entries
  | none => .error (.config (.notMapping (d.outline number)))

/-- The only grid of a document. -/
def ofTop (t : TopLevel) : Except Fault Grid :=
  match t.number? "grid" with
  | some number => ofNode t.document number
  | none => ofDocumentEntries t.document t.entries

/-- The grids of a document, of which there has to be at least one. A list of pairs holds no grids. -/
def listOfTop (path : Path) (t : TopLevel) : Except Fault (List Grid) :=
  match (t.number? "grids").bind t.document.part? with
  | some (.list (first :: rest)) => (first :: rest).mapM (ofNode t.document)
  | some (.pairs ((key, value) :: _)) =>
    .error (.config (.notMapping (.pair (t.document.outline key) (t.document.outline value))))
  | _ => .error (.config (.noGrids path))

/-- The grid of the document in a file. -/
def load (d : Disk) (path : Path) : Except Fault Grid :=
  match TopLevel.load d path with
  | .ok t => ofTop t
  | .error fault => .error fault

/-- The grids of the document in a file. -/
def loadList (d : Disk) (path : Path) : Except Fault (List Grid) :=
  match TopLevel.load d path with
  | .ok t => listOfTop path t
  | .error fault => .error fault

end Grid

end TapeSheet
