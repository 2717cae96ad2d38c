import TapeSheet.Text

/-!
# Paths

Slash-separated paths in a normal form: an anchor and a list of names. Empty names and single dots vanish, double
dots stay.
-/

namespace TapeSheet

/-- Where a path starts. Exactly two leading slashes are kept apart from one. -/
inductive Anchor
  | here
  | root
  | doubleRoot
  deriving DecidableEq

/-- A path in normal form. -/
structure Path where
  anchor : Anchor
  names : List Text
  deriving DecidableEq

namespace Path

/-- Pieces of a text between slashes, the empty ones included; `acc` holds the current piece backwards. -/
def pieces (acc : List Letter) : List Letter → List Text
  | [] => [⟨acc.reverse⟩]
  | .char '/' :: rest => ⟨acc.reverse⟩ :: pieces [] rest
  | l :: rest => pieces (l :: acc) rest

/-- The anchor that the leading slashes of a text name. -/
def anchorOf (letters : List Letter) : Anchor :=
  match (letters.takeWhile (· = .char '/')).length with
  | 0 => .here
  | 2 => .doubleRoot
  | _ => .root

/-- The path that a text names. -/
def ofText (t : Text) : Path :=
  ⟨anchorOf t.letters, (pieces [] t.letters).filter fun name => name ≠ Text.ofString "" ∧ name ≠ Text.ofString "."⟩

/-- Text of an anchor. -/
def anchorText : Anchor → String
  | .here => ""
  | .root => "/"
  | .doubleRoot => "//"

/-- Text of a path; a dot stands for the empty one. -/
def text (p : Path) : Text :=
  if p.anchor = .here ∧ p.names = [] then "." else Text.ofString (anchorText p.anchor) ++ Text.glued "/" p.names

/-- A path that starts where another one leads; an anchored path stands for itself. -/
def join (base p : Path) : Path :=
  if p.anchor = .here then ⟨base.anchor, base.names ++ p.names⟩ else p

/-- The path without its last name; a path without names is its own parent. -/
def parent (p : Path) : Path := ⟨p.anchor, p.names.dropLast⟩

/-! ## Names of files -/

/-- A half that stands for a byte which is part of no character. -/
def isByte : Letter → Bool
  | .char _ => false
  | .half unit => 0x480 ≤ unit.val && unit.val < 0x500

/-- Number of bytes of a name. -/
def nameSize (name : Text) : Nat :=
  name.letters.foldl (fun size l => size + if isByte l then 1 else l.byteSize) 0

/-- What stands in the way of naming a file by a path. -/
def misfit? (p : Path) : Option Text.Misfit :=
  Text.misfitFrom (fun l => l.isHalf && !isByte l) 0 p.text.letters

/-- No file can have a path with a NUL character. -/
def hasNul (p : Path) : Bool := p.text.letters.contains (.char '\x00')

/-- Most bytes of one name. -/
def nameLimit : Nat := 255

/-- Most bytes of a whole path. -/
def sizeLimit : Nat := 4095

/-- A path is too long as a whole. -/
def isTooLong (p : Path) : Bool := sizeLimit < nameSize p.text

end Path

end TapeSheet
