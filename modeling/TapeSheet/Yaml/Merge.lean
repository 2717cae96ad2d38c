import TapeSheet.Yaml.Node

/-!
# Merging mappings

A mapping may take over entries of others, which stand under merge keys. They are put in front of its own entries, so
that the own ones count, and of several mappings in a list the entries of the last one come first. The key of an entry
for the default is a text like others.
-/

namespace TapeSheet.Yaml.Graph

/-- Makes the default keys among entries texts. -/
def nameDefaults (g : Graph) (entries : List (Nat × Nat)) : Graph :=
  entries.foldl (fun g (key, _) => if g.tag key = .default then g.retag key .text else g) g

/-- The graph after a mapping in it was given all its entries by `flat`, and these entries. -/
def flattened (flat : Graph → Nat → Except Stop Graph) (g : Graph) (number : Nat) :
    Except Stop (Graph × List (Nat × Nat)) :=
  match (g.node number).content with
  | .mapping _ => (flat g number).map fun g => (g, g.entries number)
  | _ => .error .malformed

/-- The entries that the value of a merge key stands for: those of a mapping or of several. -/
def taken (flat : Graph → Nat → Except Stop Graph) (g : Graph) (value : Nat) :
    Except Stop (Graph × List (Nat × Nat)) :=
  match (g.node value).content with
  | .sequence items =>
    items.foldlM (fun (g, found) item => (flattened flat g item).map fun (g, own) => (g, own ++ found)) (g, [])
  | _ => flattened flat g value

/-- Goes on with the entries of a mapping from the given one on: a merge key vanishes before what it stands for is
looked at, and `found` holds what has been taken over so far. Mappings inside of others that take them over leave
`room` for more. -/
def flattenFrom : Nat → Nat → Graph → Nat → Nat → List (Nat × Nat) → Except Stop Graph
  | 0, _, _, _, _, _ => .error .malformed
  | fuel + 1, room, g, number, first, found =>
    let entries := g.entries number
    let (plain, rest) := (entries.drop first).span fun (key, _) => g.tag key ≠ .merge
    let g := g.nameDefaults plain
    match rest with
    | [] => .ok (if found.isEmpty then g else g.fill number (.mapping (found ++ entries)))
    | (_, value) :: rest =>
      let g := g.fill number (.mapping (entries.take first ++ plain ++ rest))
      let inner (g : Graph) (other : Nat) :=
        if room = 0 then .error (.refused (.nesting .unfolding)) else flattenFrom fuel (room - 1) g other 0 []
      match g.taken inner value with
      | .error stop => .error stop
      | .ok (g, more) => flattenFrom fuel room g number (first + plain.length) (found ++ more)

/-- Enough fuel for all mappings of a graph: each of their merge keys vanishes once. -/
def mergeFuel (g : Graph) : Nat :=
  (List.range g.size).foldl (fun fuel number => fuel + 2 * (g.entries number).length) 2

end TapeSheet.Yaml.Graph
