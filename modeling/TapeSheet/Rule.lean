import TapeSheet.Fault

/-!
# Elementary rules

A rule of two states and three cells, named by its code: the outcome for the neighbourhood with cells `l`, `c` and
`r` is the bit of the code at the place that the three cells spell in binary.
-/

namespace TapeSheet

/-- An elementary rule. -/
structure Rule where
  code : Fin 256
  deriving DecidableEq

/-- The place that three cells spell in binary, the left one counting four. -/
def hoodCode (left center right : Bool) : Nat := 4 * left.toNat + 2 * center.toNat + right.toNat

namespace Rule

/-- Next state of a cell under a rule. -/
def outcome (ρ : Rule) (left center right : Bool) : Bool := ρ.code.val.testBit (hoodCode left center right)

/-- Next state of a cell, from three things that are read as cells. -/
def apply {α : Type} [Cell α] (ρ : Rule) (left center right : α) : Bool :=
  ρ.outcome (Cell.alive left) (Cell.alive center) (Cell.alive right)

/-- Outcomes for the neighbourhoods 000, 001, … 111. -/
def table (ρ : Rule) : List Bool := (List.range 8).map ρ.code.val.testBit

/-- The rule with a given code. -/
def ofCode (code : Int) : Except Fault Rule :=
  if h : 0 ≤ code ∧ code ≤ 255 then .ok ⟨⟨code.toNat, by omega⟩⟩
  else .error (.range (.ruleCode code))

/-- Value of binary digits, the first one counting most. -/
def binaryValue (digits : List Bool) : Nat := digits.foldl (fun acc digit => 2 * acc + digit.toNat) 0

/-- The rule spelled by eight binary digits, the outcomes for 111, 110, … 000. -/
def ofDigits (text : Text) : Except Fault Rule :=
  if text.length ≠ 8 then .error (.range (.ruleLength text.length))
  else if text.letters.all fun d => d = .char '0' ∨ d = .char '1' then
    ofCode (binaryValue (text.letters.map (· = .char '1')))
  else .error (.range (.ruleDigits text))

/-- The eight binary digits of a rule's code. -/
def digits (ρ : Rule) : String := String.ofList (ρ.table.reverse.map fun b => if b then '1' else '0')

end Rule

/-- The rule that the style sheets compute. -/
def rule110 : Rule := ⟨110⟩

/-! ## Tables -/

/-- Outcomes by neighbourhood. -/
abbrev RuleTable := List ((Bool × Bool × Bool) × Bool)

namespace RuleTable

/-- A table with an outcome set: a neighbourhood keeps its place and takes the later outcome. -/
def set (hood : Bool × Bool × Bool) (alive : Bool) : RuleTable → RuleTable
  | [] => [(hood, alive)]
  | entry :: rest => if entry.1 = hood then (hood, alive) :: rest else entry :: set hood alive rest

/-- The table that results from setting outcomes one after the other. -/
def ofEntries (entries : List ((Bool × Bool × Bool) × Bool)) : RuleTable :=
  entries.foldl (fun table entry => set entry.1 entry.2 table) []

/-- A table has to cover all neighbourhoods with the outcomes of a rule. -/
def check (ρ : Rule) (table : RuleTable) : Except Fault Unit :=
  if table.length ≠ 8 then .error (.shape (.tableSize table.length))
  else
    match table.find? fun ((l, c, r), alive) => ρ.outcome l c r != alive with
    | some ((l, c, r), alive) => .error (.shape (.tableEntry ρ.code (!alive) l c r))
    | none => .ok ()

end RuleTable

end TapeSheet
