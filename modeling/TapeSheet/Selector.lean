import TapeSheet.Tape

/-!
# Rules of a style sheet

A rule lights one grid cell when every tape input named by its predicates is in the asserted state. Inputs and grid
cells are found in a page by identifier and class name; the predicates become a chain of sibling selectors. The texts
spell any number; a rule with a number of too many digits is not written at all.
-/

namespace TapeSheet

/-- A grid cell. -/
structure Target where
  row : Int
  col : Int
  deriving DecidableEq

/-- Class name of a grid cell. -/
def Target.className (t : Target) : String := "r_" ++ Decimal.ofInt t.row ++ "_c_" ++ Decimal.ofInt t.col

/-- The tape input at an index is checked, or is not. -/
structure Predicate where
  index : Int
  asserted : Bool
  deriving DecidableEq

/-- Identifier of a tape input. -/
def inputName (index : Int) : String := "t_" ++ Decimal.ofInt index

/-- The simple selector of a predicate. -/
def Predicate.selector (p : Predicate) : String :=
  "#" ++ inputName p.index ++ if p.asserted then ":checked" else ":not(:checked)"

/-- A conjunction of predicates that lights a cell. -/
structure SheetRule where
  predicates : List Predicate
  target : Target
  deriving DecidableEq

namespace SheetRule

/-- The first predicate that fails decides; an index without a cell is a fault. -/
def allHold (root : List Bool) : List Predicate → Except Fault Bool
  | [] => .ok true
  | p :: rest =>
    match itemAt root p.index with
    | .error fault => .error fault
    | .ok cell => if cell = p.asserted then allHold root rest else .ok false

/-- All numbers of a rule. -/
def numbers (rule : SheetRule) : List Int :=
  rule.target.row :: rule.target.col :: rule.predicates.map (·.index)

/-- No number of the rule has too many digits. -/
def isWritable (rule : SheetRule) : Bool := rule.numbers.all Decimal.isWritable

/-- Whether all predicates hold on a root row. -/
def holdsOn? (rule : SheetRule) (root : List Bool) : Except Fault Bool := allHold root rule.predicates

/-- The selectors of the predicates, each followed by the combinator for later siblings. -/
def chain : List Predicate → String
  | [] => ""
  | p :: rest => p.selector ++ (" ~ " ++ chain rest)

/-- The selector of a rule: its chain, then the grid among the siblings and the cell in it. -/
def selector (rule : SheetRule) : String := chain rule.predicates ++ (".grid ." ++ rule.target.className)

/-- What a lit cell looks like. -/
def litStyle : String :=
  "background-color: var(--primary-color); box-shadow: 0 0 8px var(--primary-color); border-color: #fff;"

/-- The rule as one line of a style sheet. -/
def css (rule : SheetRule) : String := rule.selector ++ (" \x7b " ++ litStyle ++ " \x7d")

/-- Indices of the predicates that assert the given state. -/
def indicesOf (asserted : Bool) (predicates : List Predicate) : List Int :=
  (predicates.filter fun p => p.asserted == asserted).map (·.index)

/-- Whole numbers in brackets, with commas and without blanks. -/
def listText (numbers : List Int) : String := "[" ++ Text.joined "," (numbers.map Decimal.ofInt) ++ "]"

/-- The rule as one JSON object: its target, and its indices by asserted state. -/
def record (rule : SheetRule) : String :=
  "\x7b\"target\":" ++ listText [rule.target.row, rule.target.col]
    ++ (",\"checked\":" ++ listText (indicesOf true rule.predicates))
    ++ (",\"unchecked\":" ++ listText (indicesOf false rule.predicates) ++ "\x7d")

end SheetRule

end TapeSheet
