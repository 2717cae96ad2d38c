import TapeSheet.Proofs.BlockReading
import TapeSheet.Proofs.Display
import Mathlib.Data.List.Pairwise
import Mathlib.Data.List.Sort

/-!
# What a style sheet selects on a page

A page shows a row of cells by inputs in front of a grid. On such a page the selector of a rule with ascending
predicates selects its cell exactly if the predicates hold on the row (`selects_cell`), so the written sheet of
compiled sizes selects the cells that the sheet lights.
-/

namespace TapeSheet.Selection
open TapeSheet.Cover TapeSheet.Compilation TapeSheet.Display
open TapeSheet.Names TapeSheet.Page TapeSheet.SelectorReading TapeSheet.BlockReading

/-! ## Pages -/

/-- A grid on a page, with its siblings in front and what is around them. -/
structure TapePage where
  before : List Element
  grid : Element
  around : Option Spot

namespace TapePage

/-- The grid in its place. -/
def gridSpot (page : TapePage) : Spot := ⟨page.before, page.grid, page.around⟩

/-- An element of the grid in its place. -/
def InGrid (page : TapePage) (s : Spot) : Prop :=
  s.around = some page.gridSpot ∧ ∃ behind, page.grid.children = s.earlier ++ s.element :: behind

/-- An element of the grid with the class name of a cell. -/
def IsCell (page : TapePage) (t : Target) (s : Spot) : Prop := page.InGrid s ∧ t.className ∈ s.element.classes

/-- The inputs of a row in order in front of the one grid, checked where the row is alive, and elements for all cells in
    the grid. -/
structure Shows (page : TapePage) (rows : Nat) (root : List Bool) : Prop where
  inputs : (root.mapIdx fun i cell => (some (inputName i), cell)).Sublist
    (page.before.map fun e => (e.name, e.checked))
  namesDiffer : (page.before.filterMap (·.name)).Nodup
  isGrid : "grid" ∈ page.grid.classes
  oneGrid : ∀ outer : Spot, outer.Surrounds page.gridSpot → "grid" ∉ outer.element.classes
  cells : ∀ above < rows, ∀ col < root.length,
    ∃ e ∈ page.grid.children, (Target.mk (above + 1 : Nat) (col : Nat)).className ∈ e.classes
  cellsDiffer : ∀ e ∈ page.grid.children, ∀ t u : Target, t.className ∈ e.classes → u.className ∈ e.classes → t = u

end TapePage

/-! ## Chains of predicates on a page -/

theorem mapIdx_inputs (root : List Bool) :
    (root.mapIdx fun i cell => (some (inputName i), cell)) =
      (List.range root.length).map fun (i : Nat) => (some (inputName i), Tape.ofRow root i) := by
  apply List.ext_getElem
  · simp
  · intro i low high
    have inside : i < root.length := by simpa using low
    simp [LightCone.ofRow_getElem root i inside]

theorem fits_part (p : Predicate) (e : Element) :
    (partOf p).Fits e ↔ (e.name, e.checked) = (some (inputName p.index), p.asserted) := by
  simp [Compound.Fits, partOf, Simple.Fits]

/-- Every one of some parts is fit by one of the elements that fit them. -/
theorem exists_fitting {parts : List Compound} {elements : List Element}
    (fits : List.Forall₂ Compound.Fits parts elements) {part : Compound} (member : part ∈ parts) :
    ∃ e ∈ elements, part.Fits e := by
  induction fits with
  | nil => cases member
  | @cons first e _ _ fit _ ih =>
    rcases List.mem_cons.mp member with rfl | member
    · exact ⟨e, List.mem_cons_self, fit⟩
    · obtain ⟨other, ofOthers, fitsOther⟩ := ih member
      exact ⟨other, List.mem_cons_of_mem _ ofOthers, fitsOther⟩

/-- Elements whose names differ are told apart by their names. -/
theorem unique_name {elements : List Element} (differ : (elements.filterMap (·.name)).Nodup) {e f : Element}
    (eMember : e ∈ elements) (fMember : f ∈ elements) {name : String} (eName : e.name = some name)
    (fName : f.name = some name) : e = f := by
  have symmetric : Std.Symm fun e f : Element => ∀ m, e.name = some m → ∀ n, f.name = some n → m ≠ n :=
    ⟨fun e f apart n isN m isM => (apart m isM n isN).symm⟩
  by_contra different
  exact (List.pairwise_filterMap.mp differ).forall eMember fMember different name eName name fName rfl

/-- On a page every input has one state. -/
theorem one_state {page : TapePage} {rows : Nat} {root : List Bool} (shows : page.Shows rows root) {e : Element}
    (member : e ∈ page.before) {index : Int} (low : 0 ≤ index) (high : index < root.length)
    (name : e.name = some (inputName index)) : e.checked = Tape.ofRow root index := by
  obtain ⟨i, rfl⟩ := Int.eq_ofNat_of_zero_le low
  have input : (some (inputName i), Tape.ofRow root i) ∈ page.before.map fun e => (e.name, e.checked) := by
    apply shows.inputs.subset
    rw [mapIdx_inputs]
    exact List.mem_map.mpr ⟨i, List.mem_range.mpr (Int.ofNat_lt.mp high), rfl⟩
  obtain ⟨other, otherMember, same⟩ := List.mem_map.mp input
  obtain ⟨otherName, otherState⟩ := Prod.mk.inj same
  rw [← otherState, unique_name shows.namesDiffer member otherMember name otherName]

/-- Ascending indices stand in the order of a row. -/
theorem indices_sublist {size : Nat} {predicates : List Predicate} (inside : Inside size predicates)
    (ascending : predicates.Pairwise fun p q => p.index < q.index) :
    (predicates.map fun p => p.index.toNat).Sublist (List.range size) := by
  have ordered : (predicates.map fun p => p.index.toNat).Pairwise (· < ·) := by
    rw [List.pairwise_map]
    apply ascending.imp_of_mem
    intro p q pMember qMember less
    have := inside p pMember
    have := inside q qMember
    omega
  have within : (predicates.map fun p => p.index.toNat) ⊆ List.range size := by
    intro i member
    obtain ⟨p, ofPredicate, rfl⟩ := List.mem_map.mp member
    have := inside p ofPredicate
    rw [List.mem_range]
    omega
  exact List.sublist_of_subperm_of_pairwise (List.subperm_of_subset (ordered.imp Nat.ne_of_lt) within) ordered
    List.pairwise_lt_range

/-- Inputs in front of the grid fit ascending predicates in their order exactly if the predicates hold on the row. -/
theorem ahead_iff_meets {page : TapePage} {rows : Nat} {root : List Bool} (shows : page.Shows rows root)
    {predicates : List Predicate} (inside : Inside root.length predicates)
    (ascending : predicates.Pairwise fun p q => p.index < q.index) :
    Ahead (predicates.map partOf) page.before ↔ Meets root predicates := by
  rw [ahead_iff]
  constructor
  · rintro ⟨elements, fits, sublist⟩ p member
    obtain ⟨e, ofElements, fit⟩ := exists_fitting fits (List.mem_map_of_mem member)
    obtain ⟨name, state⟩ := Prod.mk.inj ((fits_part p e).mp fit)
    rw [← state]
    exact (one_state shows (sublist.subset ofElements) (inside p member).1 (inside p member).2 name).symm
  · intro meets
    have states : (predicates.map fun p => (some (inputName p.index), p.asserted)) =
        (predicates.map fun p => p.index.toNat).map fun (i : Nat) => (some (inputName i), Tape.ofRow root i) := by
      rw [List.map_map]
      apply List.map_congr_left
      intro p member
      have := inside p member
      rw [Function.comp_apply, Int.toNat_of_nonneg (inside p member).1, meets p member]
    have inOrder := shows.inputs
    rw [mapIdx_inputs] at inOrder
    have sublist := ((indices_sublist inside ascending).map _).trans inOrder
    rw [← states] at sublist
    obtain ⟨elements, ofPage, same⟩ := List.sublist_map_iff.mp sublist
    refine ⟨elements, ?_, ofPage⟩
    rw [← List.forall₂_eq_eq_eq, List.forall₂_map_left_iff, List.forall₂_map_right_iff] at same
    rw [List.forall₂_map_left_iff]
    exact same.imp fun p e fit => (fits_part p e).mpr fit.symm

/-! ## Cells on a page -/

theorem fits_class (name : String) (e : Element) : Compound.Fits [.cls name] e ↔ name ∈ e.classes := by
  simp [Compound.Fits, Simple.Fits]

/-- A rule with ascending predicates selects its cell, and nothing else in the grid, if its predicates hold on the
    row. -/
theorem selects_cell {page : TapePage} {rows : Nat} {root : List Bool} (shows : page.Shows rows root) {rule : SheetRule}
    (inside : Inside root.length rule.predicates)
    (ascending : rule.predicates.Pairwise fun p q => p.index < q.index) {s : Spot} (inGrid : page.InGrid s) :
    Selects (selectorOf rule) s ↔ page.IsCell rule.target s ∧ Meets root rule.predicates := by
  have chained : (∃ t : Spot, t.Surrounds s ∧ Selects (chain [.cls "grid"] (rule.predicates.map partOf)) t) ↔
      Meets root rule.predicates := by
    constructor
    · rintro ⟨t, surrounds, selects⟩
      obtain ⟨isGrid, ahead⟩ := (selects_chain ..).mp selects
      cases surrounds with
      | parent next =>
        obtain rfl : page.gridSpot = t := Option.some.inj (inGrid.1.symm.trans next)
        exact (ahead_iff_meets shows inside ascending).mp ahead
      | further next above =>
        obtain rfl := Option.some.inj (inGrid.1.symm.trans next)
        exact absurd ((fits_class ..).mp isGrid) (shows.oneGrid t above)
    · intro meets
      refine ⟨page.gridSpot, .parent inGrid.1, (selects_chain ..).mpr ⟨(fits_class ..).mpr shows.isGrid, ?_⟩⟩
      exact (ahead_iff_meets shows inside ascending).mpr meets
  rw [selectorOf, Selects, chained, fits_class]
  exact and_congr_left' (and_iff_right inGrid).symm

/-- Some block that lights cells selects an element. -/
def LitBy (text : List Char) (s : Spot) : Prop :=
  ∃ block ∈ blocks text, block.body = litBody ∧
    ∃ selector, selector? block.selector = some selector ∧ Selects selector s

theorem litBy_iff {text : List Char} {rules : List SheetRule} (read : blocks text = commonBlocks ++ rules.map blockOf)
    (s : Spot) : LitBy text s ↔ ∃ rule ∈ rules, Selects (selectorOf rule) s := by
  rw [LitBy, read]
  constructor
  · rintro ⟨block, member, body, selector, found, selects⟩
    rcases List.mem_append.mp member with common | ofRule
    · exact absurd body (common_not_lit block common)
    · obtain ⟨rule, ofRules, rfl⟩ := List.mem_map.mp ofRule
      obtain rfl := Option.some.inj (found.symm.trans (selector_of_rule rule))
      exact ⟨rule, ofRules, selects⟩
  · rintro ⟨rule, ofRules, selects⟩
    exact ⟨blockOf rule, List.mem_append_right _ (List.mem_map_of_mem ofRules), rfl, selectorOf rule,
      selector_of_rule rule, selects⟩

/-- Every cell of the compiled part of the grid has an element. -/
theorem exists_cell {page : TapePage} {rows cap : Nat} {root : List Bool} (shows : page.Shows rows root)
    {rule : SheetRule} (member : rule ∈ (sheetOf rows root.length cap).rules) : ∃ s, page.IsCell rule.target s := by
  obtain ⟨⟨above, rowInside, col, colInside, target⟩, _⟩ := sheetOf_rule member
  obtain ⟨e, child, isCell⟩ := shows.cells above (by omega) col colInside
  obtain ⟨earlier, behind, split⟩ := List.append_of_mem child
  exact ⟨⟨earlier, e, some page.gridSpot⟩, ⟨rfl, behind, split⟩, target ▸ isCell⟩

theorem isCell_unique {page : TapePage} {rows : Nat} {root : List Bool} (shows : page.Shows rows root) {t u : Target}
    {s : Spot} (first : page.IsCell t s) (second : page.IsCell u s) : t = u := by
  obtain ⟨⟨_, behind, split⟩, isFirst⟩ := first
  exact shows.cellsDiffer s.element (by rw [split]; simp) t u isFirst second.2

/-- On every page that shows a row of cells, the selector that is written for a rule of the compiled sheet selects the
    cell of the rule exactly if the rule holds on the row, and the style sheet selects the lit cells. Compiling gives the
    sheet unless its note cannot be written, and the style sheet is written unless its width cannot. -/
theorem compiled_selectors_select_lit_cells (rows cols cap : Nat) (someRows : 1 ≤ rows) (someCols : 1 ≤ cols)
    (someCap : 1 ≤ cap) (capBound : cap ≤ maxCompiledRow) (root : List Bool) (size : root.length = cols)
    (page : TapePage) (shows : page.Shows rows root) :
    ∃ sheet text cells, compileSheet (.int rows) (.int cols) (.int cap) = .ok sheet ∧
      (compiled (.int rows) (.int cols) (.int cap) = .ok sheet ↔ (cap < rows → Decimal.isWritable rows = true)) ∧
      sheet.cssText.encode = .ok text ∧ (sheet.written .css = .ok text ↔ Decimal.isWritable cols = true) ∧
      sheet.litCells root = .ok cells ∧
      (∀ rule ∈ sheet.rules, ∃ selector held, selector? (words rule.selector.toList) = some selector ∧
        rule.holdsOn? root = .ok held ∧ (∃ s, page.IsCell rule.target s) ∧
        ∀ s, page.InGrid s → (Selects selector s ↔ page.IsCell rule.target s ∧ held = true)) ∧
      ∀ target, target ∈ cells ↔ ∃ s, page.IsCell target s ∧ LitBy text.toList s := by
  subst size
  obtain ⟨text, written, read⟩ := blocks_of_sheet rows root.length cap
  have width : (root.length : Int) = (sheetOf rows root.length cap).cols := rfl
  obtain ⟨cells, lit, members⟩ := litCells_spec width (sheetOf_onTape rows root.length cap)
  refine ⟨_, text, cells, compileSheet_eq someRows someCols someCap capBound,
    compiled_iff someRows someCols someCap capBound, written, sheetOf_css capBound written, lit, ?_, ?_⟩
  · intro rule member
    obtain ⟨_, inside, ascending⟩ := sheetOf_rule member
    refine ⟨_, _, selector_of_rule rule, holdsOn_eq rule root inside, exists_cell shows member, ?_⟩
    intro s inGrid
    rw [decide_eq_true_iff]
    exact selects_cell shows inside ascending inGrid
  · intro target
    rw [members]
    constructor
    · rintro ⟨rule, member, rfl, meets⟩
      obtain ⟨_, inside, ascending⟩ := sheetOf_rule member
      obtain ⟨s, isCell⟩ := exists_cell shows member
      refine ⟨s, isCell, (litBy_iff read s).mpr ⟨rule, member, ?_⟩⟩
      exact (selects_cell shows inside ascending isCell.1).mpr ⟨isCell, meets⟩
    · rintro ⟨s, isCell, litBy⟩
      obtain ⟨rule, member, selects⟩ := (litBy_iff read s).mp litBy
      obtain ⟨_, inside, ascending⟩ := sheetOf_rule member
      obtain ⟨ofRule, meets⟩ := (selects_cell shows inside ascending isCell.1).mp selects
      exact ⟨rule, member, isCell_unique shows ofRule isCell, meets⟩

/-- A page with nothing but the inputs, the grid and its cells. -/
def plainPage (rows : Nat) (root : List Bool) : TapePage where
  before := (List.range root.length).map fun (i : Nat) => ⟨some (inputName i), [], Tape.ofRow root i, []⟩
  grid := ⟨none, ["grid"], false, (List.range rows).flatMap fun (above : Nat) =>
    (List.range root.length).map fun (col : Nat) =>
      ⟨none, ["cell", (Target.mk (above + 1 : Nat) col).className], false, []⟩⟩
  around := none

theorem className_ne_cell (t : Target) : t.className ≠ "cell" := by
  intro same
  have start := congrArg (fun name => name.toList.head?) same
  simp [Target.className] at start

theorem plainPage_shows (rows : Nat) (root : List Bool) : (plainPage rows root).Shows rows root where
  inputs := by
    rw [mapIdx_inputs, plainPage, List.map_map]
    exact .refl _
  namesDiffer := by
    have names : (plainPage rows root).before.filterMap (·.name) =
        (List.range root.length).map fun (i : Nat) => inputName i := by
      rw [plainPage, List.filterMap_map, ← List.filterMap_eq_map]
      rfl
    rw [names]
    exact List.nodup_range.map fun i j same => Int.ofNat.inj (inputName_injective same)
  isGrid := List.mem_singleton.mpr rfl
  oneGrid := by
    intro outer surrounds
    cases surrounds with
    | parent next => cases next
    | further next _ => cases next
  cells := by
    intro above rowInside col colInside
    refine ⟨⟨none, ["cell", (Target.mk (above + 1 : Nat) col).className], false, []⟩, ?_, by simp⟩
    exact List.mem_flatMap.mpr ⟨above, List.mem_range.mpr rowInside, List.mem_map_of_mem (List.mem_range.mpr colInside)⟩
  cellsDiffer := by
    intro e child t u ofT ofU
    obtain ⟨above, _, inRow⟩ := List.mem_flatMap.mp child
    obtain ⟨col, _, rfl⟩ := List.mem_map.mp inRow
    have only : ∀ v : Target, v.className ∈ ["cell", (Target.mk (above + 1 : Nat) col).className] →
        v = ⟨(above + 1 : Nat), col⟩ := by
      intro v member
      simp only [List.mem_cons, className_ne_cell, List.not_mem_nil, or_false, false_or] at member
      exact className_injective member
    rw [only t ofT, only u ofU]

/-- One row under a row of two cells, on the plain page. -/
theorem compiled_selectors_select_lit_cells_plain :
    (1 ≤ 2 ∧ 1 ≤ 2 ∧ 1 ≤ 1 ∧ 1 ≤ maxCompiledRow ∧ [true, false].length = 2 ∧
      (plainPage 2 [true, false]).Shows 2 [true, false]) ∧
    ∃ sheet text, compileSheet (.int (2 : Nat)) (.int (2 : Nat)) (.int (1 : Nat)) = .ok sheet ∧
      sheet.written .css = .ok text ∧ sheet.litCells [true, false] = .ok [⟨1, 0⟩] ∧
      (∃ s, (plainPage 2 [true, false]).IsCell ⟨1, 0⟩ s ∧ LitBy text.toList s) ∧
      ¬ ∃ s, (plainPage 2 [true, false]).IsCell ⟨1, 1⟩ s ∧ LitBy text.toList s := by
  have shows := plainPage_shows 2 [true, false]
  obtain ⟨sheet, text, cells, made, _, _, written, lit, _, selected⟩ := compiled_selectors_select_lit_cells 2 2 1
    (by decide) (by decide) (by decide) (by decide) [true, false] rfl _ shows
  obtain rfl : sheetOf 2 2 1 = sheet :=
    Except.ok.inj ((compileSheet_eq (by decide) (by decide) (by decide) (by decide)).symm.trans made)
  have found : (sheetOf 2 2 1).litCells [true, false] = .ok [⟨1, 0⟩] := rfl
  obtain rfl : [⟨1, 0⟩] = cells := Except.ok.inj (found.symm.trans lit)
  have wrote := written.mpr (by decide +kernel)
  refine ⟨by simp [shows, maxCompiledRow], _, text, made, wrote, lit, (selected ⟨1, 0⟩).mp (by decide), ?_⟩
  exact fun lit => absurd ((selected ⟨1, 1⟩).mpr lit) (by decide)

end TapeSheet.Selection
