import TapeSheet.Proofs.Loss
import TapeSheet.Proofs.Recording

/-!
# What reports tell

The accuracy in the summary of a batch and the one that is said of a tape have four places. A full one bounds the wrong
cells by one in 19999, and so it tells on a grid of less than 20000 cells that none is wrong, and that the tape does not
count as a failure (`full_accuracy_bounds_wrong_cells`). On a grid of more cells a wrong one goes unseen
(`full_accuracy_hides_wrong_cell`).
-/

namespace TapeSheet.Reports
open TapeSheet.Accuracies TapeSheet.Compilation TapeSheet.Cover TapeSheet.Display TapeSheet.Encoding TapeSheet.LightCone
  TapeSheet.Loss TapeSheet.Recording TapeSheet.Rounding TapeSheet.Scoring TapeSheet.Sessions

/-! ## Verdicts on tapes -/

/-- What is said of a tape, and whether it counts as right. -/
structure Verdict where
  key : Value
  root : List Bool
  accuracy : String
  picture : Option Text
  right : Bool

namespace Verdict

/-- The output after a verdict was said. -/
def said (v : Verdict) (out : Text) : Text :=
  let line := out ++ (Text.ofString "-" ++ v.key.plain ++ Text.ofString (": accuracy " ++ v.accuracy)
    ++ Text.ofString "\n")
  match v.picture with
  | none => line
  | some picture => line ++ (picture ++ Text.ofString "\n")

/-- The verdict on a sheet for a row. -/
def on (s : Sheet) (shows : Bool) (key : Value) (root : List Bool) : Verdict where
  key := key
  root := root
  accuracy := (scoreOf s root).double.fixed 4
  picture := if shows then some (gridText "#" "." root (shown s root s.rows.toNat)) else none
  right := (scoreOf s root).isPerfect

/-- What a full accuracy tells of a sheet, and when it is full. -/
structure Fair (s : Sheet) (v : Verdict) : Prop where
  hardlyWrong : v.accuracy = "1.0000" → HardlyWrong s v.root
  right : v.accuracy = "1.0000" → cellsOf s < 20000 → v.right = true
  full : ∀ wrong, Renders s v.root wrong → 20000 * wrong ≤ cellsOf s → v.accuracy = "1.0000"

end Verdict

section Verdicts
variable {s : Sheet} {seed : Int} {shows : Bool}

theorem on_accuracy (key : Value) (root : List Bool) :
    (Verdict.on s shows key root).accuracy = (scoreOf s root).double.fixed 4 := by
  rw [Verdict.on]

theorem on_right (key : Value) (root : List Bool) :
    (Verdict.on s shows key root).right = (scoreOf s root).isPerfect := by
  rw [Verdict.on]

theorem fair_on {root : List Bool} (someCols : 1 ≤ s.cols) (someRows : 1 ≤ s.maxRow) (onTape : OnTape s)
    (size : (root.length : Int) = s.cols) (key : Value) : (Verdict.on s shows key root).Fair s := by
  have some : 0 < (scoreOf s root).cells := cells_pos someCols someRows
  have high (full : (Verdict.on s shows key root).accuracy = "1.0000") :
      19999 * Binary64.one ≤ 20000 * unitsOf (scoreOf s root) := by
    rw [on_accuracy, double_eq some (wrong_le s root)] at full
    exact high_of_full full
  constructor
  · intro full
    exact hardlyWrong_of_high someCols someRows onTape size (high full)
  · intro full small
    have few : 19999 * (scoreOf s root).wrong < cellsOf s := few_of_high some (high full)
    rw [on_right]
    exact isPerfect_of_right some (by omega)
  · intro wrong has few
    have few : 20000 * (scoreOf s root).wrong ≤ cellsOf s := by rwa [(renders_iff someRows onTape size).mp has]
    rw [on_accuracy, double_eq some (wrong_le s root)]
    exact full_of_high (unitsOf_le _) (high_of_few some few)

/-- A key of a preset is a text without halves of characters. -/
theorem whole_presetKey {key : Value} {cols : Int} {root : List Bool} (row : presetRow key cols seed = .ok root) :
    Whole key.plain := by
  cases key with
  | text own =>
    unfold presetRow at row
    simp only at row
    cases found : Preset.catalogue.find? fun preset => Value.text own == .ofString preset.key with
    | none => rw [found] at row; cases row
    | some preset =>
      have same := List.find?_some found
      change Value.same (.text own) (.text (.ofString preset.key)) = true at same
      rw [Value.same] at same
      exact eq_of_beq same ▸ whole_ofString preset.key
  | _ => exact whole_ofString _

theorem whole_gridText (root : List Bool) (grid : List (List Bool)) : Whole (gridText "#" "." root grid) := by
  refine whole_glued (whole_ofString "\n") fun line member => ?_
  obtain ⟨row, _, rfl⟩ := List.mem_map.mp member
  intro l inRow
  obtain ⟨cell, _, inCell⟩ := List.mem_flatMap.mp inRow
  cases cell with
  | true => exact whole_ofString "#" l inCell
  | false => exact whole_ofString "." l inCell

theorem verifyPreset_eq {key : Value} {root : List Bool} (someCols : 1 ≤ s.cols) (someRows : 1 ≤ s.maxRow)
    (onTape : OnTape s) (row : presetRow key s.cols seed = .ok root) (w : World) :
    verifyPreset s seed shows key w = .ok (Verdict.on s shows key root).right
      { w with out := (Verdict.on s shows key root).said w.out } := by
  have size := presetRow_length row
  have score : s.scoreOn root = .ok (scoreOf s root) := scoreOn_eq someCols someRows onTape size
  unfold verifyPreset
  rw [bind_apply, row, orDie_ok]
  simp only
  rw [bind_apply, score, orDie_ok]
  simp only
  have line : Whole (Text.ofString "-" ++ key.plain ++
      Text.ofString (": accuracy " ++ (scoreOf s root).double.fixed 4)) :=
    whole_append.mpr ⟨whole_append.mpr ⟨whole_ofString _, whole_presetKey row⟩, whole_ofString _⟩
  rw [bind_apply, say_ok line]
  simp only [Verdict.on, Verdict.said]
  cases shows with
  | false => rfl
  | true =>
    simp only [if_true]
    rw [bind_apply, litGrid_shown onTape size, orDie_ok]
    simp only
    rw [bind_apply, say_ok (whole_gridText root _)]
    rfl

/-- Tapes one after the other get a verdict each. -/
theorem verifyAll_eq (someCols : 1 ≤ s.cols) (someRows : 1 ≤ s.maxRow) (onTape : OnTape s) (keys : List Value)
    (rows : ∀ key ∈ keys, ∃ root, presetRow key s.cols seed = .ok root) (w : World) :
    ∃ verdicts : List Verdict, verdicts.map (·.key) = keys ∧
      (∀ v ∈ verdicts, presetRow v.key s.cols seed = .ok v.root ∧ v.Fair s) ∧
      keys.mapM (verifyPreset s seed shows) w =
        .ok (verdicts.map (·.right)) { w with out := verdicts.foldl (fun out v => v.said out) w.out } := by
  -- The output so far is part of the world, so the induction is about all worlds.
  induction keys generalizing w with
  | nil => exact ⟨[], rfl, by simp, rfl⟩
  | cons key keys ih =>
    obtain ⟨⟨root, row⟩, later⟩ := List.forall_mem_cons.mp rows
    obtain ⟨verdicts, isKeys, fair, run⟩ := ih later { w with out := (Verdict.on s shows key root).said w.out }
    refine ⟨Verdict.on s shows key root :: verdicts, ?_, ?_, ?_⟩
    · rw [List.map_cons, isKeys, Verdict.on]
    · rw [List.forall_mem_cons]
      exact ⟨⟨row, fair_on someCols someRows onTape (presetRow_length row) key⟩, fair⟩
    · rw [List.mapM_cons, bind_apply, verifyPreset_eq someCols someRows onTape row]
      simp only
      rw [bind_apply, run]
      rfl

end Verdicts

/-- How a run ends that gave some verdicts on a sheet. -/
def concluded (s : Sheet) (verdicts : List Verdict) (w : World) : EStateM.Result Ending World Unit :=
  let told := { w with out := verdicts.foldl (fun out v => v.said out) w.out }
  match checkedLine s verdicts.length with
  | .error fault => .error (.died fault.reported) told
  | .ok checked =>
    let spoken := { told with out := told.out ++ (checked ++ Text.ofString "\n") }
    let failures := verdicts.countP (!·.right)
    let message : Text := "-" ++ Decimal.ofNat failures ++ " tapes rendered incorrectly"
    if failures = 0 then .ok () spoken
    else .error (.exit 1) { spoken with err := w.err ++ (message ++ Text.ofString "\n") }

theorem whole_checkedLine {s : Sheet} {tapes : Nat} {line : Text} (made : checkedLine s tapes = .ok line) :
    Whole line := by
  obtain ⟨_, rfl⟩ := Decimal.ifWritable_ok.mp made
  simp only [whole_append, whole_ofString, and_self]

/-- A run that verifies a sheet gives a verdict on each tape, and counts those that are not right. -/
theorem verifyCommand_eq {s : Sheet} {compiler : Compiler} {tokens : List Text}
    {given : List (String × CommandLine.Argument)} {o : VerifyOptions} (someCols : 1 ≤ s.cols)
    (someRows : 1 ≤ s.maxRow) (onTape : OnTape s)
    (parsed : CommandLine.parse VerifyOptions.known tokens = .ok given) (isOptions : .ofGiven given = o)
    (compiled : compiler o.rows o.cols o.cap = .ok s) (noted : s.checkNote = .ok s)
    (rows : ∀ key ∈ o.presets, ∃ root, presetRow key s.cols o.seed = .ok root) (w : World) :
    ∃ verdicts : List Verdict, verdicts.map (·.key) = o.presets ∧
      (∀ v ∈ verdicts, presetRow v.key s.cols o.seed = .ok v.root ∧ v.Fair s) ∧
      verifyCommand compiler tokens w = concluded s verdicts w := by
  obtain ⟨verdicts, isKeys, fair, run⟩ := @verifyAll_eq s o.seed o.shows someCols someRows onTape o.presets rows w
  refine ⟨verdicts, isKeys, fair, ?_⟩
  have length : o.presets.length = verdicts.length := by rw [← isKeys, List.length_map]
  have failures : (verdicts.map (·.right)).count false = verdicts.countP (!·.right) := by
    rw [List.count, List.countP_map]
    apply List.countP_congr
    intro v _
    simp
  unfold verifyCommand
  rw [bind_apply, options_ok parsed]
  simp only
  rw [isOptions, bind_apply, compiled, orReport_ok]
  simp only
  rw [bind_apply, noted, orDie_ok]
  simp only
  rw [bind_apply, run]
  simp only
  rw [failures, length]
  unfold concluded
  rw [bind_apply]
  cases made : checkedLine s verdicts.length with
  | error fault => rfl
  | ok checked =>
  rw [orDie_ok]
  simp only
  rw [bind_apply, say_ok (whole_checkedLine made)]
  simp only
  by_cases none : verdicts.countP (!·.right) = 0
  · rw [if_neg (not_not.mpr none), if_pos none]
    rfl
  · rw [if_pos none, if_neg none]
    rfl

/-- Accuracies are told in four places, so a full one in the summary, and one that is said of a tape, tells of less than
one wrong cell in 19999, and with less than 20000 cells of none, and the tape does not count as a failure. At most one
wrong cell in 20000 makes an accuracy a full one. -/
theorem full_accuracy_bounds_wrong_cells (s : Sheet) (cols : Nat) (width : s.cols = cols) (someCols : 1 ≤ cols)
    (someRows : 1 ≤ s.maxRow) (onTape : OnTape s) :
    (∃ accuracy, lowestAccuracy s cols = .ok accuracy ∧
      (accuracy = "1.0000" → ∀ key ∈ Preset.keys, ∃ root, presetRow (.ofString key) cols defaultSeed = .ok root ∧
        HardlyWrong s root) ∧
      ((∀ key ∈ Preset.keys, ∃ root wrong, presetRow (.ofString key) cols defaultSeed = .ok root ∧
        Renders s root wrong ∧ 20000 * wrong ≤ cellsOf s) → accuracy = "1.0000") ∧
      ∀ now compiler o g w record after, o.verify = true → g.cols = cols →
        compiler (.int g.rows) (.int g.cols) (.int g.cap) = .ok s →
        buildGrid now compiler o g w = .ok record after →
        ∃ name outfile, o.target g = .ok outfile ∧
          (Summary.record (fieldsOf now g s name accuracy outfile)).written = .ok record) ∧
    (∀ seed shows key root w, presetRow key s.cols seed = .ok root →
      ∃ v : Verdict, v.key = key ∧ v.root = root ∧ v.Fair s ∧
        verifyPreset s seed shows key w = .ok v.right { w with out := v.said w.out }) ∧
    ∀ compiler tokens given w, CommandLine.parse VerifyOptions.known tokens = .ok given →
      let o := VerifyOptions.ofGiven given
      compiler o.rows o.cols o.cap = .ok s → s.checkNote = .ok s →
      (∀ key ∈ o.presets, ∃ root, presetRow key s.cols o.seed = .ok root) →
      ∃ verdicts : List Verdict, verdicts.map (·.key) = o.presets ∧
        (∀ v ∈ verdicts, presetRow v.key s.cols o.seed = .ok v.root ∧ v.Fair s) ∧
        verifyCommand compiler tokens w = concluded s verdicts w := by
  have columns : 1 ≤ s.cols := by omega
  refine ⟨?_, ?_, ?_⟩
  · obtain ⟨lowest, text, _⟩ := lowestAccuracy_eq width someCols someRows onTape
    refine ⟨_, text, ?_, ?_, ?_⟩
    · intro full key known
      rw [full] at text
      exact hardlyWrong_of_lowest width someCols someRows onTape text known
    · intro few
      refine Except.ok.inj (text.symm.trans (lowest_of_few width someCols someRows onTape ?_))
      intro key known
      obtain ⟨root, wrong, row, has, few⟩ := few key known
      cases row.symm.trans (presetRoot_eq someCols known)
      rwa [(renders_iff someRows onTape ((presetRow_length row).trans width.symm)).mp has]
    · rintro now compiler o g w record after verify rfl compiled built
      exact record_of_built verify compiled text built
  · intro seed shows key root w row
    refine ⟨Verdict.on s shows key root, by rw [Verdict.on], by rw [Verdict.on], ?_, ?_⟩
    · exact fair_on columns someRows onTape (presetRow_length row) key
    · exact verifyPreset_eq columns someRows onTape row w
  · intro compiler tokens given w parsed o compiled noted rows
    exact verifyCommand_eq columns someRows onTape parsed rfl compiled noted rows w

/-- A grid of one cell. -/
def oneCell : Grid := ⟨1, 1, 1, .ofString "cell", none, .css, by decide, by decide, by decide, by decide⟩

/-- A world without files. -/
def emptyWorld : World := ⟨⟨[], []⟩, "", ""⟩

/-- Options of a batch that verifies its sheets. -/
def verifying : BatchOptions := { BatchOptions.ofGiven [] with verify := true }

theorem full_accuracy_bounds_wrong_cells_one :
    ((sheetOf 1 1 1).cols = (1 : Nat) ∧ 1 ≤ 1 ∧ 1 ≤ (sheetOf 1 1 1).maxRow ∧ OnTape (sheetOf 1 1 1)) ∧
    lowestAccuracy (sheetOf 1 1 1) 1 = .ok "1.0000" ∧
    (∀ key ∈ Preset.keys, ∃ root, presetRow (.ofString key) (1 : Nat) defaultSeed = .ok root ∧
      HardlyWrong (sheetOf 1 1 1) root) ∧
    (∃ record after name outfile, buildGrid newYear compileSheet verifying oneCell emptyWorld = .ok record after ∧
      (Summary.record (fieldsOf newYear oneCell (sheetOf 1 1 1) name "1.0000" outfile)).written = .ok record) ∧
    ∃ verdicts : List Verdict, verdicts.map (·.key) = Preset.keys.map Value.ofString ∧
      (∀ v ∈ verdicts, presetRow v.key (1 : Nat) defaultSeed = .ok v.root ∧ v.Fair (sheetOf 1 1 1)) ∧
      verifyCommand (fun _ _ _ => .ok (sheetOf 1 1 1)) [] emptyWorld =
        concluded (sheetOf 1 1 1) verdicts emptyWorld := by
  have onTape := sheetOf_onTape 1 1 1
  obtain ⟨⟨accuracy, known, bound, _, recorded⟩, _, run⟩ := full_accuracy_bounds_wrong_cells (sheetOf 1 1 1) 1 rfl
    (by decide) (by decide) onTape
  have full : accuracy = "1.0000" := by
    have shown : (lowestAccuracy (sheetOf 1 1 1) 1).toOption = some "1.0000" := by decide +kernel
    rw [known] at shown
    exact Option.some.inj shown
  subst full
  have built := @eq_ok_of_answer _ (buildGrid newYear compileSheet verifying oneCell emptyWorld)
    "2000-01-01 00:00:00,cell,1,1,1,1,1.0000,build/cell.css\r\n" (by decide +kernel)
  obtain ⟨name, outfile, _, written⟩ := recorded newYear compileSheet verifying oneCell emptyWorld _ _ rfl rfl
    (compileSheet_eq (by decide) (by decide) (by decide) (by decide)) built
  have rows : ∀ key ∈ Preset.keys.map Value.ofString, ∃ root, presetRow key (1 : Nat) defaultSeed = .ok root := by
    intro key member
    obtain ⟨key, listed, rfl⟩ := List.mem_map.mp member
    exact presetRow_ok listed (by decide)
  obtain ⟨verdicts, keys, fair, said⟩ := run (fun _ _ _ => .ok (sheetOf 1 1 1)) [] [] emptyWorld rfl rfl rfl rows
  exact ⟨⟨rfl, by decide, by decide, onTape⟩, known, bound rfl, ⟨_, _, name, outfile, built, written⟩, verdicts, keys,
    fair, said⟩

/-! ## A dark cell -/

/-- The rules of a sheet for one cell. -/
def rulesFor (s : Sheet) (target : Target) : Finset SheetRule := (s.rules.filter (·.target = target)).toFinset

theorem mem_rulesFor {s : Sheet} {target : Target} {rule : SheetRule} :
    rule ∈ rulesFor s target ↔ rule ∈ s.rules ∧ rule.target = target := by
  rw [rulesFor, List.mem_toFinset, List.mem_filter, decide_eq_true_iff]

theorem lacks_without (s : Sheet) (target : Target) : Lacks (s.without [target]) s (rulesFor s target) where
  rows := rfl
  cols := rfl
  maxRow := rfl
  rules := by
    rw [Sheet.without]
    apply List.filter_congr
    intro rule member
    simp [mem_rulesFor, member]

section Dark
variable {rows cap : Nat} {root : List Bool}

/-- A sheet without the rules for one cell shows that cell wrong on a row where a rule for it held, and no other one. -/
theorem dark_wrong (someRows : 1 ≤ min rows cap) (someCols : 1 ≤ root.length) (target : Target) :
    (scoreOf ((sheetOf rows root.length cap).without [target]) root).wrong =
      ((rulesFor (sheetOf rows root.length cap) target).filter fun rule => Meets root rule.predicates).card := by
  have lacks := lacks_without (sheetOf rows root.length cap) target
  have depth : (1 : Int) ≤ (sheetOf rows root.length cap).maxRow := Int.ofNat_le.mpr someRows
  have columns : (1 : Int) ≤ (sheetOf rows root.length cap).cols := Int.ofNat_le.mpr someCols
  obtain ⟨score, scored, _, wrong, _⟩ := scoreOn_of_loss lacks (fun _ member => (mem_rulesFor.mp member).1)
    someCols someRows
  have same := scoreOn_eq (s := (sheetOf rows root.length cap).without [target]) columns depth (kept_onTape lacks) rfl
  rw [← wrong]
  exact congrArg Score.wrong (Except.ok.inj (same.symm.trans scored))

theorem dark_le_one (someRows : 1 ≤ min rows cap) (someCols : 1 ≤ root.length) (target : Target) :
    (scoreOf ((sheetOf rows root.length cap).without [target]) root).wrong ≤ 1 := by
  rw [dark_wrong someRows someCols, Finset.card_le_one]
  intro a aMember b bMember
  obtain ⟨aRule, aHolds⟩ := Finset.mem_filter.mp aMember
  obtain ⟨bRule, bHolds⟩ := Finset.mem_filter.mp bMember
  obtain ⟨aRule, aTarget⟩ := mem_rulesFor.mp aRule
  obtain ⟨bRule, bTarget⟩ := mem_rulesFor.mp bRule
  exact holding_unique aRule bRule (aTarget.trans bTarget.symm) aHolds bHolds

theorem dark_of_alive {above col : Nat} (rowInside : above < min rows cap) (colInside : col < root.length)
    (alive : rule110.steps (above + 1) (Tape.ofRow root) col = true) :
    (scoreOf ((sheetOf rows root.length cap).without [⟨above + 1, col⟩]) root).wrong = 1 := by
  have le := @dark_le_one rows cap root (by omega) (by omega) ⟨above + 1, col⟩
  obtain ⟨rule, member, target, holds⟩ := (sheetOf_lit rows cap root above col colInside).mpr ⟨rowInside, alive⟩
  have positive : 0 < (scoreOf ((sheetOf rows root.length cap).without [⟨above + 1, col⟩]) root).wrong := by
    rw [dark_wrong (by omega) (by omega)]
    exact Finset.card_pos.mpr ⟨rule, Finset.mem_filter.mpr ⟨mem_rulesFor.mpr ⟨member, target⟩, holds⟩⟩
  omega

end Dark

/-- The sheet of one row of 20001 cells that leaves the last cell dark. -/
def lastCellDark : Sheet := (sheetOf 1 20001 1).without [⟨1, 20000⟩]

/-- The cell at the end of the row of the preset with one cell. -/
theorem single_row {cols : Nat} (wide : 1 ≤ cols) :
    presetRow (.ofString "single") cols defaultSeed = .ok (rowWhere cols fun i => i + 1 = cols) := by
  have found : ((Preset.catalogue.find? fun preset => Value.ofString "single" == .ofString preset.key).map
      (·.source)) = some (.generated .single) := by
    cbv
  obtain ⟨preset, found, source⟩ := Option.map_eq_some_iff.mp found
  unfold presetRow
  simp only [Value.ofString] at found ⊢
  rw [found]
  simp only
  rw [if_neg (by omega), Int.toNat_natCast, source]
  rfl

/-- A living cell at the end of a row lives on. -/
theorem last_lives {root : List Bool} {n : Nat} (size : root.length = n + 1) (alive : Tape.ofRow root n = true) :
    rule110.steps (0 + 1) (Tape.ofRow root) n = true := by
  have outcome : ∀ left, rule110.outcome left true false = true := by decide
  have beyond : Tape.ofRow root (n + 1) = false := ofRow_outside root _ (by omega)
  rw [Rule.steps, Rule.steps, Rule.step, alive, beyond, outcome]

/-- The row of 20001 cells whose last one is alive. -/
def lastCellAlive : List Bool := rowWhere 20001 fun i => i + 1 = 20001

theorem lastCellDark_onTape : OnTape lastCellDark := kept_onTape (lacks_without (sheetOf 1 20001 1) ⟨1, 20000⟩)

theorem lastCellAlive_row : presetRow (.ofString "single") (20001 : Nat) defaultSeed = .ok lastCellAlive :=
  single_row (by decide)

theorem lastCellAlive_length : lastCellAlive.length = 20001 := Int.ofNat_inj.mp (presetRow_length lastCellAlive_row)

theorem lastCellDark_score : scoreOf lastCellDark lastCellAlive = ⟨1, 20001⟩ := by
  have size := lastCellAlive_length
  have alive : Tape.ofRow lastCellAlive (20000 : Nat) = true := by
    rw [ofRow_getElem _ _ (by omega)]
    simp [lastCellAlive, rowWhere]
  have wrong := @dark_of_alive 1 1 lastCellAlive 0 20000 (by decide) (by omega) (last_lives (by omega) alive)
  rw [size] at wrong
  calc scoreOf lastCellDark lastCellAlive
    _ = ⟨(scoreOf lastCellDark lastCellAlive).wrong, 20001⟩ := rfl
    _ = ⟨1, 20001⟩ := congrArg (Score.mk · 20001) wrong

/-- Among more than 20000 cells a full accuracy hides a wrong one: it is the text for the summary, and it is said of a
tape that counts as a failure. -/
theorem full_accuracy_hides_wrong_cell :
    lastCellDark.cols = (20001 : Nat) ∧ 1 ≤ lastCellDark.maxRow ∧ OnTape lastCellDark ∧
      lowestAccuracy lastCellDark 20001 = .ok "1.0000" ∧
      ∃ root, presetRow (.ofString "single") (20001 : Nat) defaultSeed = .ok root ∧ ¬ ShowsEvolution lastCellDark root ∧
        ∃ v : Verdict, v.accuracy = "1.0000" ∧ v.right = false ∧
          ∀ w, verifyPreset lastCellDark defaultSeed false (.ofString "single") w =
            .ok v.right { w with out := v.said w.out } := by
  have onTape := lastCellDark_onTape
  have row := lastCellAlive_row
  have deep : 1 ≤ lastCellDark.maxRow := by decide
  have columns : 1 ≤ lastCellDark.cols := by decide
  refine ⟨rfl, deep, onTape, ?_, _, row, ?_, .on lastCellDark false (.ofString "single") lastCellAlive, ?_, ?_, ?_⟩
  · apply lowest_of_few rfl (by decide) deep onTape
    intro key known
    have size := presetRow_length (presetRoot_eq (by decide : 1 ≤ 20001) known)
    have few := @dark_le_one 1 1 (presetRoot 20001 key) (by decide) (by omega) ⟨1, 20000⟩
    rw [Int.ofNat_inj.mp size] at few
    have cells : cellsOf lastCellDark = 20001 := rfl
    unfold lastCellDark at cells ⊢
    omega
  · intro shows
    have right := (showsEvolution_iff columns deep onTape (presetRow_length row)).mp shows
    rw [lastCellDark_score] at right
    cases right
  · rw [on_accuracy, lastCellDark_score, double_eq (by decide) (by decide)]
    exact full_of_high (unitsOf_le _) (high_of_few (by decide) (by decide))
  · rw [on_right, lastCellDark_score]
    decide +kernel
  · exact verifyPreset_eq columns deep onTape row

end TapeSheet.Reports
