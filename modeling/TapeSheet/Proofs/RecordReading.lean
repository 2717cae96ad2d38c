import TapeSheet.Proofs.BlockReading
import TapeSheet.Proofs.Files
import TapeSheet.Proofs.JsonReading
import Mathlib.Data.List.Perm.Basic

/-!
# Reading records

A record keeps the indices of a rule's predicates in two lists, by asserted state. Merging the two in ascending order
gives ascending predicates back (`merged_indices`), so each line of the records of a sheet tells its rule
(`rule_of_record`), and the lines of the style sheet can be made from those of the records. Records are written one by
one, so a rule that cannot be written leaves those before it.
-/

namespace TapeSheet.RecordReading
open TapeSheet.Names TapeSheet.Cover TapeSheet.BlockReading TapeSheet.Files TapeSheet.JsonReading

/-! ## Merging -/

/-- Predicates about different inputs, from left to right. -/
def Ascending (predicates : List Predicate) : Prop := predicates.Pairwise fun p q => p.index < q.index

/-- Predicates with given indices of inputs that have to be checked and not checked, in ascending order. -/
def merged (checked unchecked : List Int) : List Predicate :=
  List.merge (checked.map (⟨·, true⟩)) (unchecked.map (⟨·, false⟩)) fun p q => p.index ≤ q.index

theorem indicesOf_predicates (asserted : Bool) (predicates : List Predicate) :
    (SheetRule.indicesOf asserted predicates).map (⟨·, asserted⟩ : Int → Predicate) =
      predicates.filter fun p => p.asserted == asserted := by
  rw [SheetRule.indicesOf, List.map_map]
  apply (List.map_congr_left ?_).trans (List.map_id _)
  intro p member
  have same := beq_iff_eq.mp (List.mem_filter.mp member).2
  rw [Function.comp_apply, ← same]
  rfl

theorem merged_perm (predicates : List Predicate) :
    (merged (SheetRule.indicesOf true predicates) (SheetRule.indicesOf false predicates)).Perm predicates := by
  have others : (predicates.filter fun p => p.asserted == false) =
      predicates.filter fun p => !(p.asserted == true) := by
    apply List.filter_congr
    intro p _
    cases p.asserted <;> rfl
  rw [merged, indicesOf_predicates, indicesOf_predicates, others]
  exact (List.merge_perm_append _).trans (List.filter_append_perm _ predicates)

theorem merged_sorted {predicates : List Predicate} (ascending : Ascending predicates) :
    (merged (SheetRule.indicesOf true predicates) (SheetRule.indicesOf false predicates)).Pairwise
      fun p q => p.index ≤ q.index := by
  have part : ∀ asserted : Bool,
      (predicates.filter fun p => p.asserted == asserted).Pairwise fun p q => decide (p.index ≤ q.index) = true :=
    fun asserted => (ascending.filter _).imp fun less => decide_eq_true (Int.le_of_lt less)
  have trans : ∀ p q r : Predicate, decide (p.index ≤ q.index) = true → decide (q.index ≤ r.index) = true →
      decide (p.index ≤ r.index) = true :=
    fun p q r first second => decide_eq_true (Int.le_trans (of_decide_eq_true first) (of_decide_eq_true second))
  have total : ∀ p q : Predicate, (decide (p.index ≤ q.index) || decide (q.index ≤ p.index)) = true := by
    intro p q
    simpa using Int.le_total p.index q.index
  rw [merged, indicesOf_predicates, indicesOf_predicates]
  exact (List.pairwise_merge trans total _ _ (part true) (part false)).imp fun le => of_decide_eq_true le

/-- Merging the indices of ascending predicates gives the predicates back. -/
theorem merged_indices {predicates : List Predicate} (ascending : Ascending predicates) :
    merged (SheetRule.indicesOf true predicates) (SheetRule.indicesOf false predicates) = predicates := by
  have perm := merged_perm predicates
  have indices : (predicates.map (·.index)).Nodup := by
    rw [List.Nodup, List.pairwise_map]
    exact ascending.imp fun less => Int.ne_of_lt less
  -- Two sorted arrangements agree where no two members have the same index.
  refine perm.eq_of_pairwise ?_ (merged_sorted ascending) (ascending.imp fun less => Int.le_of_lt less)
  intro p q ofMerged member le ge
  exact List.inj_on_of_nodup_map indices (perm.mem_iff.mp ofMerged) member (Int.le_antisymm le ge)

/-! ## Records as values -/

def wholeNumbers? : Value → Option (List Int)
  | .list items => items.mapM fun
    | .int n => some n
    | _ => none
  | _ => none

/-- The rule that a value describes, if it has the parts of a record. -/
def ruleOfValue? : Value → Option SheetRule
  | .map entries => do
    let target ← (Value.lookup (.ofString "target") entries).bind wholeNumbers?
    let checked ← (Value.lookup (.ofString "checked") entries).bind wholeNumbers?
    let unchecked ← (Value.lookup (.ofString "unchecked") entries).bind wholeNumbers?
    match target with
    | [row, col] => some ⟨merged checked unchecked, ⟨row, col⟩⟩
    | _ => none
  | _ => none

def ruleOfLine? (line : List Char) : Option SheetRule := (Json.parse (String.ofList line)).bind ruleOfValue?

def recordValue (rule : SheetRule) : Value :=
  .map [(.ofString "target", .list ([rule.target.row, rule.target.col].map .int)),
    (.ofString "checked", .list ((SheetRule.indicesOf true rule.predicates).map .int)),
    (.ofString "unchecked", .list ((SheetRule.indicesOf false rule.predicates).map .int))]

theorem wholeNumbers_ints (numbers : List Int) : wholeNumbers? (.list (numbers.map .int)) = some numbers := by
  rw [wholeNumbers?, List.mapM_map]
  induction numbers with
  | nil => rfl
  | cons n numbers ih =>
    rw [List.mapM_cons, ih]
    rfl

theorem keys_differ : Text.ofString "checked" ≠ Text.ofString "target" ∧
    Text.ofString "unchecked" ≠ Text.ofString "target" ∧ Text.ofString "unchecked" ≠ Text.ofString "checked" := by
  decide

theorem rule_of_recordValue {rule : SheetRule} (ascending : Ascending rule.predicates) :
    ruleOfValue? (recordValue rule) = some rule := by
  obtain ⟨first, second, third⟩ := keys_differ
  rw [recordValue, ruleOfValue?]
  simp only [Value.ofString, lookup_text, ↓reduceIte, if_neg first, if_neg second, if_neg third, Option.bind_some,
    wholeNumbers_ints]
  exact congrArg (fun predicates => some (SheetRule.mk predicates rule.target)) (merged_indices ascending)

theorem entries_set (target checked unchecked : Value) :
    Value.insert (.ofString "unchecked") unchecked
        (Value.insert (.ofString "checked") checked (Value.insert (.ofString "target") target [])) =
      [(.ofString "target", target), (.ofString "checked", checked), (.ofString "unchecked", unchecked)] := by
  obtain ⟨first, second, third⟩ := keys_differ
  simp only [Value.ofString, insert_nil, insert_text, if_neg first.symm, if_neg second.symm, if_neg third.symm]

/-! ## Lines -/

theorem record_parts (rule : SheetRule) : rule.record.toList =
    '\x7b' :: '"' :: ("target".toList ++ '"' :: ':' ::
      ((SheetRule.listText [rule.target.row, rule.target.col]).toList ++
        ',' :: '"' :: ("checked".toList ++ '"' :: ':' ::
        ((SheetRule.listText (SheetRule.indicesOf true rule.predicates)).toList ++
          ',' :: '"' :: ("unchecked".toList ++ '"' :: ':' ::
            ((SheetRule.listText (SheetRule.indicesOf false rule.predicates)).toList ++ ['\x7d'])))))) := by
  have start : "\x7b\"target\":".toList = '\x7b' :: '"' :: ("target".toList ++ ['"', ':']) := by decide
  have middle : ",\"checked\":".toList = ',' :: '"' :: ("checked".toList ++ ['"', ':']) := by decide
  have later : ",\"unchecked\":".toList = ',' :: '"' :: ("unchecked".toList ++ ['"', ':']) := by decide
  have close : "\x7d".toList = ['\x7d'] := by decide
  simp only [SheetRule.record, String.toList_append, start, middle, later, close, List.append_assoc, List.cons_append,
    List.nil_append]

theorem lists_le_record (rule : SheetRule) (asserted : Bool) :
    (SheetRule.indicesOf asserted rule.predicates).length + 5 ≤ rule.record.toList.length := by
  have list := length_le_listText (SheetRule.indicesOf asserted rule.predicates)
  have target : "target".toList.length = 6 := by decide
  rw [record_parts]
  simp only [List.length_cons, List.length_append, target]
  cases asserted <;> omega

theorem parse_record (rule : SheetRule) : Json.parse rule.record = some (recordValue rule) := by
  -- The reader may take one step for each character, which is enough for the numbers of each list.
  have checked := lists_le_record rule true
  have unchecked := lists_le_record rule false
  obtain ⟨fuel, size⟩ : ∃ fuel, rule.record.toList.length = fuel + 3 := ⟨rule.record.toList.length - 3, by omega⟩
  have read : Json.readValue (fuel + 3 + 1) rule.record.toList = some (recordValue rule, []) := by
    rw [record_parts, readValue_brace,
      readEntries_more (List.all_iff_forall_prop.mp (by decide)) (readValue_listText _ (by simp; omega) _),
      readEntries_more (List.all_iff_forall_prop.mp (by decide)) (readValue_listText _ (by omega) _),
      readEntries_last (List.all_iff_forall_prop.mp (by decide)) (readValue_listText _ (by omega) _)]
    exact congrArg (fun entries => some (Value.map entries, [])) (entries_set ..)
  rw [Json.parse, size, read]
  rfl

theorem rule_of_record {rule : SheetRule} (ascending : Ascending rule.predicates) :
    ruleOfLine? rule.record.toList = some rule := by
  rw [ruleOfLine?, String.ofList_toList, parse_record, Option.bind_some, rule_of_recordValue ascending]

theorem joined_chars (numbers : List Int) (c : Char)
    (member : c ∈ (Text.joined "," (numbers.map Decimal.ofInt)).toList) : c.isDigit = true ∨ c = '-' ∨ c = ',' := by
  induction numbers with
  | nil => cases member
  | cons n numbers ih =>
    cases numbers with
    | nil => exact (ofInt_chars n c member).imp_right .inl
    | cons m numbers =>
      rw [joined_cons] at member
      rcases List.mem_append.mp member with number | later
      · exact (ofInt_chars n c number).imp_right .inl
      · rcases List.mem_cons.mp later with comma | rest
        · exact .inr (.inr comma)
        · exact ih rest

theorem listText_noNewline (numbers : List Int) : '\n' ∉ (SheetRule.listText numbers).toList := by
  intro member
  simp only [SheetRule.listText, String.toList_append, List.mem_append] at member
  rcases member with (start | items) | close
  · exact absurd start (by decide)
  · rcases joined_chars numbers _ items with digit | minus | comma
    · exact absurd digit (by decide)
    · exact absurd minus (by decide)
    · exact absurd comma (by decide)
  · exact absurd close (by decide)

theorem record_noNewline (rule : SheetRule) : '\n' ∉ rule.record.toList := by
  rw [record_parts]
  simp [listText_noNewline]

theorem record_notEmpty (rule : SheetRule) : rule.record.toList ≠ [] := by
  rw [record_parts]
  simp

/-- Records are split at newlines into one line for each rule. -/
theorem records_lines (rules : List SheetRule) :
    (linesAfter "" SheetRule.record rules).toList.splitOn '\n' = rules.map (·.record.toList) ++ [[]] := by
  have chars := linesAfter_toList "" SheetRule.record rules
  have noNewline : ∀ line ∈ rules.map (·.record.toList), '\n' ∉ line := by
    intro line member
    obtain ⟨rule, _, rfl⟩ := List.mem_map.mp member
    exact record_noNewline rule
  have lines := splitOn_lines noNewline []
  rw [List.flatMap_map, List.append_nil] at lines
  rw [chars]
  exact lines

theorem rules_of_lines {rules : List SheetRule} (ascending : ∀ rule ∈ rules, Ascending rule.predicates) :
    (rules.map (·.record.toList)).map ruleOfLine? = rules.map some := by
  rw [List.map_map]
  apply List.map_congr_left
  intro rule member
  rw [Function.comp_apply, rule_of_record (ascending rule member)]

theorem filterMap_of_map_some {α β : Type} {f : α → Option β} {xs : List α} {ys : List β}
    (same : xs.map f = ys.map some) : xs.filterMap f = ys := by
  have values := congrArg (List.filterMap id) same
  rwa [List.filterMap_map, List.filterMap_map, Function.id_comp, Function.id_comp, List.filterMap_some] at values

theorem ruleForAssignment_ascending {w : Window} {cells : Assignment} {target : Target} {cols : Int} {rule : SheetRule}
    (found : ruleForAssignment w cells target cols = .ok (.found rule)) : Ascending rule.predicates := by
  unfold ruleForAssignment at found
  split at found
  · cases found
  · split at found
    · rename_i predicates run
      cases found
      exact (predicatesFrom_ascending run).2
    · cases found

/-- A sheet has records exactly if each of its rules can be written. -/
theorem written_records (s : Sheet) : s.written .jsonl =
    if s.rules.all SheetRule.isWritable then .ok s.recordsText else .error (.range .unwritableNumber) := by
  have each : s.ruleNumbers.all Decimal.isWritable = s.rules.all SheetRule.isWritable := List.all_flatMap
  rw [Sheet.written, Sheet.records, Decimal.ifWritable, each]

/-- The records of a sheet with ascending predicates, as every assignment gives them, stand on one line for each rule,
    and every line tells its rule. So the lines of the style sheet can be made from those of the records, and sheets
    with the same records have the same rules. The records are written unless a rule has a number with too many digits;
    then, if the file could be opened at all, it has the lines of the rules before the first one of that kind. -/
theorem records_carry_rules (s : Sheet) (ascending : ∀ rule ∈ s.rules, Ascending rule.predicates) :
    (∀ w cells target cols rule, ruleForAssignment w cells target cols = .ok (.found rule) →
      Ascending rule.predicates) ∧
    ∃ text lines,
      s.written .jsonl =
        (if s.rules.all SheetRule.isWritable then .ok text else .error (.range .unwritableNumber)) ∧
      (∀ (d after : Disk) (outfile : Path), d.writeSheet outfile .jsonl s = (after, .ok ()) →
        after.read outfile = .ok text) ∧
      (∀ (d after : Disk) (outfile : Path) (fault : Fault), d.writeSheet outfile .jsonl s = (after, .error fault) →
        Spares nowhere d after ∨ fault = .range .unwritableNumber ∧ ∃ held front,
          after.read outfile = .ok held ∧ held.toList.splitOn '\n' = front ++ [[]] ∧
          front.map ruleOfLine? = (s.rules.takeWhile SheetRule.isWritable).map some) ∧
      text.toList.splitOn '\n' = lines ++ [[]] ∧ (∀ line ∈ lines, line ≠ []) ∧
      lines.map ruleOfLine? = s.rules.map some ∧
      s.cssText.lines = linesAfter (sheetHeader s.cols s.maxRow) SheetRule.css (lines.filterMap ruleOfLine?) ∧
      ∀ other : Sheet, (∀ rule ∈ other.rules, Ascending rule.predicates) →
        other.written .jsonl = .ok text → other.rules = s.rules := by
  have told := rules_of_lines ascending
  have split : s.recordsText.toList.splitOn '\n' = s.rules.map (·.record.toList) ++ [[]] := records_lines s.rules
  refine ⟨fun _ _ _ _ _ found => ruleForAssignment_ascending found, _, _, written_records s, ?_, ?_, split, ?_, told,
    ?_, ?_⟩
  · intro d after outfile written
    obtain ⟨text, encoded, read⟩ := read_writeSheet written
    rw [read, (Sheet.written_jsonl.mp encoded).2]
  · intro d after outfile fault failed
    refine (writeSheet_error failed).imp_right fun ⟨unwritten, _, located, standing⟩ => ?_
    rw [Sheet.written, Sheet.records, Decimal.ifWritable_error] at unwritten
    have front : ∀ rule ∈ s.rules.takeWhile SheetRule.isWritable, Ascending rule.predicates :=
      fun rule member => ascending rule ((List.takeWhile_prefix _).subset member)
    exact ⟨unwritten.2, _, _, read_of_file located standing, records_lines _, rules_of_lines front⟩
  · intro line member
    obtain ⟨rule, _, rfl⟩ := List.mem_map.mp member
    exact record_notEmpty rule
  · rw [filterMap_of_map_some told, Sheet.cssText]
  · intro other otherAscending same
    have texts := (Sheet.written_jsonl.mp same).2
    have lines := congrArg (fun text : String => text.toList.splitOn '\n') texts
    simp only [Sheet.recordsText, records_lines, List.append_cancel_right_eq] at lines
    have rules := rules_of_lines otherAscending
    rw [lines, told] at rules
    exact (List.map_injective_iff.mpr (Option.some_injective _) rules).symm

/-- Rules with checked inputs between those that are not, with negative numbers, and without predicates. -/
def interleaved : Sheet :=
  { rows := 2
    cols := 3
    maxRow := 2
    rules := [⟨[⟨-1, false⟩, ⟨0, true⟩, ⟨2, false⟩], ⟨1, 0⟩⟩, ⟨[], ⟨-2, 10⟩⟩]
    note := none }

theorem records_carry_rules_interleaved :
    (∀ rule ∈ interleaved.rules, Ascending rule.predicates) ∧
    ∃ text lines, interleaved.written .jsonl = .ok text ∧ text.toList.splitOn '\n' = lines ++ [[]] ∧
      lines.length = 2 ∧ lines.map ruleOfLine? = interleaved.rules.map some := by
  have ascending : ∀ rule ∈ interleaved.rules, Ascending rule.predicates := by
    simp [interleaved, Ascending]
  have few : interleaved.rules.all SheetRule.isWritable = true := by decide +kernel
  obtain ⟨_, text, lines, encoded, _, _, split, _, told, _⟩ := records_carry_rules interleaved ascending
  rw [if_pos few] at encoded
  have count := congrArg List.length told
  rw [List.length_map, List.length_map] at count
  exact ⟨ascending, text, lines, encoded, split, count, told⟩

end TapeSheet.RecordReading
