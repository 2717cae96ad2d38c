import TapeSheet.Proofs.CompileRun
import TapeSheet.Proofs.JsonReading

/-!
# Two checks of sizes

The sizes of a grid are checked when it is described and again when it is compiled. Both checks take the same values,
and of the others they refuse the same one first (`refused_or_sized`). What the second one does not foresee is a note
about a row with too many digits, so a grid is compiled exactly if it has no such note (`compiles_iff`).
-/

namespace TapeSheet.Validation
open TapeSheet.Compilation TapeSheet.CompileRun TapeSheet.JsonReading TapeSheet.Names TapeSheet.Phases TapeSheet.Sessions

/-! ## Sizes -/

/-- The description of a grid of given sizes. -/
def sized (rows cols cap : Value) : GridDraft := { GridDraft.default with rows, cols, cap }

/-- Two refusals for the same value. Both are faults of the configuration, unless what keeps the value from being shown
takes their place. -/
def RefusedAlike (fault other : Fault) : Prop :=
  ∃ v, fault.shownValues = [v] ∧ other.shownValues = [v] ∧
    match v.hindrance? Value.nestingLimit with
    | none => (∃ cause, fault.reported = .config cause) ∧ ∃ cause, other.reported = .config cause
    | some hindrance => fault.reported = .ofHindrance hindrance ∧ other.reported = .ofHindrance hindrance

theorem refusedAlike_of_config {cause other : ConfigFault} {v : Value} (shown : (Fault.config cause).shownValues = [v])
    (shown' : (Fault.config other).shownValues = [v]) : RefusedAlike (.config cause) (.config other) := by
  have first : Value.firstHindrance? Value.nestingLimit [v] = v.hindrance? Value.nestingLimit := by
    simp [Value.firstHindrance?]
  refine ⟨v, shown, shown', ?_⟩
  unfold Fault.reported
  rw [shown, shown', first]
  cases v.hindrance? Value.nestingLimit with
  | none => exact ⟨⟨cause, rfl⟩, ⟨other, rfl⟩⟩
  | some hindrance => exact ⟨rfl, rfl⟩

/-- Neither check takes a value as a size. -/
def NoSize (v : Value) : Prop := ∀ key, GridDraft.size key v = .error (.config (.notPositiveInteger key v)) ∧
  ∃ cause, positive key v = .error (.config cause) ∧ (Fault.config cause).shownValues = [v]

/-- A value is a positive whole number, or neither check takes it. -/
theorem size_or_not (v : Value) : (∃ n : Nat, 1 ≤ n ∧ v = .int n) ∨ NoSize v := by
  cases v with
  | int n =>
    by_cases some : 1 ≤ n
    · exact .inl ⟨n.toNat, by omega, by rw [Int.toNat_of_nonneg (by omega)]⟩
    · refine .inr fun key => ⟨?_, .notPositive key n, if_pos (by omega), rfl⟩
      unfold GridDraft.size
      split
      · rename_i m same
        cases same
        exact dif_neg fun positive => some (Int.ofNat_le.mpr positive)
      · rfl
  | _ => exact .inr fun key => ⟨rfl, _, rfl, rfl⟩

theorem alike_of_noSize {v : Value} (wrong : NoSize v) (key : String) :
    ∃ fault other, GridDraft.size key v = .error fault ∧ positive key v = .error other ∧ RefusedAlike fault other := by
  obtain ⟨size, cause, refused, shown⟩ := wrong key
  exact ⟨_, _, size, refused, refusedAlike_of_config rfl shown⟩

theorem size_int (key : String) {n : Nat} (some : 1 ≤ n) : GridDraft.size key (.int n) = .ok ⟨n, some⟩ := dif_pos some

theorem formatOf_default : GridDraft.formatOf GridDraft.default.format = .ok .css := by
  have itself : (GridDraft.default.format == .ofString SheetFormat.css.name) = true := by
    change Value.same (.text _) (.text _) = true
    rw [Value.same, beq_self_eq_true]
  exact if_pos itself

theorem check_sized {rows cols cap : Nat} (someRows : 1 ≤ rows) (someCols : 1 ≤ cols) (someCap : 1 ≤ cap)
    (capBound : cap ≤ maxCompiledRow) :
    ∃ g, (sized (.int rows) (.int cols) (.int cap)).check = .ok g ∧ g.rows = rows ∧ g.cols = cols ∧ g.cap = cap := by
  unfold GridDraft.check
  simp only [sized]
  rw [size_int "rows" someRows, size_int "cols" someCols, size_int "cap" someCap]
  simp only [bind, Except.bind]
  rw [dif_pos capBound, formatOf_default]
  exact ⟨_, rfl, rfl, rfl, rfl⟩

/-- Both checks go through the sizes in one order, so they refuse alike or there are sizes that both take. -/
theorem refused_or_sized (rows cols cap : Value) :
    (∃ fault other, (sized rows cols cap).check = .error fault ∧ compiled rows cols cap = .error other ∧
      RefusedAlike fault other) ∨
    ∃ r c k : Nat, rows = .int r ∧ cols = .int c ∧ cap = .int k ∧ 1 ≤ r ∧ 1 ≤ c ∧ 1 ≤ k ∧ k ≤ maxCompiledRow := by
  unfold compiled compileSheet GridDraft.check
  simp only [sized]
  obtain ⟨r, someRows, rfl⟩ | wrong := size_or_not rows
  swap
  · obtain ⟨fault, other, size, refused, alike⟩ := alike_of_noSize wrong "rows"
    rw [size, refused]
    exact .inl ⟨fault, other, rfl, rfl, alike⟩
  rw [size_int "rows" someRows, positive_int "rows" someRows]
  obtain ⟨c, someCols, rfl⟩ | wrong := size_or_not cols
  swap
  · obtain ⟨fault, other, size, refused, alike⟩ := alike_of_noSize wrong "cols"
    rw [size, refused]
    exact .inl ⟨fault, other, rfl, rfl, alike⟩
  rw [size_int "cols" someCols, positive_int "cols" someCols]
  obtain ⟨k, someCap, rfl⟩ | wrong := size_or_not cap
  swap
  · obtain ⟨fault, other, size, refused, alike⟩ := alike_of_noSize wrong "cap"
    rw [size, refused]
    exact .inl ⟨fault, other, rfl, rfl, alike⟩
  rw [size_int "cap" someCap, positive_int "cap" someCap]
  by_cases capBound : k ≤ maxCompiledRow
  · exact .inr ⟨r, c, k, rfl, rfl, rfl, someRows, someCols, someCap, capBound⟩
  · simp only [bind, Except.bind]
    rw [dif_neg capBound, if_pos (by omega)]
    exact .inl ⟨_, _, rfl, rfl, refusedAlike_of_config (v := .int k) rfl rfl⟩

/-! ## Grids -/

/-- The note about the rows that a grid leaves out can be written, as far as there is one. -/
def NoteFits (g : Grid) : Prop := g.cap < g.rows → Decimal.isWritable g.rows = true

instance (g : Grid) : Decidable (NoteFits g) :=
  inferInstanceAs (Decidable (g.cap < g.rows → Decimal.isWritable g.rows = true))

/-- A grid that a configuration gives: a value, a document with one grid or with several, or a document with options. -/
inductive Configured : Grid → Prop
  | value {raw : Value} {g : Grid} (given : Grid.ofValue raw = .ok g) : Configured g
  | single {d : Disk} {path : Path} {g : Grid} (loaded : Grid.load d path = .ok g) : Configured g
  | member {d : Disk} {path : Path} {grids : List Grid} {g : Grid} (loaded : Grid.loadList d path = .ok grids)
      (inside : g ∈ grids) : Configured g
  | resolved {o : CompileOptions} {d : Disk} {g : Grid} (given : o.resolve d = .ok g) : Configured g

/-- What is done for a grid of a batch once its sheet is compiled. -/
def finishGrid (now : Moment) (o : BatchOptions) (g : Grid) (s : Sheet) : Session String := do
  let outfile ← Session.orDie (o.target g)
  Session.onDisk fun d => d.writeSheet outfile g.format s
  addToLog now o.log g.name s
  recordGrid now o g s outfile

section Grids
variable {now : Moment} {o : BatchOptions} {g : Grid} {s : Sheet}

/-- A grid is compiled exactly if its note can be written; otherwise that is the fault. -/
theorem compiles_iff (g : Grid) :
    (NoteFits g → compiled (.int g.rows) (.int g.cols) (.int g.cap) = .ok (sheetOf g.rows g.cols g.cap)) ∧
    (¬ NoteFits g → compiled (.int g.rows) (.int g.cols) (.int g.cap) = .error (.range .unwritableNumber)) := by
  rw [compiled_eq g.rows_pos g.cols_pos g.cap_pos g.cap_le]
  unfold NoteFits
  by_cases deep : g.cap < g.rows <;> cases Decimal.isWritable g.rows <;> simp [deep]

theorem buildGrid_compiled (made : compileSheet (.int g.rows) (.int g.cols) (.int g.cap) = .ok s)
    (noted : s.checkNote = .ok s) : buildGrid now compileSheet o g = finishGrid now o g s := by
  rw [buildGrid_eq, writeGrid, made]
  have start : ∀ sheet : Sheet, Session.orDie (.ok sheet) = pure sheet := fun _ => rfl
  simp only [bind_assoc, start, pure_bind, noted]
  rfl

/-- A grid whose note cannot be written ends the batch before anything of it is written. -/
theorem buildGrid_uncompiled (unfit : ¬ NoteFits g) (w : World) :
    buildGrid now compileSheet o g w = .error (.died (.range .unwritableNumber)) w := by
  have sheet := compileSheet_eq g.rows_pos g.cols_pos g.cap_pos g.cap_le
  have note := (compiles_iff g).2 unfit
  rw [compiled, sheet, Except.bind] at note
  rw [buildGrid_eq, bind_apply, writeGrid, bind_apply, sheet, orDie_ok]
  simp only
  rw [bind_apply, note]
  rfl

end Grids

/-- The two checks of sizes agree on all values. They refuse the same value, and alike; sizes that the first one takes
are compiled, unless the grid is cut and its last row has too many digits for the note. So no grid of a configuration
that has no such note keeps a batch from going on. -/
theorem validators_agree :
    (∀ rows cols cap : Value,
      (∀ fault, (sized rows cols cap).check = .error fault →
        ∃ other, compiled rows cols cap = .error other ∧ RefusedAlike fault other) ∧
      ∀ g, (sized rows cols cap).check = .ok g → rows = .int g.rows ∧ cols = .int g.cols ∧ cap = .int g.cap ∧
        (NoteFits g → ∃ s, compiled rows cols cap = .ok s) ∧
        (¬ NoteFits g → compiled rows cols cap = .error (.range .unwritableNumber))) ∧
    ∀ g, Configured g → NoteFits g → ∃ s, g.compile = .ok s ∧
      ∀ now o, buildGrid now compileSheet o g = finishGrid now o g s := by
  refine ⟨fun rows cols cap => ?_, fun g _ fits => ?_⟩
  · obtain ⟨fault, other, refused, uncompiled, alike⟩ |
      ⟨r, c, k, rfl, rfl, rfl, someRows, someCols, someCap, capBound⟩ :=
      refused_or_sized rows cols cap
    · rw [refused]
      refine ⟨fun own same => ?_, fun _ taken => nomatch taken⟩
      cases same
      exact ⟨other, uncompiled, alike⟩
    · obtain ⟨own, taken, rfl, rfl, rfl⟩ := check_sized someRows someCols someCap capBound
      rw [taken]
      refine ⟨fun _ refused => (nomatch refused), fun g same => ?_⟩
      cases same
      obtain ⟨fit, unfit⟩ := compiles_iff own
      exact ⟨rfl, rfl, rfl, fun fits => ⟨_, fit fits⟩, unfit⟩
  · have made := compileSheet_eq g.rows_pos g.cols_pos g.cap_pos g.cap_le
    have noted := (compiles_iff g).1 fits
    exact ⟨_, noted, fun now o => buildGrid_compiled made (compile_parts.mp noted).2⟩

/-! ## Two grids -/

/-- A mapping with the sizes of a grid. -/
def sizes (rows cols cap : Value) : Value :=
  .map [(.ofString "rows", rows), (.ofString "cols", cols), (.ofString "cap", cap)]

theorem ofEntries_sizes (rows cols cap : Value) :
    GridDraft.ofEntries [(.ofString "rows", rows), (.ofString "cols", cols), (.ofString "cap", cap)] =
      .ok (sized rows cols cap) := by
  have known : GridDraft.unknownKeys [(.ofString "rows", rows), (.ofString "cols", cols), (.ofString "cap", cap)] =
      [] := by
    simp only [GridDraft.unknownKeys, GridDraft.isKey, List.map_cons, List.map_nil]
    decide +kernel
  unfold GridDraft.ofEntries
  rw [known]
  simp only [Value.ofString, lookup_text]
  rfl

theorem ofValue_sizes (rows cols cap : Value) : Grid.ofValue (sizes rows cols cap) = (sized rows cols cap).check := by
  unfold Grid.ofValue sizes
  simp only
  rw [ofEntries_sizes]

/-- A grid of two rows that is cut behind the first one is compiled, and a truth value is no size for either check. -/
theorem validators_agree_cut :
    (∃ g, Configured g ∧ NoteFits g ∧ g.cap < g.rows ∧ ∃ s, g.compile = .ok s ∧
      ∀ now o, buildGrid now compileSheet o g = finishGrid now o g s) ∧
    ∃ fault other, (sized (.int 1) (.bool true) (.int 1)).check = .error fault ∧
      compiled (.int 1) (.bool true) (.int 1) = .error other ∧ RefusedAlike fault other := by
  obtain ⟨g, taken, isRows, _, isCap⟩ := @check_sized 2 1 1 (by decide) (by decide) (by decide) (by decide)
  have configured : Configured g :=
    .value ((ofValue_sizes (.int (2 : Nat)) (.int (1 : Nat)) (.int (1 : Nat))).trans taken)
  have fits : NoteFits g := by
    intro _
    rw [isRows]
    decide +kernel
  obtain ⟨other, uncompiled, alike⟩ := (validators_agree.1 (.int 1) (.bool true) (.int 1)).1 _ rfl
  exact ⟨⟨g, configured, fits, by omega, validators_agree.2 g configured fits⟩, _, other, rfl, uncompiled, alike⟩

theorem reported_of_digits {fault : Fault} {n : Int} (shown : fault.shownValues = [.int n])
    (many : Decimal.isWritable n = false) : fault.reported = .range .unwritableNumber := by
  have numbers : fault.shownValues = [n].map .int := shown
  rw [Fault.reported_ints numbers]
  simp [many]

/-- A grid whose last row has too many digits is described without a fault, but it is not compiled and ends a batch; and
no fault of the configuration is reported for a negative number of rows with too many digits. -/
theorem too_many_digits_end_batch :
    (∃ g, Configured g ∧ (sized (.int Decimal.unwritable) (.int 1) (.int 1)).check = .ok g ∧
      compiled (.int Decimal.unwritable) (.int 1) (.int 1) = .error (.range .unwritableNumber) ∧
      ∀ now o w, buildGrid now compileSheet o g w = .error (.died (.range .unwritableNumber)) w) ∧
    ∃ fault other, (sized (.int (-Decimal.unwritable)) (.int 1) (.int 1)).check = .error fault ∧
      compiled (.int (-Decimal.unwritable)) (.int 1) (.int 1) = .error other ∧
      fault.reported = .range .unwritableNumber ∧ other.reported = .range .unwritableNumber := by
  have many : 2 ≤ Decimal.unwritable := by decide +kernel
  constructor
  · obtain ⟨g, taken, isRows, isCols, isCap⟩ := @check_sized Decimal.unwritable 1 1 (by omega) (by decide)
      (by decide) (by decide)
    have unfit : ¬ NoteFits g := by
      intro fits
      have writable := fits (by omega)
      rw [isRows, isWritable_unwritable] at writable
      cases writable
    have uncompiled := (compiles_iff g).2 unfit
    rw [isRows, isCols, isCap] at uncompiled
    exact ⟨g, .value ((ofValue_sizes _ _ _).trans taken), taken, uncompiled,
      fun now o w => buildGrid_uncompiled unfit w⟩
  · have negative : Decimal.isWritable (-Decimal.unwritable) = false := by rw [isWritable_neg, isWritable_unwritable]
    obtain ⟨n, _, same⟩ | wrong := size_or_not (.int (-Decimal.unwritable))
    · have := Value.int.inj same
      omega
    obtain ⟨size, cause, refused, shown⟩ := wrong "rows"
    refine ⟨.config (.notPositiveInteger "rows" (.int (-Decimal.unwritable))), .config cause, ?_, ?_,
      reported_of_digits rfl negative, reported_of_digits shown negative⟩
    · unfold GridDraft.check
      simp only [sized]
      rw [size]
      rfl
    · unfold compiled compileSheet
      rw [refused]
      rfl

end TapeSheet.Validation
