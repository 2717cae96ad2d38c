import TapeSheet.Proofs.Lockstep

/-!
# Histories of runs

A run keeps the summary and the log in step, also if it is refused, only shows its plan or dies (`run_balanced`), and
so does any number of them (`summary_log_in_step`). It takes files whose paths have a text: a grid with another one is
logged before it is found that the line about it cannot be printed (`unwritable_path_out_of_step`).
-/

namespace TapeSheet.Histories
open TapeSheet.Building TapeSheet.Encoding TapeSheet.Files TapeSheet.Frames TapeSheet.Lockstep TapeSheet.LogReading
  TapeSheet.Phases TapeSheet.Recording TapeSheet.Sessions TapeSheet.SheetReading TapeSheet.TableReading

/-! ## Runs -/

/-- The grids that a run builds. -/
def builtBy (now : Moment) (tokens : List Text) (w : World) : List Built :=
  match admitted? tokens w.disk with
  | none => []
  | some (o, grids) =>
    if o.dryRun then [] else
      match openSummary o (announced grids w) with
      | .ok a opened => (processed (buildGrid now compileSheet o) grids a opened).map (Built.mk now o)
      | .error .. => []

/-- A run has the same results directory and the same log as others, and no file of its grids is the summary or the log
in the end, as far as it builds any. -/
def Joins (allowed : Path → Prop) (results log : Path) (tokens : List Text) (before after : Disk) : Prop :=
  ∀ o grids, AsksBatch tokens before o grids → o.dryRun = false →
    o.resultDirectory = .path results ∧ o.log = .path log ∧ ∀ g ∈ grids,
      Fits allowed after o (destination before (summaryPath results)) (destination before log) g

/-- What a number of runs may lead to from a state with neither summary nor log, with the grids that were built. Between
the runs all other files may change. -/
inductive History (allowed : Path → Prop) (results log : Path) : World → List Built → Prop
  | start {w : World} (noSummary : fileText? w.disk (destination w.disk (summaryPath results)) = none)
      (noLog : fileText? w.disk (destination w.disk log) = none)
      (apart : destination w.disk (summaryPath results) ≠ destination w.disk log) : History allowed results log w []
  | run {w : World} {built : List Built} (earlier : History allowed results log w built) (now : Moment)
      (tokens : List Text)
      (joins : Joins allowed results log tokens w.disk (left (batchCommand now compileSheet tokens w)).disk) :
      History allowed results log (left (batchCommand now compileSheet tokens w)) (built ++ builtBy now tokens w)
  | edit {w other : World} {built : List Built} (earlier : History allowed results log w built)
      (spares : Spares (fun place => place ≠ destination w.disk (summaryPath results) ∧ place ≠ destination w.disk log)
        w.disk other.disk) : History allowed results log other built

section Runs
variable {now : Moment} {tokens : List Text} {results log : Path} {w : World} {built : List Built} {told : List Mention}

theorem run_balanced
    (balanced : Balanced w.disk (destination w.disk (summaryPath results)) (destination w.disk log) built told)
    (apart : destination w.disk (summaryPath results) ≠ destination w.disk log)
    (joins : Joins HasText results log tokens w.disk (left (batchCommand now compileSheet tokens w)).disk) :
    (left (batchCommand now compileSheet tokens w)).disk.here = w.disk.here ∧
    ∃ told, Balanced (left (batchCommand now compileSheet tokens w)).disk (destination w.disk (summaryPath results))
      (destination w.disk log) (built ++ builtBy now tokens w) told := by
  have idle : ∀ after : World, after.disk = w.disk → builtBy now tokens w = [] → after.disk.here = w.disk.here ∧
      ∃ told, Balanced after.disk (destination w.disk (summaryPath results)) (destination w.disk log)
        (built ++ builtBy now tokens w) told := by
    intro after same none
    rw [same, none, List.append_nil]
    exact ⟨rfl, told, balanced⟩
  cases admitted : admitted? tokens w.disk with
  | none =>
    obtain ⟨ending, after, run, kept⟩ := batchCommand_refused now compileSheet admitted
    rw [run]
    exact idle after kept (by rw [builtBy, admitted])
  | some all =>
    obtain ⟨o, grids⟩ := all
    rw [batchCommand_admitted admitted] at joins ⊢
    cases wet : o.dryRun with
    | true =>
      refine idle _ (keeps_showPlan o grids (announced grids w)) ?_
      simp only [builtBy, admitted, wet, if_true]
    | false =>
      obtain ⟨isResults, isLog, fits⟩ := joins o grids (admitted_iff.mp admitted) wet
      rw [wet] at fits
      simp only [Bool.false_eq_true, if_false, buildBatch_eq, bind_apply] at fits ⊢
      have builds : builtBy now tokens w = match openSummary o (announced grids w) with
          | .ok a opened => (processed (buildGrid now compileSheet o) grids a opened).map (Built.mk now o)
          | .error .. => [] := by simp only [builtBy, admitted, wet, Bool.false_eq_true, if_false]
      cases opens : openSummary o (announced grids w) with
      | error ending after =>
        have spares := openSummary_error opens
        rw [builds, opens, List.append_nil]
        exact ⟨spares.here, told, balanced_congr balanced (spares.files _ id) (spares.contents id)⟩
      | ok a opened =>
        rw [opens] at fits
        obtain ⟨isPlace, here, tally⟩ := openSummary_tally opens isResults balanced apart
        have isPlace : a.place = destination w.disk (summaryPath results) := isPlace
        rw [← isPlace] at fits apart
        have follows := touches_buildAll w.disk now compileSheet o grids a opened here
        rw [builds, opens, ← isPlace]
        exact ⟨follows.here.trans here, buildAll_balanced tally here isLog apart fits⟩

theorem history_balanced (history : History HasText results log w built) :
    destination w.disk (summaryPath results) ≠ destination w.disk log ∧
    ∃ told, Balanced w.disk (destination w.disk (summaryPath results)) (destination w.disk log) built told := by
  induction history with
  | start noSummary noLog apart =>
    refine ⟨apart, [], .nil, .inl ⟨noSummary, rfl⟩, ?_⟩
    rw [contents, noLog]
    rfl
  | run earlier now tokens joins ih =>
    obtain ⟨apart, told, balanced⟩ := ih
    obtain ⟨here, balanced⟩ := run_balanced balanced apart joins
    rw [destination_congr here, destination_congr here]
    exact ⟨apart, balanced⟩
  | edit earlier spares ih =>
    obtain ⟨apart, told, balanced⟩ := ih
    rw [destination_spares spares, destination_spares spares]
    refine ⟨apart, told, balanced_congr balanced (spares.files _ ?_) (spares.contents ?_)⟩
    · exact fun other => other.1 rfl
    · exact fun other => other.2 rfl

end Runs

/-! ## What a run adds -/

/-- What a run adds to the grids that were built: all of its batch if it ends by itself, those before the one that it is
cut short at, and none if nothing is to be built or the summary cannot be opened. -/
inductive Adds (now : Moment) (tokens : List Text) (w : World) : List Built → Prop
  | nothing (idle : ∀ o grids, AsksBatch tokens w.disk o grids → o.dryRun = true) : Adds now tokens w []
  | unopened {o : BatchOptions} {grids : List Grid} {ending : Ending} {after : World}
      (asks : AsksBatch tokens w.disk o grids) (wet : o.dryRun = false)
      (cut : batchCommand now compileSheet tokens w = .error ending after)
      (failed : openSummary o (announced grids w) = .error ending after) : Adds now tokens w []
  | before {o : BatchOptions} {built later : List Grid} {g : Grid} {ending : Ending} {start between after : World}
      (asks : AsksBatch tokens w.disk o (built ++ g :: later)) (wet : o.dryRun = false)
      (cut : batchCommand now compileSheet tokens w = .error ending after)
      (failed : buildGrid now compileSheet o g start = .error ending between) :
      Adds now tokens w (built.map (Built.mk now o))
  | all {o : BatchOptions} {grids : List Grid} {after : World} (asks : AsksBatch tokens w.disk o grids)
      (wet : o.dryRun = false) (done : batchCommand now compileSheet tokens w = .ok () after) :
      Adds now tokens w (grids.map (Built.mk now o))

section Adding
variable {build : Grid → Session String} {grids : List Grid} {a : Appender} {w after : World}

theorem processed_ok (done : buildAll build grids a w = .ok () after) : processed build grids a w = grids := by
  induction grids generalizing a w with
  | nil => rfl
  | cons g rest ih =>
    cases run : build g w with
    | ok record between =>
      rw [buildAll_more run] at done
      rw [processed, run]
      exact congrArg (g :: ·) (ih done)
    | error ending between =>
      rw [buildAll_cut run] at done
      cases done

theorem processed_error {ending : Ending} (cut : buildAll build grids a w = .error ending after) :
    ∃ g later start between, grids = processed build grids a w ++ g :: later ∧
      build g start = .error ending between := by
  induction grids generalizing a w with
  | nil => cases cut
  | cons g rest ih =>
    cases run : build g w with
    | ok record between =>
      rw [buildAll_more run] at cut
      obtain ⟨failed, later, start, last, split, failure⟩ := ih cut
      rw [processed, run]
      exact ⟨failed, later, start, last, congrArg (g :: ·) split, failure⟩
    | error own between =>
      rw [buildAll_cut run] at cut
      cases cut
      rw [processed, run]
      exact ⟨g, rest, w, between, rfl, run⟩

theorem adds_builtBy (now : Moment) (tokens : List Text) (w : World) : Adds now tokens w (builtBy now tokens w) := by
  unfold builtBy
  cases admitted : admitted? tokens w.disk with
  | none =>
    refine .nothing fun o grids asks => ?_
    cases admitted.symm.trans (admitted_iff.mpr asks)
  | some all =>
    obtain ⟨o, grids⟩ := all
    have asks := admitted_iff.mp admitted
    simp only
    cases wet : o.dryRun with
    | true =>
      rw [if_pos rfl]
      refine .nothing fun other others isOther => ?_
      cases admitted.symm.trans (admitted_iff.mpr isOther)
      exact wet
    | false =>
      have command : batchCommand now compileSheet tokens w = buildBatch now compileSheet o grids (announced grids w) := by
        rw [batchCommand_admitted admitted, wet]
        rfl
      rw [if_neg Bool.false_ne_true]
      rw [buildBatch_eq, bind_apply] at command
      cases opens : openSummary o (announced grids w) with
      | error ending after =>
        rw [opens] at command
        exact .unopened asks wet command opens
      | ok a opened =>
        rw [opens] at command
        simp only at command ⊢
        cases run : buildAll (buildGrid now compileSheet o) grids a opened with
        | ok _ after =>
          rw [processed_ok run]
          exact .all asks wet (command.trans run)
        | error ending after =>
          obtain ⟨g, later, start, between, split, failed⟩ := processed_error run
          rw [split] at asks
          exact .before asks wet (command.trans run) failed

end Adding

/-! ## Histories -/

/-- A place has no file, or one with a table of records behind a header that does not come again. -/
def HoldsTable (d : Disk) (place : Location) (rows : List (List Text)) : Prop :=
  fileText? d place = none ∧ rows = [] ∨
    ∃ text, fileText? d place = some text ∧ readTable text = Summary.header :: rows ∧ Summary.header ∉ rows

/-- A place has no file, or one with a value on each line. -/
def HoldsLog (d : Disk) (place : Location) (values : List Value) : Prop :=
  fileText? d place = none ∧ values = [] ∨ ∃ text, fileText? d place = some text ∧ logValues? text = some values

/-- The records of a summary and the values of a log tell of the same grids, in the order in which they were built. -/
def InStep (d : Disk) (summary log : Location) (built : List Built) : Prop :=
  ∃ told : List (List Text × Value), List.Forall₂ (fun b pair => Tells b pair.1 pair.2) built told ∧
    HoldsTable d summary (told.map (·.1)) ∧ HoldsLog d log (told.map (·.2))

section Histories
variable {d : Disk} {summary log : Location} {built : List Built} {told : List Mention}

theorem row_length {b : Built} {e : Mention} (isMention : e.Of b) : 2 ≤ e.row.length := by
  obtain ⟨_, _, _, _, _, ⟨_, _, _, _, _, _, row⟩, _⟩ := isMention.tells
  rw [row, fieldsOf]
  exact (by decide : 2 ≤ 8)

theorem row_notHeader {b : Built} {e : Mention} (isMention : e.Of b) : Summary.header ≠ e.row := by
  obtain ⟨_, _, _, _, _, ⟨_, _, _, _, _, _, row⟩, _⟩ := isMention.tells
  intro same
  rw [row] at same
  -- A date has a blank.
  have first : "date_utc".toList = b.now.spaced.toList := by
    have heads := congrArg (fun row : List Text => (row.head?.map fun t => charsOf t.letters)) same
    simpa [Summary.header, fieldsOf, ValueReading.ofString_chars] using heads
  have blank : ' ' ∈ b.now.spaced.toList := by simp [Moment.spaced]
  rw [← first] at blank
  revert blank
  decide

theorem mention_of_mem (tells : List.Forall₂ Mention.Of built told) {e : Mention} (member : e ∈ told) :
    ∃ b : Built, e.Of b := by
  induction tells with
  | nil => cases member
  | @cons b first _ _ own _ ih =>
    rcases List.mem_cons.mp member with rfl | later
    · exact ⟨b, own⟩
    · exact ih later

theorem table_read (tells : List.Forall₂ Mention.Of built told) {text : String}
    (chars : text.toList = tableChars told) : readTable text = Summary.header :: told.map (·.row) := by
  refine readTable_records ?_ ?_ chars
  · refine List.forall_mem_cons.mpr ⟨by decide, fun row member => ?_⟩
    obtain ⟨e, inside, rfl⟩ := List.mem_map.mp member
    obtain ⟨b, isMention⟩ := mention_of_mem tells inside
    exact row_length isMention
  · refine List.forall_mem_cons.mpr ⟨fun t member => ?_, fun row member => ?_⟩
    · simp only [Summary.header, List.mem_cons, List.not_mem_nil, or_false] at member
      rcases member with rfl | rfl | rfl | rfl | rfl | rfl | rfl | rfl <;> exact whole_ofString _
    · obtain ⟨e, inside, rfl⟩ := List.mem_map.mp member
      obtain ⟨b, isMention⟩ := mention_of_mem tells inside
      exact isMention.whole

theorem log_read (tells : List.Forall₂ Mention.Of built told) {text : String} (chars : text.toList = logChars told) :
    logValues? text = some (told.map (·.value)) := by
  have read := @logValues_lines (told.map fun e => (e.line, e.value)) ?_ ?_ text ?_
  · rwa [List.map_map] at read
  · intro line member
    obtain ⟨e, inside, rfl⟩ := List.mem_map.mp member
    obtain ⟨b, isMention⟩ := mention_of_mem tells inside
    exact isMention.oneLine
  · intro line member
    obtain ⟨e, inside, rfl⟩ := List.mem_map.mp member
    obtain ⟨b, isMention⟩ := mention_of_mem tells inside
    exact isMention.parsed
  · rw [List.flatMap_map]
    exact chars

theorem inStep_of_balanced (balanced : Balanced d summary log built told) : InStep d summary log built := by
  refine ⟨told.map fun e => (e.row, e.value), ?_, ?_, ?_⟩
  · rw [List.forall₂_map_right_iff]
    exact balanced.tells.imp fun _ _ isMention => isMention.tells
  · rw [List.map_map]
    obtain ⟨absent, rfl⟩ | ⟨text, standing, chars⟩ := balanced.table
    · exact .inl ⟨absent, rfl⟩
    · refine .inr ⟨text, standing, table_read balanced.tells chars, fun again => ?_⟩
      obtain ⟨e, inside, same⟩ := List.mem_map.mp again
      obtain ⟨b, isMention⟩ := mention_of_mem balanced.tells inside
      exact row_notHeader isMention same.symm
  · rw [List.map_map]
    have chars := balanced.log
    cases standing : fileText? d log with
    | none =>
      rw [contents, standing] at chars
      cases told with
      | nil => exact .inl ⟨standing, rfl⟩
      | cons e told => simp [logChars] at chars
    | some text =>
      rw [contents, standing] at chars
      exact .inr ⟨text, standing, log_read balanced.tells chars⟩

end Histories

/-- After any number of runs with one results directory and one log, that were there for none of them at first, the
summary and the log tell of the same grids in the same order, which are those that the runs built, if the paths of all
files have a text. A run adds the grids of its batch up to the one that it is cut short at. -/
theorem summary_log_in_step {results log : Path} {w : World} {built : List Built}
    (history : History HasText results log w built) :
    InStep w.disk (destination w.disk (summaryPath results)) (destination w.disk log) built ∧
    ∀ now tokens, Adds now tokens w (builtBy now tokens w) := by
  obtain ⟨_, told, balanced⟩ := history_balanced history
  exact ⟨inStep_of_balanced balanced, fun now tokens => adds_builtBy now tokens w⟩

/-! ## Checks -/

instance (outfile : Path) : Decidable (HasText outfile) :=
  inferInstanceAs (Decidable (∀ l ∈ outfile.text.letters, l.isHalf = false))

/-- A check that the file of a grid fits. -/
def fits? (allowed : Path → Prop) [DecidablePred allowed] (last : Disk) (o : BatchOptions) (summary log : Location)
    (g : Grid) : Bool :=
  match o.target g with
  | .ok outfile =>
    decide (allowed outfile) && (last.locate outfile).toOption ≠ some summary && (last.locate outfile).toOption ≠ some log
  | .error _ => true

/-- A check that a run joins others. -/
def joins? (allowed : Path → Prop) [DecidablePred allowed] (results log : Path) (tokens : List Text)
    (before after : Disk) : Bool :=
  (admitted? tokens before).all fun all => all.1.dryRun ||
    (all.1.resultDirectory.path? = some results && all.1.log.path? = some log &&
      all.2.all (fits? allowed after all.1 (destination before (summaryPath results)) (destination before log)))

section Checks
variable {allowed : Path → Prop} [DecidablePred allowed] {results log p : Path} {tokens : List Text}

theorem fits_of_check {last : Disk} {o : BatchOptions} {summary place : Location} {g : Grid}
    (checked : fits? allowed last o summary place g = true) : Fits allowed last o summary place g := by
  intro outfile target
  unfold fits? at checked
  rw [target] at checked
  simp only [Bool.and_eq_true, decide_eq_true_eq] at checked
  refine ⟨checked.1.1, fun same => checked.1.2 ?_, fun same => checked.2 ?_⟩
  · rw [same]
    rfl
  · rw [same]
    rfl

theorem path_of_asked {place : CommandLine.Place} (asked : place.path? = some p) : place = .path p := by
  cases place with
  | path _ =>
    cases asked
    rfl
  | nowhere => cases asked

theorem joins_of_check {before after : Disk} (checked : joins? allowed results log tokens before after = true) :
    Joins allowed results log tokens before after := by
  intro o grids asks wet
  unfold joins? at checked
  rw [admitted_iff.mpr asks, Option.all_some, wet] at checked
  simp only [Bool.false_or, Bool.and_eq_true, decide_eq_true_eq, List.all_eq_true] at checked
  obtain ⟨⟨isResults, isLog⟩, each⟩ := checked
  exact ⟨path_of_asked isResults, path_of_asked isLog, fun g member => fits_of_check (each g member)⟩

/-- The world that a run leaves. -/
def ran (tokens : List Text) (w : World) : World := left (batchCommand newYear compileSheet tokens w)

theorem history_of_two {w : World} {first second : List Text} (start : History allowed results log w [])
    (one : joins? allowed results log first w.disk (ran first w).disk = true)
    (two : joins? allowed results log second (ran first w).disk (ran second (ran first w)).disk = true) :
    History allowed results log (ran second (ran first w))
      (builtBy newYear first w ++ builtBy newYear second (ran first w)) :=
  (start.run newYear first (joins_of_check one)).run newYear second (joins_of_check two)

end Checks

/-- The options for a batch in a document. -/
def batchOf (name : String) : List Text := ["--config", Text.ofString name]

/-- Two documents with batches. The second grid of the first one has a name that no log takes. -/
def twoBatches : World :=
  ⟨⟨[(["a.yaml"], .file "grids: [\x7brows: 1, cols: 1, name: a\x7d, \x7brows: 1, cols: 1, name: 2001-01-01\x7d]\n"),
      (["b.yaml"], .file "grids: [\x7brows: 1, cols: 2, name: 'b,c'\x7d]\n")], []⟩, "", ""⟩

/-- The first run dies at its second grid, and the second run builds its only one. -/
theorem summary_log_in_step_two :
    ∃ w built, History HasText (.ofText "results") (.ofText "logs/compile.log") w built ∧ built.length = 2 ∧
      InStep w.disk (destination w.disk (summaryPath (.ofText "results"))) (destination w.disk (.ofText "logs/compile.log"))
        built := by
  have start : History HasText (.ofText "results") (.ofText "logs/compile.log") twoBatches [] :=
    .start (by decide) (by decide) (by decide)
  have both : (joins? HasText (.ofText "results") (.ofText "logs/compile.log") (batchOf "a.yaml") twoBatches.disk
        (ran (batchOf "a.yaml") twoBatches).disk &&
      joins? HasText (.ofText "results") (.ofText "logs/compile.log") (batchOf "b.yaml")
        (ran (batchOf "a.yaml") twoBatches).disk (ran (batchOf "b.yaml") (ran (batchOf "a.yaml") twoBatches)).disk &&
      (builtBy newYear (batchOf "a.yaml") twoBatches ++
        builtBy newYear (batchOf "b.yaml") (ran (batchOf "a.yaml") twoBatches)).length == 2) = true := by
    decide +kernel
  simp only [Bool.and_eq_true, beq_iff_eq] at both
  obtain ⟨⟨first, second⟩, count⟩ := both
  have history := history_of_two start first second
  exact ⟨_, _, history, count, (summary_log_in_step history).1⟩

/-- A batch with a grid whose file has a path without a text. -/
def unwritablePath : World :=
  worldWith "grids.yaml" "grids: [\x7brows: 1, cols: 1, name: z, outfile: \"\\udc80.css\"\x7d]\n"

/-- A check that a summary has no records where a log has one line. -/
def outOfStep (d : Disk) (summary log : Location) : Bool :=
  match fileText? d summary, fileText? d log with
  | some table, some lines => readTable table = [Summary.header] && (logValues? lines).map List.length = some 1
  | _, _ => false

theorem not_inStep {d : Disk} {summary log : Location} (checked : outOfStep d summary log = true)
    (built : List Built) : ¬ InStep d summary log built := by
  rintro ⟨told, _, table, lines⟩
  unfold outOfStep at checked
  split at checked
  · rename_i text more isTable isLog
    simp only [Bool.and_eq_true, decide_eq_true_eq] at checked
    obtain ⟨onlyHeader, one⟩ := checked
    obtain ⟨absent, _⟩ | ⟨_, standing, reads, _⟩ := table
    · cases absent.symm.trans isTable
    obtain rfl := Option.some.inj (isTable.symm.trans standing)
    have nothing := List.map_eq_nil_iff.mp (List.cons.inj (onlyHeader.symm.trans reads)).2.symm
    obtain ⟨absent, _⟩ | ⟨_, standing, values⟩ := lines
    · cases absent.symm.trans isLog
    obtain rfl := Option.some.inj (isLog.symm.trans standing)
    rw [values, nothing] at one
    cases one
  · cases checked

/-- Without a text for the path of its file a grid is logged, and then the run dies when it prints the line about it, in
front of its record. -/
theorem unwritable_path_out_of_step :
    ∃ w built, History (fun _ => True) (.ofText "results") (.ofText "logs/compile.log") w built ∧
      ∀ others, ¬ InStep w.disk (destination w.disk (summaryPath (.ofText "results")))
        (destination w.disk (.ofText "logs/compile.log")) others := by
  have start : History (fun _ => True) (.ofText "results") (.ofText "logs/compile.log") unwritablePath [] :=
    .start (by decide) (by decide) (by decide)
  have run : (joins? (fun _ => True) (.ofText "results") (.ofText "logs/compile.log") [] unwritablePath.disk
        (ran [] unwritablePath).disk &&
      outOfStep (ran [] unwritablePath).disk
        (destination (ran [] unwritablePath).disk (summaryPath (.ofText "results")))
        (destination (ran [] unwritablePath).disk (.ofText "logs/compile.log"))) = true := by
    decide +kernel
  rw [Bool.and_eq_true] at run
  exact ⟨ran [] unwritablePath, _, start.run newYear [] (joins_of_check run.1), not_inStep run.2⟩

end TapeSheet.Histories
