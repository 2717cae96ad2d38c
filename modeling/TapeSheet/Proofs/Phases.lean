import TapeSheet.Command.Batch
import TapeSheet.Proofs.Files
import TapeSheet.Proofs.Sessions

/-!
# Phases of the programs

The two programs that write files first settle what is to be done, which touches no file (`compileCommand_refused`,
`batchCommand_refused`), and then do it, which ends by itself or by a fault. The second phase of each is a program of its
own here: `writeAndLog` for one grid; `openSummary` and then `buildAll` for a batch.
-/

namespace TapeSheet.Phases
open TapeSheet.Encoding TapeSheet.Files TapeSheet.Sessions

/-! ## One grid -/

/-- What is settled before the sheet of one grid is written: options, grid, place and sheet. -/
def settled? (tokens : List Text) (d : Disk) : Option (CompileOptions × Grid × CommandLine.Place × Sheet) :=
  match CommandLine.parse CompileOptions.known tokens with
  | .error _ => none
  | .ok given =>
    match (CompileOptions.ofGiven given).resolveWithTarget d with
    | .error _ => none
    | .ok (g, place) =>
      match g.compile with
      | .error _ => none
      | .ok s => some (.ofGiven given, g, place, s)

/-- Adds a compilation to the log that is asked for. -/
def addToLog (now : Moment) (log : CommandLine.Place) (name : Value) (s : Sheet) : Session Unit := do
  let log ← Session.orDie (log.asked "parent")
  Session.onDisk fun d => d.logCompilation log now name s

/-- Logs the sheet of one grid if that is asked for. -/
def logAsked (now : Moment) (o : CompileOptions) (g : Grid) (s : Sheet) : Session Unit :=
  if o.noLog then pure () else addToLog now o.log g.name s

/-- Says what became of a sheet. -/
def sayWritten (s : Sheet) (outfile : Path) : Session Unit := do
  match s.note with
  | some note => Session.warn (Text.ofString "[warning] " ++ note)
  | none => pure ()
  Session.say (← Session.orDie (writtenLine s outfile))

/-- Writes the sheet of a grid and logs it. -/
def writeAndLog (now : Moment) (o : CompileOptions) (g : Grid) (place : CommandLine.Place) (s : Sheet) :
    Session Unit := do
  let outfile ← Session.orDie (place.asked "parent")
  Session.onDisk fun d => d.writeSheet outfile g.format s
  logAsked now o g s
  sayWritten s outfile

section One
variable {now : Moment} {tokens : List Text} {w : World}

theorem compileCommand_settled {o : CompileOptions} {g : Grid} {place : CommandLine.Place} {s : Sheet}
    (settled : settled? tokens w.disk = some (o, g, place, s)) :
    compileCommand now tokens w = writeAndLog now o g place s w := by
  unfold settled? at settled
  cases parsed : CommandLine.parse CompileOptions.known tokens with
  | error _ => rw [parsed] at settled; cases settled
  | ok given =>
    rw [parsed] at settled
    simp only at settled
    cases resolved : (CompileOptions.ofGiven given).resolveWithTarget w.disk with
    | error _ => rw [resolved] at settled; cases settled
    | ok found =>
      obtain ⟨grid, target⟩ := found
      rw [resolved] at settled
      simp only at settled
      cases compiled : grid.compile with
      | error _ => rw [compiled] at settled; cases settled
      | ok sheet =>
        rw [compiled] at settled
        cases settled
        unfold compileCommand
        rw [bind_apply, options_ok parsed]
        simp only
        rw [bind_apply, disk_apply]
        simp only
        rw [bind_apply, resolved, orReport_ok]
        simp only
        rw [bind_apply, compiled, orReport_ok]
        simp only
        refine congrFun (?_ : (_ : Session Unit) = writeAndLog now (.ofGiven given) g place s) w
        unfold writeAndLog logAsked addToLog sayWritten
        refine bind_congr fun outfile => bind_congr fun _ => ?_
        -- A branch of a program goes on with all that follows it, so each branch is compared on its own.
        cases (CompileOptions.ofGiven given).noLog <;> cases s.note <;> simp [bind_assoc]

theorem compileCommand_refused (now : Moment) (refused : settled? tokens w.disk = none) :
    ∃ ending after, compileCommand now tokens w = .error ending after ∧ after.disk = w.disk := by
  unfold settled? at refused
  cases parsed : CommandLine.parse CompileOptions.known tokens with
  | error refusal =>
    obtain ⟨ending, after, run, kept⟩ := options_error CompileOptions.program parsed w
    exact ⟨ending, after, by rw [compileCommand, bind_apply, run], kept⟩
  | ok given =>
    rw [parsed] at refused
    simp only at refused
    unfold compileCommand
    rw [bind_apply, options_ok parsed]
    simp only
    rw [bind_apply, disk_apply]
    simp only
    rw [bind_apply]
    cases resolved : (CompileOptions.ofGiven given).resolveWithTarget w.disk with
    | error fault =>
      obtain ⟨ending, after, run, kept⟩ := orReport_error (α := Grid × CommandLine.Place) fault w
      exact ⟨ending, after, by rw [run], kept⟩
    | ok found =>
      obtain ⟨grid, target⟩ := found
      rw [resolved] at refused
      simp only at refused
      cases compiled : grid.compile with
      | ok sheet => rw [compiled] at refused; cases refused
      | error fault =>
        obtain ⟨ending, after, run, kept⟩ := orReport_error (α := Sheet) fault w
        refine ⟨ending, after, ?_, kept⟩
        rw [orReport_ok]
        simp only
        rw [bind_apply, compiled, run]

theorem checkNote_eq_ok {sheet s : Sheet} (checked : sheet.checkNote = .ok s) : sheet = s := by
  unfold Sheet.checkNote at checked
  split at checked
  · exact (Decimal.ifWritable_ok.mp checked).2
  · exact Except.ok.inj checked

theorem addToLog_ok {log : CommandLine.Place} {name : Value} {s : Sheet} {after : World}
    (done : addToLog now log name s w = .ok () after) :
    ∃ p, log = .path p ∧ w.disk.logCompilation p now name s = (after.disk, .ok ()) := by
  obtain ⟨p, start, named, logged⟩ := bind_eq_ok done
  obtain ⟨asked, rfl⟩ := orDie_eq_ok named
  exact ⟨p, asked_eq_ok asked, onDisk_eq_ok logged⟩

theorem addToLog_error {log : CommandLine.Place} {name : Value} {s : Sheet} {ending : Ending} {after : World}
    (cut : addToLog now log name s w = .error ending after) :
    after.disk = w.disk ∨
      ∃ p fault, log = .path p ∧ w.disk.logCompilation p now name s = (after.disk, .error fault) := by
  obtain cut | ⟨p, start, named, cut⟩ := bind_eq_error cut
  · obtain ⟨_, _, _, rfl⟩ := orDie_eq_error cut
    exact .inl rfl
  · obtain ⟨asked, rfl⟩ := orDie_eq_ok named
    obtain ⟨fault, failed⟩ := onDisk_eq_error cut
    exact .inr ⟨p, fault, asked_eq_ok asked, failed⟩

theorem never_addToLog (now : Moment) (log : CommandLine.Place) (name : Value) (s : Sheet) :
    NeverExits (addToLog now log name s) := never_bind (never_orDie _) fun _ => never_onDisk _

theorem never_logAsked (now : Moment) (o : CompileOptions) (g : Grid) (s : Sheet) : NeverExits (logAsked now o g s) := by
  unfold logAsked
  cases o.noLog with
  | true => exact never_pure ()
  | false => exact never_addToLog now o.log g.name s

theorem never_sayWritten (s : Sheet) (outfile : Path) : NeverExits (sayWritten s outfile) := by
  unfold sayWritten
  cases s.note with
  | none => exact never_bind (never_orDie _) fun _ => never_say _
  | some note => exact never_bind (never_warn _) fun _ => never_bind (never_orDie _) fun _ => never_say _

theorem never_writeAndLog (now : Moment) (o : CompileOptions) (g : Grid) (place : CommandLine.Place) (s : Sheet) :
    NeverExits (writeAndLog now o g place s) := by
  unfold writeAndLog
  exact never_bind (never_orDie _) fun outfile => never_bind (never_onDisk _) fun _ =>
    never_bind (never_logAsked now o g s) fun _ => never_sayWritten s outfile

end One

/-! ## Batches -/

/-- What is settled before a batch is built or shown: options and grids, if they are not too much work. -/
def admitted? (tokens : List Text) (d : Disk) : Option (BatchOptions × List Grid) :=
  match CommandLine.parse BatchOptions.known tokens with
  | .error _ => none
  | .ok given =>
    match (do Grid.loadList d (← (BatchOptions.ofGiven given).document)) with
    | .error _ => none
    | .ok grids => if workCeiling < totalWork grids then none else some (.ofGiven given, grids)

/-- The world after the size of a batch was said. -/
def announced (grids : List Grid) (w : World) : World :=
  let line : Text := Decimal.ofNat grids.length ++ " grids, " ++ Decimal.grouped (totalWork grids)
    ++ " assignments to enumerate"
  { w with out := w.out ++ (line ++ Text.ofString "\n") }

/-- Shows what would be built. -/
def showPlan (o : BatchOptions) (grids : List Grid) : Session PUnit :=
  grids.forM fun g => do Session.say (← Session.orDie (plannedLine o g))

/-- Opens the summary for adding; a new one gets a header first. -/
def openSummary (o : BatchOptions) : Session Appender := do
  let results ← Session.orDie (o.resultDirectory.asked "mkdir")
  Session.onDisk fun d => d.makeDirectories results
  let summary := results.join summaryName
  let header ← if ← Session.orDie ((← Session.disk).holds summary) then pure "" else
    Session.orDie (Summary.record Summary.header).written
  let place ← openForAdding summary
  pure ⟨place, header⟩

theorem isWritable_of_le {n : Nat} (few : n ≤ workCeiling) : Decimal.isWritable n = true := by
  have small : workCeiling < 10 ^ 8 := by decide
  have digits : 8 ≤ Decimal.digitLimit := by decide
  unfold Decimal.isWritable Decimal.unwritable
  generalize Decimal.digitLimit = limit at digits ⊢
  have most : 10 ^ 8 ≤ Nat.pow 10 limit := Nat.pow_le_pow_right (by decide) digits
  rw [Int.natAbs_natCast, decide_eq_true_iff]
  exact Nat.lt_of_lt_of_le (Nat.lt_of_le_of_lt few small) most

section Adding
variable {p : Path} {w after : World}

theorem openForAdding_ok {place : Location} (done : openForAdding p w = .ok place after) :
    w.disk.openFile p = .ok (after.disk, place) := by
  have request := onDisk_eq_ok done
  split at request
  · rename_i disk found opened
    obtain ⟨rfl, same⟩ := Prod.mk.inj request
    cases same
    exact opened
  · cases (Prod.mk.inj request).2

theorem openForAdding_error {ending : Ending} (cut : openForAdding p w = .error ending after) :
    after.disk = w.disk := by
  obtain ⟨fault, request⟩ := onDisk_eq_error cut
  split at request
  · cases (Prod.mk.inj request).2
  · exact (Prod.mk.inj request).1.symm

end Adding

section Batch
variable {now : Moment} {compiler : Compiler} {tokens : List Text} {w : World} {o : BatchOptions} {grids : List Grid}

theorem buildBatch_eq (now : Moment) (compiler : Compiler) (o : BatchOptions) (grids : List Grid) :
    buildBatch now compiler o grids = openSummary o >>= buildAll (buildGrid now compiler o) grids := by
  unfold buildBatch openSummary
  simp only [bind_assoc]
  refine bind_congr fun results => bind_congr fun _ => bind_congr fun d => bind_congr fun held => ?_
  cases held with
  | true => simp only [bind_assoc, pure_bind, ↓reduceIte]
  | false => simp only [bind_assoc, pure_bind, Bool.false_eq_true, ↓reduceIte]

theorem say_announced (grids : List Grid) (w : World) :
    Session.say (Decimal.ofNat grids.length ++ " grids, " ++ Decimal.grouped (totalWork grids)
      ++ " assignments to enumerate") w = .ok () (announced grids w) :=
  say_ok (by simp only [whole_append, whole_ofString, and_self]) w

theorem batchCommand_admitted (admitted : admitted? tokens w.disk = some (o, grids)) :
    batchCommand now compiler tokens w =
      (if o.dryRun then showPlan o grids else buildBatch now compiler o grids) (announced grids w) := by
  unfold admitted? at admitted
  cases parsed : CommandLine.parse BatchOptions.known tokens with
  | error _ => rw [parsed] at admitted; cases admitted
  | ok given =>
    rw [parsed] at admitted
    simp only at admitted
    cases loaded : (do Grid.loadList w.disk (← (BatchOptions.ofGiven given).document)) with
    | error _ => rw [loaded] at admitted; cases admitted
    | ok found =>
      rw [loaded] at admitted
      simp only at admitted
      split at admitted
      · cases admitted
      · cases admitted
        have few : ¬ workCeiling < totalWork grids := ‹_›
        have digits : [(totalWork grids : Int)].all Decimal.isWritable = true := by
          rw [List.all_cons, isWritable_of_le (Nat.le_of_not_lt few)]
          rfl
        have counted : groupedCount (totalWork grids) = .ok (Decimal.grouped (totalWork grids)) :=
          Decimal.ifWritable_ok.mpr ⟨digits, rfl⟩
        unfold batchCommand
        rw [bind_apply, options_ok parsed]
        simp only
        rw [bind_apply, disk_apply]
        simp only
        rw [bind_apply, loaded, orReport_ok]
        simp only
        rw [bind_apply, counted, orDie_ok]
        simp only
        rw [if_neg few, bind_apply, say_announced]
        simp only
        cases (BatchOptions.ofGiven given).dryRun <;> rfl

theorem batchCommand_refused (now : Moment) (compiler : Compiler) (refused : admitted? tokens w.disk = none) :
    ∃ ending after, batchCommand now compiler tokens w = .error ending after ∧ after.disk = w.disk := by
  unfold admitted? at refused
  cases parsed : CommandLine.parse BatchOptions.known tokens with
  | error refusal =>
    obtain ⟨ending, after, run, kept⟩ := options_error BatchOptions.program parsed w
    exact ⟨ending, after, by rw [batchCommand, bind_apply, run], kept⟩
  | ok given =>
    rw [parsed] at refused
    simp only at refused
    unfold batchCommand
    rw [bind_apply, options_ok parsed]
    simp only
    rw [bind_apply, disk_apply]
    simp only
    rw [bind_apply]
    cases loaded : (do Grid.loadList w.disk (← (BatchOptions.ofGiven given).document)) with
    | error fault =>
      obtain ⟨ending, after, run, kept⟩ := orReport_error (α := List Grid) fault w
      exact ⟨ending, after, by rw [run], kept⟩
    | ok grids =>
      rw [loaded] at refused
      simp only at refused
      split at refused
      · have much : workCeiling < totalWork grids := ‹_›
        rw [orReport_ok]
        simp only
        rw [bind_apply]
        cases groupedCount (totalWork grids) with
        | error fault => exact ⟨_, _, rfl, rfl⟩
        | ok total =>
          rw [orDie_ok]
          simp only
          rw [if_pos much]
          exact ⟨_, _, rfl, rfl⟩
      · cases refused

/-- What a run is asked for that can be carried out: its options and the grids of its document. -/
structure AsksBatch (tokens : List Text) (d : Disk) (o : BatchOptions) (grids : List Grid) : Prop where
  parsed : ∃ given, CommandLine.parse BatchOptions.known tokens = .ok given ∧ o = .ofGiven given
  loaded : ∃ path, o.document = .ok path ∧ Grid.loadList d path = .ok grids
  work : totalWork grids ≤ workCeiling

theorem admitted_iff {d : Disk} : admitted? tokens d = some (o, grids) ↔ AsksBatch tokens d o grids := by
  constructor
  · intro admitted
    unfold admitted? at admitted
    split at admitted
    · cases admitted
    rename_i given parsed
    split at admitted
    · cases admitted
    rename_i found loaded
    split at admitted
    · cases admitted
    · cases admitted
      refine ⟨⟨given, parsed, rfl⟩, ?_, Nat.le_of_not_lt ‹_›⟩
      cases document : (BatchOptions.ofGiven given).document with
      | error _ => rw [document] at loaded; cases loaded
      | ok path =>
        rw [document] at loaded
        exact ⟨path, rfl, loaded⟩
  · rintro ⟨⟨given, parsed, rfl⟩, ⟨path, document, loaded⟩, work⟩
    unfold admitted?
    rw [parsed]
    simp only
    rw [document]
    have loaded : (do Grid.loadList d (← Except.ok path)) = .ok grids := loaded
    rw [loaded]
    simp only
    rw [if_neg (Nat.not_lt_of_le work)]

theorem keeps_showPlan (o : BatchOptions) (grids : List Grid) : KeepsFiles (showPlan o grids) :=
  keeps_forM (fun _ => keeps_bind (keeps_orDie _) fun _ => keeps_say _) grids

theorem never_openSummary (o : BatchOptions) : NeverExits (openSummary o) := by
  unfold openSummary
  refine never_bind (never_orDie _) fun results => never_bind (never_onDisk _) fun _ => never_bind never_disk fun d =>
    never_bind (never_orDie _) fun held => ?_
  cases held with
  | true => exact never_bind (never_pure _) fun header => never_bind (never_onDisk _) fun place => never_pure _
  | false => exact never_bind (never_orDie _) fun header => never_bind (never_onDisk _) fun place => never_pure _

end Batch

/-! ## Grids of a batch -/

/-- Writes the sheet of a grid of a batch and logs it; the answer is the sheet and its file. -/
def writeGrid (now : Moment) (compiler : Compiler) (o : BatchOptions) (g : Grid) : Session (Sheet × Path) := do
  let s ← Session.orDie (compiler (.int g.rows) (.int g.cols) (.int g.cap))
  let s ← Session.orDie s.checkNote
  let outfile ← Session.orDie (o.target g)
  Session.onDisk fun d => d.writeSheet outfile g.format s
  addToLog now o.log g.name s
  pure (s, outfile)

/-- Says what became of a grid of a batch and makes its record for the summary. -/
def reportGrid (now : Moment) (g : Grid) (s : Sheet) (outfile : Path) (accuracy : String) : Session String := do
  let name ← Session.orDie g.name.plain?
  match s.note with
  | some note => Session.warn (Text.glued "" ["[warning] ", name, ": ", note])
  | none => pure ()
  Session.say (Text.glued "" ["Grid ", name, ": ", Decimal.grouped s.rules.length, " rules → ", outfile.text])
  Session.orDie (Summary.record? now g s accuracy outfile)

/-- Verifies a sheet if that is asked for, and reports its grid. -/
def recordGrid (now : Moment) (o : BatchOptions) (g : Grid) (s : Sheet) (outfile : Path) : Session String := do
  let accuracy ← if o.verify then Session.orDie (lowestAccuracy s g.cols) else pure ""
  reportGrid now g s outfile accuracy

section Grids
variable {now : Moment} {compiler : Compiler} {o : BatchOptions} {g : Grid} {s : Sheet} {outfile : Path}
  {build : Grid → Session String} {w : World}

theorem buildGrid_eq (now : Moment) (compiler : Compiler) (o : BatchOptions) (g : Grid) :
    buildGrid now compiler o g = writeGrid now compiler o g >>= fun done => recordGrid now o g done.1 done.2 := by
  unfold buildGrid writeGrid addToLog
  rewrite [bind_assoc]
  refine bind_congr fun _ => ?_
  rewrite [bind_assoc]
  refine bind_congr fun s => ?_
  rewrite [bind_assoc]
  refine bind_congr fun outfile => ?_
  rewrite [bind_assoc]
  refine bind_congr fun _ => ?_
  rewrite [bind_assoc, bind_assoc]
  refine bind_congr fun log => bind_congr fun _ => ?_
  rewrite [pure_bind]
  unfold recordGrid reportGrid
  cases o.verify <;> cases s.note <;> rfl

theorem keeps_reportGrid (now : Moment) (g : Grid) (s : Sheet) (outfile : Path) (accuracy : String) :
    KeepsFiles (reportGrid now g s outfile accuracy) := by
  refine keeps_bind (keeps_orDie _) fun name => ?_
  cases s.note with
  | none => exact keeps_bind (keeps_say _) fun _ => keeps_orDie _
  | some note => exact keeps_bind (keeps_warn _) fun _ => keeps_bind (keeps_say _) fun _ => keeps_orDie _

theorem recordGrid_eq (now : Moment) (o : BatchOptions) (g : Grid) (s : Sheet) (outfile : Path) :
    recordGrid now o g s outfile =
      if o.verify then Session.orDie (lowestAccuracy s g.cols) >>= reportGrid now g s outfile
      else reportGrid now g s outfile "" := by
  unfold recordGrid
  cases o.verify <;> rfl

theorem keeps_recordGrid (now : Moment) (o : BatchOptions) (g : Grid) (s : Sheet) (outfile : Path) :
    KeepsFiles (recordGrid now o g s outfile) := by
  unfold recordGrid
  cases o.verify with
  | true => exact keeps_bind (keeps_orDie _) (keeps_reportGrid now g s outfile)
  | false => exact keeps_bind (keeps_pure _) (keeps_reportGrid now g s outfile)

theorem never_reportGrid (now : Moment) (g : Grid) (s : Sheet) (outfile : Path) (accuracy : String) :
    NeverExits (reportGrid now g s outfile accuracy) := by
  refine never_bind (never_orDie _) fun name => ?_
  cases s.note with
  | none => exact never_bind (never_say _) fun _ => never_orDie _
  | some note => exact never_bind (never_warn _) fun _ => never_bind (never_say _) fun _ => never_orDie _

theorem never_recordGrid (now : Moment) (o : BatchOptions) (g : Grid) (s : Sheet) (outfile : Path) :
    NeverExits (recordGrid now o g s outfile) := by
  unfold recordGrid
  cases o.verify with
  | true => exact never_bind (never_orDie _) (never_reportGrid now g s outfile)
  | false => exact never_bind (never_pure _) (never_reportGrid now g s outfile)

theorem never_buildGrid (now : Moment) (compiler : Compiler) (o : BatchOptions) (g : Grid) :
    NeverExits (buildGrid now compiler o g) := by
  rw [buildGrid_eq]
  refine never_bind ?_ fun done => never_recordGrid now o g done.1 done.2
  exact never_bind (never_orDie _) fun _ => never_bind (never_orDie _) fun s => never_bind (never_orDie _) fun outfile =>
    never_bind (never_onDisk _) fun _ => never_bind (never_addToLog now o.log g.name s) fun _ => never_pure _

theorem buildAll_nil (build : Grid → Session String) (a : Appender) (w : World) :
    buildAll build [] a w = .ok () { w with disk := (a.flush w.disk).1 } := rfl

theorem buildAll_more {rest : List Grid} {a : Appender} {record : String} {after : World}
    (built : build g w = .ok record after) :
    buildAll build (g :: rest) a w =
      buildAll build rest (a.add after.disk record).2 { after with disk := (a.add after.disk record).1 } := by
  simp only [buildAll]
  rw [built]

theorem buildAll_cut {rest : List Grid} {a : Appender} {ending : Ending} {after : World}
    (failed : build g w = .error ending after) :
    buildAll build (g :: rest) a w = .error ending { after with disk := (a.flush after.disk).1 } := by
  simp only [buildAll]
  rw [failed]
  rfl

theorem never_buildAll (each : ∀ g, NeverExits (build g)) (grids : List Grid) (a : Appender) :
    NeverExits (buildAll build grids a) := by
  intro w ending after run
  induction grids generalizing a w with
  | nil => cases run
  | cons g rest ih =>
    cases built : build g w with
    | ok record between =>
      rw [buildAll_more built] at run
      exact ih _ _ run
    | error cut between =>
      rw [buildAll_cut built] at run
      cases run
      exact each g w _ _ built

theorem never_buildBatch (now : Moment) (compiler : Compiler) (o : BatchOptions) (grids : List Grid) :
    NeverExits (buildBatch now compiler o grids) := by
  rw [buildBatch_eq]
  exact never_bind (never_openSummary o) (never_buildAll (never_buildGrid now compiler o) grids)

end Grids

end TapeSheet.Phases
