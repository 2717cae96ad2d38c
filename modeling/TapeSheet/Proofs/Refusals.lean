import TapeSheet.Proofs.Phases

/-!
# Refused runs

A run that is refused leaves the files as they were: verifying never touches them, and the two programs that write do so
only after all that can be refused with a status was looked at (`refused_runs_keep_files`). So one wrong grid anywhere in
a batch, or too much work, means that nothing at all is built.
-/

namespace TapeSheet.Refusals
open TapeSheet.Files TapeSheet.Sessions TapeSheet.Phases

section Runs
variable {now : Moment} {compiler : Compiler} {tokens : List Text} {w : World} {o : BatchOptions} {grids : List Grid}

theorem keeps_verifyPreset (s : Sheet) (seed : Int) (shows : Bool) (key : Value) :
    KeepsFiles (verifyPreset s seed shows key) := by
  unfold verifyPreset
  refine keeps_bind (keeps_orDie _) fun root => keeps_bind (keeps_orDie _) fun score => keeps_bind (keeps_say _) fun _ => ?_
  cases shows with
  | true => exact keeps_bind (keeps_orDie _) fun grid => keeps_bind (keeps_say _) fun _ => keeps_pure _
  | false => exact keeps_pure _

theorem keeps_verifyCommand (compiler : Compiler) (tokens : List Text) : KeepsFiles (verifyCommand compiler tokens) := by
  refine keeps_bind (keeps_options _ _ _) fun given => keeps_bind (keeps_orReport _) fun s =>
    keeps_bind (keeps_orDie _) fun s => keeps_bind (keeps_mapM (keeps_verifyPreset s _ _) _) fun perfect =>
    keeps_bind (keeps_orDie _) fun line => keeps_bind (keeps_say line) fun _ => ?_
  simp only
  split
  · exact keeps_fail _
  · exact keeps_pure _

/-- The document of a batch is refused as soon as one of its entries is. -/
theorem mapM_error {α β : Type} {f : α → Except Fault β} {items : List α} {item : α} {fault : Fault}
    (member : item ∈ items) (refused : f item = .error fault) : ∃ fault, items.mapM f = .error fault := by
  induction items with
  | nil => cases member
  | cons first rest ih =>
    rw [List.mapM_cons]
    cases own : f first with
    | error earlier => exact ⟨earlier, rfl⟩
    | ok b =>
      obtain inHead | inRest := List.mem_cons.mp member
      · rw [← inHead, refused] at own
        cases own
      · obtain ⟨later, run⟩ := ih inRest
        rw [run]
        exact ⟨later, rfl⟩

/-- What keeps a batch from being built: a document that cannot be read or has a wrong entry, too much work, or a dry
run. -/
inductive BuildsNothing (tokens : List Text) (d : Disk) : Prop
  | unreadable (given : List (String × CommandLine.Argument)) (fault : Fault)
      (parsed : CommandLine.parse BatchOptions.known tokens = .ok given)
      (refused : (do Grid.loadList d (← (BatchOptions.ofGiven given).document)) = .error fault)
  | wrongEntry (given : List (String × CommandLine.Argument)) (path : Path) (t : TopLevel) (entries : List Nat)
      (entry : Nat) (fault : Fault) (parsed : CommandLine.parse BatchOptions.known tokens = .ok given)
      (document : (BatchOptions.ofGiven given).document = .ok path) (read : TopLevel.load d path = .ok t)
      (listed : (t.number? "grids").bind t.document.part? = some (.list entries)) (member : entry ∈ entries)
      (refused : Grid.ofNode t.document entry = .error fault)
  | tooMuch (given : List (String × CommandLine.Argument)) (grids : List Grid)
      (parsed : CommandLine.parse BatchOptions.known tokens = .ok given)
      (loaded : (do Grid.loadList d (← (BatchOptions.ofGiven given).document)) = .ok grids)
      (much : workCeiling < totalWork grids)
  | dryRun (given : List (String × CommandLine.Argument))
      (parsed : CommandLine.parse BatchOptions.known tokens = .ok given)
      (asked : (BatchOptions.ofGiven given).dryRun = true)

theorem loadList_wrongEntry {d : Disk} {path : Path} {t : TopLevel} {entries : List Nat} {entry : Nat} {fault : Fault}
    (read : TopLevel.load d path = .ok t)
    (listed : (t.number? "grids").bind t.document.part? = some (.list entries)) (member : entry ∈ entries)
    (refused : Grid.ofNode t.document entry = .error fault) : ∃ fault, Grid.loadList d path = .error fault := by
  unfold Grid.loadList Grid.listOfTop
  rw [read]
  simp only
  rw [listed]
  cases entries with
  | nil => cases member
  | cons first rest => exact mapM_error member refused

theorem admitted_buildsNothing {d : Disk} (nothing : BuildsNothing tokens d)
    (admitted : admitted? tokens d = some (o, grids)) : o.dryRun = true := by
  unfold admitted? at admitted
  cases nothing with
  | unreadable given fault parsed refused =>
    rw [parsed] at admitted
    simp only at admitted
    rw [refused] at admitted
    cases admitted
  | wrongEntry given path t entries entry fault parsed document read listed member refused =>
    obtain ⟨earlier, failed⟩ := loadList_wrongEntry read listed member refused
    have loaded : (do Grid.loadList d (← (BatchOptions.ofGiven given).document)) = .error earlier := by
      rw [document]
      exact failed
    rw [parsed] at admitted
    simp only at admitted
    rw [loaded] at admitted
    cases admitted
  | tooMuch given grids parsed loaded much =>
    rw [parsed] at admitted
    simp only at admitted
    rw [loaded] at admitted
    simp only at admitted
    rw [if_pos much] at admitted
    cases admitted
  | dryRun given parsed asked =>
    rw [parsed] at admitted
    simp only at admitted
    split at admitted
    · cases admitted
    · split at admitted
      · cases admitted
      · cases admitted
        exact asked

theorem compile_refused (refused : settled? tokens w.disk = none) :
    ((compileCommand now tokens).outcome w).2.disk = w.disk := by
  obtain ⟨ending, after, run, kept⟩ := compileCommand_refused now refused
  rw [outcome_world, run]
  exact kept

theorem compile_exit {status : Nat} (bad : status ≠ 0)
    (ended : ((compileCommand now tokens).outcome w).1 = .exit status) :
    ((compileCommand now tokens).outcome w).2.disk = w.disk := by
  cases settled : settled? tokens w.disk with
  | none => exact compile_refused settled
  | some all =>
    obtain ⟨o, g, place, s⟩ := all
    rw [outcome_congr (compileCommand_settled settled)] at ended
    exact absurd (status_eq_zero (never_writeAndLog now o g place s) ended) bad

theorem batch_refused (refused : admitted? tokens w.disk = none) :
    ((batchCommand now compiler tokens).outcome w).2.disk = w.disk := by
  obtain ⟨ending, after, run, kept⟩ := batchCommand_refused now compiler refused
  rw [outcome_world, run]
  exact kept

theorem batch_shown (admitted : admitted? tokens w.disk = some (o, grids)) (dry : o.dryRun = true) :
    ((batchCommand now compiler tokens).outcome w).2.disk = w.disk := by
  rw [outcome_congr (batchCommand_admitted admitted), if_pos dry, outcome_world]
  exact keeps_showPlan o grids (announced grids w)

theorem batch_exit {status : Nat} (bad : status ≠ 0)
    (ended : ((batchCommand now compiler tokens).outcome w).1 = .exit status) :
    ((batchCommand now compiler tokens).outcome w).2.disk = w.disk := by
  cases admitted : admitted? tokens w.disk with
  | none => exact batch_refused admitted
  | some all =>
    obtain ⟨o, grids⟩ := all
    cases dry : o.dryRun with
    | true => exact batch_shown admitted dry
    | false =>
      rw [outcome_congr (batchCommand_admitted admitted), dry] at ended
      exact absurd (status_eq_zero (never_buildBatch now compiler o grids) ended) bad

theorem batch_buildsNothing (nothing : BuildsNothing tokens w.disk) :
    ((batchCommand now compiler tokens).outcome w).2.disk = w.disk := by
  cases admitted : admitted? tokens w.disk with
  | none => exact batch_refused admitted
  | some all => exact batch_shown admitted (admitted_buildsNothing nothing admitted)

theorem settled_unresolved {given : List (String × CommandLine.Argument)} {fault : Fault} {d : Disk}
    (parsed : CommandLine.parse CompileOptions.known tokens = .ok given)
    (refused : (CompileOptions.ofGiven given).resolve d = .error fault) : settled? tokens d = none := by
  unfold settled? CompileOptions.resolveWithTarget
  rw [parsed]
  simp only
  rw [refused]
  rfl

end Runs

/-- However it ends, verifying keeps all files. A refused compilation and a refused batch keep them too, the latter also
when a single entry is wrong, there is too much work, or the run is dry. -/
theorem refused_runs_keep_files (now : Moment) (compiler : Compiler) (tokens : List Text) (w : World) :
    ((verifyCommand compiler tokens).outcome w).2.disk = w.disk ∧
    (∀ status, status ≠ 0 → ((compileCommand now tokens).outcome w).1 = .exit status →
      ((compileCommand now tokens).outcome w).2.disk = w.disk) ∧
    (∀ given fault, CommandLine.parse CompileOptions.known tokens = .ok given →
      (CompileOptions.ofGiven given).resolve w.disk = .error fault →
      ((compileCommand now tokens).outcome w).2.disk = w.disk) ∧
    (∀ status, status ≠ 0 → ((batchCommand now compiler tokens).outcome w).1 = .exit status →
      ((batchCommand now compiler tokens).outcome w).2.disk = w.disk) ∧
    (BuildsNothing tokens w.disk → ((batchCommand now compiler tokens).outcome w).2.disk = w.disk) := by
  refine ⟨?_, fun _ bad ended => compile_exit bad ended, fun _ _ parsed refused => ?_,
    fun _ bad ended => batch_exit bad ended, batch_buildsNothing⟩
  · rw [outcome_world]
    exact keeps_verifyCommand compiler tokens w
  · exact compile_refused (settled_unresolved parsed refused)

/-- A batch whose second grid is wrong. -/
def wrongBatch : World := worldWith "grids.yaml" "grids: [\x7brows: 1, cols: 1\x7d, \x7brows: 0\x7d]\n"

/-- The tokens that name it. -/
def wrongTokens : List Text := ["--config", "grids.yaml"]

/-- Some entry of a batch is found to be wrong. -/
def findsWrongEntry (tokens : List Text) (d : Disk) : Bool :=
  match CommandLine.parse BatchOptions.known tokens with
  | .error _ => false
  | .ok given =>
    match (BatchOptions.ofGiven given).document with
    | .error _ => false
    | .ok path =>
      match TopLevel.load d path with
      | .error _ => false
      | .ok t =>
        match (t.number? "grids").bind t.document.part? with
        | some (.list entries) => entries.any fun entry => !(Grid.ofNode t.document entry).isOk
        | _ => false

theorem exists_error {α : Type} {result : Except Fault α} (notOk : result.isOk = false) :
    ∃ fault, result = .error fault := by
  cases result with
  | ok _ => cases notOk
  | error fault => exact ⟨fault, rfl⟩

theorem buildsNothing_of_finds {tokens : List Text} {d : Disk} (finds : findsWrongEntry tokens d = true) :
    BuildsNothing tokens d := by
  unfold findsWrongEntry at finds
  split at finds
  · cases finds
  rename_i given parsed
  split at finds
  · cases finds
  rename_i path document
  split at finds
  · cases finds
  rename_i t read
  split at finds
  · rename_i entries listed
    obtain ⟨entry, member, wrong⟩ := List.any_eq_true.mp finds
    obtain ⟨fault, refused⟩ := exists_error (Bool.not_eq_true' _ ▸ wrong)
    exact .wrongEntry given path t entries entry fault parsed document read listed member refused
  · cases finds

theorem unresolved_of_isOk {tokens : List Text} {d : Disk}
    (unresolved : (CommandLine.parse CompileOptions.known tokens).toOption.any
      (fun given => !((CompileOptions.ofGiven given).resolve d).isOk) = true) :
    ∃ given fault, CommandLine.parse CompileOptions.known tokens = .ok given ∧
      (CompileOptions.ofGiven given).resolve d = .error fault := by
  cases parsed : CommandLine.parse CompileOptions.known tokens with
  | error _ => rw [parsed] at unresolved; cases unresolved
  | ok given =>
    rw [parsed] at unresolved
    obtain ⟨fault, refused⟩ := exists_error (Bool.not_eq_true' _ ▸ unresolved)
    exact ⟨given, fault, rfl, refused⟩

/-- The second grid has no rows, so the first one is not built either; nor is there one grid in that document. -/
theorem refused_runs_keep_files_wrong :
    ((1 ≠ 0 ∧ ((compileCommand newYear wrongTokens).outcome wrongBatch).1 = .exit 1) ∧
      ((compileCommand newYear wrongTokens).outcome wrongBatch).2.disk = wrongBatch.disk) ∧
    (∃ given fault, (CommandLine.parse CompileOptions.known wrongTokens = .ok given ∧
        (CompileOptions.ofGiven given).resolve wrongBatch.disk = .error fault) ∧
      ((compileCommand newYear wrongTokens).outcome wrongBatch).2.disk = wrongBatch.disk) ∧
    ((1 ≠ 0 ∧ ((batchCommand newYear compileSheet wrongTokens).outcome wrongBatch).1 = .exit 1) ∧
      ((batchCommand newYear compileSheet wrongTokens).outcome wrongBatch).2.disk = wrongBatch.disk) ∧
    (BuildsNothing wrongTokens wrongBatch.disk ∧
      ((batchCommand newYear compileSheet wrongTokens).outcome wrongBatch).2.disk = wrongBatch.disk) := by
  obtain ⟨_, compiling, resolving, building, nothing⟩ :=
    refused_runs_keep_files newYear compileSheet wrongTokens wrongBatch
  have compileEnds : ((compileCommand newYear wrongTokens).outcome wrongBatch).1 = .exit 1 :=
    exit_of_status (by decide +kernel)
  have batchEnds : ((batchCommand newYear compileSheet wrongTokens).outcome wrongBatch).1 = .exit 1 :=
    exit_of_status (by decide +kernel)
  have wrong : BuildsNothing wrongTokens wrongBatch.disk := buildsNothing_of_finds (by decide +kernel)
  obtain ⟨given, fault, parsed, refused⟩ :=
    @unresolved_of_isOk wrongTokens wrongBatch.disk (by decide +kernel)
  exact ⟨⟨⟨by decide, compileEnds⟩, compiling 1 (by decide) compileEnds⟩,
    ⟨given, fault, ⟨parsed, refused⟩, resolving given fault parsed refused⟩,
    ⟨⟨by decide, batchEnds⟩, building 1 (by decide) batchEnds⟩, wrong, nothing wrong⟩

end TapeSheet.Refusals
