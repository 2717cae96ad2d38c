import TapeSheet.Proofs.Building

/-!
# What building a batch leaves for each grid

A batch that was built has the sheet of each grid in its file, in the format of the grid, where neither the log nor the
summary nor a later grid went to the same file (`built_files`). Nothing keeps two grids of a document from naming one
file, or the log or the summary; then sheets are lost (`shared_files_lose`).
-/

namespace TapeSheet.BatchRun
open TapeSheet.Files TapeSheet.Sessions TapeSheet.Phases TapeSheet.Frames TapeSheet.Building

/-- The file of a grid holds its sheet after a run, if it is not at one of the places where other things were put. -/
def HasSheet (compiler : Compiler) (before after : Disk) (o : BatchOptions) (g : Grid) (taken : Location → Prop) :
    Prop :=
  ∃ outfile s text, o.target g = .ok outfile ∧ compiler (.int g.rows) (.int g.cols) (.int g.cap) = .ok s ∧
    s.written g.format = .ok text ∧ (¬ taken (destination before outfile) → after.read outfile = .ok text)

section Building
variable {now : Moment} {compiler : Compiler} {tokens : List Text} {o : BatchOptions} {g : Grid}
  {earlier later grids : List Grid} {a : Appender} {d : Disk} {w after : World}

theorem buildAll_ok {build : Grid → Session String} (done : buildAll build (g :: later) a w = .ok () after) :
    ∃ record between, build g w = .ok record between ∧
      buildAll build later (a.add between.disk record).2 { between with disk := (a.add between.disk record).1 } =
        .ok () after := by
  cases built : build g w with
  | ok record between =>
    rw [buildAll_more built] at done
    exact ⟨record, between, rfl, done⟩
  | error ending between =>
    rw [buildAll_cut built] at done
    cases done

/-- A grid that was built has its sheet, and keeps it while others are built that go to other places. -/
theorem first_hasSheet (here : w.disk.here = d.here)
    (done : buildAll (buildGrid now compiler o) (g :: later) a w = .ok () after) :
    HasSheet compiler d after.disk o g (IsWritten d o a.place later) := by
  obtain ⟨record, built, builds, rest⟩ := buildAll_ok done
  obtain ⟨s, outfile, between, written, _, same⟩ := buildGrid_ok builds
  obtain ⟨log, sheet, compiled, target, isLog, wrote, logged⟩ := writeGrid_ok written
  obtain ⟨text, line, encoded, _, spares, located, _, held⟩ := writeSheet_logged wrote logged
  rw [← same] at spares located held
  rw [destination_congr here outfile] at located held
  rw [destination_congr here log] at held
  refine ⟨outfile, s, text, target, compiled, encoded, fun free => ?_⟩
  obtain ⟨standing, _⟩ := held fun isSame => free (.inr (.inl ⟨log, isLog, isSame⟩))
  have adds := add_spares built.disk a record
  have follows := touches_buildAll d now compiler o later (a.add built.disk record).2
    { built with disk := (a.add built.disk record).1 } (adds.here.trans (spares.here.trans here))
  rw [rest, add_place] at follows
  refine read_of_file (locate_spares follows (locate_spares adds located)) ?_
  exact (follows.files _ free).trans ((adds.files _ fun isSummary => free (.inl isSummary)).trans standing)

/-- A grid behind others: they may change files but not where a path leads. -/
theorem each_hasSheet (here : w.disk.here = d.here)
    (done : buildAll (buildGrid now compiler o) (earlier ++ g :: later) a w = .ok () after) :
    HasSheet compiler d after.disk o g (IsWritten d o a.place later) := by
  induction earlier generalizing a w with
  | nil => exact first_hasSheet here done
  | cons first earlier ih =>
    obtain ⟨record, built, builds, rest⟩ := buildAll_ok done
    have spares := touches_buildGrid d now compiler o first w here
    rw [builds] at spares
    have each := ih ((add_spares built.disk a record).here.trans (spares.here.trans here)) rest
    rw [add_place] at each
    exact each

theorem buildBatch_hasSheet (done : buildBatch now compiler o grids w = .ok () after) :
    ∃ results, o.resultDirectory = .path results ∧ ∀ earlier g later, grids = earlier ++ g :: later →
      HasSheet compiler w.disk after.disk o g (IsWritten w.disk o (destination w.disk (summaryPath results)) later) := by
  rw [buildBatch_eq] at done
  obtain ⟨a, opened, opens, builds⟩ := bind_eq_ok done
  obtain ⟨results, isResults, isPlace, spares, _⟩ := openSummary_ok opens
  refine ⟨results, isResults, ?_⟩
  rintro earlier g later rfl
  rw [← isPlace]
  exact each_hasSheet spares.here builds

end Building

/-- A batch that was built has the sheet of each of its grids in its file, if the summary, the log and later grids went
to other places. -/
theorem built_files (now : Moment) (tokens : List Text) (w after : World)
    (done : batchCommand now compileSheet tokens w = .ok () after) :
    ∃ o grids, AsksBatch tokens w.disk o grids ∧ (o.dryRun = false →
      ∃ results, o.resultDirectory = .path results ∧ ∀ earlier g later, grids = earlier ++ g :: later →
        HasSheet compileSheet w.disk after.disk o g
          (IsWritten w.disk o (destination w.disk (summaryPath results)) later)) := by
  cases admitted : admitted? tokens w.disk with
  | none =>
    obtain ⟨_, _, refused, _⟩ := batchCommand_refused now compileSheet admitted
    cases refused.symm.trans done
  | some all =>
    obtain ⟨o, grids⟩ := all
    refine ⟨o, grids, admitted_iff.mp admitted, fun wet => ?_⟩
    rw [batchCommand_admitted admitted, wet] at done
    exact @buildBatch_hasSheet now compileSheet o grids (announced grids w) after done

/-- Grids with files of their own. -/
def twoFiles : World :=
  worldWith "grids.yaml" "grids: [\x7brows: 1, cols: 1, name: a\x7d, \x7brows: 1, cols: 2, name: b\x7d]\n"

/-- A batch has more than one grid, and nothing else goes to the file of the first one. -/
def firstIsFree (d : Disk) (o : BatchOptions) : List Grid → Bool
  | first :: second :: rest =>
    match o.target first, o.resultDirectory with
    | .ok outfile, .path results =>
      !o.dryRun && decide (¬ IsWritten d o (destination d (summaryPath results)) (second :: rest) (destination d outfile))
    | _, _ => false
  | _ => false

theorem hasSheet_of_free {before after : Disk} {o : BatchOptions} {grids : List Grid}
    (free : firstIsFree before o grids = true)
    (held : o.dryRun = false → ∃ results, o.resultDirectory = .path results ∧
      ∀ earlier g later, grids = earlier ++ g :: later → HasSheet compileSheet before after o g
        (IsWritten before o (destination before (summaryPath results)) later)) :
    ∃ first rest, grids = first :: rest ∧ rest ≠ [] ∧ HasSheet compileSheet before after o first nowhere := by
  unfold firstIsFree at free
  split at free
  · rename_i first second rest
    split at free
    · rename_i outfile results target isResults
      simp only [Bool.and_eq_true, Bool.not_eq_true', decide_eq_true_eq] at free
      obtain ⟨wet, spared⟩ := free
      obtain ⟨own, isOwn, each⟩ := held wet
      cases isResults.symm.trans isOwn
      obtain ⟨path, s, text, isTarget, compiled, encoded, reads⟩ := each [] first (second :: rest) rfl
      cases target.symm.trans isTarget
      exact ⟨first, second :: rest, rfl, List.cons_ne_nil second rest, outfile, s, text, target, compiled, encoded,
        fun _ => reads spared⟩
    · cases free
  · cases free

/-- Two grids with files of their own: the earlier sheet is there in the end. -/
theorem built_files_two : ∃ after o first rest, batchCommand newYear compileSheet [] twoFiles = .ok () after ∧
    AsksBatch [] twoFiles.disk o (first :: rest) ∧ rest ≠ [] ∧
    HasSheet compileSheet twoFiles.disk after.disk o first nowhere := by
  have done := @eq_ok_of_answer _ (batchCommand newYear compileSheet [] twoFiles) () (by decide +kernel)
  obtain ⟨o, grids, asks, held⟩ := built_files newYear [] twoFiles _ done
  have free : (admitted? [] twoFiles.disk).any (fun all => firstIsFree twoFiles.disk all.1 all.2) = true := by
    decide +kernel
  rw [admitted_iff.mpr asks] at free
  obtain ⟨first, rest, rfl, more, holds⟩ := hasSheet_of_free free held
  exact ⟨_, o, first, rest, done, asks, more, holds⟩

/-- Two grids with one file, one with the log for its file and one with the summary. -/
def sharedFiles : World :=
  worldWith "grids.yaml" ("grids:\n- \x7brows: 1, cols: 1\x7d\n- \x7brows: 1, cols: 2\x7d\n" ++
    "- \x7brows: 1, cols: 1, outfile: logs/compile.log\x7d\n- \x7brows: 1, cols: 1, outfile: results/summary.csv\x7d\n")

/-- A grid has another text in its file than its sheet. -/
def lacksSheet (d : Disk) (o : BatchOptions) (g : Grid) : Bool :=
  match o.target g, compileSheet (.int g.rows) (.int g.cols) (.int g.cap) with
  | .ok outfile, .ok s =>
    match s.written g.format with
    | .ok text => (d.read outfile).toOption ≠ some text
    | .error _ => false
  | _, _ => false

theorem not_hasSheet {before after : Disk} {o : BatchOptions} {g : Grid} (lacks : lacksSheet after o g = true) :
    ¬ HasSheet compileSheet before after o g nowhere := by
  rintro ⟨outfile, s, text, target, compiled, encoded, held⟩
  unfold lacksSheet at lacks
  rw [target, compiled] at lacks
  simp only at lacks
  rw [encoded, held id] at lacks
  simp [Except.toOption] at lacks

/-- A run that ends by itself leaves four grids of which only the second one has its sheet. -/
def losesThree (w : World) : Bool :=
  match batchCommand newYear compileSheet [] w, admitted? [] w.disk with
  | .ok _ after, some (o, [first, _, third, fourth]) =>
    !o.dryRun && [first, third, fourth].all (lacksSheet after.disk o)
  | _, _ => false

theorem lose_of_losesThree {w : World} (loses : losesThree w = true) : ∃ after o first second third fourth,
    batchCommand newYear compileSheet [] w = .ok () after ∧
    AsksBatch [] w.disk o [first, second, third, fourth] ∧ o.dryRun = false ∧
    ∀ g ∈ [first, third, fourth], ¬ HasSheet compileSheet w.disk after.disk o g nowhere := by
  unfold losesThree at loses
  split at loses
  · rename_i _ after o first second third fourth done admitted
    simp only [Bool.and_eq_true, Bool.not_eq_true', List.all_eq_true] at loses
    exact ⟨after, o, first, second, third, fourth, done, admitted_iff.mp admitted, loses.1,
      fun g member => not_hasSheet (loses.2 g member)⟩
  · cases loses

/-- A run that ends by itself may still lose sheets: that of the first grid is written over with that of the second, and
those of the last two are followed by what the log and the summary get. -/
theorem shared_files_lose : ∃ after o first second third fourth,
    batchCommand newYear compileSheet [] sharedFiles = .ok () after ∧
    AsksBatch [] sharedFiles.disk o [first, second, third, fourth] ∧ o.dryRun = false ∧
    ∀ g ∈ [first, third, fourth], ¬ HasSheet compileSheet sharedFiles.disk after.disk o g nowhere :=
  lose_of_losesThree (by decide +kernel)

end TapeSheet.BatchRun
