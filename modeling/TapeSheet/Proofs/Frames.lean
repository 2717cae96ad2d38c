import TapeSheet.Proofs.Phases

/-!
# Which files a program changes

A part of a program that runs in a working directory may change the files at some places only, whatever its end is
(`Touches`). Building a batch changes the summary, the log and the files of its grids (`touches_buildAll`).
-/

namespace TapeSheet.Frames
open TapeSheet.Files TapeSheet.Sessions TapeSheet.Phases

/-- A part of a program changes no file but those at some places, if it runs where a tree has its working directory. -/
def Touches {α : Type} (d : Disk) (changed : Location → Prop) (part : Session α) : Prop :=
  ∀ w, w.disk.here = d.here → Spares changed w.disk (left (part w)).disk

section Parts
variable {α β : Type} {d : Disk} {changed more : Location → Prop} {part : Session α} {next : α → Session β}

theorem touches_keeps (keeps : KeepsFiles part) : Touches d changed part := by
  intro w _
  rw [keeps w]
  exact .refl ..

theorem touches_mono (touches : Touches d changed part) (le : ∀ place, changed place → more place) :
    Touches d more part := fun w here => (touches w here).mono le

theorem touches_bind (first : Touches d changed part) (second : ∀ a, Touches d changed (next a)) :
    Touches d changed (part >>= next) := by
  intro w here
  have spares := first w here
  rw [bind_apply]
  cases run : part w with
  | ok a between =>
    rw [run] at spares
    exact spares.trans (second a between (spares.here.trans here))
  | error ending between =>
    rw [run] at spares
    exact spares

/-- What comes after a result may use that this is the result. -/
theorem touches_orDie {result : Except Fault α} (each : ∀ a, result = .ok a → Touches d changed (next a)) :
    Touches d changed (Session.orDie result >>= next) := by
  cases result with
  | ok a => exact each a rfl
  | error fault => exact fun w _ => .refl ..

theorem touches_onDisk {request : Disk → Disk × Except Fault α}
    (spares : ∀ before, before.here = d.here → Spares changed before (request before).1) :
    Touches d changed (Session.onDisk request) := by
  intro w here
  have own := spares w.disk here
  rw [onDisk_apply]
  split
  · rename_i after a made
    rw [made] at own
    exact own
  · rename_i after fault made
    rw [made] at own
    exact own

end Parts

theorem destination_congr {d other : Disk} (here : other.here = d.here) (p : Path) :
    destination other p = destination d p := by
  unfold destination Disk.start
  rw [here]

/-! ## Records for the summary -/

section Appending
variable (d : Disk) (a : Appender) (record : String)

theorem flush_spares : Spares (· = a.place) d (a.flush d).1 := append_spares d a.place a.gathered

theorem add_spares : Spares (· = a.place) d (a.add d record).1 := by
  unfold Appender.add
  simp only
  split
  · exact append_spares d a.place _
  · exact .refl ..

theorem add_place : (a.add d record).2.place = a.place := by
  unfold Appender.add
  simp only
  split <;> rfl

end Appending

/-! ## Batches -/

/-- The place of the log that a batch is to be logged in. -/
def IsLog (d : Disk) (o : BatchOptions) (place : Location) : Prop :=
  ∃ log, o.log = .path log ∧ place = destination d log

/-- The place of the file for a grid of a batch. -/
def IsOutfile (d : Disk) (o : BatchOptions) (g : Grid) (place : Location) : Prop :=
  ∃ outfile, o.target g = .ok outfile ∧ place = destination d outfile

/-- The places that building grids may change if the summary is at one of them. -/
def IsWritten (d : Disk) (o : BatchOptions) (summary : Location) (grids : List Grid) (place : Location) : Prop :=
  place = summary ∨ IsLog d o place ∨ ∃ g ∈ grids, IsOutfile d o g place

instance (d : Disk) (o : BatchOptions) (place : Location) : Decidable (IsLog d o place) :=
  match asked : o.log with
  | .path log =>
    decidable_of_iff (place = destination d log) ⟨fun same => ⟨log, asked, same⟩, fun ⟨_, isLog, same⟩ => by
      cases asked.symm.trans isLog
      exact same⟩
  | .nowhere => .isFalse fun ⟨_, isLog, _⟩ => by cases asked.symm.trans isLog

instance (d : Disk) (o : BatchOptions) (g : Grid) (place : Location) : Decidable (IsOutfile d o g place) :=
  match aimed : o.target g with
  | .ok outfile =>
    decidable_of_iff (place = destination d outfile) ⟨fun same => ⟨outfile, aimed, same⟩, fun ⟨_, target, same⟩ => by
      cases aimed.symm.trans target
      exact same⟩
  | .error _ => .isFalse fun ⟨_, target, _⟩ => by cases aimed.symm.trans target

instance (d : Disk) (o : BatchOptions) (summary : Location) (grids : List Grid) (place : Location) :
    Decidable (IsWritten d o summary grids place) :=
  inferInstanceAs (Decidable (_ ∨ _ ∨ _))

section Batch
variable {d : Disk} {o : BatchOptions}

theorem isWritten_cons {summary place : Location} {g : Grid} {rest : List Grid}
    (own : IsWritten d o summary rest place) : IsWritten d o summary (g :: rest) place :=
  own.imp_right fun other => other.imp_right fun ⟨h, member, isOwn⟩ => ⟨h, List.mem_cons_of_mem g member, isOwn⟩

theorem touches_addToLog (now : Moment) (name : Value) (s : Sheet) :
    Touches d (IsLog d o) (addToLog now o.log name s) := by
  refine touches_orDie fun log asked => touches_onDisk fun before here => ?_
  refine (logCompilation_spares before log now name s).mono fun place isLog => ?_
  exact ⟨log, asked_eq_ok asked, isLog.trans (destination_congr here log)⟩

/-- Building a grid changes its file and the log. -/
theorem touches_buildGrid (d : Disk) (now : Moment) (compiler : Compiler) (o : BatchOptions) (g : Grid) :
    Touches d (fun place => IsLog d o place ∨ IsOutfile d o g place) (buildGrid now compiler o g) := by
  rw [buildGrid_eq]
  refine touches_bind ?_ fun done => touches_keeps (keeps_recordGrid now o g done.1 done.2)
  refine touches_orDie fun _ _ => touches_orDie fun s _ => touches_orDie fun outfile target => touches_bind ?_ fun _ =>
    touches_bind (touches_mono (touches_addToLog now g.name s) fun _ => .inl) fun _ => touches_keeps (keeps_pure _)
  refine touches_onDisk fun before here => (writeSheet_spares before outfile g.format s).mono fun place isOutfile => ?_
  exact .inr ⟨outfile, target, isOutfile.trans (destination_congr here outfile)⟩

/-- Building grids changes the summary, the log and their files. -/
theorem touches_buildAll (d : Disk) (now : Moment) (compiler : Compiler) (o : BatchOptions) (grids : List Grid)
    (a : Appender) :
    Touches d (IsWritten d o a.place grids) (buildAll (buildGrid now compiler o) grids a) := by
  induction grids generalizing a with
  | nil =>
    intro w _
    rw [buildAll_nil]
    exact (flush_spares w.disk a).mono fun _ => .inl
  | cons g rest ih =>
    intro w here
    have builds : Spares (IsWritten d o a.place (g :: rest)) w.disk (left (buildGrid now compiler o g w)).disk :=
      (touches_buildGrid d now compiler o g w here).mono fun place own =>
        .inr (own.imp_right fun isOwn => ⟨g, List.mem_cons_self .., isOwn⟩)
    cases built : buildGrid now compiler o g w with
    | ok record between =>
      rw [built] at builds
      rw [buildAll_more built]
      have adds := add_spares between.disk a record
      have later := ih (a.add between.disk record).2 { between with disk := (a.add between.disk record).1 }
        ((adds.here.trans builds.here).trans here)
      rw [add_place] at later
      exact (builds.trans (adds.mono fun _ => .inl)).trans (later.mono fun _ => isWritten_cons)
    | error ending between =>
      rw [built] at builds
      rw [buildAll_cut built]
      exact builds.trans ((flush_spares between.disk a).mono fun _ => .inl)

end Batch

end TapeSheet.Frames
