import TapeSheet.Command.Session
import TapeSheet.Proofs.Encoding

/-!
# Parts of programs

A program is put together from parts that end by themselves or cut it short. Two things go through all of them: a part
may leave the files as they are, whatever its end is (`KeepsFiles`), and it may be one that cuts the program short only
by a fault, never with a status (`NeverExits`).
-/

namespace TapeSheet.Sessions
open TapeSheet.Encoding

/-- The world that a part of a program leaves, whatever its end is. -/
def left {α : Type} : EStateM.Result Ending World α → World
  | .ok _ w => w
  | .error _ w => w

/-- A part of a program leaves the files as they are. -/
def KeepsFiles {α : Type} (part : Session α) : Prop := ∀ w, (left (part w)).disk = w.disk

/-- A part of a program ends by itself or by a fault. -/
def NeverExits {α : Type} (part : Session α) : Prop :=
  ∀ w ending after, part w = .error ending after → ∃ fault, ending = .died fault

/-- The status that an end has. -/
def status? : Ending → Option Nat
  | .exit status => some status
  | .died _ => none

theorem exit_of_status {ending : Ending} {status : Nat} (has : status? ending = some status) :
    ending = .exit status := by
  cases ending with
  | exit own => rw [Option.some.inj has]
  | died _ => cases has

/-- What a part of a program answers if it ends by itself. -/
def answer? {α : Type} : EStateM.Result Ending World α → Option α
  | .ok a _ => some a
  | .error .. => none

theorem eq_ok_of_answer {α : Type} {result : EStateM.Result Ending World α} {a : α}
    (answers : answer? result = some a) : result = .ok a (left result) := by
  cases result with
  | ok b w => rw [← Option.some.inj answers]; rfl
  | error _ _ => cases answers

/-- A part of a program is cut short by a fault. -/
def dies {α : Type} : EStateM.Result Ending World α → Bool
  | .error (.died _) _ => true
  | _ => false

theorem eq_died_of_dies {α : Type} {result : EStateM.Result Ending World α} (died : dies result = true) :
    ∃ fault, result = .error (.died fault) (left result) := by
  match result, died with
  | .error (.died fault) w, _ => exact ⟨fault, rfl⟩

/-- A world with one file in its working directory, before anything was said. -/
def worldWith (name text : String) : World := ⟨⟨[([.ofString name], .file text)], []⟩, "", ""⟩

/-- A moment for programs to run at. -/
def newYear : Moment := ⟨⟨2000, 1, 1⟩, 0, 0, 0, 0, none⟩

section Parts
variable {α β : Type} {part : Session α} {next : α → Session β} {w : World}

theorem bind_apply (part : Session α) (next : α → Session β) (w : World) :
    (part >>= next) w = match part w with
      | .ok a after => next a after
      | .error ending after => .error ending after := by
  change EStateM.bind part next w = _
  unfold EStateM.bind
  cases part w <;> rfl

theorem outcome_world (program : Session Unit) (w : World) : (program.outcome w).2 = left (program w) := by
  unfold Session.outcome
  cases program w <;> rfl

/-- A program that never exits ends with no status but zero. -/
theorem status_eq_zero {program : Session Unit} (never : NeverExits program) {status : Nat}
    (ended : (program.outcome w).1 = .exit status) : status = 0 := by
  unfold Session.outcome at ended
  cases run : program w with
  | ok _ after =>
    rw [run] at ended
    cases ended
    rfl
  | error ending after =>
    obtain ⟨fault, rfl⟩ := never w ending after run
    rw [run] at ended
    cases ended

theorem outcome_congr {program other : Session Unit} {before : World} (same : program w = other before) :
    program.outcome w = other.outcome before := by
  unfold Session.outcome
  rw [same]

/-! ## What parts do -/

theorem disk_apply (w : World) : Session.disk w = .ok w.disk w := rfl

theorem say_ok {line : Text} (whole : Whole line) (w : World) :
    Session.say line w = .ok () { w with out := w.out ++ (line ++ Text.ofString "\n") } := by
  unfold Session.say
  rw [misfit_none.mpr whole]
  rfl

/-- A line with halves of characters ends the program, and nothing of it is written. -/
theorem say_error {line : Text} {misfit : Text.Misfit} (refused : line.misfit? = some misfit) (w : World) :
    Session.say line w = .error (.died (.unprintable misfit)) w := by
  unfold Session.say
  rw [refused]
  rfl

theorem orDie_ok (a : α) (w : World) : Session.orDie (.ok a) w = .ok a w := rfl

theorem orReport_ok (a : α) (w : World) : Session.orReport (.ok a) w = .ok a w := rfl

/-- A fault that is reported, with a message or not, ends the program, and the files stay. -/
theorem orReport_error (fault : Fault) (w : World) :
    ∃ ending after, (Session.orReport (.error fault) : Session α) w = .error ending after ∧ after.disk = w.disk := by
  simp only [Session.orReport]
  cases fault.reported with
  | config fault => exact ⟨_, _, rfl, rfl⟩
  | _ => exact ⟨_, _, rfl, rfl⟩

theorem onDisk_apply (request : Disk → Disk × Except Fault α) (w : World) :
    Session.onDisk request w = match request w.disk with
      | (after, .ok a) => .ok a { w with disk := after }
      | (after, .error fault) => .error (.died fault.reported) { w with disk := after } := by
  unfold Session.onDisk
  rw [bind_apply, disk_apply]
  simp only
  match request w.disk with
  | (after, .ok a) => rfl
  | (after, .error fault) => rfl

theorem options_ok {program : String} {known : List CommandLine.Opt} {tokens : List Text}
    {given : List (String × CommandLine.Argument)} (parsed : CommandLine.parse known tokens = .ok given) (w : World) :
    Session.options program known tokens w = .ok given w := by
  unfold Session.options
  rw [parsed]
  rfl

/-- A refused command line ends the program, and the files stay. -/
theorem options_error (program : String) {known : List CommandLine.Opt} {tokens : List Text}
    {refusal : CommandLine.Refusal} (refused : CommandLine.parse known tokens = .error refusal) (w : World) :
    ∃ ending after, Session.options program known tokens w = .error ending after ∧ after.disk = w.disk := by
  unfold Session.options
  rw [refused]
  cases refusal with
  | help => exact ⟨_, _, rfl, rfl⟩
  | _ => exact ⟨_, _, rfl, rfl⟩

/-! ## What their ends tell -/

theorem bind_eq_ok {b : β} {after : World} (done : (part >>= next) w = .ok b after) :
    ∃ a between, part w = .ok a between ∧ next a between = .ok b after := by
  rw [bind_apply] at done
  cases run : part w with
  | ok a between =>
    rw [run] at done
    exact ⟨a, between, rfl, done⟩
  | error ending between =>
    rw [run] at done
    cases done

theorem bind_eq_error {ending : Ending} {after : World} (cut : (part >>= next) w = .error ending after) :
    part w = .error ending after ∨ ∃ a between, part w = .ok a between ∧ next a between = .error ending after := by
  rw [bind_apply] at cut
  cases run : part w with
  | ok a between =>
    rw [run] at cut
    exact .inr ⟨a, between, rfl, cut⟩
  | error earlier between =>
    rw [run] at cut
    cases cut
    exact .inl rfl

theorem orDie_eq_ok {result : Except Fault α} {a : α} {after : World}
    (done : Session.orDie result w = .ok a after) : result = .ok a ∧ w = after := by
  cases result with
  | ok _ =>
    cases done
    exact ⟨rfl, rfl⟩
  | error _ => cases done

theorem orDie_eq_error {result : Except Fault α} {ending : Ending} {after : World}
    (died : Session.orDie result w = .error ending after) :
    ∃ fault, result = .error fault ∧ ending = .died fault.reported ∧ w = after := by
  cases result with
  | ok _ => cases died
  | error fault =>
    cases died
    exact ⟨fault, rfl, rfl, rfl⟩

theorem say_eq_error {line : Text} {ending : Ending} {after : World}
    (died : Session.say line w = .error ending after) :
    ∃ misfit, line.misfit? = some misfit ∧ ending = .died (.unprintable misfit) ∧ w = after := by
  cases refused : line.misfit? with
  | none =>
    rw [say_ok (misfit_none.mp refused)] at died
    cases died
  | some misfit =>
    rw [say_error refused] at died
    cases died
    exact ⟨misfit, rfl, rfl, rfl⟩

theorem onDisk_eq_ok {request : Disk → Disk × Except Fault α} {a : α} {after : World}
    (done : Session.onDisk request w = .ok a after) : request w.disk = (after.disk, .ok a) := by
  rw [onDisk_apply] at done
  split at done
  · rename_i changed result made
    cases done
    exact made
  · cases done

theorem onDisk_eq_error {request : Disk → Disk × Except Fault α} {ending : Ending} {after : World}
    (died : Session.onDisk request w = .error ending after) :
    ∃ fault, request w.disk = (after.disk, .error fault) := by
  rw [onDisk_apply] at died
  split at died
  · cases died
  · rename_i changed fault made
    cases died
    exact ⟨fault, made⟩

theorem asked_eq_ok {place : CommandLine.Place} {part : String} {p : Path} (asked : place.asked part = .ok p) :
    place = .path p := by
  cases place with
  | path _ =>
    cases asked
    rfl
  | nowhere => cases asked

theorem asked_eq_error {place : CommandLine.Place} {part : String} {fault : Fault}
    (refused : place.asked part = .error fault) : place = .nowhere := by
  cases place with
  | path _ => cases refused
  | nowhere => rfl

/-! ## Parts that keep the files -/

theorem keeps_pure (a : α) : KeepsFiles (pure a : Session α) := fun _ => rfl

theorem keeps_bind (first : KeepsFiles part) (second : ∀ a, KeepsFiles (next a)) : KeepsFiles (part >>= next) := by
  intro w
  have kept := first w
  rw [bind_apply]
  cases run : part w with
  | ok a after =>
    rw [run] at kept
    exact (second a after).trans kept
  | error ending after =>
    rw [run] at kept
    exact kept

theorem kept_ok (keeps : KeepsFiles part) {a : α} {after : World} (done : part w = .ok a after) :
    after.disk = w.disk := by
  have kept := keeps w
  rw [done] at kept
  exact kept

theorem kept_error (keeps : KeepsFiles part) {ending : Ending} {after : World} (cut : part w = .error ending after) :
    after.disk = w.disk := by
  have kept := keeps w
  rw [cut] at kept
  exact kept

theorem keeps_say (line : Text) : KeepsFiles (Session.say line) := by
  intro w
  cases refused : line.misfit? with
  | none => rw [say_ok (misfit_none.mp refused)]; rfl
  | some misfit => rw [say_error refused]; rfl

theorem keeps_warn (line : Text) : KeepsFiles (Session.warn line) := fun _ => rfl

theorem keeps_fail (message : Text) : KeepsFiles (Session.fail message : Session α) := fun _ => rfl

theorem keeps_orDie (result : Except Fault α) : KeepsFiles (Session.orDie result) := by
  intro w
  cases result <;> rfl

theorem keeps_orReport (result : Except Fault α) : KeepsFiles (Session.orReport result) := by
  intro w
  cases result with
  | ok a => rfl
  | error fault =>
    obtain ⟨ending, after, run, kept⟩ := orReport_error (α := α) fault w
    rw [run]
    exact kept

theorem keeps_options (program : String) (known : List CommandLine.Opt) (tokens : List Text) :
    KeepsFiles (Session.options program known tokens) := by
  intro w
  cases parsed : CommandLine.parse known tokens with
  | ok given =>
    rw [options_ok parsed]
    rfl
  | error refusal =>
    obtain ⟨ending, after, run, kept⟩ := options_error program parsed w
    rw [run]
    exact kept

theorem keeps_mapM {f : α → Session β} (each : ∀ a, KeepsFiles (f a)) (items : List α) :
    KeepsFiles (items.mapM f) := by
  induction items with
  | nil => exact keeps_pure []
  | cons a items ih =>
    rw [List.mapM_cons]
    exact keeps_bind (each a) fun b => keeps_bind ih fun rest => keeps_pure (b :: rest)

theorem keeps_forM {f : α → Session PUnit} (each : ∀ a, KeepsFiles (f a)) (items : List α) :
    KeepsFiles (items.forM f) := by
  induction items with
  | nil => exact keeps_pure _
  | cons a items ih => exact keeps_bind (each a) fun _ => ih

/-! ## Parts that never exit -/

theorem never_pure (a : α) : NeverExits (pure a : Session α) := by
  intro w ending after run
  cases run

theorem never_bind (first : NeverExits part) (second : ∀ a, NeverExits (next a)) : NeverExits (part >>= next) := by
  intro w ending after run
  rw [bind_apply] at run
  cases ran : part w with
  | ok a between =>
    rw [ran] at run
    exact second a between ending after run
  | error cut between =>
    rw [ran] at run
    cases run
    exact first w _ _ ran

theorem never_say (line : Text) : NeverExits (Session.say line) := by
  intro w ending after run
  obtain ⟨misfit, _, rfl, _⟩ := say_eq_error run
  exact ⟨_, rfl⟩

theorem never_warn (line : Text) : NeverExits (Session.warn line) := by
  intro w ending after run
  cases run

theorem never_disk : NeverExits Session.disk := by
  intro w ending after run
  cases run

theorem never_orDie (result : Except Fault α) : NeverExits (Session.orDie result) := by
  intro w ending after run
  cases result with
  | ok a => cases run
  | error fault =>
    cases run
    exact ⟨_, rfl⟩

theorem never_onDisk (request : Disk → Disk × Except Fault α) : NeverExits (Session.onDisk request) := by
  intro w ending after run
  rw [onDisk_apply] at run
  split at run
  · cases run
  · cases run
    exact ⟨_, rfl⟩

end Parts

end TapeSheet.Sessions
