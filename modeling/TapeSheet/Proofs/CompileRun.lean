import TapeSheet.Proofs.LogReading
import TapeSheet.Proofs.Phases
import TapeSheet.Proofs.RecordReading

/-!
# What compiling one grid does to the files

A run that ends by itself puts the sheet into its file, adds one line to the log and touches no other file. A run that
dies leaves the text of the log as it was, and where only the log could not be written the file with the sheet is
complete; but one that dies of its last line, which names a path with halves of characters, has written all files
(`compile_run_files`).
-/

namespace TapeSheet.CompileRun
open TapeSheet.Compilation TapeSheet.BlockReading TapeSheet.RecordReading TapeSheet.Files TapeSheet.Sessions
  TapeSheet.Phases TapeSheet.LogReading

/-- What a run is asked for: its options, the grid that they and a document give, its place and its sheet. -/
structure Asks (tokens : List Text) (d : Disk) (o : CompileOptions) (g : Grid) (place : CommandLine.Place)
    (s : Sheet) : Prop where
  parsed : ∃ given, CommandLine.parse CompileOptions.known tokens = .ok given ∧ o = .ofGiven given
  resolved : o.resolve d = .ok g
  target : o.target g = some place
  compiled : compileSheet (.int g.rows) (.int g.cols) (.int g.cap) = .ok s
  noted : s.checkNote = .ok s

/-- The log that is asked for lies at another place than a file, as far as there is one. -/
def Apart (d : Disk) (o : CompileOptions) (outfile : Path) : Prop :=
  o.noLog = true ∨ ∀ log, o.log = .path log → destination d outfile ≠ destination d log

/-- The line that a log gets for a sheet. It is read as what the log keeps, up to how the name is read. -/
structure IsLine (now : Moment) (name : Value) (s : Sheet) (line : String) : Prop where
  made : s.logLine now name = .ok line
  read : ∃ read, logValues? line = some [s.summary now read] ∧ ∀ t, name = .text t → read = .text t

/-- The files after a run that ended by itself: the file of the sheet holds its text, the log its old text and one line
more unless none is wanted, and all other files are as before. -/
structure Leaves (now : Moment) (before after : Disk) (o : CompileOptions) (g : Grid) (outfile : Path) (s : Sheet)
    (text : String) : Prop where
  written : after.read outfile = .ok text
  unlogged : o.noLog = true → Spares (· = destination before outfile) before after
  logged : o.noLog = false → ∃ log line, o.log = .path log ∧ IsLine now g.name s line ∧
    after.read log = .ok (contents before (destination before log) ++ line) ∧
    Spares (fun place => place = destination before outfile ∨ place = destination before log) before after

/-- The files after a run that died: the log, where it is not the file of the sheet, holds its old text, and the file of
the sheet holds the sheet unless writing it is what failed. -/
structure LeavesLog (before after : Disk) (o : CompileOptions) (g : Grid) (outfile : Path) (s : Sheet) : Prop where
  log : ∀ log, o.log = .path log → destination before outfile ≠ destination before log →
    contents after (destination before log) = contents before (destination before log)
  written : ∀ written, before.writeSheet outfile g.format s = (written, .ok ()) →
    ∃ text, s.written g.format = .ok text ∧ after.read outfile = .ok text

/-- What was to be logged behind a written sheet is logged. -/
def Logged (now : Moment) (o : CompileOptions) (g : Grid) (s : Sheet) (written after : Disk) : Prop :=
  o.noLog = true ∧ after = written ∨
    o.noLog = false ∧ ∃ log, o.log = .path log ∧ written.logCompilation log now g.name s = (after, .ok ())

section Run
variable {now : Moment} {tokens : List Text} {w : World} {o : CompileOptions} {g : Grid} {place : CommandLine.Place}
  {s : Sheet}

theorem compile_parts : g.compile = .ok s ↔
    compileSheet (.int g.rows) (.int g.cols) (.int g.cap) = .ok s ∧ s.checkNote = .ok s := by
  unfold Grid.compile compiled
  cases made : compileSheet (.int g.rows) (.int g.cols) (.int g.cap) with
  | error _ => simp [Except.bind]
  | ok sheet =>
    simp only [Except.bind, Except.ok.injEq]
    constructor
    · intro checked
      have same := checkNote_eq_ok checked
      exact ⟨same, same ▸ checked⟩
    · rintro ⟨rfl, checked⟩
      exact checked

/-- The deepest row of a sheet that a run is asked for is one of the first. -/
theorem depth_of_asks {d : Disk} (asks : Asks tokens d o g place s) : Decimal.isWritable s.maxRow = true := by
  have made := asks.compiled
  rw [compileSheet_eq g.rows_pos g.cols_pos g.cap_pos g.cap_le] at made
  rw [← Except.ok.inj made]
  exact sheetOf_depth g.rows g.cols g.cap_le

theorem settled_iff {d : Disk} : settled? tokens d = some (o, g, place, s) ↔ Asks tokens d o g place s := by
  constructor
  · intro settled
    unfold settled? at settled
    split at settled
    · cases settled
    rename_i given parsed
    split at settled
    · cases settled
    rename_i grid target found
    split at settled
    · cases settled
    rename_i sheet made
    cases settled
    unfold CompileOptions.resolveWithTarget at found
    cases resolved : (CompileOptions.ofGiven given).resolve d with
    | error _ => rw [resolved] at found; cases found
    | ok resolvedGrid =>
      rw [resolved] at found
      simp only [bind, Except.bind] at found
      split at found
      · rename_i chosen isTarget
        cases found
        obtain ⟨compiled, noted⟩ := compile_parts.mp made
        exact ⟨⟨given, parsed, rfl⟩, resolved, isTarget, compiled, noted⟩
      · cases found
  · rintro ⟨⟨given, parsed, rfl⟩, resolved, isTarget, compiled, noted⟩
    have found : (CompileOptions.ofGiven given).resolveWithTarget d = .ok (g, place) := by
      unfold CompileOptions.resolveWithTarget
      rw [resolved]
      simp only [bind, Except.bind]
      rw [isTarget]
      rfl
    unfold settled?
    rw [parsed]
    simp only
    rw [found]
    simp only
    rw [compile_parts.mpr ⟨compiled, noted⟩]

theorem keeps_sayWritten (s : Sheet) (outfile : Path) : KeepsFiles (sayWritten s outfile) := by
  unfold sayWritten
  cases s.note with
  | none => exact keeps_bind (keeps_orDie _) fun _ => keeps_say _
  | some note => exact keeps_bind (keeps_warn _) fun _ => keeps_bind (keeps_orDie _) fun _ => keeps_say _

/-- The last line on a compiled sheet is refused only for the halves of characters in it. -/
theorem sayWritten_error (short : Decimal.isWritable s.maxRow = true) {outfile : Path} {ending : Ending} {after : World}
    (cut : sayWritten s outfile w = .error ending after) :
    ∃ line misfit, writtenLine s outfile = .ok line ∧ line.misfit? = some misfit ∧
      ending = .died (.unprintable misfit) := by
  have saying : ∀ {w : World}, (Session.orDie (writtenLine s outfile) >>= Session.say) w = .error ending after →
      ∃ line misfit, writtenLine s outfile = .ok line ∧ line.misfit? = some misfit ∧
        ending = .died (.unprintable misfit) := by
    intro w cut
    obtain spelling | ⟨line, _, spelled, cut⟩ := bind_eq_error cut
    · obtain ⟨fault, refused, _⟩ := orDie_eq_error spelling
      have many := (Decimal.ifWritable_error.mp refused).1
      rw [List.all_cons, short] at many
      cases many
    · obtain ⟨misfit, refused, died, _⟩ := say_eq_error cut
      exact ⟨line, misfit, (orDie_eq_ok spelled).1, refused, died⟩
  unfold sayWritten at cut
  cases isNote : s.note with
  | none =>
    rw [isNote] at cut
    exact saying cut
  | some note =>
    rw [isNote] at cut
    obtain warned | ⟨_, _, _, cut⟩ := bind_eq_error cut
    · cases warned
    · exact saying cut

theorem logAsked_ok {after : World} (done : logAsked now o g s w = .ok () after) :
    Logged now o g s w.disk after.disk := by
  unfold logAsked at done
  cases noLog : o.noLog with
  | true =>
    rw [noLog] at done
    cases done
    exact .inl ⟨noLog, rfl⟩
  | false =>
    rw [noLog] at done
    exact .inr ⟨noLog, addToLog_ok done⟩

theorem logAsked_error {ending : Ending} {after : World} (cut : logAsked now o g s w = .error ending after) :
    o.noLog = false ∧ (after.disk = w.disk ∨
      ∃ log fault, o.log = .path log ∧ w.disk.logCompilation log now g.name s = (after.disk, .error fault)) := by
  unfold logAsked at cut
  cases noLog : o.noLog with
  | true =>
    rw [noLog] at cut
    cases cut
  | false =>
    rw [noLog] at cut
    exact ⟨rfl, addToLog_error cut⟩

theorem writeAndLog_ok {after : World} (done : writeAndLog now o g place s w = .ok () after) :
    ∃ outfile written, place = .path outfile ∧ w.disk.writeSheet outfile g.format s = (written, .ok ()) ∧
      Logged now o g s written after.disk := by
  obtain ⟨outfile, start, named, rest⟩ := bind_eq_ok done
  obtain ⟨asked, rfl⟩ := orDie_eq_ok named
  obtain ⟨_, between, wrote, last⟩ := bind_eq_ok rest
  obtain ⟨_, logged, logging, saying⟩ := bind_eq_ok last
  rw [kept_ok (keeps_sayWritten s outfile) saying]
  exact ⟨outfile, between.disk, asked_eq_ok asked, onDisk_eq_ok wrote, logAsked_ok logging⟩

/-- A run is cut short before its sheet is written, where it is written, where it is logged, or by its last line. -/
theorem writeAndLog_error (short : Decimal.isWritable s.maxRow = true) {ending : Ending} {after : World}
    (cut : writeAndLog now o g place s w = .error ending after) :
    place = .nowhere ∧ after.disk = w.disk ∨
    ∃ outfile, place = .path outfile ∧
      ((∃ fault, w.disk.writeSheet outfile g.format s = (after.disk, .error fault)) ∨
        ∃ written, w.disk.writeSheet outfile g.format s = (written, .ok ()) ∧
          (o.noLog = false ∧ (after.disk = written ∨
            ∃ log fault, o.log = .path log ∧ written.logCompilation log now g.name s = (after.disk, .error fault)) ∨
          ∃ line misfit, writtenLine s outfile = .ok line ∧ line.misfit? = some misfit ∧
            ending = .died (.unprintable misfit) ∧ Logged now o g s written after.disk)) := by
  obtain early | ⟨outfile, start, named, later⟩ := bind_eq_error cut
  · obtain ⟨_, refused, _, rfl⟩ := orDie_eq_error early
    exact .inl ⟨asked_eq_error refused, rfl⟩
  obtain ⟨asked, rfl⟩ := orDie_eq_ok named
  refine .inr ⟨outfile, asked_eq_ok asked, ?_⟩
  obtain writing | ⟨_, between, wrote, last⟩ := bind_eq_error later
  · exact .inl (onDisk_eq_error writing)
  refine .inr ⟨between.disk, onDisk_eq_ok wrote, ?_⟩
  obtain logging | ⟨_, logged, logging, saying⟩ := bind_eq_error last
  · exact .inl (logAsked_error logging)
  obtain ⟨line, misfit, spelled, refused, died⟩ := sayWritten_error short saying
  rw [kept_error (keeps_sayWritten s outfile) saying]
  exact .inr ⟨line, misfit, spelled, refused, died, logAsked_ok logging⟩

theorem isLine_of_made {name : Value} {line : String} (made : s.logLine now name = .ok line) :
    IsLine now name s line := by
  refine ⟨made, ?_⟩
  obtain ⟨body, read, rfl, oneLine, parsed, same⟩ := logLine_read made
  exact ⟨read, @logValues_lines [(body.toList, s.summary now read)] (by simpa using oneLine) (by simpa using parsed)
    (body ++ "\n") (by simp), same⟩

/-- A sheet that was written and logged as asked leaves its files as they are to be. -/
theorem leaves_of_logged {d written after : Disk} {outfile : Path}
    (wrote : d.writeSheet outfile g.format s = (written, .ok ())) (logged : Logged now o g s written after) :
    ∃ text, s.written g.format = .ok text ∧ (Apart d o outfile → Leaves now d after o g outfile s text) := by
  obtain ⟨text, encoded, writes, located, standing⟩ := writeSheet_ok wrote
  refine ⟨text, encoded, fun apart => ?_⟩
  obtain ⟨noLog, rfl⟩ | ⟨hasLog, log, isLog, logged⟩ := logged
  · exact ⟨read_of_file located standing, fun _ => writes, fun hasLog => absurd (noLog.symm.trans hasLog) Bool.noConfusion⟩
  · obtain ⟨_, line, encoded', made, spares, located, logLocated, held⟩ := writeSheet_logged wrote logged
    obtain rfl := Except.ok.inj (encoded'.symm.trans encoded)
    obtain ⟨standing, logStanding⟩ := held ((apart.resolve_left (by simp [hasLog])) log isLog)
    exact ⟨read_of_file located standing, fun noLog => absurd (noLog.symm.trans hasLog) Bool.noConfusion,
      fun _ => ⟨log, line, isLog, isLine_of_made made, read_of_file logLocated logStanding, spares⟩⟩

theorem leaves_of_done {after : World} (done : compileCommand now tokens w = .ok () after) :
    ∃ o g outfile s text, Asks tokens w.disk o g (.path outfile) s ∧ s.written g.format = .ok text ∧
      (Apart w.disk o outfile → Leaves now w.disk after.disk o g outfile s text) := by
  cases settled : settled? tokens w.disk with
  | none =>
    obtain ⟨_, _, refused, _⟩ := compileCommand_refused now settled
    cases refused.symm.trans done
  | some all =>
    obtain ⟨o, g, place, s⟩ := all
    rw [compileCommand_settled settled] at done
    obtain ⟨outfile, written, rfl, wrote, logged⟩ := writeAndLog_ok done
    obtain ⟨text, encoded, leaves⟩ := leaves_of_logged wrote logged
    exact ⟨o, g, outfile, s, text, settled_iff.mp settled, encoded, leaves⟩

theorem untouched_of_died {ending : Ending} {after : World}
    (died : compileCommand now tokens w = .error ending after)
    (nothing : ∀ o g outfile s, ¬ Asks tokens w.disk o g (.path outfile) s) : after.disk = w.disk := by
  cases settled : settled? tokens w.disk with
  | none =>
    obtain ⟨_, _, refused, kept⟩ := compileCommand_refused now settled
    cases refused.symm.trans died
    exact kept
  | some all =>
    obtain ⟨o, g, place, s⟩ := all
    rw [compileCommand_settled settled] at died
    have asks := settled_iff.mp settled
    obtain ⟨_, kept⟩ | ⟨outfile, rfl, _⟩ := writeAndLog_error (depth_of_asks asks) died
    · exact kept
    · exact absurd asks (nothing o g outfile s)

/-- Where a sheet could not be written, or was written and could not be logged, the log is as it was. -/
theorem leavesLog_of_error (now : Moment) {d after : Disk} {outfile : Path} (apart : Apart d o outfile)
    (failed : (∃ fault, d.writeSheet outfile g.format s = (after, .error fault)) ∨
      ∃ written, d.writeSheet outfile g.format s = (written, .ok ()) ∧ o.noLog = false ∧ (after = written ∨
        ∃ log fault, o.log = .path log ∧ written.logCompilation log now g.name s = (after, .error fault))) :
    LeavesLog d after o g outfile s := by
  obtain ⟨fault, failed⟩ | ⟨written, wrote, hasLog, logging⟩ := failed
  · have spares := writeSheet_spares d outfile g.format s
    rw [failed] at spares
    exact ⟨fun log _ different => spares.contents different.symm, fun written wrote => nomatch failed.symm.trans wrote⟩
  obtain ⟨text, encoded, writes, located, standing⟩ := writeSheet_ok wrote
  obtain rfl | ⟨log, cause, isLog, failed⟩ := logging
  · exact ⟨fun log isLog different => writes.contents different.symm,
      fun _ _ => ⟨text, encoded, read_of_file located standing⟩⟩
  have different := apart.resolve_left (by simp [hasLog]) log isLog
  obtain ⟨adds, texts⟩ := logCompilation_error failed
  rw [destination_spares writes] at adds
  -- The log may have been made, but where it is nothing else was written.
  refine ⟨fun other isOther elsewhere => ?_, fun _ _ => ⟨text, encoded, ?_⟩⟩
  · rw [texts, writes.contents elsewhere.symm]
  · exact read_of_file (locate_spares adds located) ((adds.files _ different).trans standing)

theorem leaves_of_died {outfile : Path} (asks : Asks tokens w.disk o g (.path outfile) s) {fault : Fault}
    {after : World} (died : compileCommand now tokens w = .error (.died fault) after) (apart : Apart w.disk o outfile) :
    LeavesLog w.disk after.disk o g outfile s ∨
    ∃ line misfit text, writtenLine s outfile = .ok line ∧ line.misfit? = some misfit ∧ fault = .unprintable misfit ∧
      s.written g.format = .ok text ∧ Leaves now w.disk after.disk o g outfile s text := by
  rw [compileCommand_settled (settled_iff.mpr asks)] at died
  obtain ⟨nowhere, _⟩ | ⟨_, same, rest⟩ := writeAndLog_error (depth_of_asks asks) died
  · cases nowhere
  cases same
  obtain writing | ⟨written, wrote, ⟨hasLog, logging⟩ | ⟨line, misfit, spelled, refused, isFault, logged⟩⟩ := rest
  · exact .inl (leavesLog_of_error now apart (.inl writing))
  · exact .inl (leavesLog_of_error now apart (.inr ⟨written, wrote, hasLog, logging⟩))
  · cases isFault
    obtain ⟨text, encoded, leaves⟩ := leaves_of_logged wrote logged
    exact .inr ⟨line, misfit, text, spelled, refused, rfl, encoded, leaves apart⟩

end Run

/-- A run that ends by itself writes its sheet and, if asked to, one line of the log, if these are different files, and
touches no other file. One that dies while it writes or logs leaves the log as it was, and with it only what it could
not write. One that dies later, of a last line that names a path with halves of characters, has written all. -/
theorem compile_run_files (now : Moment) (tokens : List Text) (w : World) :
    (∀ after, compileCommand now tokens w = .ok () after →
      ∃ o g outfile s text, Asks tokens w.disk o g (.path outfile) s ∧ s.written g.format = .ok text ∧
        (Apart w.disk o outfile → Leaves now w.disk after.disk o g outfile s text)) ∧
    ∀ fault after, compileCommand now tokens w = .error (.died fault) after →
      ((∀ o g outfile s, ¬ Asks tokens w.disk o g (.path outfile) s) → after.disk = w.disk) ∧
      ∀ o g outfile s, Asks tokens w.disk o g (.path outfile) s → Apart w.disk o outfile →
        LeavesLog w.disk after.disk o g outfile s ∨
        ∃ line misfit text, writtenLine s outfile = .ok line ∧ line.misfit? = some misfit ∧ fault = .unprintable misfit ∧
          s.written g.format = .ok text ∧ Leaves now w.disk after.disk o g outfile s text :=
  ⟨fun _ done => leaves_of_done done,
    fun _ _ died => ⟨untouched_of_died died, fun _ _ _ _ asks apart => leaves_of_died asks died apart⟩⟩

/-- A file and a log that are there already, and a directory. -/
def usedFiles : World :=
  ⟨⟨[(["out.css"], .file "old"), (["run.log"], .file "earlier\n"), (["logs"], .directory)], []⟩, "", ""⟩

/-- The tokens for a small grid with a log at a path. -/
def smallGrid (log : String) : List Text :=
  ["--rows", "1", "--cols", "1", "--outfile", "out.css", "--log", Text.ofString log]

/-- The options that tokens give name a file and a log at different places. -/
def namesApart (tokens : List Text) (d : Disk) : Bool :=
  (CommandLine.parse CompileOptions.known tokens).toOption.any fun given =>
    match (CompileOptions.ofGiven given).outfile, (CompileOptions.ofGiven given).log with
    | some (.path outfile), .path log => destination d outfile ≠ destination d log
    | _, _ => false

theorem apart_of_names {tokens : List Text} {d : Disk} {o : CompileOptions} {g : Grid} {outfile : Path} {s : Sheet}
    (names : namesApart tokens d = true) (asks : Asks tokens d o g (.path outfile) s) : Apart d o outfile := by
  obtain ⟨⟨given, parsed, rfl⟩, _, target, _, _⟩ := asks
  unfold namesApart at names
  rw [parsed] at names
  simp only [Except.toOption, Option.any_some] at names
  split at names
  · rename_i own log isOwn isLog
    unfold CompileOptions.target at target
    rw [isOwn] at target
    cases target
    refine .inr fun other isOther => ?_
    rw [isLog] at isOther
    cases isOther
    exact of_decide_eq_true names
  · cases names

theorem asks_of_any {tokens : List Text} {d : Disk}
    (any : (settled? tokens d).any (fun all => all.2.2.1.path?.isSome) = true) :
    ∃ o g outfile s, Asks tokens d o g (.path outfile) s := by
  obtain ⟨⟨o, g, place, s⟩, settled, isPath⟩ := (Option.any_eq_true _ _).mp any
  cases place with
  | path outfile => exact ⟨o, g, outfile, s, settled_iff.mp settled⟩
  | nowhere => cases isPath

/-- A run that dies of a line that is refused. -/
def diesSaying : EStateM.Result Ending World Unit → Bool
  | .error (.died (.unprintable _)) _ => true
  | _ => false

/-- A file that is overwritten and a log that gets a line, and a log that cannot be opened. -/
theorem compile_run_files_used :
    (∃ after, compileCommand newYear (smallGrid "run.log") usedFiles = .ok () after ∧
      ∃ o g outfile s text, Asks (smallGrid "run.log") usedFiles.disk o g (.path outfile) s ∧
        Apart usedFiles.disk o outfile ∧ Leaves newYear usedFiles.disk after.disk o g outfile s text) ∧
    ∃ fault after, compileCommand newYear (smallGrid "logs") usedFiles = .error (.died fault) after ∧
      ∃ o g outfile s, Asks (smallGrid "logs") usedFiles.disk o g (.path outfile) s ∧
        Apart usedFiles.disk o outfile ∧ LeavesLog usedFiles.disk after.disk o g outfile s := by
  constructor
  · have done := @eq_ok_of_answer _ (compileCommand newYear (smallGrid "run.log") usedFiles) () (by decide +kernel)
    obtain ⟨o, g, outfile, s, text, asks, _, leaves⟩ :=
      (compile_run_files newYear (smallGrid "run.log") usedFiles).1 _ done
    have apart := apart_of_names (by decide +kernel) asks
    exact ⟨_, done, o, g, outfile, s, text, asks, apart, leaves apart⟩
  · obtain ⟨fault, died⟩ := @eq_died_of_dies _ (compileCommand newYear (smallGrid "logs") usedFiles) (by decide +kernel)
    obtain ⟨o, g, outfile, s, asks⟩ := @asks_of_any (smallGrid "logs") usedFiles.disk (by decide +kernel)
    have apart := apart_of_names (by decide +kernel) asks
    have early : diesSaying (compileCommand newYear (smallGrid "logs") usedFiles) = false := by decide +kernel
    obtain leaves | ⟨_, _, _, _, _, rfl, _⟩ :=
      ((compile_run_files newYear (smallGrid "logs") usedFiles).2 _ _ died).2 o g outfile s asks apart
    · exact ⟨fault, _, died, o, g, outfile, s, asks, apart, leaves⟩
    · rw [died] at early
      cases early

end TapeSheet.CompileRun
