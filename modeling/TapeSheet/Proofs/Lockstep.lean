import TapeSheet.Proofs.Recording

/-!
# Summary and log in step

A batch adds a line to the log and gathers a record for the summary for each grid that it builds, and neither of them
for the grid that it fails at (`buildGrid_grows`, `buildGrid_stalls`). What is gathered gets to the summary at the end,
whatever the end is, so that the two files then tell of the same grids (`buildAll_balanced`).
-/

namespace TapeSheet.Lockstep
open TapeSheet.Building TapeSheet.CompileRun TapeSheet.Encoding TapeSheet.Files TapeSheet.Frames TapeSheet.Json
  TapeSheet.LogReading TapeSheet.Phases TapeSheet.Recording TapeSheet.Sessions TapeSheet.SheetReading TapeSheet.TableReading

/-! ## What is told of a grid -/

/-- A grid that was built in a batch. -/
structure Built where
  now : Moment
  options : BatchOptions
  grid : Grid

/-- A record of the summary and a value of the log tell of a grid that was built: both its name and its sizes, and the
depth and the number of rules of its sheet. -/
def Tells (b : Built) (row : List Text) (value : Value) : Prop :=
  ∃ s read, compileSheet (.int b.grid.rows) (.int b.grid.cols) (.int b.grid.cap) = .ok s ∧
    s.rows = b.grid.rows ∧ s.cols = b.grid.cols ∧ IsRow b.now b.options b.grid s row ∧
    value = s.summary b.now read ∧ ∀ t, b.grid.name = .text t → read = .text t

/-- A record with the line of the log that belongs to it, and how that is read. -/
structure Mention where
  row : List Text
  line : List Char
  value : Value

/-- A mention is one of a grid, and its record and its line can be read. -/
structure Mention.Of (b : Built) (e : Mention) : Prop where
  tells : Tells b e.row e.value
  whole : ∀ t ∈ e.row, Whole t
  oneLine : '\n' ∉ e.line
  parsed : parse (String.ofList e.line) = some e.value

/-- The characters of a summary. -/
def tableChars (told : List Mention) : List Char :=
  (Summary.header :: told.map (·.row)).flatMap fun row => charsOf (Summary.record row).letters

/-- The characters of a log. -/
def logChars (told : List Mention) : List Char := told.flatMap fun e => e.line ++ ['\n']

theorem tableChars_snoc (told : List Mention) (e : Mention) :
    tableChars (told ++ [e]) = tableChars told ++ charsOf (Summary.record e.row).letters := by
  simp [tableChars]

theorem logChars_snoc (told : List Mention) (e : Mention) :
    logChars (told ++ [e]) = logChars told ++ (e.line ++ ['\n']) := by
  simp [logChars]

/-! ## One grid -/

/-- The file of a grid is neither of two others in the end, and its path is one of those that are looked at. -/
def Fits (allowed : Path → Prop) (last : Disk) (o : BatchOptions) (summary log : Location) (g : Grid) : Prop :=
  ∀ outfile, o.target g = .ok outfile → allowed outfile ∧ last.locate outfile ≠ .ok summary ∧
    last.locate outfile ≠ .ok log

/-- The path of a file has a text. -/
def HasText (outfile : Path) : Prop := Whole outfile.text

section Grids
variable {now : Moment} {o : BatchOptions} {g : Grid} {log : Path} {summary : Location} {changed : Location → Prop}
  {last : Disk} {w after : World}

/-- A grid fails before its file is open, or while that is written, or while it is logged. -/
theorem writeGrid_error {ending : Ending} (cut : writeGrid now compileSheet o g w = .error ending after) :
    Spares nowhere w.disk after.disk ∨
    ∃ s outfile written, o.target g = .ok outfile ∧ Spares (· = destination w.disk outfile) w.disk written ∧
      written.locate outfile = .ok (destination w.disk outfile) ∧
      (after.disk = written ∨
        ∃ log fault, o.log = .path log ∧ written.logCompilation log now g.name s = (after.disk, .error fault)) := by
  obtain compiling | ⟨s, start, compiles, cut⟩ := bind_eq_error cut
  · obtain ⟨_, _, _, rfl⟩ := orDie_eq_error compiling
    exact .inl (.refl ..)
  obtain ⟨compiled, rfl⟩ := orDie_eq_ok compiles
  obtain checking | ⟨checked, start, checks, cut⟩ := bind_eq_error cut
  · obtain ⟨_, _, _, rfl⟩ := orDie_eq_error checking
    exact .inl (.refl ..)
  obtain ⟨isChecked, rfl⟩ := orDie_eq_ok checks
  obtain rfl := checkNote_eq_ok isChecked
  obtain aiming | ⟨outfile, start, aims, cut⟩ := bind_eq_error cut
  · obtain ⟨_, _, _, rfl⟩ := orDie_eq_error aiming
    exact .inl (.refl ..)
  obtain ⟨target, rfl⟩ := orDie_eq_ok aims
  obtain writing | ⟨_, between, writes, cut⟩ := bind_eq_error cut
  · obtain ⟨fault, failed⟩ := onDisk_eq_error writing
    exact (writeSheet_error failed).imp_right fun ⟨_, spares, located, _⟩ =>
      ⟨s, outfile, after.disk, target, spares, located, .inl rfl⟩
  obtain ⟨_, _, spares, located, _⟩ := writeSheet_ok (onDisk_eq_ok writes)
  refine .inr ⟨s, outfile, between.disk, target, spares, located, ?_⟩
  obtain logging | ⟨_, _, _, ends⟩ := bind_eq_error cut
  · exact addToLog_error logging
  · cases ends

/-- A grid that was built adds its line to the log, and its record is the one that belongs to the line. -/
theorem buildGrid_grows {record : String} (done : buildGrid now compileSheet o g w = .ok record after)
    (isLog : o.log = .path log) (apart : summary ≠ destination w.disk log)
    (fits : Fits HasText last o summary (destination w.disk log) g) (later : Spares changed after.disk last) :
    ∃ e : Mention, e.Of ⟨now, o, g⟩ ∧ record.toList = charsOf (Summary.record e.row).letters ∧
      fileText? after.disk summary = fileText? w.disk summary ∧
      (contents after.disk (destination w.disk log)).toList =
        (contents w.disk (destination w.disk log)).toList ++ (e.line ++ ['\n']) := by
  obtain ⟨s, outfile, between, written, recorded, same⟩ := buildGrid_ok done
  obtain ⟨own, sheet, compiled, target, isOwn, wrote, logged⟩ := writeGrid_ok written
  cases isLog.symm.trans isOwn
  obtain ⟨_, line, _, made, spares, located, _, held⟩ := writeSheet_logged wrote logged
  rw [← same] at spares located held
  obtain ⟨path, notSummary, notLog⟩ := fits outfile target
  have leads := locate_spares later located
  obtain ⟨_, standing⟩ := held fun isSame => notLog (leads.trans (congrArg Except.ok isSame))
  obtain ⟨row, text, _, isRow, whole, isText, run⟩ := recordGrid_ok compiled target made path between
  obtain ⟨rfl, rfl⟩ := EStateM.Result.ok.inj (recorded.symm.trans run)
  obtain ⟨body, read, rfl, oneLine, parsed, named⟩ := logLine_read made
  obtain ⟨_, rfl⟩ := written_ok.mp isText
  have sizes := compiled
  rw [Compilation.compileSheet_eq g.rows_pos g.cols_pos g.cap_pos g.cap_le] at sizes
  obtain rfl := Except.ok.inj sizes
  refine ⟨⟨row, body.toList, _⟩, ⟨⟨_, read, compiled, rfl, rfl, isRow, rfl, named⟩, whole, oneLine, ?_⟩, ?_, ?_, ?_⟩
  · rw [String.ofList_toList]
    exact parsed
  · rw [String.toList_ofList]
  · refine spares.files summary ?_
    rintro (isOutfile | isLogPlace)
    · exact notSummary (leads.trans (congrArg Except.ok isOutfile.symm))
    · exact apart isLogPlace
  · rw [contents, standing, Option.getD_some, String.toList_append, String.toList_append]
    rfl

/-- A grid that a batch fails at changes neither the summary nor what the log holds. -/
theorem buildGrid_stalls {ending : Ending} (cut : buildGrid now compileSheet o g w = .error ending after)
    (isLog : o.log = .path log) (apart : summary ≠ destination w.disk log)
    (fits : Fits HasText last o summary (destination w.disk log) g) (later : Spares changed after.disk last) :
    fileText? after.disk summary = fileText? w.disk summary ∧
      contents after.disk (destination w.disk log) = contents w.disk (destination w.disk log) := by
  rw [buildGrid_eq] at cut
  obtain writing | ⟨⟨s, outfile⟩, between, written, recording⟩ := bind_eq_error cut
  · obtain spares | ⟨s, outfile, sheet, target, writes, located, ends⟩ := writeGrid_error writing
    · exact ⟨spares.files summary id, spares.contents id⟩
    obtain ⟨_, notSummary, notLog⟩ := fits outfile target
    have logs : Spares (· = destination sheet log) sheet after.disk ∧
        ∀ place, contents after.disk place = contents sheet place := by
      obtain kept | ⟨own, fault, isOwn, failed⟩ := ends
      · rw [kept]
        exact ⟨.refl .., fun _ => rfl⟩
      · cases isLog.symm.trans isOwn
        exact logCompilation_error failed
    obtain ⟨adds, texts⟩ := logs
    have leads := locate_spares later (locate_spares adds located)
    have spared : ∀ place, last.locate outfile ≠ .ok place → ¬ place = destination w.disk outfile := by
      rintro place notPlace rfl
      exact notPlace leads
    rw [destination_spares writes] at adds
    exact ⟨(adds.files summary apart).trans (writes.files summary (spared summary notSummary)),
      (texts _).trans (writes.contents (spared _ notLog))⟩
  · -- What was logged is recorded, so the grid cannot fail here.
    obtain ⟨_, _, compiled, target, _, wrote, logged⟩ := writeGrid_ok written
    obtain ⟨_, _, _, made, _⟩ := writeSheet_logged wrote logged
    obtain ⟨_, _, _, _, _, _, run⟩ := recordGrid_ok compiled target made (fits outfile target).1 between
    cases run.symm.trans recording

end Grids

/-! ## One batch -/

/-- While a batch is built, the summary and what is gathered for it tell of the same grids as the log. -/
structure Tally (d : Disk) (summary log : Location) (gathered : String) (built : List Built) (told : List Mention) :
    Prop where
  tells : List.Forall₂ Mention.Of built told
  table : ∃ text, fileText? d summary = some text ∧ (text ++ gathered).toList = tableChars told
  log : (contents d log).toList = logChars told

/-- Between runs the summary tells of the same grids as the log. There need not be a summary if there are no grids. -/
structure Balanced (d : Disk) (summary log : Location) (built : List Built) (told : List Mention) : Prop where
  tells : List.Forall₂ Mention.Of built told
  table : fileText? d summary = none ∧ told = [] ∨
    ∃ text, fileText? d summary = some text ∧ text.toList = tableChars told
  log : (contents d log).toList = logChars told

section Tallies
variable {d after : Disk} {summary log : Location} {gathered record : String} {built : List Built} {told : List Mention}
  {a : Appender}

theorem balanced_congr (balanced : Balanced d summary log built told)
    (same : fileText? after summary = fileText? d summary) (kept : contents after log = contents d log) :
    Balanced after summary log built told where
  tells := balanced.tells
  table := by
    rw [same]
    exact balanced.table
  log := by
    rw [kept]
    exact balanced.log

theorem tally_congr (tally : Tally d summary log gathered built told)
    (same : fileText? after summary = fileText? d summary) (kept : contents after log = contents d log) :
    Tally after summary log gathered built told where
  tells := tally.tells
  table := by
    rw [same]
    exact tally.table
  log := by
    rw [kept]
    exact tally.log

/-- A grid is told of in the log and in what is gathered. -/
theorem tally_grows {b : Built} {e : Mention} (tally : Tally d summary log gathered built told) (own : e.Of b)
    (isRecord : record.toList = charsOf (Summary.record e.row).letters)
    (same : fileText? after summary = fileText? d summary)
    (grown : (contents after log).toList = (contents d log).toList ++ (e.line ++ ['\n'])) :
    Tally after summary log (gathered ++ record) (built ++ [b]) (told ++ [e]) where
  tells := List.rel_append tally.tells (.cons own .nil)
  table := by
    obtain ⟨text, standing, chars⟩ := tally.table
    refine ⟨text, same.trans standing, ?_⟩
    rw [← String.append_assoc, String.toList_append, chars, isRecord, tableChars_snoc]
  log := by rw [grown, tally.log, logChars_snoc]

/-- Adding what is gathered to the summary leaves the log. -/
theorem tally_flush (tally : Tally d a.place log a.gathered built told) (apart : a.place ≠ log) :
    Tally (a.flush d).1 a.place log "" built told where
  tells := tally.tells
  table := by
    obtain ⟨text, standing, chars⟩ := tally.table
    refine ⟨text ++ a.gathered, append_file standing a.gathered, ?_⟩
    rw [String.append_empty]
    exact chars
  log := by
    rw [(flush_spares d a).contents apart.symm]
    exact tally.log

theorem tally_add (tally : Tally d a.place log (a.gathered ++ record) built told) (apart : a.place ≠ log) :
    Tally (a.add d record).1 a.place log (a.add d record).2.gathered built told := by
  unfold Appender.add
  simp only
  split
  · exact @tally_flush d log built told { a with gathered := a.gathered ++ record } tally apart
  · exact tally

theorem balanced_of_tally (tally : Tally d summary log "" built told) : Balanced d summary log built told where
  tells := tally.tells
  table := by
    obtain ⟨text, standing, chars⟩ := tally.table
    rw [String.append_empty] at chars
    exact .inr ⟨text, standing, chars⟩
  log := tally.log

end Tallies

/-- The grids of a batch that are built before one fails. -/
def processed (build : Grid → Session String) : List Grid → Appender → World → List Grid
  | [], _, _ => []
  | g :: rest, a, w =>
    match build g w with
    | .ok record between =>
      g :: processed build rest (a.add between.disk record).2 { between with disk := (a.add between.disk record).1 }
    | .error .. => []

section Batches
variable {now : Moment} {o : BatchOptions} {log : Path} {d : Disk} {a : Appender} {w : World} {built : List Built}
  {told : List Mention}

theorem buildAll_balanced {grids : List Grid} (tally : Tally w.disk a.place (destination d log) a.gathered built told)
    (here : w.disk.here = d.here) (isLog : o.log = .path log) (apart : a.place ≠ destination d log)
    (fits : ∀ g ∈ grids, Fits HasText (left (buildAll (buildGrid now compileSheet o) grids a w)).disk o a.place
      (destination d log) g) :
    ∃ told, Balanced (left (buildAll (buildGrid now compileSheet o) grids a w)).disk a.place (destination d log)
      (built ++ (processed (buildGrid now compileSheet o) grids a w).map (Built.mk now o)) told := by
  induction grids generalizing a w built told with
  | nil =>
    rw [buildAll_nil, processed, List.map_nil, List.append_nil]
    exact ⟨told, balanced_of_tally (tally_flush tally apart)⟩
  | cons g rest ih =>
    have own := fits g (List.mem_cons_self ..)
    rw [← destination_congr here log] at own apart tally ⊢
    cases run : buildGrid now compileSheet o g w with
    | error ending between =>
      rw [buildAll_cut run] at own ⊢
      rw [processed, run, List.map_nil, List.append_nil]
      obtain ⟨same, kept⟩ := buildGrid_stalls run isLog apart own (flush_spares between.disk a)
      exact ⟨told, balanced_of_tally (tally_flush (tally_congr tally same kept) apart)⟩
    | ok record between =>
      have builds := touches_buildGrid d now compileSheet o g w here
      rw [run] at builds
      have adds := add_spares between.disk a record
      have there := adds.here.trans (builds.here.trans here)
      have follows := touches_buildAll d now compileSheet o rest (a.add between.disk record).2
        { between with disk := (a.add between.disk record).1 } there
      rw [add_place] at follows
      have later : Spares (IsWritten d o a.place rest) between.disk _ := (adds.mono fun _ => .inl).trans follows
      rw [buildAll_more run] at own fits ⊢
      obtain ⟨e, isMention, isRecord, same, grown⟩ := buildGrid_grows run isLog apart own later
      have more := tally_add (tally_grows tally isMention isRecord same grown) apart
      rw [destination_congr here log] at more apart ⊢
      rw [← add_place between.disk a record] at more apart fits ⊢
      have step := ih more there apart fun h member => fits h (List.mem_cons_of_mem g member)
      rw [List.append_assoc] at step
      rw [processed, run, List.map_cons]
      exact step

/-- An opened summary and the log tell of the same grids as before. -/
theorem openSummary_tally {results : Path} {opened : World} (opens : openSummary o w = .ok a opened)
    (isResults : o.resultDirectory = .path results)
    (balanced : Balanced w.disk (destination w.disk (summaryPath results)) (destination w.disk log) built told)
    (apart : destination w.disk (summaryPath results) ≠ destination w.disk log) :
    a.place = destination w.disk (summaryPath results) ∧ opened.disk.here = w.disk.here ∧
      Tally opened.disk a.place (destination w.disk log) a.gathered built told := by
  obtain ⟨own, isOwn, isPlace, spares, _, standing, gathered⟩ := openSummary_ok opens
  cases isResults.symm.trans isOwn
  rw [← isPlace] at balanced apart
  refine ⟨isPlace, spares.here, balanced.tells, ⟨_, standing, ?_⟩, ?_⟩
  · obtain ⟨absent, nothing⟩ | ⟨text, there, chars⟩ := balanced.table
    · rw [gathered, contents, absent, nothing]
      have isHeader := (written_ok.mp header_written).2
      rw [isHeader]
      simp [tableChars]
    · rw [gathered, contents, there]
      simpa using chars
  · rw [spares.contents apart.symm]
    exact balanced.log

theorem openSummary_error {ending : Ending} {after : World} (cut : openSummary o w = .error ending after) :
    Spares nowhere w.disk after.disk := by
  obtain naming | ⟨results, start, named, cut⟩ := bind_eq_error cut
  · obtain ⟨_, _, _, rfl⟩ := orDie_eq_error naming
    exact .refl ..
  obtain ⟨_, rfl⟩ := orDie_eq_ok named
  have above := makeDirectories_spares w.disk results
  obtain making | ⟨_, made, makes, cut⟩ := bind_eq_error cut
  · obtain ⟨fault, failed⟩ := onDisk_eq_error making
    rwa [failed] at above
  rw [onDisk_eq_ok makes] at above
  obtain looking | ⟨d, same, look, cut⟩ := bind_eq_error cut
  · cases looking
  cases look
  obtain holding | ⟨held, start, holds, cut⟩ := bind_eq_error cut
  · obtain ⟨_, _, _, rfl⟩ := orDie_eq_error holding
    exact above
  obtain ⟨_, rfl⟩ := orDie_eq_ok holds
  have opens : ∀ header : String, (openForAdding (summaryPath results) >>= fun place =>
      (pure ⟨place, header⟩ : Session Appender)) made = .error ending after → Spares nowhere w.disk after.disk := by
    intro header run
    obtain opening | ⟨_, _, _, ends⟩ := bind_eq_error run
    · rw [openForAdding_error opening]
      exact above
    · cases ends
  cases held with
  | true => exact opens "" cut
  | false =>
    obtain heading | ⟨header, start, written, cut⟩ := bind_eq_error cut
    · obtain ⟨_, _, _, rfl⟩ := orDie_eq_error heading
      exact above
    obtain ⟨_, rfl⟩ := orDie_eq_ok written
    exact opens header cut

end Batches

end TapeSheet.Lockstep
