import TapeSheet.BuildFiles

/-!
# Files after writing

No request loses a directory, so a path that leads to a place goes on leading there (`locate_spares`), and each request
spares all files but the one that it is about (`Spares`). A sheet that was put into a file is there in its written form
(`read_writeSheet`), a log that got a line holds its old text in front of it (`logCompilation_ok`), and a log that could
not get one holds what it held (`logCompilation_error`).
-/

namespace TapeSheet.Files

theorem lookup_cons_eq (old : Location × Entry) (entries : List (Location × Entry)) (place : Location) :
    (old :: entries).lookup place = if place = old.1 then some old.2 else entries.lookup place := by
  obtain ⟨held, entry⟩ := old
  rw [List.lookup_cons]
  by_cases same : place = held
  · rw [beq_iff_eq.mpr same, if_pos same]
  · rw [beq_false_of_ne same, if_neg same]

theorem lookup_setEntry (place : Location) (entry : Entry) (entries : List (Location × Entry)) (other : Location) :
    (Disk.setEntry place entry entries).lookup other = if other = place then some entry else entries.lookup other := by
  induction entries with
  | nil => rw [Disk.setEntry, lookup_cons_eq]
  | cons old rest ih =>
    rw [Disk.setEntry]
    by_cases same : old.1 = place
    · rw [if_pos same, lookup_cons_eq, lookup_cons_eq, same]
      by_cases here : other = place
      · rw [if_pos here, if_pos here]
      · rw [if_neg here, if_neg here, if_neg here]
    · rw [if_neg same, lookup_cons_eq, lookup_cons_eq, ih]
      by_cases here : other = old.1
      · rw [if_pos here, if_pos here, if_neg (fun isPlace => same (here.symm.trans isPlace))]
      · rw [if_neg here, if_neg here]

theorem entry_set (d : Disk) (place : Location) (entry : Entry) {other : Location} (notRoot : other ≠ []) :
    Disk.entry? (d.set place entry) other = if other = place then some entry else d.entry? other := by
  unfold Disk.entry?
  rw [if_neg notRoot, if_neg notRoot, Disk.set, lookup_setEntry]

theorem entry_set_other (d : Disk) {place : Location} (entry : Entry) {other : Location} (different : other ≠ place) :
    Disk.entry? (d.set place entry) other = d.entry? other := by
  by_cases root : other = []
  · unfold Disk.entry?
    rw [if_pos root, if_pos root]
  · rw [entry_set d place entry root, if_neg different]

theorem notRoot_of_noDirectory {d : Disk} {place : Location} (noDirectory : d.entry? place ≠ some .directory) :
    place ≠ [] := by
  rintro rfl
  exact noDirectory rfl

/-! ## What is spared -/

/-- The text of the file at a place, if one stands there. -/
def fileText? (d : Disk) (place : Location) : Option String :=
  match d.entry? place with
  | some (.file text) => some text
  | _ => none

/-- What the file at a place holds; where there is no file this is nothing. -/
def contents (d : Disk) (place : Location) : String := (fileText? d place).getD ""

/-- A tree after changes that keep all directories and all files but those at some places. -/
structure Spares (changed : Location → Prop) (before after : Disk) : Prop where
  here : after.here = before.here
  directories : ∀ place, before.entry? place = some .directory → after.entry? place = some .directory
  files : ∀ place, ¬ changed place → fileText? after place = fileText? before place

/-- The places of which none is changed. -/
def nowhere (_ : Location) : Prop := False

theorem Spares.refl (changed : Location → Prop) (d : Disk) : Spares changed d d := ⟨rfl, fun _ is => is, fun _ _ => rfl⟩

section Spares
variable {changed more : Location → Prop} {before between after d : Disk} {place : Location}

theorem Spares.trans (first : Spares changed before between) (second : Spares changed between after) :
    Spares changed before after where
  here := second.here.trans first.here
  directories := fun place is => second.directories place (first.directories place is)
  files := fun place spared => (second.files place spared).trans (first.files place spared)

theorem Spares.mono (spares : Spares changed before after) (le : ∀ place, changed place → more place) :
    Spares more before after where
  here := spares.here
  directories := spares.directories
  files := fun place spared => spares.files place fun isChanged => spared (le place isChanged)

/-- Where nothing is changed, every file keeps its text. -/
theorem Spares.everywhere (spares : Spares nowhere before after) : Spares changed before after :=
  spares.mono fun _ => False.elim

theorem Spares.contents (spares : Spares changed before after) (spared : ¬ changed place) :
    contents after place = contents before place := by
  rw [Files.contents, Files.contents, spares.files place spared]

theorem fileText_of_file {text : String} (standing : d.entry? place = some (.file text)) :
    fileText? d place = some text := by
  rw [fileText?, standing]

theorem fileText_set (d : Disk) {place : Location} (notRoot : place ≠ []) (text : String) :
    fileText? (d.set place (.file text)) place = some text :=
  fileText_of_file ((entry_set d place _ notRoot).trans (if_pos rfl))

theorem set_file_spares (noDirectory : d.entry? place ≠ some .directory) (text : String) :
    Spares (· = place) d (d.set place (.file text)) where
  here := rfl
  directories := by
    intro other is
    have different : other ≠ place := fun same => noDirectory (same ▸ is)
    rw [entry_set_other d _ different, is]
  files := by
    intro other different
    rw [fileText?, fileText?, entry_set_other d _ different]

theorem set_directory_spares (free : d.entry? place = none) : Spares nowhere d (d.set place .directory) := by
  have noDirectory : d.entry? place ≠ some .directory := by simp [free]
  constructor
  · rfl
  · intro other is
    have different : other ≠ place := fun same => noDirectory (same ▸ is)
    rw [entry_set_other d _ different, is]
  · intro other _
    by_cases same : other = place
    · rw [fileText?, fileText?, same, entry_set d place _ (notRoot_of_noDirectory noDirectory), if_pos rfl, free]
    · rw [fileText?, fileText?, entry_set_other d _ same]

end Spares

/-! ## Paths -/

section Paths
variable {changed : Location → Prop} {before after d : Disk} {p : Path} {place : Location}

/-- All places on a way are directories, so the way stays. -/
theorem follow_spares (spares : Spares changed before after) (names : List Text) {start reached : Location}
    (way : before.follow start names = .ok reached) : after.follow start names = .ok reached := by
  induction names generalizing start with
  | nil => exact way
  | cons name rest ih =>
    rw [Disk.follow] at way ⊢
    cases standing : before.entry? start with
    | none => rw [standing] at way; cases way
    | some found =>
      rw [standing] at way
      cases found with
      | file text => cases way
      | directory =>
        rw [spares.directories start standing]
        simp only at way ⊢
        split at way
        · cases way
        · rw [if_neg ‹_›]
          exact ih way

theorem locate_spares (spares : Spares changed before after) (located : before.locate p = .ok place) :
    after.locate p = .ok place := by
  unfold Disk.locate at located ⊢
  have start : after.start p.anchor = before.start p.anchor := by
    unfold Disk.start
    rw [spares.here]
  cases misfit : p.misfit? with
  | some _ => rw [misfit] at located; cases located
  | none =>
    rw [misfit] at located
    simp only at located ⊢
    split at located
    · cases located
    · rw [if_neg ‹_›]
      split at located
      · cases located
      · rw [if_neg ‹_›]
        cases way : before.follow (before.start p.anchor) p.names with
        | error obstacle => rw [way] at located; cases located
        | ok reached =>
          rw [way] at located
          rw [start, follow_spares spares p.names way]
          exact located

theorem read_of_file {text : String} (located : d.locate p = .ok place) (standing : fileText? d place = some text) :
    d.read p = .ok text := by
  unfold fileText? at standing
  rw [Disk.read, located]
  simp only
  split at standing
  · rename_i found entry
    rw [entry]
    exact congrArg Except.ok (Option.some.inj standing)
  · cases standing

/-- The place that names lead to from another one, if all places on the way are directories. -/
def goal (start : Location) (names : List Text) : Location :=
  names.foldl (fun place name => if name = Text.ofString ".." then place.dropLast else place ++ [name]) start

/-- The place that a path leads to if it leads anywhere. -/
def destination (d : Disk) (p : Path) : Location := goal (d.start p.anchor) p.names

theorem follow_goal {start reached : Location} (names : List Text) (way : d.follow start names = .ok reached) :
    reached = goal start names := by
  induction names generalizing start with
  | nil => exact (Except.ok.inj way).symm
  | cons name rest ih =>
    rw [Disk.follow] at way
    split at way
    · cases way
    · cases way
    · split at way
      · cases way
      · exact ih way

theorem locate_destination (located : d.locate p = .ok place) : place = destination d p := by
  unfold Disk.locate at located
  split at located
  · cases located
  · split at located
    · cases located
    · split at located
      · cases located
      · cases way : d.follow (d.start p.anchor) p.names with
        | error obstacle => rw [way] at located; cases located
        | ok reached =>
          rw [way] at located
          obtain rfl : reached = place := Except.ok.inj located
          exact follow_goal p.names way

theorem destination_spares (spares : Spares changed before after) (p : Path) :
    destination after p = destination before p := by
  unfold destination Disk.start
  rw [spares.here]

end Paths

/-! ## Requests -/

section Requests
variable {d after : Disk} {p : Path} {place : Location} {text : String}

theorem makeDirectory_spares (made : d.makeDirectory p = .ok after) : Spares nowhere d after := by
  unfold Disk.makeDirectory at made
  split at made
  · cases made
  · split at made
    · cases made
      exact set_directory_spares ‹_›
    · cases made

/-- Making directories, also as far as it goes, spares all files. -/
theorem makeDirectories_spares (d : Disk) (p : Path) : Spares nowhere d (d.makeDirectories p).1 := by
  fun_induction Disk.makeDirectories d p with
  | case1 p made run => exact makeDirectory_spares run
  | case2 => exact .refl ..
  | case3 p missing run nonempty above fault upper ih =>
    rw [upper] at ih
    exact ih
  | case4 p missing run nonempty above upper made own ih =>
    rw [upper] at ih
    exact ih.trans (makeDirectory_spares own)
  | case5 p missing run nonempty above upper fault own ih =>
    rw [upper] at ih
    exact ih
  | case6 => exact .refl ..

/-- Opening a file changes at most that there is one. -/
theorem openFile_ok (opened : d.openFile p = .ok (after, place)) :
    place = destination d p ∧ Spares (· = place) d after ∧ after.locate p = .ok place ∧
      fileText? after place = some (contents d place) := by
  unfold Disk.openFile at opened
  cases located : d.locate p with
  | error fault => rw [located] at opened; cases opened
  | ok found =>
    rw [located] at opened
    simp only at opened
    cases standing : d.entry? found with
    | none =>
      rw [standing] at opened
      cases opened
      have noDirectory : d.entry? place ≠ some .directory := by simp [standing]
      have spares := set_file_spares noDirectory ""
      refine ⟨locate_destination located, spares, locate_spares spares located, ?_⟩
      rw [fileText_set d (notRoot_of_noDirectory noDirectory), contents, fileText?, standing]
      rfl
    | some entry =>
      rw [standing] at opened
      cases entry with
      | directory => cases opened
      | file text =>
        cases opened
        refine ⟨locate_destination located, .refl .., located, ?_⟩
        rw [contents, fileText_of_file standing]
        rfl

theorem noDirectory_of_file (standing : fileText? d place = some text) : d.entry? place ≠ some .directory := by
  intro directory
  rw [fileText?, directory] at standing
  cases standing

theorem write_ok (written : d.write p text = .ok after) :
    Spares (· = destination d p) d after ∧ after.locate p = .ok (destination d p) ∧
      fileText? after (destination d p) = some text := by
  unfold Disk.write at written
  cases opened : d.openFile p with
  | error fault => rw [opened] at written; cases written
  | ok result =>
    obtain ⟨before, place⟩ := result
    rw [opened] at written
    cases written
    obtain ⟨rfl, opens, located, standing⟩ := openFile_ok opened
    have noDirectory := noDirectory_of_file standing
    have puts := set_file_spares noDirectory text
    exact ⟨opens.trans puts, locate_spares puts located, fileText_set before (notRoot_of_noDirectory noDirectory) text⟩

theorem append_spares (d : Disk) (place : Location) (text : String) : Spares (· = place) d (d.append place text) := by
  unfold Disk.append
  split
  · rename_i old standing
    exact set_file_spares (by simp [standing]) _
  · exact .refl ..

theorem append_file {old : String} (standing : fileText? d place = some old) (text : String) :
    fileText? (d.append place text) place = some (old ++ text) := by
  have notRoot := notRoot_of_noDirectory (noDirectory_of_file standing)
  unfold fileText? at standing
  split at standing
  · rename_i found entry
    obtain rfl := Option.some.inj standing
    rw [Disk.append, entry]
    exact fileText_set d notRoot _
  · cases standing

end Requests

/-! ## Sheets and logs -/

section Building
variable {d after : Disk} {outfile log : Path} {format : SheetFormat} {s : Sheet} {now : Moment} {name : Value}
  {outcome : Except Fault Unit}

/-- What is to be done below directories is done where these are made, or they cannot be made. -/
theorem below_cases {p : Path} {next : Disk → Disk × Except Fault Unit} (run : d.below p next = (after, outcome)) :
    (Spares nowhere d after ∧ ∃ fault, outcome = .error fault) ∨
      ∃ between, Spares nowhere d between ∧ d.makeDirectories p.parent = (between, .ok ()) ∧
        next between = (after, outcome) := by
  unfold Disk.below at run
  have above := makeDirectories_spares d p.parent
  cases made : d.makeDirectories p.parent with
  | mk between first =>
    rw [made] at run above
    cases first with
    | error fault =>
      cases run
      exact .inl ⟨above, fault, rfl⟩
    | ok _ => exact .inr ⟨between, above, rfl, run⟩

/-- What is written once directories were made stands where the path leads to at first. -/
theorem write_behind {between : Disk} {text : String} (above : Spares nowhere d between)
    (opened : between.write outfile text = .ok after) :
    Spares (· = destination d outfile) d after ∧ after.locate outfile = .ok (destination d outfile) ∧
      fileText? after (destination d outfile) = some text := by
  obtain ⟨spares, located, standing⟩ := write_ok opened
  rw [destination_spares above] at spares located standing
  exact ⟨above.everywhere.trans spares, located, standing⟩

/-- A sheet is refused before its file is open, or its file holds its written form, or what could be written of it. -/
theorem writeSheet_cases (run : d.writeSheet outfile format s = (after, outcome)) :
    (Spares nowhere d after ∧ ∃ fault, outcome = .error fault) ∨
      ∃ text, Spares (· = destination d outfile) d after ∧ after.locate outfile = .ok (destination d outfile) ∧
        fileText? after (destination d outfile) = some text ∧
        ((s.written format = .ok text ∧ outcome = .ok ()) ∨
          ∃ fault, s.written format = .error fault ∧ text = s.beginning format ∧ outcome = .error fault) := by
  obtain early | ⟨between, above, _, run⟩ := below_cases run
  · exact .inl early
  · cases encoded : s.written format with
    | ok text =>
      rw [encoded] at run
      simp only at run
      cases opened : between.write outfile text with
      | error fault =>
        rw [opened] at run
        cases run
        exact .inl ⟨above, fault, rfl⟩
      | ok disk =>
        rw [opened] at run
        cases run
        obtain ⟨spares, located, standing⟩ := write_behind above opened
        exact .inr ⟨text, spares, located, standing, .inl ⟨rfl, rfl⟩⟩
    | error fault =>
      rw [encoded] at run
      simp only at run
      cases opened : between.write outfile (s.beginning format) with
      | error early =>
        rw [opened] at run
        cases run
        exact .inl ⟨above, early, rfl⟩
      | ok disk =>
        rw [opened] at run
        cases run
        obtain ⟨spares, located, standing⟩ := write_behind above opened
        exact .inr ⟨_, spares, located, standing, .inr ⟨fault, rfl, rfl, rfl⟩⟩

theorem writeSheet_ok (written : d.writeSheet outfile format s = (after, .ok ())) :
    ∃ text, s.written format = .ok text ∧ Spares (· = destination d outfile) d after ∧
      after.locate outfile = .ok (destination d outfile) ∧ fileText? after (destination d outfile) = some text := by
  obtain ⟨_, _, ⟨⟩⟩ | ⟨text, spares, located, standing, ⟨encoded, _⟩ | ⟨_, _, _, ⟨⟩⟩⟩ := writeSheet_cases written
  exact ⟨text, encoded, spares, located, standing⟩

/-- A sheet that has a written form is put into its file as a whole or not at all. Of one that has none the file holds
what could be written. -/
theorem writeSheet_error {fault : Fault} (failed : d.writeSheet outfile format s = (after, .error fault)) :
    Spares nowhere d after ∨ (s.written format = .error fault ∧ Spares (· = destination d outfile) d after ∧
      after.locate outfile = .ok (destination d outfile) ∧
      fileText? after (destination d outfile) = some (s.beginning format)) := by
  obtain ⟨above, _⟩ | ⟨text, spares, located, standing, ⟨_, ⟨⟩⟩ | ⟨_, encoded, rfl, ended⟩⟩ := writeSheet_cases failed
  · exact .inl above
  · cases ended
    exact .inr ⟨encoded, spares, located, standing⟩

theorem read_writeSheet (written : d.writeSheet outfile format s = (after, .ok ())) :
    ∃ text, s.written format = .ok text ∧ after.read outfile = .ok text := by
  obtain ⟨text, encoded, _, located, standing⟩ := writeSheet_ok written
  exact ⟨text, encoded, read_of_file located standing⟩

/-- Logging fails before the log is open, or there is no line for the sheet, or its line is added. -/
theorem logCompilation_cases (run : d.logCompilation log now name s = (after, outcome)) :
    (Spares nowhere d after ∧ ∃ fault, outcome = .error fault) ∨
      ∃ between opened place, d.makeDirectories log.parent = (between, .ok ()) ∧
        between.openFile log = .ok (opened, place) ∧
        ((∃ fault, s.logLine now name = .error fault ∧ after = opened ∧ outcome = .error fault) ∨
          ∃ line, s.logLine now name = .ok line ∧ after = opened.append place line ∧ outcome = .ok ()) := by
  obtain early | ⟨between, above, made, run⟩ := below_cases run
  · exact .inl early
  · cases opening : between.openFile log with
    | error fault =>
      rw [opening] at run
      cases run
      exact .inl ⟨above, fault, rfl⟩
    | ok result =>
      obtain ⟨opened, place⟩ := result
      rw [opening] at run
      simp only at run
      refine .inr ⟨between, opened, place, made, opening, ?_⟩
      cases printed : s.logLine now name with
      | error fault =>
        rw [printed] at run
        cases run
        exact .inl ⟨fault, rfl, rfl, rfl⟩
      | ok line =>
        rw [printed] at run
        cases run
        exact .inr ⟨line, rfl, rfl, rfl⟩

/-- A log that was opened is there and holds what it held. -/
theorem opened_log {between opened : Disk} {place : Location} (made : d.makeDirectories log.parent = (between, .ok ()))
    (opening : between.openFile log = .ok (opened, place)) :
    place = destination d log ∧ Spares (· = place) d opened ∧ opened.locate log = .ok place ∧
      fileText? opened place = some (contents d place) := by
  have above := makeDirectories_spares d log.parent
  rw [made] at above
  obtain ⟨isPlace, opens, located, standing⟩ := openFile_ok opening
  rw [destination_spares above] at isPlace
  rw [above.contents id] at standing
  exact ⟨isPlace, above.everywhere.trans opens, located, standing⟩

theorem logCompilation_ok (logged : d.logCompilation log now name s = (after, .ok ())) :
    ∃ line, s.logLine now name = .ok line ∧ Spares (· = destination d log) d after ∧
      after.locate log = .ok (destination d log) ∧
      fileText? after (destination d log) = some (contents d (destination d log) ++ line) := by
  obtain ⟨_, _, ⟨⟩⟩ | ⟨between, opened, place, made, opening, ⟨_, _, _, ⟨⟩⟩ | ⟨line, printed, rfl, _⟩⟩ :=
    logCompilation_cases logged
  obtain ⟨rfl, opens, located, standing⟩ := opened_log made opening
  have adds := append_spares opened (destination d log) line
  exact ⟨line, printed, opens.trans adds, locate_spares adds located, append_file standing line⟩

/-- A log that gets no line is at most made; what it holds stays. -/
theorem logCompilation_error {fault : Fault} (failed : d.logCompilation log now name s = (after, .error fault)) :
    Spares (· = destination d log) d after ∧ ∀ place, contents after place = contents d place := by
  obtain ⟨above, _⟩ | ⟨between, opened, place, made, opening, ⟨_, _, rfl, _⟩ | ⟨_, _, _, ⟨⟩⟩⟩ :=
    logCompilation_cases failed
  · exact ⟨above.everywhere, fun _ => above.contents id⟩
  · obtain ⟨rfl, opens, _, standing⟩ := opened_log made opening
    refine ⟨opens, fun other => ?_⟩
    by_cases same : other = destination d log
    · rw [same, contents, standing]
      rfl
    · exact opens.contents same

/-- Whatever becomes of it, writing a sheet changes no file but that of its path. -/
theorem writeSheet_spares (d : Disk) (outfile : Path) (format : SheetFormat) (s : Sheet) :
    Spares (· = destination d outfile) d (d.writeSheet outfile format s).1 := by
  cases run : d.writeSheet outfile format s with
  | mk after outcome =>
    obtain ⟨above, _⟩ | ⟨_, spares, _⟩ := writeSheet_cases run
    · exact above.everywhere
    · exact spares

/-- Whatever becomes of it, logging changes no file but the log. -/
theorem logCompilation_spares (d : Disk) (log : Path) (now : Moment) (name : Value) (s : Sheet) :
    Spares (· = destination d log) d (d.logCompilation log now name s).1 := by
  cases logged : d.logCompilation log now name s with
  | mk after outcome =>
    cases outcome with
    | ok _ =>
      obtain ⟨_, _, spares, _, _⟩ := logCompilation_ok logged
      exact spares
    | error _ => exact (logCompilation_error logged).1

/-- A sheet that was written and then logged: its file and the log hold what they are to hold if these are two files,
and no other file was changed. -/
theorem writeSheet_logged {written : Disk} (wrote : d.writeSheet outfile format s = (written, .ok ()))
    (logged : written.logCompilation log now name s = (after, .ok ())) :
    ∃ text line, s.written format = .ok text ∧ s.logLine now name = .ok line ∧
      Spares (fun place => place = destination d outfile ∨ place = destination d log) d after ∧
      after.locate outfile = .ok (destination d outfile) ∧ after.locate log = .ok (destination d log) ∧
      (destination d outfile ≠ destination d log → fileText? after (destination d outfile) = some text ∧
        fileText? after (destination d log) = some (contents d (destination d log) ++ line)) := by
  obtain ⟨text, encoded, writes, located, standing⟩ := writeSheet_ok wrote
  obtain ⟨line, made, adds, logLocated, logStanding⟩ := logCompilation_ok logged
  rw [destination_spares writes] at adds logLocated logStanding
  refine ⟨text, line, encoded, made, (writes.mono fun _ => .inl).trans (adds.mono fun _ => .inr),
    locate_spares adds located, logLocated, fun different => ⟨(adds.files _ different).trans standing, ?_⟩⟩
  rw [logStanding, writes.contents different.symm]

end Building

end TapeSheet.Files
