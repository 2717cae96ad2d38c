import TapeSheet.Proofs.Files
import TapeSheet.Proofs.RoundTrip

/-!
# Runs of log entries

A log gets one line for each sheet that can be recorded (`hasLine_iff`), and from that line the record is read with the
name as it was (`logLine_exact`). What cannot be recorded leaves every text as it is (`log_failed`), and a log that could
be opened once can be opened again (`opens_after`). So after a run of entries a log holds its old lines and then the new
ones, in order (`log_tells_calls`).
-/

namespace TapeSheet.LogRuns
open TapeSheet.BlockReading TapeSheet.SheetReading TapeSheet.JsonReading TapeSheet.ValueReading TapeSheet.LogReading
open TapeSheet.Encoding TapeSheet.RoundTrip TapeSheet.Files TapeSheet.Json

/-! ## Logs that can be opened -/

section Opening
variable {changed : Location → Prop} {d before after : Disk} {p log : Path} {place : Location}

/-- A directory stands at a path. -/
def IsDirectory (d : Disk) (p : Path) : Prop := ∃ place, d.locate p = .ok place ∧ d.entry? place = some .directory

theorem isDirectory_spares (spares : Spares changed before after) (is : IsDirectory before p) : IsDirectory after p := by
  obtain ⟨place, located, directory⟩ := is
  exact ⟨place, locate_spares spares located, spares.directories place directory⟩

theorem at_directory (is : IsDirectory d p) : d.at? p = .ok (some .directory) := by
  obtain ⟨place, located, directory⟩ := is
  rw [Disk.at?, located, ← directory]

theorem isDirectory_of_at (found : d.at? p = .ok (some .directory)) : IsDirectory d p := by
  unfold Disk.at? at found
  split at found
  · exact ⟨_, ‹_›, Except.ok.inj found⟩
  · cases found
  · cases found

theorem makeDirectory_stands (made : d.makeDirectory p = .ok after) : IsDirectory after p := by
  have spares := makeDirectory_spares made
  unfold Disk.makeDirectory at made
  split at made
  · cases made
  · rename_i place located
    split at made
    · rename_i free
      cases made
      have noDirectory : d.entry? place ≠ some .directory := by simp [free]
      exact ⟨place, locate_spares spares located,
        (entry_set d place _ (notRoot_of_noDirectory noDirectory)).trans (if_pos rfl)⟩
    · cases made

theorem unlessThere_stands {fault : Fault} (there : d.unlessThere p fault = .ok ()) : IsDirectory d p := by
  unfold Disk.unlessThere at there
  split at there
  · cases there
  · split at there
    · exact isDirectory_of_at ‹_›
    · cases there
    · cases there
  · cases there

/-- Once directories are made, one stands at their path. -/
theorem makeDirectories_stands (made : d.makeDirectories p = (after, .ok ())) : IsDirectory after p := by
  fun_induction Disk.makeDirectories d p generalizing after with
  | case1 p made run =>
    cases made
    exact makeDirectory_stands run
  | case2 => cases made
  | case3 => cases made
  | case4 p missing run nonempty above upper own made' =>
    cases made
    exact makeDirectory_stands made'
  | case5 p missing run nonempty above upper fault own =>
    obtain ⟨rfl, there⟩ := Prod.mk.inj made
    exact unlessThere_stands there
  | case6 p fault run =>
    obtain ⟨rfl, there⟩ := Prod.mk.inj made
    exact unlessThere_stands there

/-- Nothing is made where a directory stands. -/
theorem makeDirectories_there (is : IsDirectory d p) : d.makeDirectories p = (d, .ok ()) := by
  have found := at_directory is
  obtain ⟨place, located, directory⟩ := is
  have occupied : d.makeDirectory p = .error (.file (.occupied p)) := by
    rw [Disk.makeDirectory, located]
    simp only
    rw [directory]
  rw [Disk.makeDirectories, occupied]
  simp only [Disk.unlessThere, found]

theorem openFile_again {text : String} (located : d.locate p = .ok place) (standing : fileText? d place = some text) :
    d.openFile p = .ok (d, place) := by
  unfold fileText? at standing
  split at standing
  · rename_i found file
    rw [Disk.openFile, located]
    simp only
    rw [file]
  · cases standing

/-- The directories above a log can be made, and then the log can be opened. -/
def Opens (d : Disk) (log : Path) : Prop :=
  ∃ between opened place, d.makeDirectories log.parent = (between, .ok ()) ∧
    between.openFile log = .ok (opened, place)

theorem opens_of_standing {text : String} (is : IsDirectory d log.parent) (located : d.locate log = .ok place)
    (standing : fileText? d place = some text) : Opens d log :=
  ⟨d, d, place, makeDirectories_there is, openFile_again located standing⟩

section Calls
variable {now : Moment} {name : Value} {s : Sheet}

/-- A log that can be opened gets the line for a sheet, if there is one. -/
theorem logCompilation_of_opens (opens : Opens d log) :
    ∃ opened place, IsDirectory opened log.parent ∧ opened.locate log = .ok place ∧
      (∃ text, fileText? opened place = some text) ∧
      d.logCompilation log now name s = match s.logLine now name with
        | .error fault => (opened, .error fault)
        | .ok line => (opened.append place line, .ok ()) := by
  obtain ⟨between, opened, place, made, opening⟩ := opens
  obtain ⟨_, spares, located, standing⟩ := openFile_ok opening
  refine ⟨opened, place, isDirectory_spares spares (makeDirectories_stands made), located, ⟨_, standing⟩, ?_⟩
  unfold Disk.logCompilation Disk.below
  cases s.logLine now name with
  | error _ => simp only [made, opening]
  | ok _ => simp only [made, opening]

theorem opens_of_ok (done : (d.logCompilation log now name s).2 = .ok ()) : Opens d log := by
  have run : d.logCompilation log now name s = ((d.logCompilation log now name s).1, .ok ()) := by rw [← done]
  obtain ⟨_, _, ⟨⟩⟩ | ⟨between, opened, place, made, opening, _⟩ := logCompilation_cases run
  exact ⟨between, opened, place, made, opening⟩

/-- A sheet is logged exactly if the log can be opened and there is a line for the sheet. -/
theorem logged_iff : (d.logCompilation log now name s).2 = .ok () ↔
    Opens d log ∧ ∃ line, s.logLine now name = .ok line := by
  have line : Opens d log → ((d.logCompilation log now name s).2 = .ok () ↔ ∃ line, s.logLine now name = .ok line) := by
    intro opens
    obtain ⟨opened, place, _, _, _, run⟩ := @logCompilation_of_opens d log now name s opens
    rw [run]
    cases s.logLine now name <;> simp
  constructor
  · intro done
    exact ⟨opens_of_ok done, (line (opens_of_ok done)).mp done⟩
  · rintro ⟨opens, made⟩
    exact (line opens).mpr made

/-- A log that could be opened can be opened again, whatever became of the sheet. -/
theorem opens_after (opens : Opens d log) : Opens (d.logCompilation log now name s).1 log := by
  obtain ⟨opened, place, is, located, ⟨text, standing⟩, run⟩ := @logCompilation_of_opens d log now name s opens
  rw [run]
  cases s.logLine now name with
  | error _ => exact opens_of_standing is located standing
  | ok line =>
    have adds := append_spares opened place line
    exact opens_of_standing (isDirectory_spares adds is) (locate_spares adds located) (append_file standing line)

/-- Where a sheet cannot be logged every file stays as it is, but a log that was not there may be made, with nothing in
it. -/
theorem log_failed {fault : Fault} (failed : d.logCompilation log now name s = (after, .error fault)) (other : Location) :
    fileText? after other = fileText? d other ∨ (fileText? d other = none ∧ fileText? after other = some "") := by
  obtain ⟨above, _⟩ | ⟨between, opened, place, made, opening, ⟨_, _, rfl, _⟩ | ⟨_, _, _, ⟨⟩⟩⟩ :=
    logCompilation_cases failed
  · exact .inl (above.files other id)
  · obtain ⟨_, spares, _, standing⟩ := opened_log made opening
    by_cases same : other = place
    · rw [same, standing, contents]
      cases fileText? d place with
      | none => exact .inr ⟨rfl, rfl⟩
      | some text => exact .inl rfl
    · exact .inl (spares.files other same)

end Calls

end Opening

/-! ## Records -/

/-- A sheet that is to be logged by a name at a moment. -/
structure Request where
  now : Moment
  name : Value
  sheet : Sheet

/-- There is a line for a request. -/
def Request.hasLine (r : Request) : Bool := (r.sheet.logLine r.now r.name).toOption.isSome

/-- What a log keeps of a request can be written: its numbers have few enough digits, its texts have no halves, and the
name is not nested too deeply to be one value of a record. -/
structure Recordable (r : Request) : Prop where
  name : Writable (Value.nestingLimit - 1) r.name
  rows : Decimal.isWritable r.sheet.rows = true
  cols : Decimal.isWritable r.sheet.cols = true
  maxRow : Decimal.isWritable r.sheet.maxRow = true
  ruleCount : Decimal.isWritable r.sheet.rules.length = true
  note : ∀ note, r.sheet.note = some note → Whole note

/-- The entries of a record tell of a request. -/
structure Tells (r : Request) (entries : List (Value × Value)) : Prop where
  name : Value.lookup (.ofString "name") entries = some r.name
  rows : Value.lookup (.ofString "rows") entries = some (.int r.sheet.rows)
  cols : Value.lookup (.ofString "cols") entries = some (.int r.sheet.cols)
  maxRow : Value.lookup (.ofString "max_row") entries = some (.int r.sheet.maxRow)
  ruleCount : Value.lookup (.ofString "rule_count") entries = some (.int r.sheet.rules.length)
  note : Value.lookup (.ofString "note") entries = some (r.sheet.note.elim .null .text)

/-- A line without its end is the JSON text of a record that tells of a request. -/
structure IsLine (r : Request) (body : String) : Prop where
  oneLine : '\n' ∉ body.toList
  record : ∃ entries, parse body = some (.map entries) ∧ Tells r entries

section Records
variable {r : Request}

/-- A key that occurs once has the value that stands with it. -/
theorem lookup_distinct {entries : List (Value × Value)} (distinct : DistinctKeys entries) {key : Text} {v : Value}
    (member : (.text key, v) ∈ entries) : Value.lookup (.text key) entries = some v := by
  obtain ⟨keys, once, texts⟩ := distinct
  induction entries generalizing keys with
  | nil => cases member
  | cons first rest ih =>
    cases keys with
    | nil => cases texts
    | cons own keys =>
      obtain ⟨k, value⟩ := first
      obtain ⟨isText, others⟩ := List.cons.inj texts
      subst isText
      obtain ⟨fresh, once⟩ := List.nodup_cons.mp once
      rw [lookup_text]
      rcases List.mem_cons.mp member with same | later
      · cases same
        exact if_pos rfl
      · have listed : Value.text key ∈ keys.map .text := others ▸ List.mem_map_of_mem later
        have different : key ≠ own := by
          rintro rfl
          obtain ⟨other, inside, same⟩ := List.mem_map.mp listed
          exact fresh (Value.text.inj same ▸ inside)
        rw [if_neg different]
        exact ih later keys once others

theorem summary_keys (r : Request) : DistinctKeys [(.ofString "ts", .ofString r.now.stamp), (.ofString "name", r.name),
    (.ofString "rows", .int r.sheet.rows), (.ofString "cols", .int r.sheet.cols),
    (.ofString "max_row", .int r.sheet.maxRow), (.ofString "rule_count", .int r.sheet.rules.length),
    (.ofString "note", r.sheet.note.elim .null .text)] :=
  ⟨["ts", "name", "rows", "cols", "max_row", "rule_count", "note"].map Text.ofString, by decide, rfl⟩

theorem exact_note (note : Option Text) : Exact (note.elim .null .text) := by cases note <;> trivial

/-- What a log keeps of a request is read from JSON as it was if the name is. -/
theorem exact_summary (exact : Exact r.name) : Exact (r.sheet.summary r.now r.name) :=
  ⟨summary_keys r, trivial, exact, trivial, trivial, trivial, trivial, exact_note r.sheet.note, trivial⟩

theorem writable_note {room : Nat} {note : Option Text} :
    Writable room (note.elim .null .text) ↔ ∀ text, note = some text → Whole text := by
  cases note <;> simp [Writable]

theorem writable_summary : Writable Value.nestingLimit (r.sheet.summary r.now r.name) ↔ Recordable r := by
  have key : ∀ (s : String) (t : Text), Value.ofString s = .text t → Whole t := by
    rintro s t same
    cases same
    exact whole_ofString s
  constructor
  · rintro ⟨-, -, -, name, -, rows, -, cols, -, maxRow, -, count, -, note, -⟩
    exact ⟨name, rows, cols, maxRow, count, writable_note.mp note⟩
  · rintro ⟨name, rows, cols, maxRow, count, note⟩
    exact ⟨key "ts", whole_ofString r.now.stamp, key "name", name, key "rows", rows, key "cols", cols, key "max_row",
      maxRow, key "rule_count", count, key "note", writable_note.mpr note, trivial⟩

theorem tells_summary (r : Request) : ∃ entries, r.sheet.summary r.now r.name = .map entries ∧ Tells r entries := by
  have found : ∀ {key : String} {v : Value}, (Value.ofString key, v) ∈ _ → Value.lookup (.ofString key) _ = some v :=
    lookup_distinct (summary_keys r)
  exact ⟨_, rfl, found (by simp), found (by simp), found (by simp), found (by simp), found (by simp), found (by simp)⟩

theorem hasLine_ok : r.hasLine = true ↔ ∃ line, r.sheet.logLine r.now r.name = .ok line := by
  unfold Request.hasLine
  cases r.sheet.logLine r.now r.name <;> simp [Except.toOption]

/-- There is a line exactly for what can be recorded. -/
theorem hasLine_iff (exact : Exact r.name) : r.hasLine = true ↔ Recordable r := by
  rw [← writable_summary, ← printed_iff _ _ (exact_summary exact)]
  rw [hasLine_ok]
  constructor
  · rintro ⟨line, made⟩
    obtain ⟨text, printed, whole, _⟩ := logLine_ok_iff.mp made
    exact ⟨text, printed, whole⟩
  · rintro ⟨text, printed, whole⟩
    exact ⟨_, logLine_ok_iff.mpr ⟨text, printed, whole, rfl⟩⟩

/-- The record is read from its line with the name as it was. -/
theorem logLine_exact {line : String} (exact : Exact r.name) (made : r.sheet.logLine r.now r.name = .ok line) :
    ∃ body, line = body ++ "\n" ∧ IsLine r body := by
  obtain ⟨text, printed, whole, rfl⟩ := logLine_ok_iff.mp made
  have reads := reads_exact _ _ text (exact_summary exact) printed whole
  obtain ⟨entries, isMap, tells⟩ := tells_summary r
  refine ⟨_, rfl, ?_, entries, ?_, tells⟩
  · rw [String.toList_ofList]
    exact reads.oneLine
  · rw [parse_reads reads, isMap]

end Records

/-! ## Lines of a text -/

/-- Every line of a text is ended. -/
def Ended (text : String) : Prop := text.toList = [] ∨ text.toList.getLast? = some '\n'

/-- The ended lines of a text. -/
def linesOf (text : String) : List (List Char) := (text.toList.splitOn '\n').dropLast

theorem ended_lines {chars : List Char} (ended : chars = [] ∨ chars.getLast? = some '\n') :
    ∃ lines : List (List Char), (∀ line ∈ lines, '\n' ∉ line) ∧ chars = lines.flatMap fun line => line ++ ['\n'] := by
  induction chars with
  | nil => exact ⟨[], fun _ member => absurd member List.not_mem_nil, rfl⟩
  | cons c rest ih =>
    have later : rest = [] ∨ rest.getLast? = some '\n' := by
      cases rest with
      | nil => exact .inl rfl
      | cons d rest => exact .inr (by simpa using ended)
    obtain ⟨lines, oneLine, rfl⟩ := ih later
    -- A line break in front makes an empty line, and any other letter goes to the first line.
    by_cases newline : c = '\n'
    · exact ⟨[] :: lines, List.forall_mem_cons.mpr ⟨List.not_mem_nil, oneLine⟩, by rw [newline]; rfl⟩
    · cases lines with
      | nil =>
        have last : some c = some '\n' := by simpa using ended
        exact absurd (Option.some.inj last) newline
      | cons line lines =>
        obtain ⟨own, others⟩ := List.forall_mem_cons.mp oneLine
        exact ⟨(c :: line) :: lines, List.forall_mem_cons.mpr ⟨by simp [own, Ne.symm newline], others⟩, rfl⟩

theorem linesOf_lines {text : String} {lines : List (List Char)} (oneLine : ∀ line ∈ lines, '\n' ∉ line)
    (made : text.toList = lines.flatMap fun line => line ++ ['\n']) : linesOf text = lines := by
  have split := splitOn_lines oneLine []
  rw [List.append_nil, ← made, List.splitOn_nil] at split
  rw [linesOf, split, List.dropLast_concat]

/-- Lines behind ended ones are lines of their own. -/
theorem linesOf_append {old : String} (ended : Ended old) {bodies : List String}
    (oneLine : ∀ body ∈ bodies, '\n' ∉ body.toList) :
    linesOf (old ++ String.join (bodies.map (· ++ "\n"))) = linesOf old ++ bodies.map String.toList := by
  obtain ⟨lines, own, made⟩ := ended_lines ended
  rw [linesOf_lines own made]
  apply linesOf_lines
  · intro line member
    rcases List.mem_append.mp member with inside | new
    · exact own line inside
    · obtain ⟨body, listed, rfl⟩ := List.mem_map.mp new
      exact oneLine body listed
  · rw [String.toList_append, made, String.toList_join, List.flatMap_append, List.flatMap_map, List.flatMap_map]
    simp only [String.toList_append]
    rfl

/-! ## Runs -/

/-- Requests one after the other, and those of them that did not fail. -/
def logAll (log : Path) : List Request → Disk → Disk × List Request
  | [], d => (d, [])
  | r :: rest, d =>
    match d.logCompilation log r.now r.name r.sheet with
    | (after, .ok ()) => ((logAll log rest after).1, r :: (logAll log rest after).2)
    | (after, .error _) => logAll log rest after

section Runs
variable {log : Path} {d after : Disk} {r : Request}

/-- A request that does not fail adds its line to the log. -/
theorem request_ok (exact : Exact r.name) (done : d.logCompilation log r.now r.name r.sheet = (after, .ok ())) :
    Spares (· = destination d log) d after ∧ ∃ body, IsLine r body ∧
      contents after (destination d log) = contents d (destination d log) ++ (body ++ "\n") := by
  obtain ⟨line, made, spares, _, standing⟩ := logCompilation_ok done
  obtain ⟨body, rfl, isLine⟩ := logLine_exact exact made
  exact ⟨spares, body, isLine, by rw [contents, standing]; rfl⟩

/-- A run adds the lines of the requests that did not fail, and changes no other file. -/
theorem run_adds (log : Path) (requests : List Request) (exact : ∀ r ∈ requests, Exact r.name) (d : Disk) :
    Spares (· = destination d log) d (logAll log requests d).1 ∧
      ∃ bodies, List.Forall₂ IsLine (logAll log requests d).2 bodies ∧
        contents (logAll log requests d).1 (destination d log) =
          contents d (destination d log) ++ String.join (bodies.map (· ++ "\n")) := by
  induction requests generalizing d with
  | nil => exact ⟨.refl _ _, [], .nil, by simp [logAll]⟩
  | cons r rest ih =>
    obtain ⟨own, others⟩ := List.forall_mem_cons.mp exact
    rw [logAll]
    cases done : d.logCompilation log r.now r.name r.sheet with
    | mk after outcome =>
      -- The log of the rest is the same one, since no request moves the working directory.
      obtain ⟨spares, bodies, lines, text⟩ := ih others after
      have first : Spares (· = destination d log) d after := by
        have spares := logCompilation_spares d log r.now r.name r.sheet
        rwa [done] at spares
      rw [destination_spares first] at spares text
      cases outcome with
      | ok _ =>
        obtain ⟨_, body, isLine, added⟩ := request_ok own done
        refine ⟨first.trans spares, body :: bodies, .cons isLine lines, ?_⟩
        rw [text, added, List.map_cons, String.join_cons, String.append_assoc]
      | error fault => exact ⟨first.trans spares, bodies, lines, by rw [text, (logCompilation_error done).2]⟩

theorem run_sublist (log : Path) (requests : List Request) (d : Disk) : (logAll log requests d).2.Sublist requests := by
  induction requests generalizing d with
  | nil => exact .slnil
  | cons r rest ih =>
    rw [logAll]
    cases d.logCompilation log r.now r.name r.sheet with
    | mk after outcome =>
      cases outcome with
      | ok _ => exact (ih after).cons_cons r
      | error _ => exact (ih after).cons r

/-- If the log can be opened, those requests fail for which there is no line. -/
theorem run_logs (requests : List Request) (opens : Opens d log) :
    (logAll log requests d).2 = requests.filter Request.hasLine := by
  induction requests generalizing d with
  | nil => rfl
  | cons r rest ih =>
    have again := @opens_after d log r.now r.name r.sheet opens
    have outcome := @logged_iff d log r.now r.name r.sheet
    rw [and_iff_right opens, ← hasLine_ok] at outcome
    rw [logAll, List.filter_cons]
    cases done : d.logCompilation log r.now r.name r.sheet with
    | mk after result =>
      rw [done] at again outcome
      cases result with
      | ok _ => rw [if_pos (outcome.mp rfl), ← ih again]
      | error _ =>
        have none : ¬ r.hasLine = true := fun some => nomatch outcome.mpr some
        rw [if_neg none, ← ih again]

end Runs

/-- A run of requests under names that JSON can hold, whatever the log held before. The log gets one line for each
request that does not fail, in order, behind what it held; each line is read as what was to be logged, with the name as
it was, and where all lines were ended before, the lines are the old ones and then these. A request succeeds exactly if
the log can be opened and the record can be written, and once the log can be opened it stays so. A request that fails
changes the text of no file, though a log that was not there may then be one without text. -/
theorem log_tells_requests (log : Path) (requests : List Request) (exact : ∀ r ∈ requests, Exact r.name) (d : Disk) :
    (∃ bodies, List.Forall₂ IsLine (logAll log requests d).2 bodies ∧
      contents (logAll log requests d).1 (destination d log) =
        contents d (destination d log) ++ String.join (bodies.map (· ++ "\n")) ∧
      (Ended (contents d (destination d log)) → linesOf (contents (logAll log requests d).1 (destination d log)) =
        linesOf (contents d (destination d log)) ++ bodies.map String.toList)) ∧
    (logAll log requests d).2.Sublist requests ∧
    (Opens d log → (logAll log requests d).2 = requests.filter Request.hasLine) ∧
    (∀ other, other ≠ destination d log → fileText? (logAll log requests d).1 other = fileText? d other) ∧
    ∀ r ∈ requests, (r.hasLine = true ↔ Recordable r) ∧ ∀ before : Disk,
      ((before.logCompilation log r.now r.name r.sheet).2 = .ok () ↔ Opens before log ∧ Recordable r) ∧
      ∀ after fault, before.logCompilation log r.now r.name r.sheet = (after, .error fault) → ∀ other,
        contents after other = contents before other ∧
        (fileText? after other = fileText? before other ∨
          (fileText? before other = none ∧ fileText? after other = some "")) := by
  obtain ⟨spares, bodies, lines, text⟩ := run_adds log requests exact d
  have oneLine : ∀ body ∈ bodies, '\n' ∉ body.toList :=
    ((List.forall₂_and_left bodies _).mp (lines.flip.imp fun _ _ isLine => ⟨isLine.oneLine, isLine⟩)).1
  refine ⟨⟨bodies, lines, text, fun ended => ?_⟩, run_sublist log requests d, run_logs requests, spares.files,
    fun r member => ?_⟩
  · rw [text, linesOf_append ended oneLine]
  · have line := hasLine_iff (exact r member)
    refine ⟨line, fun before => ⟨?_, fun after fault failed other => ?_⟩⟩
    · rw [logged_iff, ← hasLine_ok, line]
    · exact ⟨(logCompilation_error failed).2 other, log_failed failed other⟩

/-- A path to a log below the working directory. -/
def logPath : Path := .ofText "logs/compile.log"

/-- A log with one line at that path. -/
def oneLineLog : Disk :=
  ⟨[(["logs"].map Text.ofString, .directory), (["logs", "compile.log"].map Text.ofString, .file "old\n")], []⟩

/-- A request at noon of a day for a sheet without rules. -/
def requestFor (name : Value) : Request :=
  ⟨⟨⟨2024, 2, 29⟩, 12, 0, 0, 0, none⟩, name, { rows := 2, cols := 1, maxRow := 1, rules := [], note := some "cut" }⟩

/-- A name with a line break, a quote, a backslash, a control character and a mapping inside. -/
def oddName : Value :=
  .list [.ofString "a\n\"\\\x01", .map [(.ofString "k", .null), (.ofString "\n", .list [.int (-7), .bool true])]]

/-- A name with half of a surrogate pair. -/
def halfName : Value := .text ⟨[.half 0]⟩

/-- Requests of which the second one cannot be recorded. -/
def threeRequests : List Request := [requestFor oddName, requestFor halfName, requestFor .null]

theorem opens_oneLineLog : Opens oneLineLog logPath := by
  have done : (oneLineLog.logCompilation logPath (requestFor .null).now .null (requestFor .null).sheet).2.toOption =
      some () := by
    decide +kernel
  cases outcome : (oneLineLog.logCompilation logPath (requestFor .null).now .null (requestFor .null).sheet).2 with
  | ok _ => exact opens_of_ok outcome
  | error fault =>
    rw [outcome] at done
    cases done

/-- Of three requests the second one fails, and the log gets two lines behind its old one. -/
theorem log_tells_requests_oddName :
    (∀ r ∈ threeRequests, Exact r.name) ∧ Opens oneLineLog logPath ∧
    Ended (contents oneLineLog (destination oneLineLog logPath)) ∧
    ∃ first second, IsLine (requestFor oddName) first ∧ IsLine (requestFor .null) second ∧
      linesOf (contents (logAll logPath threeRequests oneLineLog).1 (destination oneLineLog logPath)) =
        ["old".toList, first.toList, second.toList] := by
  have exact : ∀ r ∈ threeRequests, Exact r.name := by
    simp only [threeRequests, List.forall_mem_cons]
    refine ⟨⟨trivial, ⟨⟨["k", "\n"].map Text.ofString, by decide, rfl⟩, trivial, ⟨trivial, trivial, trivial⟩, trivial⟩,
      trivial⟩, trivial, trivial, fun _ member => absurd member List.not_mem_nil⟩
  have before : contents oneLineLog (destination oneLineLog logPath) = "old\n" := by decide +kernel
  have ended : Ended (contents oneLineLog (destination oneLineLog logPath)) := by
    rw [before]
    exact .inr (by decide)
  have kept : threeRequests.filter Request.hasLine = [requestFor oddName, requestFor .null] := by
    have lines : threeRequests.map Request.hasLine = [true, false, true] := by decide +kernel
    obtain ⟨first, lines⟩ := List.cons.inj lines
    obtain ⟨second, lines⟩ := List.cons.inj lines
    obtain ⟨third, _⟩ := List.cons.inj lines
    simp [threeRequests, first, second, third]
  obtain ⟨⟨bodies, two, _, lines⟩, _, logged, -⟩ := log_tells_requests logPath threeRequests exact oneLineLog
  rw [logged opens_oneLineLog, kept] at two
  obtain ⟨first, others, isFirst, one, rfl⟩ := List.forall₂_cons_left_iff.mp two
  obtain ⟨second, _, isSecond, none, rfl⟩ := List.forall₂_cons_left_iff.mp one
  obtain rfl := List.forall₂_nil_left_iff.mp none
  refine ⟨exact, opens_oneLineLog, ended, first, second, isFirst, isSecond, ?_⟩
  rw [lines ended, before]
  rfl

end TapeSheet.LogRuns
