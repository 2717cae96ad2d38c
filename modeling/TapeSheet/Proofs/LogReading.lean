import TapeSheet.Proofs.ValueReading
import TapeSheet.BuildFiles

/-!
# Reading a log

The line that a log gets for a sheet is read as what the log keeps of it (`logLine_read`), so a log of such lines tells
them all in order.
-/

namespace TapeSheet.LogReading
open TapeSheet.BlockReading TapeSheet.Encoding TapeSheet.SheetReading TapeSheet.JsonReading TapeSheet.ValueReading
open TapeSheet.Json

/-! ## Texts without halves -/

theorem whole_quoted {s : Text} (whole : Whole (quoted s)) : Whole s := by
  intro l member
  cases l with
  | char c => rfl
  | half unit =>
    refine whole _ ?_
    simp only [quoted, List.cons_append, List.mem_cons, List.mem_append, List.mem_flatMap]
    exact .inr (.inl ⟨_, member, by simp [escapedLetter]⟩)

theorem ofChars_charsOf {s : Text} (whole : Whole s) : Text.ofChars (charsOf s.letters) = s := by
  obtain ⟨letters⟩ := s
  induction letters with
  | nil => rfl
  | cons l letters ih =>
    have rest := congrArg Text.letters (ih fun other member => whole other (List.mem_cons_of_mem l member))
    cases l with
    | char c => exact congrArg (fun rest => Text.mk (.char c :: rest)) rest
    | half unit => exact absurd (whole (.half unit) (by simp)) (by simp [Letter.isHalf])

/-- A text is written as its characters if it is made of nothing else. -/
theorem written_ok {t : Text} {text : String} :
    t.written = .ok text ↔ Whole t ∧ text = String.ofList (charsOf t.letters) := by
  unfold Text.written Text.encode
  cases misfit : t.misfit? with
  | none =>
    have whole := misfit_none.mp misfit
    constructor
    · intro same
      exact ⟨whole, (Except.ok.inj same).symm⟩
    · rintro ⟨_, rfl⟩
      rfl
  | some misfit' =>
    have notWhole : ¬ Whole t := fun whole => by rw [misfit_none.mpr whole] at misfit; cases misfit
    constructor
    · intro same
      cases same
    · rintro ⟨whole, _⟩
      exact absurd whole notWhole

/-! ## Records -/

theorem printEntries_cons {room : Nat} {key : String} {v : Value} {rest : List (Value × Value)} {parts : List Text}
    (printed : printEntries room ((.ofString key, v) :: rest) = .ok parts) :
    ∃ value others, parts = (quoted (Text.ofString key) ++ (Text.ofString ": " ++ value)) :: others ∧
      printWithin room v = .ok value ∧ printEntries room rest = .ok others := by
  obtain ⟨_, value, others, named, first, later, rfl⟩ := printed_entry.mp printed
  cases named
  exact ⟨value, others, rfl, first, later⟩

theorem readsEntry_of (key : String) {value : Text} {v : Value} (reads : Reads (charsOf value.letters) v) :
    ReadsEntry (charsOf (quoted (Text.ofString key) ++ (Text.ofString ": " ++ value)).letters) (.ofString key, v) := by
  refine ⟨key.toList, charsOf value.letters, ?_, rfl, reads⟩
  rw [entry_chars, ofString_chars]

theorem reads_wholeText {s : Text} (whole : Whole s) : Reads (charsOf (quoted s).letters) (.text s) := by
  have reads := reads_text s
  rwa [ofChars_charsOf whole] at reads

theorem insert_new {key : Text} {value : Value} {entries : List (Text × Value)} (new : key ∉ entries.map (·.1)) :
    Value.insert (.text key) value (entries.map fun entry => (.text entry.1, entry.2)) =
      (entries ++ [(key, value)]).map fun entry => (.text entry.1, entry.2) := by
  induction entries with
  | nil => rfl
  | cons first entries ih =>
    simp only [List.map_cons, List.mem_cons, not_or] at new
    rw [List.map_cons, insert_text, if_neg (Ne.symm new.1), ih new.2]
    rfl

/-- Entries with different keys stay as they are and in their order. -/
theorem inserted_new {before more : List (Text × Value)} (new : ((before ++ more).map (·.1)).Nodup) :
    inserted (before.map fun entry => (.text entry.1, entry.2)) more =
      (before ++ more).map fun entry => (.text entry.1, entry.2) := by
  induction more generalizing before with
  | nil =>
    rw [List.append_nil]
    rfl
  | cons entry more ih =>
    have fresh : entry.1 ∉ before.map (·.1) := by
      rw [List.map_append, List.map_cons] at new
      exact fun member => (List.nodup_append.mp new).2.2 _ member _ (by simp) rfl
    have step := ih (by rwa [List.append_assoc] : ((before ++ [entry] ++ more).map (·.1)).Nodup)
    rw [List.append_assoc, List.singleton_append] at step
    rw [← step, inserted, List.foldl_cons, insert_new fresh]
    rfl

theorem inserted_distinct {entries : List (Text × Value)} (distinct : (entries.map (·.1)).Nodup) :
    inserted [] entries = entries.map fun entry => (.text entry.1, entry.2) := @inserted_new [] entries distinct

theorem reads_whole {room : Nat} {v : Value} {t : Text} (printed : printWithin room v = .ok t) (whole : Whole t) :
    ∃ read, Reads (charsOf t.letters) read ∧ ∀ s, v = .text s → read = .text s := by
  by_cases isText : ∃ s, v = .text s
  · obtain ⟨s, rfl⟩ := isText
    cases printed
    exact ⟨.text s, reads_wholeText (whole_quoted whole), fun _ same => same⟩
  · obtain ⟨read, reads⟩ := reads_printed room v t printed
    exact ⟨read, reads, fun s same => absurd ⟨s, same⟩ isText⟩

theorem reads_note {room : Nat} {note : Option Text} {t : Text}
    (printed : printWithin room (note.elim .null .text) = .ok t) (whole : Whole t) :
    Reads (charsOf t.letters) (note.elim .null .text) := by
  cases note with
  | none =>
    cases printed
    rw [ofString_chars]
    exact reads_null
  | some note =>
    cases printed
    exact reads_wholeText (whole_quoted whole)

/-- What a log keeps of a sheet is written entry by entry. -/
theorem summary_parts {s : Sheet} {now : Moment} {name : Value} {text : Text}
    (printed : print (s.summary now name) = .ok text) (whole : Whole text) :
    ∃ parts, text = enclosed '\x7b' '\x7d' parts ∧
      printEntries 984 [(.ofString "ts", .ofString now.stamp), (.ofString "name", name),
        (.ofString "rows", .int s.rows), (.ofString "cols", .int s.cols), (.ofString "max_row", .int s.maxRow),
        (.ofString "rule_count", .int s.rules.length), (.ofString "note", s.note.elim .null .text)] = .ok parts ∧
      ∀ key value, quoted (Text.ofString key) ++ (Text.ofString ": " ++ value) ∈ parts → Whole value := by
  unfold print Sheet.summary at printed
  have room : Value.nestingLimit = 984 + 1 := rfl
  rw [room] at printed
  obtain ⟨_, parts, same, inside, rfl⟩ := printed_map.mp printed
  obtain rfl := Nat.succ.inj same
  have glued : Whole (Text.glued ", " parts) := fun l member => whole l (by simp [enclosed, member])
  exact ⟨parts, rfl, inside, fun key value member => (whole_append.mp (whole_append.mp (whole_parts glued member)).2).2⟩

/-- A name in a log has a text of its own. -/
theorem name_printed {s : Sheet} {now : Moment} {name : Value} {text : Text}
    (printed : print (s.summary now name) = .ok text) (whole : Whole text) :
    ∃ named, printWithin 984 name = .ok named ∧ Whole named := by
  obtain ⟨parts, rfl, inside, part⟩ := summary_parts printed whole
  obtain ⟨stamp, parts, rfl, _, inside⟩ := printEntries_cons inside
  obtain ⟨named, parts, rfl, nameText, _⟩ := printEntries_cons inside
  exact ⟨named, nameText, part "name" named (by simp)⟩

/-- The numbers in a log have not too many digits. -/
theorem numbers_printed {s : Sheet} {now : Moment} {name : Value} {text : Text}
    (printed : print (s.summary now name) = .ok text) (whole : Whole text) :
    [s.rows, s.cols, s.maxRow].all Decimal.isWritable = true := by
  obtain ⟨parts, rfl, inside, _⟩ := summary_parts printed whole
  obtain ⟨stamp, parts, rfl, _, inside⟩ := printEntries_cons inside
  obtain ⟨named, parts, rfl, _, inside⟩ := printEntries_cons inside
  obtain ⟨rows, parts, rfl, rowsText, inside⟩ := printEntries_cons inside
  obtain ⟨cols, parts, rfl, colsText, inside⟩ := printEntries_cons inside
  obtain ⟨maxRow, parts, rfl, maxRowText, inside⟩ := printEntries_cons inside
  simp only [List.all_cons, List.all_nil, writable_of_intText rowsText, writable_of_intText colsText,
    writable_of_intText maxRowText, Bool.and_self]

/-- The text of what a log keeps is read as that, up to how its name is read. -/
theorem summary_reads {s : Sheet} {now : Moment} {name : Value} {text : Text}
    (printed : print (s.summary now name) = .ok text) (whole : Whole text) :
    ∃ read, Reads (charsOf text.letters) (s.summary now read) ∧ ∀ t, name = .text t → read = .text t := by
  obtain ⟨parts, rfl, inside, part⟩ := summary_parts printed whole
  obtain ⟨stamp, parts, rfl, stampText, inside⟩ := printEntries_cons inside
  obtain ⟨named, parts, rfl, nameText, inside⟩ := printEntries_cons inside
  obtain ⟨rows, parts, rfl, rowsText, inside⟩ := printEntries_cons inside
  obtain ⟨cols, parts, rfl, colsText, inside⟩ := printEntries_cons inside
  obtain ⟨maxRow, parts, rfl, maxRowText, inside⟩ := printEntries_cons inside
  obtain ⟨count, parts, rfl, countText, inside⟩ := printEntries_cons inside
  obtain ⟨note, parts, rfl, noteText, inside⟩ := printEntries_cons inside
  cases inside
  cases stampText
  obtain ⟨read, reads, same⟩ := reads_whole nameText (part "name" named (by simp))
  have map := reads_map (.cons (readsEntry_of "ts" (reads_wholeText (whole_ofString now.stamp)))
    (.cons (readsEntry_of "name" reads) (.cons (readsEntry_of "rows" (reads_intText rowsText))
    (.cons (readsEntry_of "cols" (reads_intText colsText)) (.cons (readsEntry_of "max_row" (reads_intText maxRowText))
    (.cons (readsEntry_of "rule_count" (reads_intText countText))
    (.cons (readsEntry_of "note" (reads_note noteText (part "note" note (by simp)))) .nil)))))))
  have keys : (["ts", "name", "rows", "cols", "max_row", "rule_count", "note"].map Text.ofString).Nodup := by decide
  rw [inserted_distinct] at map
  · exact ⟨read, map, same⟩
  · exact keys

/-! ## Lines -/

theorem parse_reads {chars : List Char} {v : Value} (reads : Reads chars v) : parse (String.ofList chars) = some v := by
  have read := reads.read chars.length [] (Nat.le_refl _) (fun c head => by cases head)
  rw [List.append_nil] at read
  unfold parse
  simp only [String.toList_ofList, read]
  rfl

/-- A line is the JSON text of a record, ended. -/
theorem logLine_ok_iff {s : Sheet} {now : Moment} {name : Value} {line : String} : s.logLine now name = .ok line ↔
    ∃ text, print (s.summary now name) = .ok text ∧ Whole text ∧
      line = String.ofList (charsOf text.letters) ++ "\n" := by
  have ended : ∀ text : Text, Whole (text ++ Text.ofString "\n") ↔ Whole text := fun text => by
    rw [whole_append, and_iff_left (whole_ofString "\n")]
  have chars : ∀ text : Text, String.ofList (charsOf (text ++ Text.ofString "\n").letters) =
      String.ofList (charsOf text.letters) ++ "\n" := by
    intro text
    have letters : (text ++ Text.ofString "\n").letters = text.letters ++ [.char '\n'] := rfl
    rw [letters, charsOf_append, String.ofList_append]
    rfl
  unfold Sheet.logLine
  cases print (s.summary now name) with
  | error _ => simp
  | ok text => simp [written_ok, ended, chars]

/-- A line of a log is read as what the log keeps of its sheet. -/
theorem logLine_read {s : Sheet} {now : Moment} {name : Value} {line : String}
    (made : s.logLine now name = .ok line) :
    ∃ body read, line = body ++ "\n" ∧ '\n' ∉ body.toList ∧ parse body = some (s.summary now read) ∧
      ∀ t, name = .text t → read = .text t := by
  obtain ⟨text, printed, whole, rfl⟩ := logLine_ok_iff.mp made
  obtain ⟨read, reads, same⟩ := summary_reads printed whole
  refine ⟨_, read, rfl, ?_, parse_reads reads, same⟩
  rw [String.toList_ofList]
  exact reads.oneLine

/-- The values on the lines of a log, each of which has to be ended. -/
def logValues? (text : String) : Option (List Value) :=
  match (text.toList.splitOn '\n').reverse with
  | [] :: lines => lines.reverse.mapM fun line => parse (String.ofList line)
  | _ => none

/-- A log of ended lines tells their values in order. -/
theorem logValues_lines {lines : List (List Char × Value)} (oneLine : ∀ line ∈ lines, '\n' ∉ line.1)
    (reads : ∀ line ∈ lines, parse (String.ofList line.1) = some line.2) {text : String}
    (made : text.toList = lines.flatMap fun line => line.1 ++ ['\n']) : logValues? text = some (lines.map (·.2)) := by
  have noNewline : ∀ line ∈ lines.map (·.1), '\n' ∉ line := by
    intro line member
    obtain ⟨entry, ofLog, rfl⟩ := List.mem_map.mp member
    exact oneLine entry ofLog
  have split := splitOn_lines noNewline []
  rw [List.flatMap_map, List.append_nil, ← made] at split
  have ended : (text.toList.splitOn '\n').reverse = [] :: (lines.map (·.1)).reverse := by
    rw [split, List.splitOn_nil, List.reverse_append]
    rfl
  unfold logValues?
  rw [ended]
  simp only [List.reverse_reverse]
  apply mapM_of_map_some
  rw [List.map_map, List.map_map]
  exact List.map_congr_left fun line member => reads line member

end TapeSheet.LogReading
