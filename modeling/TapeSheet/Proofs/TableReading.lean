import TapeSheet.Proofs.LogReading
import TapeSheet.Summary

/-!
# Reading a table

A reader of comma-separated fields that takes one character after the other. It reads records that were written one
after the other as what they were made of (`readTable_records`), whatever their fields hold.
-/

namespace TapeSheet.TableReading
open TapeSheet.Encoding TapeSheet.SheetReading TapeSheet.ValueReading TapeSheet.LogReading TapeSheet.Summary

/-! ## Reader -/

/-- Where a reader is: in front of a record or of a field, in a field without or with quotes, behind a quote that may be
the last one of its field, or behind the first half of a line end. -/
inductive Mode
  | line
  | start
  | plain
  | quoted
  | closing
  | returned

/-- A reader with what it has read of a field, of a record and of the table. -/
structure Reader where
  mode : Mode
  field : List Char
  record : List (List Char)
  table : List (List (List Char))

namespace Reader

/-- Takes a character into the field. -/
def add (r : Reader) (mode : Mode) (c : Char) : Reader := { r with mode, field := r.field ++ [c] }

/-- Ends the field. -/
def endField (r : Reader) : Reader := { r with mode := .start, field := [], record := r.record ++ [r.field] }

/-- Ends the record at a carriage return or a line feed. -/
def endRecord (r : Reader) (c : Char) : Reader :=
  ⟨if c = '\r' then .returned else .line, [], [], r.table ++ [r.record]⟩

/-- Reads a character of a field outside of quotes. -/
def readPlain (r : Reader) (c : Char) : Reader :=
  if c = ',' then r.endField
  else if c = '\r' ∨ c = '\n' then r.endField.endRecord c
  else r.add .plain c

/-- Reads the first character of a field. -/
def readStart (r : Reader) (c : Char) : Reader := if c = '"' then { r with mode := .quoted } else r.readPlain c

/-- Reads the first character of a record. -/
def readLine (r : Reader) (c : Char) : Reader := if c = '\r' ∨ c = '\n' then r.endRecord c else r.readStart c

/-- Reads a character. -/
def read (r : Reader) (c : Char) : Reader :=
  match r.mode with
  | .line => r.readLine c
  | .start => r.readStart c
  | .plain => r.readPlain c
  | .quoted => if c = '"' then { r with mode := .closing } else r.add .quoted c
  | .closing => if c = '"' then r.add .quoted c else r.readPlain c
  | .returned => if c = '\n' then { r with mode := .line } else r.readLine c

/-- The table at the end of a text, whose last record need not be ended. -/
def finish (r : Reader) : List (List (List Char)) :=
  match r.mode with
  | .line | .returned => r.table
  | _ => r.table ++ [r.record ++ [r.field]]

end Reader

/-- The records of a text, each with its fields. -/
def readTable (text : String) : List (List Text) :=
  (text.toList.foldl Reader.read ⟨.line, [], [], []⟩).finish.map fun record => record.map Text.ofChars

/-! ## Fields -/

/-- A character of a field between quotes. -/
def doubledChar (c : Char) : List Char := if c = '"' then ['"', '"'] else [c]

/-- The characters of a field as they are written. -/
def writtenField (chars : List Char) : List Char :=
  if chars.any needsQuotes then '"' :: chars.flatMap doubledChar ++ ['"'] else chars

theorem doubled_chars (letters : List Letter) :
    charsOf (doubled letters) = (charsOf letters).flatMap doubledChar := by
  induction letters with
  | nil => rfl
  | cons l letters ih =>
    rw [doubled]
    cases l with
    | half unit =>
      rw [if_neg (by simp)]
      exact ih
    | char c =>
      have chars : charsOf (.char c :: letters) = c :: charsOf letters := rfl
      rw [chars, List.flatMap_cons, doubledChar]
      by_cases isQuote : c = '"'
      · subst isQuote
        rw [if_pos rfl, if_pos rfl, ← ih]
        rfl
      · rw [if_neg (by simpa using isQuote), if_neg isQuote, ← ih]
        rfl

theorem field_chars (t : Text) : charsOf (field t).letters = writtenField (charsOf t.letters) := by
  have some : (t.letters.any fun l => l.char?.any needsQuotes) = (charsOf t.letters).any needsQuotes := by
    rw [charsOf, List.any_filterMap]
    refine congrArg _ (funext fun l => ?_)
    cases l <;> rfl
  unfold field writtenField
  rw [some]
  by_cases needs : (charsOf t.letters).any needsQuotes = true
  · rw [if_pos needs, if_pos needs, ← doubled_chars]
    have letters : (.char '"' :: doubled t.letters ++ [.char '"'] : List Letter) =
        [.char '"'] ++ doubled t.letters ++ [.char '"'] := rfl
    rw [letters, charsOf_append, charsOf_append]
    rfl
  · rw [if_neg needs, if_neg needs]

theorem needsQuotes_eq_false {c : Char} :
    needsQuotes c = false ↔ c ≠ ',' ∧ c ≠ '"' ∧ c ≠ '\r' ∧ c ≠ '\n' := by
  simp only [needsQuotes, Bool.or_eq_false_iff, decide_eq_false_iff_not, and_assoc, ne_eq]

section Fields
variable {record : List (List Char)} {table : List (List (List Char))}

theorem read_plain {chars : List Char} (simple : ∀ c ∈ chars, needsQuotes c = false) (field : List Char) :
    chars.foldl Reader.read ⟨.plain, field, record, table⟩ = ⟨.plain, field ++ chars, record, table⟩ := by
  induction chars generalizing field with
  | nil => rw [List.foldl_nil, List.append_nil]
  | cons c chars ih =>
    obtain ⟨comma, _, returned, fed⟩ := needsQuotes_eq_false.mp (simple c (List.mem_cons_self ..))
    have step : (⟨.plain, field, record, table⟩ : Reader).read c = ⟨.plain, field ++ [c], record, table⟩ := by
      simp [Reader.read, Reader.readPlain, Reader.add, comma, returned, fed]
    rw [List.foldl_cons, step, ih fun other member => simple other (List.mem_cons_of_mem c member), List.append_assoc]
    rfl

theorem read_quoted (chars field : List Char) :
    (chars.flatMap doubledChar).foldl Reader.read ⟨.quoted, field, record, table⟩ =
      ⟨.quoted, field ++ chars, record, table⟩ := by
  induction chars generalizing field with
  | nil => rw [List.flatMap_nil, List.foldl_nil, List.append_nil]
  | cons c chars ih =>
    have step : (doubledChar c).foldl Reader.read ⟨.quoted, field, record, table⟩ =
        ⟨.quoted, field ++ [c], record, table⟩ := by
      unfold doubledChar
      by_cases isQuote : c = '"'
      · simp [isQuote, Reader.read, Reader.add]
      · simp [isQuote, Reader.read, Reader.add]
    rw [List.flatMap_cons, List.foldl_append, step, ih, List.append_assoc]
    rfl

/-- What comes behind a field is read as outside of quotes. -/
theorem read_field (chars : List Char) {c : Char} (noQuote : c ≠ '"') :
    ((writtenField chars).foldl Reader.read ⟨.start, [], record, table⟩).read c =
      (⟨.start, chars, record, table⟩ : Reader).readPlain c := by
  unfold writtenField
  by_cases needs : chars.any needsQuotes = true
  · have opened : (⟨.start, [], record, table⟩ : Reader).read '"' = ⟨.quoted, [], record, table⟩ := rfl
    have closed : (⟨.quoted, chars, record, table⟩ : Reader).read '"' = ⟨.closing, chars, record, table⟩ := rfl
    rw [if_pos needs, List.cons_append, List.foldl_cons, opened, List.foldl_append, read_quoted, List.nil_append,
      List.foldl_cons, List.foldl_nil, closed]
    simp only [Reader.read, if_neg noQuote]
    rfl
  · rw [if_neg needs]
    cases chars with
    | nil => simp only [List.foldl_nil, Reader.read, Reader.readStart, if_neg noQuote]
    | cons first chars =>
      have simple : ∀ other ∈ first :: chars, needsQuotes other = false := by simpa using needs
      obtain ⟨comma, quote, returned, fed⟩ := needsQuotes_eq_false.mp (simple first (List.mem_cons_self ..))
      have step : (⟨.start, [], record, table⟩ : Reader).read first = ⟨.plain, [first], record, table⟩ := by
        simp [Reader.read, Reader.readStart, Reader.readPlain, Reader.add, comma, quote, returned, fed]
      rw [List.foldl_cons, step, read_plain fun other member => simple other (List.mem_cons_of_mem first member)]
      rfl

end Fields

/-! ## Records -/

/-- The characters of a record as they are written. -/
def writtenRecord : List (List Char) → List Char
  | [] => ['\r', '\n']
  | [last] => writtenField last ++ ['\r', '\n']
  | first :: second :: rest => writtenField first ++ ',' :: writtenRecord (second :: rest)

theorem record_chars (fields : List Text) :
    charsOf (record fields).letters = writtenRecord (fields.map fun t => charsOf t.letters) := by
  have ended : (record fields).letters = (Text.glued "," (fields.map field)).letters ++ [.char '\r', .char '\n'] := rfl
  rw [ended, charsOf_append]
  induction fields with
  | nil => rfl
  | cons first fields ih =>
    cases fields with
    | nil => exact congrArg (· ++ ['\r', '\n']) (field_chars first)
    | cons second rest =>
      have letters : (Text.glued "," ((first :: second :: rest).map field)).letters =
          (field first).letters ++ .char ',' :: (Text.glued "," ((second :: rest).map field)).letters := rfl
      have inner : charsOf (.char ',' :: (Text.glued "," ((second :: rest).map field)).letters) =
          ',' :: charsOf (Text.glued "," ((second :: rest).map field)).letters := rfl
      rw [letters, charsOf_append, field_chars, inner, List.append_assoc, List.cons_append, ih rfl]
      rfl

section Records
variable {table : List (List (List Char))}

theorem read_fields {fields : List (List Char)} (some : fields ≠ []) (record : List (List Char)) :
    (writtenRecord fields).foldl Reader.read ⟨.start, [], record, table⟩ =
      ⟨.line, [], [], table ++ [record ++ fields]⟩ := by
  induction fields generalizing record with
  | nil => exact absurd rfl some
  | cons first fields ih =>
    cases fields with
    | nil =>
      rw [writtenRecord, List.foldl_append, List.foldl_cons, read_field first (by decide)]
      rfl
    | cons second rest =>
      have ended : (⟨.start, first, record, table⟩ : Reader).readPlain ',' = ⟨.start, [], record ++ [first], table⟩ := rfl
      rw [writtenRecord, List.foldl_append, List.foldl_cons, read_field first (by decide), ended,
        ih (List.cons_ne_nil second rest), List.append_assoc]
      rfl

/-- A record of more than one field does not begin like the end of a line. -/
theorem writtenRecord_head (first second : List Char) (rest : List (List Char)) :
    ∃ c chars, writtenRecord (first :: second :: rest) = c :: chars ∧ c ≠ '\r' ∧ c ≠ '\n' := by
  rw [writtenRecord, writtenField]
  by_cases needs : first.any needsQuotes = true
  · rw [if_pos needs]
    exact ⟨'"', _, rfl, by decide, by decide⟩
  · rw [if_neg needs]
    cases first with
    | nil => exact ⟨',', _, rfl, by decide, by decide⟩
    | cons c chars =>
      have simple : ∀ other ∈ c :: chars, needsQuotes other = false := by simpa using needs
      obtain ⟨_, _, returned, fed⟩ := needsQuotes_eq_false.mp (simple c (List.mem_cons_self ..))
      exact ⟨c, _, rfl, returned, fed⟩

theorem read_record {fields : List (List Char)} (two : 2 ≤ fields.length) (table : List (List (List Char))) :
    (writtenRecord fields).foldl Reader.read ⟨.line, [], [], table⟩ = ⟨.line, [], [], table ++ [fields]⟩ := by
  match fields, two with
  | first :: second :: rest, _ =>
    have inside := @read_fields table (first :: second :: rest) (List.cons_ne_nil first _) []
    obtain ⟨c, chars, begins, notReturned, notFed⟩ := writtenRecord_head first second rest
    have same : (⟨.line, [], [], table⟩ : Reader).read c = (⟨.start, [], [], table⟩ : Reader).read c := by
      simp only [Reader.read, Reader.readLine, if_neg (not_or_intro notReturned notFed)]
      rfl
    rw [begins, List.foldl_cons] at inside ⊢
    rw [same, inside, List.nil_append]

/-- Records that were written one after the other are read as they were. -/
theorem readTable_records {records : List (List Text)} (two : ∀ fields ∈ records, 2 ≤ fields.length)
    (whole : ∀ fields ∈ records, ∀ t ∈ fields, Whole t) {text : String}
    (made : text.toList = records.flatMap fun fields => charsOf (record fields).letters) : readTable text = records := by
  have reads : ∀ table, (records.flatMap fun fields => charsOf (record fields).letters).foldl Reader.read
      ⟨.line, [], [], table⟩ = ⟨.line, [], [], table ++ records.map fun fields => fields.map fun t => charsOf t.letters⟩ := by
    clear made whole
    induction records with
    | nil => simp
    | cons fields records ih =>
      intro table
      rw [List.flatMap_cons, List.foldl_append, record_chars, read_record (by simpa using two fields (by simp)),
        ih fun other member => two other (List.mem_cons_of_mem fields member)]
      simp
  have same : (records.map fun fields => (fields.map fun t => charsOf t.letters).map Text.ofChars) = records := by
    conv_rhs => rw [← List.map_id records]
    refine List.map_congr_left fun fields member => ?_
    rw [List.map_map]
    conv_rhs => rw [id, ← List.map_id fields]
    exact List.map_congr_left fun t inside => ofChars_charsOf (whole fields member t inside)
  unfold readTable
  rw [made, reads]
  simp only [Reader.finish, List.nil_append, List.map_map]
  exact same

end Records

/-! ## Writing -/

theorem whole_field {t : Text} (whole : Whole t) : Whole (field t) := by
  have doubles : ∀ letters : List Letter, (∀ l ∈ letters, l.isHalf = false) → ∀ l ∈ doubled letters, l.isHalf = false := by
    intro letters each
    induction letters with
    | nil => exact each
    | cons first letters ih =>
      obtain ⟨own, rest⟩ := List.forall_mem_cons.mp each
      rw [doubled]
      split
      · exact List.forall_mem_cons.mpr ⟨rfl, List.forall_mem_cons.mpr ⟨rfl, ih rest⟩⟩
      · exact List.forall_mem_cons.mpr ⟨own, ih rest⟩
  unfold field
  split
  · intro l member
    rcases List.mem_append.mp member with inside | last
    · rcases List.mem_cons.mp inside with rfl | inner
      · rfl
      · exact doubles t.letters whole l inner
    · rw [List.mem_singleton.mp last]
      rfl
  · exact whole

/-- A record whose fields can be written can be written itself. -/
theorem written_record {fields : List Text} (whole : ∀ t ∈ fields, Whole t) :
    (record fields).written = .ok (String.ofList (charsOf (record fields).letters)) := by
  refine written_ok.mpr ⟨whole_append.mpr ⟨whole_glued (whole_ofString ",") ?_, whole_ofString "\r\n"⟩, rfl⟩
  intro part member
  obtain ⟨t, inside, rfl⟩ := List.mem_map.mp member
  exact whole_field (whole t inside)

/-- Fields with commas, quotes and line ends are read as they were written. -/
example : readTable "a,\"b,\"\"\r\n\"\r\n,c\r\n" = [["a", "b,\"\r\n"], ["", "c"]].map (·.map Text.ofString) := by decide

end TapeSheet.TableReading
