import TapeSheet.Proofs.Accuracies
import TapeSheet.Proofs.Building
import TapeSheet.Proofs.CompileRun
import TapeSheet.Proofs.TableReading

/-!
# Recording a grid that was logged

A name that a log took has a text for the summary too (`shown_of_logged`), and so have the sizes (`numbers_of_logged`). A
compiled sheet has an accuracy on every preset (`lowestAccuracy_ok`). So nothing keeps a grid that was logged out of the
summary but a path with halves of characters, for which there is no line (`recordGrid_ok`), and its record tells the lowest
accuracy (`record_of_built`).
-/

namespace TapeSheet.Recording
open TapeSheet.Accuracies TapeSheet.Building TapeSheet.Compilation TapeSheet.Display TapeSheet.Encoding TapeSheet.Json
  TapeSheet.LogReading TapeSheet.Phases TapeSheet.Sessions TapeSheet.TableReading TapeSheet.ValueReading

/-! ## Names -/

theorem hindrance_key {room : Nat} {k : Value} {key : Text} (named : keyText k = .ok key) :
    Value.hindrance? (room + 1) k = none := by
  cases k with
  | int n =>
    unfold keyText at named
    simp only [Value.hindrance?, writable_of_intText named, if_true]
  | null | bool | float | text => rfl
  | _ => cases named

mutual

/-- Nothing keeps a value that has a JSON text from being shown one level further out. -/
theorem hindrance_printed (room : Nat) : ∀ (v : Value) (t : Text), printWithin room v = .ok t →
    Value.hindrance? (room + 1) v = none
  | .int n => by
    intro t printed
    unfold printWithin at printed
    simp only [Value.hindrance?, writable_of_intText printed, if_true]
  | .list items => by
    intro t printed
    obtain ⟨below, parts, rfl, inside, _⟩ := printed_list.mp printed
    exact hindrance_printedItems below items parts inside
  | .pair a b => by
    intro t printed
    obtain ⟨below, left, right, rfl, first, second, _⟩ := printed_pair.mp printed
    rw [Value.hindrance?, hindrance_printed below a left first, hindrance_printed below b right second]
    rfl
  | .map entries => by
    intro t printed
    obtain ⟨below, parts, rfl, inside, _⟩ := printed_map.mp printed
    exact hindrance_printedEntries below entries parts inside
  | .null | .bool _ | .float _ | .text _ | .bytes _ | .date _ | .moment _ | .listAgain | .mapAgain => fun _ _ => rfl
  | .set _ => by
    intro t printed
    cases printed

theorem hindrance_printedItems (room : Nat) : ∀ (items : List Value) (parts : List Text),
    printItems room items = .ok parts → Value.firstHindrance? (room + 1) items = none
  | [] => fun _ _ => rfl
  | x :: xs => by
    intro parts printed
    obtain ⟨part, others, first, later, _⟩ := printed_item.mp printed
    rw [Value.firstHindrance?, hindrance_printed room x part first, hindrance_printedItems room xs others later]
    rfl

theorem hindrance_printedEntries (room : Nat) : ∀ (entries : List (Value × Value)) (parts : List Text),
    printEntries room entries = .ok parts → Value.entriesHindrance? (room + 1) entries = none
  | [] => fun _ _ => rfl
  | (k, v) :: rest => by
    intro parts printed
    obtain ⟨key, value, others, named, first, later, _⟩ := printed_entry.mp printed
    rw [Value.entriesHindrance?, hindrance_key named, hindrance_printed room v value first,
      hindrance_printedEntries room rest others later]
    rfl

end

/-- Only a text is shown with the halves in it. -/
theorem whole_plain {room : Nat} {v : Value} {t : Text} (printed : printWithin room v = .ok t) (whole : Whole t) :
    Whole v.plain := by
  cases v with
  | text s =>
    cases printed
    exact whole_quoted whole
  | _ => exact whole_ofString _

/-- A name that a log took can be shown, said and written into a table. -/
theorem shown_of_logged {s : Sheet} {now : Moment} {name : Value} {line : String}
    (logged : s.logLine now name = .ok line) :
    ∃ shown, name.plain? = .ok name.plain ∧ Whole name.plain ∧ Summary.valueText? name = .ok shown ∧ Whole shown := by
  obtain ⟨text, printed, whole, _⟩ := logLine_ok_iff.mp logged
  obtain ⟨named, nameText, wholeName⟩ := name_printed printed whole
  have room : Value.nestingLimit = 984 + 1 := rfl
  have shows : name.plain? = .ok name.plain := by
    rw [Value.plain?, room, hindrance_printed 984 name named nameText]
  have whole := whole_plain nameText wholeName
  cases name with
  | null => exact ⟨"", shows, whole, rfl, whole_ofString ""⟩
  | _ => exact ⟨_, shows, whole, shows, whole⟩

/-- A grid with a log of its sheet has numbers of not too many digits. -/
theorem numbers_of_logged {now : Moment} {g : Grid} {s : Sheet} {line : String}
    (compiled : compileSheet (.int g.rows) (.int g.cols) (.int g.cap) = .ok s)
    (logged : s.logLine now g.name = .ok line) : [(g.rows : Int), g.cols, s.maxRow].all Decimal.isWritable = true := by
  rw [compileSheet_eq g.rows_pos g.cols_pos g.cap_pos g.cap_le] at compiled
  obtain rfl := Except.ok.inj compiled
  have rows : (sheetOf g.rows g.cols g.cap).rows = g.rows := rfl
  have cols : (sheetOf g.rows g.cols g.cap).cols = g.cols := rfl
  obtain ⟨text, printed, whole, _⟩ := logLine_ok_iff.mp logged
  rw [← rows, ← cols]
  exact numbers_printed printed whole

/-! ## Accuracies -/

/-- The sheet of valid sizes has an accuracy on every preset. -/
theorem lowestAccuracy_ok {g : Grid} {s : Sheet}
    (compiled : compileSheet (.int g.rows) (.int g.cols) (.int g.cap) = .ok s) :
    ∃ accuracy, lowestAccuracy s g.cols = .ok accuracy := by
  rw [compileSheet_eq g.rows_pos g.cols_pos g.cap_pos g.cap_le] at compiled
  obtain rfl := Except.ok.inj compiled
  have deep : (1 : Int) ≤ (sheetOf g.rows g.cols g.cap).maxRow :=
    Int.ofNat_le.mpr (Nat.le_min.mpr ⟨g.rows_pos, g.cap_pos⟩)
  obtain ⟨lowest, text, _⟩ := lowestAccuracy_eq rfl g.cols_pos deep (sheetOf_onTape g.rows g.cols g.cap)
  exact ⟨_, text⟩

/-! ## Records -/

/-- The fields of a record for a grid with a name, an accuracy and a file. -/
def fieldsOf (now : Moment) (g : Grid) (s : Sheet) (name : Text) (accuracy : String) (outfile : Path) : List Text :=
  [now.spaced, name, Decimal.ofNat g.rows, Decimal.ofNat g.cols, Decimal.ofInt s.maxRow, Decimal.ofNat s.rules.length,
    accuracy, outfile.text]

/-- The fields of the record for a grid that was built. -/
def IsRow (now : Moment) (o : BatchOptions) (g : Grid) (s : Sheet) (row : List Text) : Prop :=
  ∃ name accuracy outfile, Summary.valueText? g.name = .ok name ∧ o.target g = .ok outfile ∧
    (if o.verify then lowestAccuracy s g.cols = .ok accuracy else accuracy = "") ∧
    row = fieldsOf now g s name accuracy outfile

section Records
variable {now : Moment} {o : BatchOptions} {g : Grid} {s : Sheet} {name : Text} {outfile : Path} {line record : String}

theorem whole_fieldsOf (named : Whole name) (path : Whole outfile.text) (accuracy : String) :
    ∀ t ∈ fieldsOf now g s name accuracy outfile, Whole t := by
  unfold fieldsOf
  simp only [List.forall_mem_cons, whole_ofString, named, path, true_and, List.not_mem_nil, false_imp_iff, implies_true]

/-- There is a record for a grid with a name that has a text and with numbers of not too many digits. -/
theorem record?_ok {accuracy : String} : Summary.record? now g s accuracy outfile = .ok record ↔
    ∃ name, Summary.valueText? g.name = .ok name ∧
      [(g.rows : Int), g.cols, s.maxRow].all Decimal.isWritable = true ∧
      (Summary.record (fieldsOf now g s name accuracy outfile)).written = .ok record := by
  unfold Summary.record?
  cases Summary.valueText? g.name with
  | error fault => simp [bind, Except.bind]
  | ok name =>
    simp only [bind, Except.bind, Except.ok.injEq, exists_eq_left']
    cases numbers : [(g.rows : Int), g.cols, s.maxRow].all Decimal.isWritable with
    | false => simp [Decimal.ifWritable_error.mpr ⟨numbers, rfl⟩]
    | true => simp [Decimal.ifWritable_ok.mpr ⟨numbers, rfl⟩, fieldsOf]

theorem reportGrid_ok (shows : g.name.plain? = .ok g.name.plain) (wholeName : Whole g.name.plain)
    (path : Whole outfile.text) {accuracy : String}
    (recorded : Summary.record? now g s accuracy outfile = .ok record) (w : World) :
    ∃ after, reportGrid now g s outfile accuracy w = .ok record after := by
  have line : Whole (Text.glued "" ["Grid ", g.name.plain, ": ", Decimal.grouped s.rules.length, " rules → ",
      outfile.text]) := by
    refine whole_glued (whole_ofString "") ?_
    simp only [List.forall_mem_cons, whole_ofString, wholeName, path, true_and, List.not_mem_nil, false_imp_iff,
      implies_true]
  have said : ∀ w, ∃ after, (do
      Session.say (Text.glued "" ["Grid ", g.name.plain, ": ", Decimal.grouped s.rules.length, " rules → ",
        outfile.text])
      Session.orDie (.ok record)) w = .ok record after := by
    intro w
    rw [bind_apply, say_ok line]
    exact ⟨_, rfl⟩
  unfold reportGrid
  rw [bind_apply, shows, orDie_ok]
  simp only
  rw [recorded]
  cases s.note with
  | none => exact said w
  | some note => exact said _

/-- A grid that was logged gets its record, if there is a text for the path of its file. -/
theorem recordGrid_ok (compiled : compileSheet (.int g.rows) (.int g.cols) (.int g.cap) = .ok s)
    (target : o.target g = .ok outfile) (logged : s.logLine now g.name = .ok line) (path : Whole outfile.text)
    (w : World) :
    ∃ row record after, IsRow now o g s row ∧ (∀ t ∈ row, Whole t) ∧ (Summary.record row).written = .ok record ∧
      recordGrid now o g s outfile w = .ok record after := by
  obtain ⟨name, shows, wholeName, named, whole⟩ := shown_of_logged logged
  have numbers := numbers_of_logged compiled logged
  have report : ∀ accuracy : String, (if o.verify then lowestAccuracy s g.cols = .ok accuracy else accuracy = "") →
      ∃ row record after, IsRow now o g s row ∧ (∀ t ∈ row, Whole t) ∧ (Summary.record row).written = .ok record ∧
        reportGrid now g s outfile accuracy w = .ok record after := by
    intro accuracy known
    have fields := @whole_fieldsOf now g s name outfile whole path accuracy
    have written := written_record fields
    obtain ⟨after, run⟩ := reportGrid_ok shows wholeName path (record?_ok.mpr ⟨name, named, numbers, written⟩) w
    exact ⟨_, _, after, ⟨name, accuracy, outfile, named, target, known, rfl⟩, fields, written, run⟩
  rw [recordGrid_eq]
  cases verify : o.verify with
  | true =>
    obtain ⟨accuracy, known⟩ := lowestAccuracy_ok compiled
    rw [if_pos rfl, bind_apply, known, orDie_ok]
    exact report accuracy (by rwa [verify, if_pos rfl])
  | false =>
    rw [if_neg Bool.false_ne_true]
    exact report "" (by rw [verify, if_neg Bool.false_ne_true])

/-- The record of a grid that was built by any compiler tells its lowest accuracy. -/
theorem record_of_built {compiler : Compiler} {w after : World} {accuracy : String} (verify : o.verify = true)
    (compiled : compiler (.int g.rows) (.int g.cols) (.int g.cap) = .ok s)
    (known : lowestAccuracy s g.cols = .ok accuracy)
    (built : buildGrid now compiler o g w = .ok record after) :
    ∃ name outfile, o.target g = .ok outfile ∧
      (Summary.record (fieldsOf now g s name accuracy outfile)).written = .ok record := by
  obtain ⟨sheet, outfile, between, written, recorded, _⟩ := buildGrid_ok built
  obtain ⟨_, _, same, target, _⟩ := writeGrid_ok written
  obtain rfl := Except.ok.inj (same.symm.trans compiled)
  rw [recordGrid_eq, if_pos verify, bind_apply, known, orDie_ok] at recorded
  obtain ⟨_, _, _, rest⟩ := bind_eq_ok recorded
  have recording : Summary.record? now g sheet accuracy outfile = .ok record := by
    cases note : sheet.note <;> rw [note] at rest
    · obtain ⟨_, _, _, rest⟩ := bind_eq_ok rest
      exact (orDie_eq_ok rest).1
    · obtain ⟨_, _, _, rest⟩ := bind_eq_ok rest
      obtain ⟨_, _, _, rest⟩ := bind_eq_ok rest
      exact (orDie_eq_ok rest).1
  obtain ⟨name, _, _, written⟩ := record?_ok.mp recording
  exact ⟨name, outfile, target, written⟩

end Records

end TapeSheet.Recording
