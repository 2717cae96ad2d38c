import TapeSheet.Proofs.DocumentFaults
import TapeSheet.Proofs.Refusals
import TapeSheet.Proofs.Resolution

/-!
# Faults of configurations

A program says what is wrong with its configuration and ends with a status, but any other fault ends it without a
message. Most values that describe no grid are refused with a fault of the configuration (`ofEntries_outcome`,
`check_outcome`). What escapes is told by the value itself (`handled_ofValue`): a path that is none, unknown keys
without an order, and a refused value that cannot be shown. A document is loaded, or is refused with a message, unless
its text is refused while it is read or one of its mappings escapes (`handled_load`, `handled_loadList`).
-/

namespace TapeSheet.ConfigFaults
open TapeSheet.Sessions TapeSheet.Validation TapeSheet.Resolution

/-! ## Results -/

/-- A fault is reported as one of the configuration. -/
def Reported (fault : Fault) : Prop := ∃ cause, fault.reported = .config cause

/-- A result, or a fault that is reported as one of the configuration. -/
def Handled {α : Type} : Except Fault α → Prop
  | .ok _ => True
  | .error fault => Reported fault

section Results
variable {α β : Type}

theorem handled_then {first : Except Fault α} {next : α → Except Fault β} :
    Handled (first >>= next) ↔ Handled first ∧ ∀ a, first = .ok a → Handled (next a) := by
  cases first with
  | error fault =>
    constructor
    · intro reported
      exact ⟨reported, fun _ same => nomatch same⟩
    · rintro ⟨reported, _⟩
      exact reported
  | ok a =>
    constructor
    · intro reported
      refine ⟨trivial, fun b same => ?_⟩
      cases same
      exact reported
    · rintro ⟨_, reported⟩
      exact reported a rfl

/-- The first item that has no result is what counts. -/
theorem handled_mapM {f : α → Except Fault β} {items : List α} :
    Handled (items.mapM f) ↔ ∀ before item after, items = before ++ item :: after →
      (∀ earlier ∈ before, ∃ b, f earlier = .ok b) → Handled (f item) := by
  induction items with
  | nil =>
    refine ⟨fun _ before item after split => ?_, fun _ => trivial⟩
    cases before <;> cases split
  | cons first rest ih =>
    rw [List.mapM_cons, handled_then]
    constructor
    · rintro ⟨own, others⟩ before item after split fine
      cases before with
      | nil =>
        cases split
        exact own
      | cons head before =>
        cases split
        obtain ⟨b, made⟩ := fine first (List.mem_cons_self ..)
        have later := (handled_then.mp (others b made)).1
        exact ih.mp later before item after rfl fun earlier member => fine earlier (List.mem_cons_of_mem _ member)
    · intro each
      refine ⟨each [] first rest rfl fun _ member => (nomatch member), fun b made => ?_⟩
      refine handled_then.mpr ⟨ih.mpr ?_, fun _ _ => trivial⟩
      intro before item after split fine
      refine each (first :: before) item after (congrArg _ split) fun earlier member => ?_
      obtain rfl | inside := List.mem_cons.mp member
      · exact ⟨b, made⟩
      · exact fine earlier inside

end Results

/-! ## Values that are shown -/

/-- A value cannot be shown in a message. -/
def Unshown (v : Value) : Prop := v.hindrance? Value.nestingLimit ≠ none

/-- Texts have an order. -/
theorem sorted_texts {keys : List Value} (texts : ∀ key ∈ keys, ∃ t, key = .text t) :
    ∃ sorted, Value.sorted keys = .ok sorted := by
  match keys, texts with
  | [], _ => exact ⟨[], rfl⟩
  | [key], _ => exact ⟨[key], rfl⟩
  | first :: second :: rest, texts =>
    obtain ⟨own, rfl⟩ := texts first (List.mem_cons_self ..)
    have noneApart : (second :: rest).find? (fun v => v.kind != (Value.text own).kind || v.kind == .other) = none := by
      rw [List.find?_eq_none]
      intro v member
      obtain ⟨t, rfl⟩ := texts v (List.mem_cons_of_mem _ member)
      exact Bool.false_ne_true
    unfold Value.sorted
    simp only [noneApart]
    exact ⟨_, rfl⟩

theorem mem_sorted {keys sorted : List Value} (done : Value.sorted keys = .ok sorted) {v : Value} :
    v ∈ sorted ↔ v ∈ keys := by
  match keys with
  | [] =>
    cases done
    rfl
  | [key] =>
    cases done
    rfl
  | first :: second :: rest =>
    unfold Value.sorted at done
    simp only at done
    split at done
    · cases done
    · cases done
      exact List.mem_mergeSort

theorem firstHindrance_eq_none {room : Nat} {values : List Value} :
    Value.firstHindrance? room values = none ↔ ∀ v ∈ values, v.hindrance? room = none := by
  induction values with
  | nil => simp [Value.firstHindrance?]
  | cons v rest ih => simp [Value.firstHindrance?, ih]

/-- A fault of the configuration is reported as one unless a value in its wording cannot be shown. -/
theorem reported_config {cause : ConfigFault} :
    Reported (.config cause) ↔ ∀ v ∈ (Fault.config cause).shownValues, ¬ Unshown v := by
  unfold Reported Fault.reported Unshown
  simp only [ne_eq, not_not, ← firstHindrance_eq_none]
  cases Value.firstHindrance? Value.nestingLimit (Fault.config cause).shownValues with
  | none => exact ⟨fun _ => rfl, fun _ => ⟨cause, rfl⟩⟩
  | some hindrance =>
    refine ⟨fun ⟨_, same⟩ => ?_, fun same => nomatch same⟩
    cases hindrance <;> cases same

theorem not_reported {fault : Fault} (other : ∀ cause, fault ≠ .config cause) : ¬ Reported fault := by
  rintro ⟨cause, same⟩
  unfold Fault.reported at same
  cases hindered : Value.firstHindrance? Value.nestingLimit fault.shownValues with
  | none =>
    rw [hindered] at same
    exact other cause same
  | some hindrance =>
    rw [hindered] at same
    cases hindrance <;> cases same

/-! ## Values of a grid -/

/-- A number of rows or columns. -/
def IsSize (v : Value) : Prop := ∃ n : Nat, 1 ≤ n ∧ v = .int n

/-- A depth down to which a grid is compiled. -/
def IsCap (v : Value) : Prop := ∃ n : Nat, 1 ≤ n ∧ n ≤ maxCompiledRow ∧ v = .int n

/-- The name of a written form. -/
def IsFormat (v : Value) : Prop := ∃ f : SheetFormat, v = .ofString f.name

/-- The first one of the values for a grid that is none. -/
inductive FirstWrong (d : GridDraft) : Value → Prop
  | rows (wrong : ¬ IsSize d.rows) : FirstWrong d d.rows
  | cols (rows : IsSize d.rows) (wrong : ¬ IsSize d.cols) : FirstWrong d d.cols
  | cap (rows : IsSize d.rows) (cols : IsSize d.cols) (wrong : ¬ IsCap d.cap) : FirstWrong d d.cap
  | format (rows : IsSize d.rows) (cols : IsSize d.cols) (cap : IsCap d.cap) (wrong : ¬ IsFormat d.format) :
    FirstWrong d d.format

theorem firstWrong_unique {d : GridDraft} {v other : Value} (wrong : FirstWrong d v) (wrong' : FirstWrong d other) :
    v = other := by
  cases wrong <;> cases wrong' <;> first | rfl | contradiction

theorem not_valid_of_firstWrong {d : GridDraft} {v : Value} (wrong : FirstWrong d v) : ¬ Valid d := by
  intro valid
  cases wrong with
  | rows wrong => exact wrong valid.rows
  | cols _ wrong => exact wrong valid.cols
  | cap _ _ wrong => exact wrong valid.cap
  | format _ _ _ wrong => exact wrong valid.format

theorem size_outcome (key : String) (v : Value) :
    (¬ IsSize v ∧ GridDraft.size key v = .error (.config (.notPositiveInteger key v))) ∨
      ∃ n : Nat, ∃ some : 1 ≤ n, v = .int n ∧ GridDraft.size key v = .ok ⟨n, some⟩ := by
  obtain ⟨n, some, rfl⟩ | wrong := size_or_not v
  · exact .inr ⟨n, some, rfl, size_int key some⟩
  · refine .inl ⟨?_, (wrong key).1⟩
    rintro ⟨n, some, rfl⟩
    cases (size_int key some).symm.trans (wrong key).1

theorem format_outcome (v : Value) :
    (¬ IsFormat v ∧ GridDraft.formatOf v = .error (.config (.unknownFormat SheetFormat.names v))) ∨ IsFormat v := by
  by_cases right : IsFormat v
  · exact .inr right
  · refine .inl ⟨right, ?_⟩
    unfold GridDraft.formatOf
    rw [if_neg, if_neg]
    · intro same
      exact right ⟨.jsonl, same_text_iff.mp same⟩
    · intro same
      exact right ⟨.css, same_text_iff.mp same⟩

/-- The check of values gives a grid, or a fault of the configuration that shows the first wrong one. -/
theorem check_outcome (d : GridDraft) :
    (∃ g, d.check = .ok g) ∨
      ∃ v cause, FirstWrong d v ∧ d.check = .error (.config cause) ∧ (Fault.config cause).shownValues = [v] := by
  unfold GridDraft.check
  obtain ⟨wrong, refused⟩ | ⟨rows, someRows, isRows, made⟩ := size_outcome "rows" d.rows
  · rw [refused]
    exact .inr ⟨d.rows, _, .rows wrong, rfl, rfl⟩
  have rightRows : IsSize d.rows := ⟨rows, someRows, isRows⟩
  rw [made]
  obtain ⟨wrong, refused⟩ | ⟨cols, someCols, isCols, made⟩ := size_outcome "cols" d.cols
  · rw [refused]
    exact .inr ⟨d.cols, _, .cols rightRows wrong, rfl, rfl⟩
  have rightCols : IsSize d.cols := ⟨cols, someCols, isCols⟩
  rw [made]
  obtain ⟨wrong, refused⟩ | ⟨cap, someCap, isCap, made⟩ := size_outcome "cap" d.cap
  · rw [refused]
    exact .inr ⟨d.cap, _, .cap rightRows rightCols fun ⟨n, least, _, same⟩ => wrong ⟨n, least, same⟩, rfl, rfl⟩
  rw [made]
  simp only [bind, Except.bind]
  by_cases capBound : cap ≤ maxCompiledRow
  · have rightCap : IsCap d.cap := ⟨cap, someCap, capBound, isCap⟩
    rw [dif_pos capBound]
    obtain ⟨wrong, refused⟩ | ⟨format, isFormat⟩ := format_outcome d.format
    · rw [refused]
      exact .inr ⟨d.format, _, .format rightRows rightCols rightCap wrong, rfl, rfl⟩
    · rw [formatOf_ok_iff.mpr isFormat]
      exact .inl ⟨_, rfl⟩
  · rw [dif_neg capBound]
    refine .inr ⟨d.cap, _, .cap rightRows rightCols ?_, rfl, congrArg (fun v => [v]) isCap.symm⟩
    rintro ⟨n, _, bound, same⟩
    obtain rfl := Int.ofNat.inj (Value.int.inj (isCap.symm.trans same))
    exact capBound bound

theorem handled_check {d : GridDraft} : Handled d.check ↔ ∀ v, FirstWrong d v → ¬ Unshown v := by
  obtain ⟨g, made⟩ | ⟨v, cause, wrong, refused, shown⟩ := check_outcome d
  · rw [made]
    exact ⟨fun _ v wrong => absurd (valid_iff.mp ⟨g, made⟩) (not_valid_of_firstWrong wrong), fun _ => trivial⟩
  · rw [refused]
    refine reported_config.trans ?_
    rw [shown, List.forall_mem_singleton]
    constructor
    · intro own other wrong'
      rw [← firstWrong_unique wrong wrong']
      exact own
    · intro each
      exact each v wrong

/-! ## Mappings -/

/-- A value that names no path. -/
def NoPath (v : Value) : Prop := ¬ (v = .null ∨ ∃ path, v = .text path)

theorem pathOf_noPath {v : Value} (other : NoPath v) : ∃ fault, GridDraft.pathOf v = .error (.type fault) := by
  cases v with
  | null => exact absurd (.inl rfl) other
  | text path => exact absurd (.inr ⟨path, rfl⟩) other
  | _ => exact ⟨_, rfl⟩

/-- What becomes of the entries of a mapping: values for a grid, or a fault, which need not be one of the
configuration. -/
inductive Outcome (content : List (Value × Value)) : Except Fault GridDraft → Prop
  | unordered {a b : Value} (apart : Value.sorted (GridDraft.unknownKeys content) = .error (a, b)) :
    Outcome content (.error (.type (.unordered a b)))
  | unknown {keys : List Value} (some : GridDraft.unknownKeys content ≠ [])
      (sorted : Value.sorted (GridDraft.unknownKeys content) = .ok keys) :
    Outcome content (.error (.config (.unknownKeys keys)))
  | noPath {v : Value} {fault : TypeFault} (known : GridDraft.unknownKeys content = [])
      (has : at? "outfile" content = some v) (other : NoPath v) : Outcome content (.error (.type fault))
  | draft (known : GridDraft.unknownKeys content = []) (path : ∀ v, at? "outfile" content = some v → ¬ NoPath v) :
    Outcome content (.ok (described content))

theorem ofEntries_outcome (content : List (Value × Value)) : Outcome content (GridDraft.ofEntries content) := by
  by_cases known : GridDraft.unknownKeys content = []
  · by_cases path : ∃ v, at? "outfile" content = some v ∧ NoPath v
    · obtain ⟨v, has, other⟩ := path
      obtain ⟨fault, refused⟩ := pathOf_noPath other
      have failed : GridDraft.ofEntries content = .error (.type fault) := by
        unfold GridDraft.ofEntries
        rw [at?] at has
        rw [known]
        simp only
        rw [has, Option.getD_some, refused]
        rfl
      rw [failed]
      exact .noPath known has other
    · have fine : ∀ v, at? "outfile" content = some v → ¬ NoPath v := fun v has other => path ⟨v, has, other⟩
      rw [ofEntries_ok_iff.mpr ⟨unknownKeys_eq_nil.mp known, fun v has => not_not.mp (fine v has), rfl⟩]
      exact .draft known fine
  · unfold GridDraft.ofEntries
    split
    · rename_i none
      exact absurd none known
    · cases sorted : Value.sorted (GridDraft.unknownKeys content) with
      | ok keys => exact .unknown known sorted
      | error pair => exact .unordered sorted

/-- What a value is refused for without a fault of the configuration that could be reported: it has unknown keys without
an order or one that cannot be shown, something else in place of a path, or a first wrong value that cannot be shown. -/
inductive Escapes : Value → Prop
  | unordered {content : List (Value × Value)} {pair : Value × Value}
      (apart : Value.sorted (GridDraft.unknownKeys content) = .error pair) : Escapes (.map content)
  | unshownKey {content : List (Value × Value)} {keys : List Value} {key : Value}
      (sorted : Value.sorted (GridDraft.unknownKeys content) = .ok keys) (member : key ∈ keys) (unshown : Unshown key) :
    Escapes (.map content)
  | noPath {content : List (Value × Value)} {v : Value} (known : GridDraft.unknownKeys content = [])
      (has : at? "outfile" content = some v) (other : NoPath v) : Escapes (.map content)
  | unshownValue {content : List (Value × Value)} {v : Value} (known : GridDraft.unknownKeys content = [])
      (path : ∀ v, at? "outfile" content = some v → ¬ NoPath v) (wrong : FirstWrong (described content) v)
      (unshown : Unshown v) : Escapes (.map content)

theorem ofValue_map (content : List (Value × Value)) :
    Grid.ofValue (.map content) = GridDraft.ofEntries content >>= GridDraft.check := by
  unfold Grid.ofValue
  simp only
  cases GridDraft.ofEntries content <;> rfl

/-- A value describes a grid, or is refused with a fault of the configuration, unless it escapes. -/
theorem handled_ofValue (raw : Value) : Handled (Grid.ofValue raw) ↔ ¬ Escapes raw := by
  cases raw with
  | map content =>
    have outcome := ofEntries_outcome content
    rw [ofValue_map, handled_then]
    generalize GridDraft.ofEntries content = result at outcome
    cases outcome with
    | unordered apart =>
      constructor
      · rintro ⟨reported, _⟩
        exact absurd reported (not_reported nofun)
      · intro fine
        exact absurd (.unordered apart) fine
    | @unknown keys some sorted =>
      constructor
      · rintro ⟨reported, _⟩ escapes
        cases escapes with
        | unordered apart => cases sorted.symm.trans apart
        | unshownKey sorted' member unshown =>
          cases sorted.symm.trans sorted'
          exact reported_config.mp reported _ member unshown
        | noPath known => exact some known
        | unshownValue known => exact some known
      · intro fine
        refine ⟨reported_config.mpr fun key member unshown => ?_, fun _ same => nomatch same⟩
        exact fine (.unshownKey sorted member unshown)
    | noPath known has other =>
      constructor
      · rintro ⟨reported, _⟩
        exact absurd reported (not_reported nofun)
      · intro fine
        exact absurd (.noPath known has other) fine
    | draft known path =>
      have none : Value.sorted (GridDraft.unknownKeys content) = .ok [] := by rw [known]; rfl
      constructor
      · rintro ⟨_, checked⟩ escapes
        cases escapes with
        | unordered apart => cases none.symm.trans apart
        | unshownKey sorted member =>
          cases none.symm.trans sorted
          cases member
        | noPath _ has other => exact path _ has other
        | unshownValue _ _ wrong unshown => exact handled_check.mp (checked _ rfl) _ wrong unshown
      · intro fine
        refine ⟨trivial, fun d same => ?_⟩
        cases same
        exact handled_check.mpr fun v wrong unshown => fine (.unshownValue known path wrong unshown)
  | _ =>
    refine ⟨fun _ escapes => (nomatch escapes), fun _ => ?_⟩
    exact reported_config.mpr fun _ member => nomatch member

/-- Entries have something else in place of a path, or a first wrong value that cannot be shown. -/
def ValueEscapes (content : List (Value × Value)) : Prop :=
  (∃ v, at? "outfile" content = some v ∧ NoPath v) ∨
    (∀ v, at? "outfile" content = some v → ¬ NoPath v) ∧ ∃ v, FirstWrong (described content) v ∧ Unshown v

/-- Where all keys are texts, unknown ones have an order and can be shown. -/
theorem escapes_of_textKeys {content : List (Value × Value)} (texts : ∀ entry ∈ content, ∃ key, entry.1 = .text key) :
    Escapes (.map content) ↔ GridDraft.unknownKeys content = [] ∧ ValueEscapes content := by
  have textKeys : ∀ key ∈ GridDraft.unknownKeys content, ∃ t, key = .text t := by
    intro key member
    obtain ⟨entry, inside, rfl⟩ := List.mem_map.mp (List.mem_of_mem_filter member)
    exact texts entry inside
  constructor
  · intro escapes
    cases escapes with
    | unordered apart =>
      obtain ⟨keys, sorted⟩ := sorted_texts textKeys
      cases sorted.symm.trans apart
    | unshownKey sorted member unshown =>
      obtain ⟨t, rfl⟩ := textKeys _ ((mem_sorted sorted).mp member)
      exact absurd rfl unshown
    | noPath known has other => exact ⟨known, .inl ⟨_, has, other⟩⟩
    | unshownValue known path wrong unshown => exact ⟨known, .inr ⟨path, _, wrong, unshown⟩⟩
  · rintro ⟨known, ⟨v, has, other⟩ | ⟨path, v, wrong, unshown⟩⟩
    · exact .noPath known has other
    · exact .unshownValue known path wrong unshown

/-! ## Documents -/

/-- The mapping about the only grid of a document escapes. -/
def OnlyEscapes (t : TopLevel) : Prop := ∃ content, gridContent t = some content ∧ Escapes (.map content)

/-- An entry of the list of grids escapes, and those in front of it describe grids. -/
def EntryEscapes (t : TopLevel) : Prop :=
  ∃ before item after entries, (t.number? "grids").bind t.document.part? = some (.list (before ++ item :: after)) ∧
    (∀ earlier ∈ before, ∃ g, Grid.ofNode t.document earlier = .ok g) ∧
    t.document.entries? item = some entries ∧ Escapes (.map (contentOf t.document entries))

/-- What a text is refused for without a fault of the configuration that could be reported: a part of it is refused
while it is read, or something in its document escapes. -/
inductive TextEscapes (path : Path) (text : String) (inside : TopLevel → Prop) : Prop
  | unread {fault : Fault} (refused : Yaml.Document.read text = .error (.refused fault))
  | inside {t : TopLevel} (read : TopLevel.read path text = .ok t) (escapes : inside t)

section Documents
variable {disk : Disk} {path : Path} {text : String} {t : TopLevel}

theorem reported_of_nothingShown {cause : ConfigFault} (nothing : (Fault.config cause).shownValues = []) :
    Reported (.config cause) := by
  rw [reported_config, nothing]
  exact fun _ member => nomatch member

theorem handled_read :
    Handled (TopLevel.read path text) ↔ ∀ fault, Yaml.Document.read text ≠ .error (.refused fault) := by
  unfold TopLevel.read
  cases read : Yaml.Document.read text with
  | error stop =>
    cases stop with
    | malformed => exact ⟨fun _ _ same => (nomatch same), fun _ => reported_of_nothingShown rfl⟩
    | refused fault =>
      constructor
      · intro reported
        exact absurd reported (not_reported (DocumentFaults.read_foreign read))
      · intro never
        exact absurd rfl (never fault)
  | ok document =>
    refine ⟨fun _ _ same => (nomatch same), fun _ => ?_⟩
    cases document with
    | none => trivial
    | some d =>
      simp only
      unfold TopLevel.ofDocument
      split
      · trivial
      · trivial
      · exact reported_of_nothingShown rfl

theorem handled_mapping {d : Yaml.Document} {entries : List (Value × Nat)} :
    Handled (Grid.ofDocumentEntries d entries) ↔ ¬ Escapes (.map (contentOf d entries)) := by
  rw [ofDocumentEntries_eq, handled_ofValue]

theorem handled_ofNode {d : Yaml.Document} {item : Nat} :
    Handled (Grid.ofNode d item) ↔
      ∀ entries, d.entries? item = some entries → ¬ Escapes (.map (contentOf d entries)) := by
  unfold Grid.ofNode
  cases d.entries? item with
  | some entries => simp [handled_mapping]
  | none => exact ⟨fun _ _ same => (nomatch same), fun _ => reported_of_nothingShown rfl⟩

theorem handled_ofTop : Handled (Grid.ofTop t) ↔ ¬ OnlyEscapes t := by
  unfold Grid.ofTop OnlyEscapes gridContent
  cases t.number? "grid" with
  | some number => simp [handled_ofNode]
  | none => simp [handled_mapping]

theorem handled_listOfTop : Handled (Grid.listOfTop path t) ↔ ¬ EntryEscapes t := by
  unfold Grid.listOfTop EntryEscapes
  split
  · rename_i first rest listed
    rw [handled_mapM]
    constructor
    · rintro each ⟨before, item, after, entries, split, fine, isMapping, escapes⟩
      have same : first :: rest = before ++ item :: after := by simpa using listed.symm.trans split
      exact handled_ofNode.mp (each before item after same fine) entries isMapping escapes
    · intro noEscape before item after split fine
      refine handled_ofNode.mpr fun entries isMapping escapes => ?_
      exact noEscape ⟨before, item, after, entries, by rw [listed, split], fine, isMapping, escapes⟩
  · rename_i key value rest listed
    refine ⟨?_, fun _ => reported_of_nothingShown rfl⟩
    rintro _ ⟨before, item, after, entries, split, _⟩
    cases listed.symm.trans split
  · rename_i other _
    refine ⟨?_, fun _ => reported_of_nothingShown rfl⟩
    rintro _ ⟨before, item, after, entries, split, _⟩
    have some : before ++ item :: after ≠ [] := List.append_ne_nil_of_right_ne_nil before (List.cons_ne_nil item after)
    obtain ⟨first, rest, same⟩ := List.exists_cons_of_ne_nil some
    exact other first rest (by rw [split, same])

theorem handled_inside {α : Type} {loaded : Except Fault α} {ofTop : TopLevel → Except Fault α}
    {inside : TopLevel → Prop} (readable : disk.read path = .ok text)
    (isLoaded : loaded = TopLevel.load disk path >>= ofTop) (alike : ∀ t, Handled (ofTop t) ↔ ¬ inside t) :
    Handled loaded ↔ ¬ TextEscapes path text inside := by
  have isRead : TopLevel.load disk path = TopLevel.read path text := by rw [TopLevel.load, readable]
  rw [isLoaded, handled_then, isRead, handled_read]
  constructor
  · rintro ⟨reported, each⟩ escapes
    cases escapes with
    | unread refused => exact reported _ refused
    | inside read escapes => exact (alike _).mp (each _ read) escapes
  · intro fine
    refine ⟨fun fault refused => fine (.unread refused), fun t read => ?_⟩
    exact (alike t).mpr fun escapes => fine (.inside read escapes)

/-- The grid of a document that can be read is loaded, or refused with a fault of the configuration, unless it
escapes. -/
theorem handled_load (readable : disk.read path = .ok text) :
    Handled (Grid.load disk path) ↔ ¬ TextEscapes path text OnlyEscapes := by
  refine handled_inside readable ?_ fun t => handled_ofTop
  unfold Grid.load
  cases TopLevel.load disk path <;> rfl

theorem handled_loadList (readable : disk.read path = .ok text) :
    Handled (Grid.loadList disk path) ↔ ¬ TextEscapes path text EntryEscapes := by
  refine handled_inside readable ?_ fun t => @handled_listOfTop path t
  unfold Grid.loadList
  cases TopLevel.load disk path <;> rfl

end Documents

/-! ## Programs -/

/-- The world after a program has said what is wrong with its configuration. -/
def told (cause : ConfigFault) (w : World) : World :=
  { w with err := w.err ++ (Text.ofString "error: " ++ cause.message ++ Text.ofString "\n") }

/-- The end that a fault makes of a program that reports those of the configuration. -/
def endOf {α : Type} (fault : Fault) (w : World) : EStateM.Result Ending World α :=
  match fault.reported with
  | .config cause => .error (.exit 1) (told cause w)
  | other => .error (.died other) w

/-- A program goes on with what it loads, or says what is wrong with it and ends with a status. -/
def LoadsOrReports {α : Type} (loaded : Except Fault α) (program : Session Unit) (w : World) : Prop :=
  (∃ a, loaded = .ok a) ∨ ∃ cause, program w = .error (.exit 1) (told cause w)

/-- A program loads nothing, and the fault ends it without a message. -/
def DiesLoading {α : Type} (loaded : Except Fault α) (program : Session Unit) (w : World) : Prop :=
  (∀ a, loaded ≠ .ok a) ∧ ∃ fault, (∀ cause, fault ≠ .config cause) ∧ program w = .error (.died fault) w

section Programs
variable {now : Moment} {compiler : Compiler} {tokens : List Text} {w : World}

theorem orReport_error_bind {α β : Type} (fault : Fault) (next : α → Session β) (w : World) :
    (Session.orReport (.error fault) >>= next) w = endOf fault w := by
  rw [bind_apply]
  unfold Session.orReport endOf
  simp only
  cases fault.reported <;> rfl

/-- A program that ends with the fault of what it loads reports the fault exactly if it is handled. -/
theorem loading_of_end {α : Type} {loaded : Except Fault α} {program : Session Unit}
    (ends : ∀ fault, loaded = .error fault → program w = endOf fault w) :
    (Handled loaded → LoadsOrReports loaded program w) ∧ (¬ Handled loaded → DiesLoading loaded program w) := by
  cases loaded with
  | ok a => exact ⟨fun _ => .inl ⟨a, rfl⟩, fun silent => absurd trivial silent⟩
  | error fault =>
    have run := ends fault rfl
    unfold endOf at run
    constructor
    · rintro ⟨cause, isConfig⟩
      rw [isConfig] at run
      exact .inr ⟨cause, run⟩
    · intro silent
      have other : ∀ cause, fault.reported ≠ .config cause := fun cause same => silent ⟨cause, same⟩
      refine ⟨fun _ same => (nomatch same), fault.reported, other, ?_⟩
      split at run
      · rename_i cause same
        exact absurd same (other cause)
      · exact run

theorem compileCommand_ends {given : List (String × CommandLine.Argument)} {path : Path} {fault : Fault}
    (parsed : CommandLine.parse CompileOptions.known tokens = .ok given)
    (isConfig : (CompileOptions.ofGiven given).config = some path) (refused : Grid.load w.disk path = .error fault) :
    compileCommand now tokens w = endOf fault w := by
  have unresolved : (CompileOptions.ofGiven given).resolveWithTarget w.disk = .error fault := by
    unfold CompileOptions.resolveWithTarget CompileOptions.resolve
    rw [isConfig]
    simp only
    rw [refused]
    rfl
  unfold compileCommand
  rw [bind_apply, options_ok parsed]
  simp only
  rw [bind_apply, disk_apply]
  simp only
  rw [unresolved, orReport_error_bind]

theorem batchCommand_ends {given : List (String × CommandLine.Argument)} {path : Path} {fault : Fault}
    (parsed : CommandLine.parse BatchOptions.known tokens = .ok given)
    (document : (BatchOptions.ofGiven given).document = .ok path) (refused : Grid.loadList w.disk path = .error fault) :
    batchCommand now compiler tokens w = endOf fault w := by
  have unread : (do Grid.loadList w.disk (← (BatchOptions.ofGiven given).document)) = .error fault := by
    rw [document]
    exact refused
  unfold batchCommand
  rw [bind_apply, options_ok parsed]
  simp only
  rw [bind_apply, disk_apply]
  simp only
  rw [unread, orReport_error_bind]

end Programs

/-! ## All configurations -/

/-- A value describes a grid or is refused with a fault of the configuration, and a program goes on with the grids of a
document or says what is wrong with it, exactly if nothing escapes. Of a mapping with nothing but texts for keys, only
values escape. -/
theorem reported_unless_escaping (now : Moment) (compiler : Compiler) (tokens : List Text) (w : World) :
    (∀ raw, Handled (Grid.ofValue raw) ↔ ¬ Escapes raw) ∧
    (∀ content : List (Value × Value), (∀ entry ∈ content, ∃ key, entry.1 = .text key) →
      (Escapes (.map content) ↔ GridDraft.unknownKeys content = [] ∧ ValueEscapes content)) ∧
    (∀ given path text, CommandLine.parse CompileOptions.known tokens = .ok given →
      (CompileOptions.ofGiven given).config = some path → w.disk.read path = .ok text →
      (¬ TextEscapes path text OnlyEscapes → LoadsOrReports (Grid.load w.disk path) (compileCommand now tokens) w) ∧
      (TextEscapes path text OnlyEscapes → DiesLoading (Grid.load w.disk path) (compileCommand now tokens) w)) ∧
    (∀ given path text, CommandLine.parse BatchOptions.known tokens = .ok given →
      (BatchOptions.ofGiven given).document = .ok path → w.disk.read path = .ok text →
      (¬ TextEscapes path text EntryEscapes →
        LoadsOrReports (Grid.loadList w.disk path) (batchCommand now compiler tokens) w) ∧
      (TextEscapes path text EntryEscapes →
        DiesLoading (Grid.loadList w.disk path) (batchCommand now compiler tokens) w)) := by
  refine ⟨handled_ofValue, fun content => escapes_of_textKeys, ?_, ?_⟩
  · intro given path text parsed isConfig readable
    have handled := handled_load readable
    have ends : ∀ fault, Grid.load w.disk path = .error fault → compileCommand now tokens w = endOf fault w :=
      fun fault => compileCommand_ends parsed isConfig
    obtain ⟨goesOn, dies⟩ := loading_of_end ends
    exact ⟨fun fine => goesOn (handled.mpr fine), fun escapes => dies fun own => handled.mp own escapes⟩
  · intro given path text parsed document readable
    have handled := handled_loadList readable
    have ends : ∀ fault, Grid.loadList w.disk path = .error fault → batchCommand now compiler tokens w = endOf fault w :=
      fun fault => batchCommand_ends parsed document
    obtain ⟨goesOn, dies⟩ := loading_of_end ends
    exact ⟨fun fine => goesOn (handled.mpr fine), fun escapes => dies fun own => handled.mp own escapes⟩

/-- A fault is one of the configuration. -/
def isConfig : Fault → Bool
  | .config _ => true
  | _ => false

theorem isConfig_iff {fault : Fault} : isConfig fault = true ↔ ∃ cause, fault = .config cause := by
  cases fault <;> simp [isConfig]

instance (fault : Fault) : Decidable (Reported fault) := decidable_of_iff _ isConfig_iff

instance {α : Type} : (result : Except Fault α) → Decidable (Handled result)
  | .ok _ => .isTrue trivial
  | .error fault => inferInstanceAs (Decidable (Reported fault))

/-- Entries with a number in place of a path. -/
def numberForPath : List (Value × Value) := [(.ofString "outfile", .int 5)]

/-- A number in place of a path is refused for its type. -/
theorem number_for_path_escapes :
    Grid.ofValue (.map numberForPath) = .error (.type (.notPath "int")) ∧
      ¬ Handled (Grid.ofValue (.map numberForPath)) :=
  ⟨by with_unfolding_all rfl, by decide +kernel⟩

/-- Tokens that tell where the document is. -/
def gridTokens : List Text := ["--config", "grid.yaml"]

/-- The path of that document. -/
def gridPath : Path := .ofText "grid.yaml"

/-- A working directory in which that document has a text. -/
def gridWorld (text : String) : World := worldWith "grid.yaml" text

theorem gridWorld_read (text : String) : (gridWorld text).disk.read gridPath = .ok text := by rfl

/-- What is given by the tokens. -/
def given : List (String × CommandLine.Argument) := [("--config", .text "grid.yaml")]

theorem compile_given : CommandLine.parse CompileOptions.known gridTokens = .ok given := by rfl

theorem compile_config : (CompileOptions.ofGiven given).config = some gridPath := by decide +kernel

theorem batch_given : CommandLine.parse BatchOptions.known gridTokens = .ok given := by rfl

theorem batch_document : (BatchOptions.ofGiven given).document = .ok gridPath := by rfl

theorem list_reported : ¬ TextEscapes gridPath "- 1\n" OnlyEscapes ∧ ¬ TextEscapes gridPath "- 1\n" EntryEscapes :=
  ⟨(handled_load (gridWorld_read _)).mp (by decide +kernel),
    (handled_loadList (gridWorld_read _)).mp (by decide +kernel)⟩

theorem number_escapes : TextEscapes gridPath "outfile: 5\n" OnlyEscapes := by
  have silent : ¬ Handled (Grid.load (gridWorld "outfile: 5\n").disk gridPath) := by decide +kernel
  exact not_not.mp (mt (handled_load (gridWorld_read _)).mpr silent)

theorem day_escapes : TextEscapes gridPath "2001-02-30\n" EntryEscapes := by
  have silent : ¬ Handled (Grid.loadList (gridWorld "2001-02-30\n").disk gridPath) := by decide +kernel
  exact not_not.mp (mt (handled_loadList (gridWorld_read _)).mpr silent)

/-- A list in place of a mapping is reported by both programs. A number in place of a path ends the one without a
message, and a day that no month has the other one. -/
theorem reported_unless_escaping_instances :
    ((∀ entry ∈ numberForPath, ∃ key, entry.1 = .text key) ∧
      (Escapes (.map numberForPath) ↔ GridDraft.unknownKeys numberForPath = [] ∧ ValueEscapes numberForPath)) ∧
    (CommandLine.parse CompileOptions.known gridTokens = .ok given ∧
      (CompileOptions.ofGiven given).config = some gridPath ∧
      ((gridWorld "- 1\n").disk.read gridPath = .ok "- 1\n" ∧ ¬ TextEscapes gridPath "- 1\n" OnlyEscapes ∧
        LoadsOrReports (Grid.load (gridWorld "- 1\n").disk gridPath) (compileCommand newYear gridTokens)
          (gridWorld "- 1\n")) ∧
      (gridWorld "outfile: 5\n").disk.read gridPath = .ok "outfile: 5\n" ∧
        TextEscapes gridPath "outfile: 5\n" OnlyEscapes ∧
        DiesLoading (Grid.load (gridWorld "outfile: 5\n").disk gridPath) (compileCommand newYear gridTokens)
          (gridWorld "outfile: 5\n")) ∧
    (CommandLine.parse BatchOptions.known gridTokens = .ok given ∧
      (BatchOptions.ofGiven given).document = .ok gridPath ∧
      ((gridWorld "- 1\n").disk.read gridPath = .ok "- 1\n" ∧ ¬ TextEscapes gridPath "- 1\n" EntryEscapes ∧
        LoadsOrReports (Grid.loadList (gridWorld "- 1\n").disk gridPath) (batchCommand newYear compileSheet gridTokens)
          (gridWorld "- 1\n")) ∧
      (gridWorld "2001-02-30\n").disk.read gridPath = .ok "2001-02-30\n" ∧
        TextEscapes gridPath "2001-02-30\n" EntryEscapes ∧
        DiesLoading (Grid.loadList (gridWorld "2001-02-30\n").disk gridPath)
          (batchCommand newYear compileSheet gridTokens) (gridWorld "2001-02-30\n")) := by
  have texts : ∀ entry ∈ numberForPath, ∃ key, entry.1 = .text key := by simp [numberForPath, Value.ofString]
  have compiling (text : String) :=
    (reported_unless_escaping newYear compileSheet gridTokens (gridWorld text)).2.2.1 given gridPath text compile_given
      compile_config (gridWorld_read text)
  have building (text : String) :=
    (reported_unless_escaping newYear compileSheet gridTokens (gridWorld text)).2.2.2 given gridPath text batch_given
      batch_document (gridWorld_read text)
  exact ⟨⟨texts, (reported_unless_escaping newYear compileSheet gridTokens (gridWorld "")).2.1 numberForPath texts⟩,
    ⟨compile_given, compile_config,
      ⟨gridWorld_read _, list_reported.1, (compiling _).1 list_reported.1⟩,
      gridWorld_read _, number_escapes, (compiling _).2 number_escapes⟩,
    batch_given, batch_document,
      ⟨gridWorld_read _, list_reported.2, (building _).1 list_reported.2⟩,
      gridWorld_read _, day_escapes, (building _).2 day_escapes⟩

end TapeSheet.ConfigFaults
