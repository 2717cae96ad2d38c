import TapeSheet.Proofs.Validation

/-!
# Where the values of a grid come from

A value of a grid is that of an option, or else that of a document, or else the default one. The check of a grid accepts
the values of grids and nothing else (`check_ok_iff`), so a document is accepted on its own exactly if it has no other
keys and its values, with the default ones, are valid (`ofValue_ok_iff`). With options the values that come out of both
have to be valid too (`resolve_ok_iff`). All that a document says about a grid is the content of one mapping, wherever
that stands (`ofTop_content`), and a list of grids is accepted member by member (`listOfTop_ok_iff`).
-/

namespace TapeSheet.Resolution
open TapeSheet.Validation TapeSheet.JsonReading

theorem then_ok {α β : Type} {first : Except Fault α} {next : α → Except Fault β} {b : β}
    (done : (first >>= next) = .ok b) : ∃ a, first = .ok a ∧ next a = .ok b := by
  cases first with
  | error fault => cases done
  | ok a => exact ⟨a, rfl, done⟩

theorem ok_of_toOption {α : Type} {result : Except Fault α} {a : α} (made : result.toOption = some a) :
    result = .ok a := by
  cases result with
  | error fault => cases made
  | ok b => exact congrArg Except.ok (Option.some.inj made)

/-! ## Valid values -/

theorem same_text_iff {v : Value} {t : Text} : Value.same v (.text t) = true ↔ v = .text t := by
  cases v with
  | text s => rw [same_text, decide_eq_true_iff, Value.text.injEq]
  | _ => simp [Value.same, Value.sameNumber, Value.number?]

theorem text_same_iff {v : Value} {t : Text} : Value.same (.text t) v = true ↔ v = .text t := by
  cases v with
  | text s => rw [same_text, decide_eq_true_iff, Value.text.injEq, eq_comm]
  | _ => simp [Value.same]

/-- Values that the check of a grid takes. -/
structure Valid (d : GridDraft) : Prop where
  rows : ∃ n : Nat, 1 ≤ n ∧ d.rows = .int n
  cols : ∃ n : Nat, 1 ≤ n ∧ d.cols = .int n
  cap : ∃ n : Nat, 1 ≤ n ∧ n ≤ maxCompiledRow ∧ d.cap = .int n
  format : ∃ f : SheetFormat, d.format = .ofString f.name

theorem size_ok_iff {key : String} {v : Value} {n : { n : Nat // 0 < n }} :
    GridDraft.size key v = .ok n ↔ v = .int (n : Nat) := by
  constructor
  · intro taken
    obtain ⟨m, some, rfl⟩ | wrong := size_or_not v
    · rw [size_int key some] at taken
      cases taken
      rfl
    · rw [(wrong key).1] at taken
      cases taken
  · rintro rfl
    exact size_int key n.2

theorem formatOf_ok_iff {v : Value} {f : SheetFormat} : GridDraft.formatOf v = .ok f ↔ v = .ofString f.name := by
  unfold GridDraft.formatOf
  constructor
  · intro taken
    split at taken
    · rename_i isCss
      cases taken
      exact same_text_iff.mp isCss
    · split at taken
      · rename_i isJsonl
        cases taken
        exact same_text_iff.mp isJsonl
      · cases taken
  · rintro rfl
    cases f with
    | css => exact if_pos (same_text_iff.mpr rfl)
    | jsonl =>
      have apart : ¬ (Value.ofString SheetFormat.jsonl.name == .ofString SheetFormat.css.name) = true := by
        intro same
        have names := Value.text.inj (same_text_iff.mp same)
        exact absurd names (by decide)
      exact (if_neg apart).trans (if_pos (same_text_iff.mpr rfl))

/-- The check takes the values of grids and gives the grid that has them. -/
theorem check_ok_iff {d : GridDraft} {g : Grid} : d.check = .ok g ↔ d = g.draft := by
  constructor
  · intro taken
    unfold GridDraft.check at taken
    obtain ⟨⟨rows, someRows⟩, isRows, taken⟩ := then_ok taken
    obtain ⟨⟨cols, someCols⟩, isCols, taken⟩ := then_ok taken
    obtain ⟨⟨cap, someCap⟩, isCap, taken⟩ := then_ok taken
    simp only at taken
    split at taken
    · obtain ⟨format, isFormat, taken⟩ := then_ok taken
      obtain rfl := Except.ok.inj taken
      rw [size_ok_iff] at isRows isCols isCap
      rw [formatOf_ok_iff] at isFormat
      cases d
      cases isRows
      cases isCols
      cases isCap
      cases isFormat
      rfl
    · cases taken
  · rintro rfl
    unfold GridDraft.check
    have rows : GridDraft.size "rows" g.draft.rows = .ok ⟨g.rows, g.rows_pos⟩ := size_int _ _
    have cols : GridDraft.size "cols" g.draft.cols = .ok ⟨g.cols, g.cols_pos⟩ := size_int _ _
    have cap : GridDraft.size "cap" g.draft.cap = .ok ⟨g.cap, g.cap_pos⟩ := size_int _ _
    have format : GridDraft.formatOf g.draft.format = .ok g.format := formatOf_ok_iff.mpr rfl
    rw [rows, cols, cap, format]
    exact dif_pos g.cap_le

/-- Valid values are those of a grid. -/
theorem valid_iff {d : GridDraft} : (∃ g, d.check = .ok g) ↔ Valid d := by
  constructor
  · rintro ⟨g, taken⟩
    obtain rfl := check_ok_iff.mp taken
    exact ⟨⟨g.rows, g.rows_pos, rfl⟩, ⟨g.cols, g.cols_pos, rfl⟩, ⟨g.cap, g.cap_pos, g.cap_le, rfl⟩, ⟨g.format, rfl⟩⟩
  · intro valid
    obtain ⟨rows, someRows, isRows⟩ := valid.rows
    obtain ⟨cols, someCols, isCols⟩ := valid.cols
    obtain ⟨cap, someCap, capBound, isCap⟩ := valid.cap
    obtain ⟨format, isFormat⟩ := valid.format
    refine ⟨⟨rows, cols, cap, d.name, d.outfile, format, someRows, someCols, someCap, capBound⟩, check_ok_iff.mpr ?_⟩
    cases d
    cases isRows
    cases isCols
    cases isCap
    cases isFormat
    rfl

/-! ## Mappings -/

/-- The value at a key of a mapping. -/
def at? (key : String) (content : List (Value × Value)) : Option Value := Value.lookup (.ofString key) content

/-- The path in a mapping, if it has one. -/
def pathIn (content : List (Value × Value)) : Option Path :=
  match at? "outfile" content with
  | some (.text path) => some (.ofText path)
  | _ => none

/-- A value of a grid: that of an option, else that of a mapping, else the default one. -/
def layered (option : Option Value) (key : String) (content : List (Value × Value)) (fallback : Value) : Value :=
  (option.or (at? key content)).getD fallback

/-- The values that come out of options, a mapping and the default grid. -/
def merged (o : CompileOptions) (content : List (Value × Value)) : GridDraft where
  rows := layered o.rows "rows" content GridDraft.default.rows
  cols := layered o.cols "cols" content GridDraft.default.cols
  cap := layered o.cap "cap" content GridDraft.default.cap
  name := layered none "name" content GridDraft.default.name
  outfile := (o.outfile.bind CommandLine.Place.path?).or (pathIn content)
  format := layered o.format "format" content GridDraft.default.format

/-- The values that come out of a mapping and the default grid. -/
def described (content : List (Value × Value)) : GridDraft where
  rows := layered none "rows" content GridDraft.default.rows
  cols := layered none "cols" content GridDraft.default.cols
  cap := layered none "cap" content GridDraft.default.cap
  name := layered none "name" content GridDraft.default.name
  outfile := pathIn content
  format := layered none "format" content GridDraft.default.format

/-- A mapping that describes a grid on its own. -/
structure Accepted (content : List (Value × Value)) : Prop where
  known : ∀ entry ∈ content, ∃ key ∈ GridDraft.keys, entry.1 = .ofString key
  path : ∀ v, at? "outfile" content = some v → v = .null ∨ ∃ path, v = .text path
  values : Valid (described content)

theorem isKey_iff {key : Value} : GridDraft.isKey key = true ↔ ∃ known ∈ GridDraft.keys, key = .ofString known := by
  rw [GridDraft.isKey, List.any_eq_true]
  exact exists_congr fun known => and_congr_right fun _ => same_text_iff

theorem unknownKeys_eq_nil {content : List (Value × Value)} :
    GridDraft.unknownKeys content = [] ↔ ∀ entry ∈ content, ∃ key ∈ GridDraft.keys, entry.1 = .ofString key := by
  simp only [GridDraft.unknownKeys, List.filter_eq_nil_iff, List.forall_mem_map, Bool.not_eq_true', Bool.not_eq_false,
    isKey_iff]

theorem pathOf_ok_iff {v : Value} {path : Option Path} :
    GridDraft.pathOf v = .ok path ↔ (v = .null ∧ path = none) ∨ ∃ text, v = .text text ∧ path = some (.ofText text) := by
  cases v <;> simp [GridDraft.pathOf, eq_comm]

theorem pathOf_content {content : List (Value × Value)} {path : Option Path} :
    GridDraft.pathOf ((at? "outfile" content).getD .null) = .ok path ↔
      (∀ v, at? "outfile" content = some v → v = .null ∨ ∃ path, v = .text path) ∧ path = pathIn content := by
  rw [pathOf_ok_iff, pathIn]
  cases at? "outfile" content with
  | none => simp
  | some v => cases v <;> simp

/-- A mapping gives values for a grid exactly if it has no other keys and what it has for a path is one. -/
theorem ofEntries_ok_iff {content : List (Value × Value)} {d : GridDraft} :
    GridDraft.ofEntries content = .ok d ↔
      (∀ entry ∈ content, ∃ key ∈ GridDraft.keys, entry.1 = .ofString key) ∧
      (∀ v, at? "outfile" content = some v → v = .null ∨ ∃ path, v = .text path) ∧ d = described content := by
  unfold GridDraft.ofEntries
  split
  · rename_i known
    rw [and_iff_right (unknownKeys_eq_nil.mp known)]
    constructor
    · intro given
      obtain ⟨path, isPath, given⟩ := then_ok given
      obtain ⟨fits, rfl⟩ := pathOf_content.mp isPath
      exact ⟨fits, (Except.ok.inj given).symm⟩
    · rintro ⟨fits, rfl⟩
      have isPath := pathOf_content.mpr ⟨fits, rfl⟩
      simp only
      rw [at?] at isPath
      rw [isPath]
      rfl
  · rename_i more
    constructor
    · intro given
      split at given <;> cases given
    · rintro ⟨known, _⟩
      exact absurd (unknownKeys_eq_nil.mpr known) more

theorem ofValue_ok_iff {content : List (Value × Value)} {g : Grid} :
    Grid.ofValue (.map content) = .ok g ↔ Accepted content ∧ described content = g.draft := by
  unfold Grid.ofValue
  simp only
  constructor
  · intro given
    split at given
    · rename_i d isDraft
      obtain ⟨known, path, rfl⟩ := ofEntries_ok_iff.mp isDraft
      exact ⟨⟨known, path, valid_iff.mp ⟨g, given⟩⟩, check_ok_iff.mp given⟩
    · cases given
  · rintro ⟨accepted, same⟩
    rw [ofEntries_ok_iff.mpr ⟨accepted.known, accepted.path, rfl⟩]
    exact check_ok_iff.mpr same

/-! ## Documents -/

/-- The content of a mapping in a document. -/
def contentOf (d : Yaml.Document) (entries : List (Value × Nat)) : List (Value × Value) :=
  entries.map fun (key, number) => (key, d.value number)

/-- Values for a grid depend on the keys of a mapping and on what it has for those of a grid. -/
theorem ofEntries_congr {xs ys : List (Value × Value)} (keys : xs.map (·.1) = ys.map (·.1))
    (values : ∀ key ∈ GridDraft.keys, at? key xs = at? key ys) : GridDraft.ofEntries xs = GridDraft.ofEntries ys := by
  have unknown : GridDraft.unknownKeys xs = GridDraft.unknownKeys ys := by
    rw [GridDraft.unknownKeys, GridDraft.unknownKeys, keys]
  simp only [GridDraft.keys, List.forall_mem_cons, at?] at values
  obtain ⟨rows, cols, cap, name, outfile, format, -⟩ := values
  unfold GridDraft.ofEntries
  simp only [unknown, rows, cols, cap, name, outfile, format]

theorem ofDocumentEntries_eq (d : Yaml.Document) (entries : List (Value × Nat)) :
    Grid.ofDocumentEntries d entries = Grid.ofValue (.map (contentOf d entries)) := by
  unfold Grid.ofDocumentEntries Grid.ofValue
  simp only
  rw [@ofEntries_congr _ (contentOf d entries)]
  · simp [contentOf]
  · intro key known
    unfold at? contentOf Value.lookup
    induction entries with
    | nil => rfl
    | cons entry rest ih =>
      obtain ⟨own, number⟩ := entry
      simp only [List.map_cons, List.find?_cons]
      cases same : (Value.ofString key).same own with
      | true =>
        have isKnown : GridDraft.isKey own = true := isKey_iff.mpr ⟨key, known, text_same_iff.mp same⟩
        simp only [isKnown, if_true, Option.map_some]
      | false => exact ih

/-- The mapping in a document that describes its only grid. -/
def gridContent (t : TopLevel) : Option (List (Value × Value)) :=
  match t.number? "grid" with
  | some number => (t.document.entries? number).map (contentOf t.document)
  | none => some (contentOf t.document t.entries)

theorem ofTop_content {t : TopLevel} {content : List (Value × Value)} (has : gridContent t = some content) :
    Grid.ofTop t = Grid.ofValue (.map content) := by
  cases found : t.number? "grid" with
  | some number =>
    simp only [gridContent, found] at has
    obtain ⟨entries, isMapping, rfl⟩ := Option.map_eq_some_iff.mp has
    simp only [Grid.ofTop, found, Grid.ofNode, isMapping]
    exact ofDocumentEntries_eq _ _
  | none =>
    simp only [gridContent, found] at has
    obtain rfl := Option.some.inj has
    simp only [Grid.ofTop, found]
    exact ofDocumentEntries_eq _ _

theorem ofTop_ok_iff {t : TopLevel} {g : Grid} :
    Grid.ofTop t = .ok g ↔ ∃ content, gridContent t = some content ∧ Accepted content ∧ described content = g.draft := by
  constructor
  · intro taken
    cases has : gridContent t with
    | some content => exact ⟨content, rfl, ofValue_ok_iff.mp ((ofTop_content has).symm.trans taken)⟩
    | none =>
      cases found : t.number? "grid" with
      | some number =>
        simp only [gridContent, found] at has
        simp only [Grid.ofTop, found, Grid.ofNode, Option.map_eq_none_iff.mp has] at taken
        cases taken
      | none =>
        simp only [gridContent, found] at has
        cases has
  · rintro ⟨content, has, accepted⟩
    rw [ofTop_content has]
    exact ofValue_ok_iff.mpr accepted

theorem load_ok_iff {disk : Disk} {path : Path} {g : Grid} :
    Grid.load disk path = .ok g ↔ ∃ t content, TopLevel.load disk path = .ok t ∧ gridContent t = some content ∧
      Accepted content ∧ described content = g.draft := by
  unfold Grid.load
  cases TopLevel.load disk path with
  | error fault => simp
  | ok t => simp [ofTop_ok_iff]

/-- The mapping that a document gives to options: that of their document, or an empty one if there is none. -/
def Given (o : CompileOptions) (disk : Disk) (content : List (Value × Value)) : Prop :=
  match o.config with
  | some path => ∃ t, TopLevel.load disk path = .ok t ∧ gridContent t = some content
  | none => content = []

theorem given_unique {o : CompileOptions} {disk : Disk} {content other : List (Value × Value)}
    (given : Given o disk content) (given' : Given o disk other) : content = other := by
  unfold Given at given given'
  cases isConfig : o.config with
  | some path =>
    rw [isConfig] at given given'
    obtain ⟨t, loaded, has⟩ := given
    obtain ⟨t', loaded', has'⟩ := given'
    obtain rfl := Except.ok.inj (loaded.symm.trans loaded')
    exact Option.some.inj (has.symm.trans has')
  | none =>
    rw [isConfig] at given given'
    exact given.trans given'.symm

theorem accepted_nil : Accepted [] where
  known := fun _ member => absurd member List.not_mem_nil
  path := fun _ found => nomatch found
  values := ⟨⟨15, by decide, rfl⟩, ⟨40, by decide, rfl⟩, ⟨maxCompiledRow, by decide, Nat.le_refl _, rfl⟩, ⟨.css, rfl⟩⟩

theorem override_described (o : CompileOptions) (content : List (Value × Value)) :
    o.override (described content) = merged o content := by
  unfold CompileOptions.override merged described layered
  cases o.rows <;> cases o.cols <;> cases o.cap <;> cases o.format <;> rfl

/-- The grid that options start from. -/
def startOf (o : CompileOptions) (disk : Disk) : Except Fault Grid :=
  match o.config with
  | some path => Grid.load disk path
  | none => GridDraft.default.check

theorem resolve_eq (o : CompileOptions) (disk : Disk) :
    o.resolve disk = startOf o disk >>= fun base => (o.override base.draft).check := by
  unfold CompileOptions.resolve startOf
  cases o.config <;> rfl

theorem startOf_ok_iff {o : CompileOptions} {disk : Disk} {base : Grid} :
    startOf o disk = .ok base ↔ ∃ content, Given o disk content ∧ Accepted content ∧ described content = base.draft := by
  unfold startOf Given
  cases o.config with
  | some path =>
    simp only [load_ok_iff]
    constructor
    · rintro ⟨t, content, loaded, has, accepted⟩
      exact ⟨content, ⟨t, loaded, has⟩, accepted⟩
    · rintro ⟨content, ⟨t, loaded, has⟩, accepted⟩
      exact ⟨t, content, loaded, has, accepted⟩
  | none =>
    simp only [check_ok_iff]
    constructor
    · intro same
      exact ⟨[], rfl, accepted_nil, same⟩
    · rintro ⟨_, rfl, _, same⟩
      exact same

/-- A grid is asked for exactly if the document, where there is one, describes a grid on its own, and the grid has the
values that come out of options and document. -/
theorem resolve_ok_iff {o : CompileOptions} {disk : Disk} {g : Grid} :
    o.resolve disk = .ok g ↔ ∃ content, Given o disk content ∧ Accepted content ∧ merged o content = g.draft := by
  rw [resolve_eq]
  constructor
  · intro done
    obtain ⟨base, started, done⟩ := then_ok done
    obtain ⟨content, given, accepted, same⟩ := startOf_ok_iff.mp started
    rw [← same, override_described] at done
    exact ⟨content, given, accepted, check_ok_iff.mp done⟩
  · rintro ⟨content, given, accepted, same⟩
    obtain ⟨base, own⟩ := valid_iff.mpr accepted.values
    -- The document has to describe a grid before the options are looked at.
    have isBase := check_ok_iff.mp own
    rw [startOf_ok_iff.mpr ⟨content, given, accepted, isBase⟩]
    change (o.override base.draft).check = .ok g
    rw [← isBase, override_described]
    exact check_ok_iff.mpr same

/-! ## Lists of grids -/

theorem mapM_ok_iff {α β : Type} {f : α → Except Fault β} {xs : List α} {ys : List β} :
    xs.mapM f = .ok ys ↔ List.Forall₂ (fun x y => f x = .ok y) xs ys := by
  induction xs generalizing ys with
  | nil =>
    rw [List.mapM_nil, List.forall₂_nil_left_iff]
    exact ⟨fun same => (Except.ok.inj same).symm, fun same => congrArg Except.ok same.symm⟩
  | cons x xs ih =>
    rw [List.mapM_cons, List.forall₂_cons_left_iff]
    constructor
    · intro done
      obtain ⟨y, first, done⟩ := then_ok done
      obtain ⟨rest, others, done⟩ := then_ok done
      exact ⟨y, rest, first, ih.mp others, (Except.ok.inj done).symm⟩
    · rintro ⟨y, rest, first, others, rfl⟩
      rw [first, ih.mpr others]
      rfl

theorem forall₂_through {α β γ : Type} {xs : List α} {ys : List β} {zs : List γ} {P : α → β → Prop} {R : α → γ → Prop}
    {S : β → γ → Prop} (paired : List.Forall₂ P xs ys) (alike : ∀ x y, P x y → ∀ z, R x z ↔ S y z) :
    List.Forall₂ R xs zs ↔ List.Forall₂ S ys zs := by
  induction paired generalizing zs with
  | nil => rw [List.forall₂_nil_left_iff, List.forall₂_nil_left_iff]
  | cons first _ ih =>
    rw [List.forall₂_cons_left_iff, List.forall₂_cons_left_iff]
    simp only [alike _ _ first, ih]

/-- A list of mappings gives the grids that they describe, in order. -/
theorem listOfTop_ok_iff {path : Path} {t : TopLevel} {number : Nat} {items : List Nat}
    {mappings : List (List (Value × Nat))} {gs : List Grid} (found : t.number? "grids" = some number)
    (listed : t.document.part? number = some (.list items)) (some : items ≠ [])
    (mapped : List.Forall₂ (fun item entries => t.document.entries? item = .some entries) items mappings) :
    Grid.listOfTop path t = .ok gs ↔
      List.Forall₂ (fun entries g => Grid.ofValue (.map (contentOf t.document entries)) = .ok g) mappings gs := by
  unfold Grid.listOfTop
  rw [found, Option.bind_some, listed]
  obtain ⟨first, rest, rfl⟩ := List.exists_cons_of_ne_nil some
  simp only
  rw [mapM_ok_iff]
  refine forall₂_through mapped fun item entries isMapping g => ?_
  rw [Grid.ofNode, isMapping, ← ofDocumentEntries_eq]

/-! ## Layers -/

/-- A grid whose values are those of options where these are given, else those of a mapping where it has their keys, else
the default ones. No option names a grid. -/
structure Layered (o : CompileOptions) (content : List (Value × Value)) (g : Grid) : Prop where
  rows : .int g.rows = layered o.rows "rows" content (.int 15)
  cols : .int g.cols = layered o.cols "cols" content (.int 40)
  cap : .int g.cap = layered o.cap "cap" content (.int maxCompiledRow)
  format : .ofString g.format.name = layered o.format "format" content (.ofString "css")
  name : g.name = (at? "name" content).getD (.ofString "rule110")
  outfile : o.target g = o.outfile.or ((pathIn content).map .path)

theorem layered_of_merged {o : CompileOptions} {content : List (Value × Value)} {g : Grid}
    (same : merged o content = g.draft) : Layered o content g where
  rows := (congrArg GridDraft.rows same).symm
  cols := (congrArg GridDraft.cols same).symm
  cap := (congrArg GridDraft.cap same).symm
  format := (congrArg GridDraft.format same).symm
  name := (congrArg GridDraft.name same).symm
  outfile := by
    have path : (o.outfile.bind CommandLine.Place.path?).or (pathIn content) = g.outfile :=
      congrArg GridDraft.outfile same
    unfold CompileOptions.target
    rw [← path]
    cases o.outfile <;> rfl

/-- A grid comes from options and a document exactly if the document, where one is named, describes a grid on its own and
the values that come out of both are valid. It then has the values of the uppermost layer that gives them. A mapping
describes the same grid, or fails alike, at the top level of a document and under the key for the only grid of one, and
a list of mappings is accepted exactly if each of them is. -/
theorem resolution_by_layers :
    (∀ (o : CompileOptions) (disk : Disk),
      ((∃ g, o.resolve disk = .ok g) ↔ ∃ content, Given o disk content ∧ Accepted content ∧ Valid (merged o content)) ∧
      ∀ g content, o.resolve disk = .ok g → Given o disk content →
        Layered o content g ∧ 1 ≤ g.rows ∧ 1 ≤ g.cols ∧ 1 ≤ g.cap ∧ g.cap ≤ maxCompiledRow ∧
          g.format.name ∈ SheetFormat.names) ∧
    (∀ disk path, (∃ base, Grid.load disk path = .ok base) ↔
      ∃ t content, TopLevel.load disk path = .ok t ∧ gridContent t = some content ∧ Accepted content) ∧
    (∀ (flat nested : TopLevel) (number : Nat) (entries : List (Value × Nat)), flat.number? "grid" = none →
      nested.number? "grid" = some number → nested.document.entries? number = some entries →
      contentOf nested.document entries = contentOf flat.document flat.entries →
      Grid.ofTop nested = Grid.ofTop flat) ∧
    ∀ (path : Path) (t : TopLevel) (number : Nat) (items : List Nat) (mappings : List (List (Value × Nat))),
      t.number? "grids" = some number → t.document.part? number = some (.list items) → items ≠ [] →
      List.Forall₂ (fun item entries => t.document.entries? item = some entries) items mappings →
      ∀ gs, Grid.listOfTop path t = .ok gs ↔
        List.Forall₂ (fun entries g => Grid.ofValue (.map (contentOf t.document entries)) = .ok g) mappings gs := by
  refine ⟨fun o disk => ⟨?_, fun g content done given => ?_⟩, fun disk path => ?_, ?_, ?_⟩
  · constructor
    · rintro ⟨g, done⟩
      obtain ⟨content, given, accepted, same⟩ := resolve_ok_iff.mp done
      exact ⟨content, given, accepted, valid_iff.mp ⟨g, check_ok_iff.mpr same⟩⟩
    · rintro ⟨content, given, accepted, valid⟩
      obtain ⟨g, taken⟩ := valid_iff.mpr valid
      exact ⟨g, resolve_ok_iff.mpr ⟨content, given, accepted, check_ok_iff.mp taken⟩⟩
  · obtain ⟨other, given', _, same⟩ := resolve_ok_iff.mp done
    obtain rfl := given_unique given given'
    refine ⟨layered_of_merged same, g.rows_pos, g.cols_pos, g.cap_pos, g.cap_le, ?_⟩
    cases g.format <;> decide
  · simp only [load_ok_iff]
    constructor
    · rintro ⟨_, t, content, loaded, has, accepted, _⟩
      exact ⟨t, content, loaded, has, accepted⟩
    · rintro ⟨t, content, loaded, has, accepted⟩
      obtain ⟨base, own⟩ := valid_iff.mpr accepted.values
      exact ⟨base, t, content, loaded, has, accepted, check_ok_iff.mp own⟩
  · intro flat nested number entries without under isMapping same
    have top : gridContent flat = some (contentOf flat.document flat.entries) := by rw [gridContent, without]
    have inner : gridContent nested = some (contentOf flat.document flat.entries) := by
      rw [gridContent, under, ← same]
      simp only
      rw [isMapping]
      rfl
    rw [ofTop_content top, ofTop_content inner]
  · intro path t number items mappings found listed some mapped gs
    exact listOfTop_ok_iff found listed some mapped

/-- A working directory with a document about a grid of four rows, of which two are compiled. -/
def wideGrid : Disk := ⟨[(["grid.yaml"].map Text.ofString, .file "rows: 4\ncap: 2\nname: wide\n")], []⟩

/-- That document with fifteen rows, as many as there are by default, and with three columns. -/
def taller : CompileOptions where
  config := some (.ofText "grid.yaml")
  rows := some (.int 15)
  cols := some (.int 3)
  cap := none
  format := none
  outfile := some (.path (.ofText "out.css"))
  log := .path defaultLog
  noLog := true

/-- Parts of documents with a grid of no rows and one of two rows, at the top level, under the key for the only grid and
in a list. -/
def parts : Array (Option Yaml.Part) :=
  #[some (.scalar (.ofString "rows") none), some (.scalar (.int 0) none), some (.map [(0, 1)]),
    some (.scalar (.int 2) none), some (.map [(0, 3)]), some (.scalar (.ofString "grid") none), some (.map [(5, 2)]),
    some (.list [4, 4]), some (.scalar (.ofString "grids") none), some (.map [(8, 7)])]

/-- The options count before the document and the document before the default grid, a grid of no rows is refused alike at
both places, and two equal grids of a list are two grids. -/
theorem resolution_by_layers_wideGrid :
    (∃ g content, taller.resolve wideGrid = .ok g ∧ Given taller wideGrid content ∧ Layered taller content g ∧
      (g.rows, g.cols, g.cap) = (15, 3, 2)) ∧
    Grid.ofTop ⟨⟨parts, 6⟩, [(.ofString "grid", 2)]⟩ = Grid.ofTop ⟨⟨parts, 2⟩, [(.ofString "rows", 1)]⟩ ∧
    ∃ gs, Grid.listOfTop (.ofText "grids.yaml") ⟨⟨parts, 9⟩, [(.ofString "grids", 7)]⟩ = .ok gs ∧
      List.Forall₂ (fun entries g => Grid.ofValue (.map (contentOf ⟨parts, 9⟩ entries)) = .ok g)
        [[(.ofString "rows", 3)], [(.ofString "rows", 3)]] gs ∧ gs.map Grid.rows = [2, 2] := by
  obtain ⟨resolved, -, placed, listed⟩ := resolution_by_layers
  refine ⟨?_, ?_, ?_⟩
  · have sizes : (taller.resolve wideGrid).toOption.map (fun g => (g.rows, g.cols, g.cap)) = some (15, 3, 2) := by
      decide +kernel
    obtain ⟨g, made, sizes⟩ := Option.map_eq_some_iff.mp sizes
    have done := ok_of_toOption made
    obtain ⟨content, given, -, -⟩ := (resolved taller wideGrid).1.mp ⟨g, done⟩
    exact ⟨g, content, done, given, ((resolved taller wideGrid).2 g content done given).1, sizes⟩
  · exact placed _ _ 2 [(.ofString "rows", 1)] (by decide +kernel) (by decide +kernel) rfl (by cbv)
  · have numbers : (Grid.listOfTop (.ofText "grids.yaml") ⟨⟨parts, 9⟩, [(.ofString "grids", 7)]⟩).toOption.map
        (·.map Grid.rows) = some [2, 2] := by
      decide +kernel
    have own := listed (.ofText "grids.yaml") ⟨⟨parts, 9⟩, [(.ofString "grids", 7)]⟩ 7 [4, 4]
      [[(.ofString "rows", 3)], [(.ofString "rows", 3)]] (by decide +kernel) rfl (by decide)
      (.cons rfl (.cons rfl .nil))
    obtain ⟨gs, made, numbers⟩ := Option.map_eq_some_iff.mp numbers
    have done := ok_of_toOption made
    exact ⟨gs, done, (own gs).mp done, numbers⟩

end TapeSheet.Resolution
