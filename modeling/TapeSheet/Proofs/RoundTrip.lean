import TapeSheet.Proofs.LogReading

/-!
# Values that come back

A value without fractions, whose mappings have texts as keys, each of them once, is read from its JSON text as it was
(`reads_exact`). It has such a text, and one that a file can hold, as long as its numbers have few enough digits, its
texts are made of characters, and it is not nested too deeply (`printed_iff`).
-/

namespace TapeSheet.RoundTrip
open TapeSheet.Encoding TapeSheet.SheetReading TapeSheet.JsonReading TapeSheet.ValueReading TapeSheet.LogReading
  TapeSheet.Json

/-- The keys of a mapping are texts, each of them once. -/
def DistinctKeys (entries : List (Value × Value)) : Prop :=
  ∃ keys : List Text, keys.Nodup ∧ entries.map (·.1) = keys.map .text

mutual

/-- A value that JSON can hold as it is: nothing, a truth value, a whole number, a text, or a list or mapping of such
values. -/
def Exact : Value → Prop
  | .null => True
  | .bool _ => True
  | .int _ => True
  | .text _ => True
  | .list items => ExactItems items
  | .map entries => DistinctKeys entries ∧ ExactEntries entries
  | _ => False

/-- All items of a list come back. -/
def ExactItems : List Value → Prop
  | [] => True
  | x :: xs => Exact x ∧ ExactItems xs

/-- All values of a mapping come back. -/
def ExactEntries : List (Value × Value) → Prop
  | [] => True
  | (_, v) :: rest => Exact v ∧ ExactEntries rest

end

mutual

/-- A value with few enough digits, without halves and with at most `room` collections inside of each other. -/
def Writable (room : Nat) : Value → Prop
  | .int n => Decimal.isWritable n = true
  | .text s => Whole s
  | .list items => match room with
    | 0 => False
    | room + 1 => WritableItems room items
  | .map entries => match room with
    | 0 => False
    | room + 1 => WritableEntries room entries
  | _ => True

/-- All items of a list can be written. -/
def WritableItems (room : Nat) : List Value → Prop
  | [] => True
  | x :: xs => Writable room x ∧ WritableItems room xs

/-- All keys and values of a mapping can be written. -/
def WritableEntries (room : Nat) : List (Value × Value) → Prop
  | [] => True
  | (k, v) :: rest => (∀ key, k = .text key → Whole key) ∧ Writable room v ∧ WritableEntries room rest

end

/-! ## Parts of texts -/

theorem whole_quoted_iff {s : Text} : Whole (quoted s) ↔ Whole s := by
  refine ⟨whole_quoted, fun whole => ?_⟩
  intro l member
  simp only [quoted, List.cons_append, List.mem_cons, List.mem_append, List.mem_flatMap, List.not_mem_nil,
    or_false] at member
  obtain rfl | ⟨own, inside, written⟩ | rfl := member
  · rfl
  · cases own with
    | char c =>
      obtain ⟨_, _, rfl⟩ := List.mem_map.mp written
      rfl
    | half unit => exact absurd (whole _ inside) (by simp [Letter.isHalf])
  · rfl

theorem whole_enclosed {left right : Char} {parts : List Text} :
    Whole (enclosed left right parts) ↔ ∀ part ∈ parts, Whole part := by
  constructor
  · intro whole part member
    exact whole_parts (fun l inside => whole l (by simp [enclosed, inside]) : Whole (Text.glued ", " parts)) member
  · intro each l member
    have glued := whole_glued (whole_ofString ", ") each
    simp only [enclosed, List.cons_append, List.mem_cons, List.mem_append, List.not_mem_nil, or_false] at member
    obtain rfl | inside | rfl := member
    · rfl
    · exact glued l inside
    · rfl

theorem whole_entry {key value : Text} :
    Whole (quoted key ++ (Text.ofString ": " ++ value)) ↔ Whole key ∧ Whole value := by
  rw [whole_append, whole_append, whole_quoted_iff, and_iff_right (whole_ofString ": ")]

/-! ## Reading -/

mutual

/-- A value that JSON can hold is read from its text as it was. -/
theorem reads_exact (room : Nat) : ∀ (v : Value) (t : Text), Exact v → printWithin room v = .ok t → Whole t →
    Reads (charsOf t.letters) v
  | .null => by
    intro t _ printed _
    cases printed
    exact reads_null
  | .bool b => by
    intro t _ printed _
    cases printed
    rw [ofString_chars]
    exact reads_bool b
  | .int n => fun t _ printed _ => reads_intText printed
  | .text s => by
    intro t _ printed whole
    cases printed
    exact reads_wholeText (whole_quoted whole)
  | .list items => by
    intro t exact printed whole
    obtain ⟨below, parts, rfl, inside, rfl⟩ := printed_list.mp printed
    exact reads_list (reads_exactItems below items parts exact inside (whole_enclosed.mp whole))
  | .map entries => by
    intro t exact printed whole
    obtain ⟨⟨keys, distinct, texts⟩, values⟩ := exact
    obtain ⟨below, parts, rfl, inside, rfl⟩ := printed_map.mp printed
    obtain ⟨keyed, same, isKeys, each⟩ :=
      reads_exactEntries below entries keys parts texts values inside (whole_enclosed.mp whole)
    have map := reads_map each
    rw [inserted_distinct (by rwa [isKeys]), ← same] at map
    exact map
  | .float _ | .bytes _ | .pair _ _ | .set _ | .date _ | .moment _ | .listAgain | .mapAgain => fun _ exact => exact.elim

theorem reads_exactItems (room : Nat) : ∀ (items : List Value) (parts : List Text), ExactItems items →
    printItems room items = .ok parts → (∀ part ∈ parts, Whole part) → ReadsAll parts items
  | [] => by
    intro parts _ printed _
    cases printed
    exact .nil
  | x :: xs => by
    intro parts exact printed whole
    obtain ⟨text, others, first, later, rfl⟩ := printed_item.mp printed
    obtain ⟨own, rest⟩ := List.forall_mem_cons.mp whole
    exact .cons (reads_exact room x text exact.1 first own) (reads_exactItems room xs others exact.2 later rest)

theorem reads_exactEntries (room : Nat) : ∀ (entries : List (Value × Value)) (keys : List Text) (parts : List Text),
    entries.map (·.1) = keys.map .text → ExactEntries entries → printEntries room entries = .ok parts →
    (∀ part ∈ parts, Whole part) →
    ∃ keyed : List (Text × Value), entries = keyed.map (fun entry => (.text entry.1, entry.2)) ∧
      keyed.map (·.1) = keys ∧ ReadsEntries parts keyed
  | [] => by
    intro keys parts texts _ printed _
    cases printed
    obtain rfl := List.map_eq_nil_iff.mp texts.symm
    exact ⟨[], rfl, rfl, .nil⟩
  | (k, v) :: rest => by
    intro keys parts texts exact printed whole
    cases keys with
    | nil => cases texts
    | cons key keys =>
      obtain ⟨isText, others⟩ := List.cons.inj texts
      subst isText
      obtain ⟨_, text, more, named, first, later, rfl⟩ := printed_entry.mp printed
      cases named
      obtain ⟨own, wholeRest⟩ := List.forall_mem_cons.mp whole
      obtain ⟨wholeKey, wholeValue⟩ := whole_entry.mp own
      obtain ⟨keyed, rfl, rfl, each⟩ := reads_exactEntries room rest keys more others exact.2 later wholeRest
      have value := reads_exact room v text exact.1 first wholeValue
      refine ⟨(key, v) :: keyed, rfl, rfl, .cons ?_ each⟩
      exact ⟨charsOf key.letters, _, entry_chars key text, (ofChars_charsOf wholeKey).symm, value⟩

end

/-! ## Writing -/

theorem intText_ok_iff {n : Int} {t : Text} :
    (intText n).map Text.ofString = .ok t ↔ Decimal.isWritable n = true ∧ t = Text.ofString (Decimal.ofInt n) := by
  unfold intText
  split
  · rename_i few
    rw [and_iff_right few]
    exact ⟨fun same => (Except.ok.inj same).symm, fun same => congrArg Except.ok same.symm⟩
  · rename_i many
    exact iff_of_false (fun failed => nomatch failed) fun ⟨few, _⟩ => many few

mutual

/-- A value that JSON can hold has a text that a file can hold exactly if it can be written. -/
theorem printed_iff (room : Nat) : ∀ v : Value, Exact v →
    ((∃ t, printWithin room v = .ok t ∧ Whole t) ↔ Writable room v)
  | .null => fun _ => iff_of_true ⟨_, rfl, whole_ofString "null"⟩ trivial
  | .bool b => fun _ => iff_of_true ⟨_, rfl, whole_ofString (boolText b)⟩ trivial
  | .int n => by
    intro _
    simp only [printWithin, intText_ok_iff, Writable]
    exact ⟨fun ⟨_, ⟨few, _⟩, _⟩ => few, fun few => ⟨_, ⟨few, rfl⟩, whole_ofString _⟩⟩
  | .text s => by
    intro _
    simp only [printWithin, Except.ok.injEq, exists_eq_left', whole_quoted_iff, Writable]
  | .list items => by
    intro exact
    constructor
    · rintro ⟨_, printed, whole⟩
      obtain ⟨below, parts, rfl, inside, rfl⟩ := printed_list.mp printed
      exact (printedItems_iff below items exact).mp ⟨parts, inside, whole_enclosed.mp whole⟩
    · intro writable
      cases room with
      | zero => exact writable.elim
      | succ below =>
        obtain ⟨parts, inside, whole⟩ := (printedItems_iff below items exact).mpr writable
        exact ⟨_, printed_list.mpr ⟨below, parts, rfl, inside, rfl⟩, whole_enclosed.mpr whole⟩
  | .map entries => by
    intro exact
    obtain ⟨⟨keys, _, texts⟩, values⟩ := exact
    constructor
    · rintro ⟨_, printed, whole⟩
      obtain ⟨below, parts, rfl, inside, rfl⟩ := printed_map.mp printed
      exact (printedEntries_iff below entries keys texts values).mp ⟨parts, inside, whole_enclosed.mp whole⟩
    · intro writable
      cases room with
      | zero => exact writable.elim
      | succ below =>
        obtain ⟨parts, inside, whole⟩ := (printedEntries_iff below entries keys texts values).mpr writable
        exact ⟨_, printed_map.mpr ⟨below, parts, rfl, inside, rfl⟩, whole_enclosed.mpr whole⟩
  | .float _ | .bytes _ | .pair _ _ | .set _ | .date _ | .moment _ | .listAgain | .mapAgain => fun exact => exact.elim

theorem printedItems_iff (room : Nat) : ∀ items : List Value, ExactItems items →
    ((∃ texts, printItems room items = .ok texts ∧ ∀ text ∈ texts, Whole text) ↔ WritableItems room items)
  | [] => fun _ => iff_of_true ⟨[], rfl, fun _ member => absurd member List.not_mem_nil⟩ trivial
  | x :: xs => by
    intro exact
    constructor
    · rintro ⟨_, printed, whole⟩
      obtain ⟨text, others, first, later, rfl⟩ := printed_item.mp printed
      obtain ⟨own, rest⟩ := List.forall_mem_cons.mp whole
      exact ⟨(printed_iff room x exact.1).mp ⟨text, first, own⟩,
        (printedItems_iff room xs exact.2).mp ⟨others, later, rest⟩⟩
    · rintro ⟨one, more⟩
      obtain ⟨text, first, own⟩ := (printed_iff room x exact.1).mpr one
      obtain ⟨others, later, rest⟩ := (printedItems_iff room xs exact.2).mpr more
      exact ⟨_, printed_item.mpr ⟨text, others, first, later, rfl⟩, List.forall_mem_cons.mpr ⟨own, rest⟩⟩

theorem printedEntries_iff (room : Nat) : ∀ (entries : List (Value × Value)) (keys : List Text),
    entries.map (·.1) = keys.map .text → ExactEntries entries →
    ((∃ texts, printEntries room entries = .ok texts ∧ ∀ text ∈ texts, Whole text) ↔ WritableEntries room entries)
  | [] => fun _ _ _ => iff_of_true ⟨[], rfl, fun _ member => absurd member List.not_mem_nil⟩ trivial
  | (k, v) :: rest => by
    intro keys texts exact
    cases keys with
    | nil => cases texts
    | cons key keys =>
      obtain ⟨isText, others⟩ := List.cons.inj texts
      subst isText
      constructor
      · rintro ⟨_, printed, whole⟩
        obtain ⟨_, text, more, named, first, later, rfl⟩ := printed_entry.mp printed
        cases named
        obtain ⟨own, wholeRest⟩ := List.forall_mem_cons.mp whole
        obtain ⟨wholeKey, wholeValue⟩ := whole_entry.mp own
        refine ⟨?_, (printed_iff room v exact.1).mp ⟨text, first, wholeValue⟩,
          (printedEntries_iff room rest keys others exact.2).mp ⟨more, later, wholeRest⟩⟩
        rintro _ ⟨⟩
        exact wholeKey
      · rintro ⟨wholeKey, one, others'⟩
        obtain ⟨text, first, wholeValue⟩ := (printed_iff room v exact.1).mpr one
        obtain ⟨more, later, wholeRest⟩ := (printedEntries_iff room rest keys others exact.2).mpr others'
        exact ⟨_, printed_entry.mpr ⟨key, text, more, rfl, first, later, rfl⟩,
          List.forall_mem_cons.mpr ⟨whole_entry.mpr ⟨wholeKey key rfl, wholeValue⟩, wholeRest⟩⟩

end

end TapeSheet.RoundTrip
