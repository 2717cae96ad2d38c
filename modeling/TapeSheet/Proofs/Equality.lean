import TapeSheet.Proofs.Rounding
import Mathlib.Data.Fintype.EquivFin

/-!
# Equality of values

Scalars are equal if they have one plain form, so their equality goes both ways and on to a third one (`same_iff`). For
lists, mappings and sets it goes both ways too (`same_comm`), as long as no mapping has two equal keys and no set two
equal members: an entry of one mapping is then equal to one entry of the other and to no more.
-/

namespace TapeSheet.Equality
open TapeSheet.Value TapeSheet.Rounding

theorem beq_eq (x y : Value) : (x == y) = same x y := rfl

/-! ## Scalars -/

/-- A whole number in the units of doubles. -/
def scaled (n : Int) : Int := n * Binary64.one

theorem scaled_inj {n m : Int} : scaled n = scaled m ↔ n = m := by
  have some : (Binary64.one : Int) ≠ 0 := by
    have := one_pos
    omega
  exact ⟨Int.eq_of_mul_eq_mul_right some, congrArg scaled⟩

theorem isInt_finite (negative : Bool) (units : Nat) (n : Int) :
    (Binary64.finite negative units).isInt n = (Binary64.signedUnits negative units == scaled n) := rfl

/-- What equality sees of a scalar. Numbers of all types are counted in the units of doubles. -/
inductive Plain
  | null
  | number (units : Int)
  | infinite (negative : Bool)
  | text (s : Text)
  | bytes (data : List UInt8)
  | date (d : Date)
  | clock (m : Moment)
  | instant (micro : Int)

/-- The plain form of a scalar. What is no number has none, nor has a collection. -/
def plain? : Value → Option Plain
  | .null => some .null
  | .bool b => some (.number (scaled (if b then 1 else 0)))
  | .int n => some (.number (scaled n))
  | .float (.finite negative units) => some (.number (Binary64.signedUnits negative units))
  | .float (.infinite negative) => some (.infinite negative)
  | .text s => some (.text s)
  | .bytes data => some (.bytes data)
  | .date d => some (.date d)
  | .moment m => some (m.offset.elim (.clock m) fun offset => .instant (m.instant offset))
  | _ => none

/-- A value with nothing inside of it. -/
def IsScalar : Value → Prop
  | .list _ => False
  | .pair .. => False
  | .map _ => False
  | .set _ => False
  | _ => True

theorem sameNumber_iff (n : Int) (v : Value) :
    sameNumber n v = true ↔ plain? v = some (.number (scaled n)) := by
  cases v with
  | bool b => simp only [sameNumber, plain?, Option.some.injEq, Plain.number.injEq, scaled_inj, beq_iff_eq, @eq_comm _ n]
  | int m => simp only [sameNumber, plain?, Option.some.injEq, Plain.number.injEq, scaled_inj, beq_iff_eq, @eq_comm _ n]
  | float x =>
    cases x with
    | finite negative units => simp [sameNumber, plain?, isInt_finite]
    | _ => simp [sameNumber, plain?, Binary64.isInt]
  | moment m => cases offset : m.offset <;> simp [sameNumber, plain?, offset]
  | _ => simp [sameNumber, plain?]

theorem isInt_iff (x : Binary64) (n : Int) :
    x.isInt n = true ↔ plain? (.float x) = some (.number (scaled n)) := sameNumber_iff n (.float x)

theorem sameFloat_iff (x y : Binary64) :
    x.same y = true ↔ ∃ form, plain? (.float x) = some form ∧ plain? (.float y) = some form := by
  cases x <;> cases y <;> simp [Binary64.same, plain?] <;> exact eq_comm

theorem sameMoment_iff (m m' : Moment) :
    sameMoment m m' = true ↔ ∃ form, plain? (.moment m) = some form ∧ plain? (.moment m') = some form := by
  simp only [sameMoment, plain?, Option.some.injEq, exists_eq_left']
  cases m.offset <;> cases m'.offset <;> simp <;> exact eq_comm

/-- A moment has the form of its clock or of its instant, which nothing but a moment has. -/
theorem plain_moment (m : Moment) :
    plain? (.moment m) = some (.clock m) ∨ ∃ micro, plain? (.moment m) = some (.instant micro) := by
  simp only [plain?]
  cases m.offset with
  | none => exact .inl rfl
  | some offset => exact .inr ⟨_, rfl⟩

/-- A scalar is equal to what has the same plain form. -/
theorem same_iff {x : Value} (scalar : IsScalar x) (y : Value) :
    same x y = true ↔ ∃ form, plain? x = some form ∧ plain? y = some form := by
  cases x with
  | bool b => simp only [same, sameNumber_iff, plain?, Option.some.injEq, exists_eq_left']
  | int n => simp only [same, sameNumber_iff, plain?, Option.some.injEq, exists_eq_left']
  | list _ => exact scalar.elim
  | pair _ _ => exact scalar.elim
  | map _ => exact scalar.elim
  | set _ => exact scalar.elim
  | float x =>
    cases y with
    | float y => rw [same, sameFloat_iff]
    | bool b => simp [same, number?, isInt_iff, plain?]
    | int n => simp [same, number?, isInt_iff, plain?]
    | moment m =>
      obtain form | ⟨micro, form⟩ := plain_moment m <;> rw [form] <;> cases x <;> simp [same, number?, plain?]
    | _ => cases x <;> simp [same, number?, plain?]
  | moment m =>
    cases y with
    | moment m' => rw [same, sameMoment_iff]
    | float y =>
      obtain form | ⟨micro, form⟩ := plain_moment m <;> rw [form] <;> cases y <;> simp [same, plain?]
    | _ => obtain form | ⟨micro, form⟩ := plain_moment m <;> rw [form] <;> simp [same, plain?]
  | _ =>
    cases y with
    | float y => cases y <;> simp [same, plain?]
    | moment m => obtain form | ⟨micro, form⟩ := plain_moment m <;> rw [form] <;> simp [same, plain?]
    | _ => simp [same, plain?] <;> exact eq_comm

theorem plain_collection {x : Value} (collection : ¬ IsScalar x) : plain? x = none := by
  cases x with
  | list _ => rfl
  | pair _ _ => rfl
  | map _ => rfl
  | set _ => rfl
  | _ => exact absurd trivial collection

/-- Scalars that are equal to one value are equal. -/
theorem same_of_both {x y z : Value} (scalar : IsScalar x) (scalar' : IsScalar y) (first : same x z = true)
    (second : same y z = true) : same x y = true := by
  obtain ⟨form, own, others⟩ := (same_iff scalar z).mp first
  obtain ⟨form', own', others'⟩ := (same_iff scalar' z).mp second
  obtain rfl := Option.some.inj (others.symm.trans others')
  exact (same_iff scalar y).mpr ⟨form, own, own'⟩

/-- No scalar is equal to a collection. -/
theorem scalar_collection {x y : Value} (scalar : IsScalar x) (collection : ¬ IsScalar y) :
    same x y = false ∧ same y x = false := by
  constructor
  · rw [Bool.eq_false_iff, Ne, same_iff scalar, plain_collection collection]
    simp
  · cases y with
    | list _ =>
      cases x with
      | list _ => exact scalar.elim
      | _ => simp [same]
    | pair _ _ =>
      cases x with
      | pair _ _ => exact scalar.elim
      | _ => simp [same]
    | map _ =>
      cases x with
      | map _ => exact scalar.elim
      | _ => simp [same]
    | set _ =>
      cases x with
      | set _ => exact scalar.elim
      | _ => simp [same]
    | _ => exact absurd trivial collection

theorem scalar_comm {x : Value} (scalar : IsScalar x) (y : Value) : same x y = same y x := by
  by_cases scalar' : IsScalar y
  · rw [Bool.eq_iff_iff, same_iff scalar, same_iff scalar']
    exact exists_congr fun _ => and_comm
  · obtain ⟨forth, back⟩ := scalar_collection scalar scalar'
    rw [forth, back]

/-! ## Collections -/

/-- Scalars of which no two are equal. -/
def Distinct (values : List Value) : Prop := (∀ v ∈ values, IsScalar v) ∧ values.Pairwise fun v w => same v w = false

mutual

/-- In a value, the keys of every mapping and the members of every set are scalars of which no two are equal. -/
def Sound : Value → Prop
  | .list items => SoundItems items
  | .pair a b => Sound a ∧ Sound b
  | .map entries => Distinct (entries.map (·.1)) ∧ SoundEntries entries
  | .set members => Distinct members
  | _ => True

/-- All items of a list are sound. -/
def SoundItems : List Value → Prop
  | [] => True
  | x :: xs => Sound x ∧ SoundItems xs

/-- All values of a mapping are sound. -/
def SoundEntries : List (Value × Value) → Prop
  | [] => True
  | (_, v) :: rest => Sound v ∧ SoundEntries rest

end

/-- Equality inside of a collection, where all that is no number is one thing. -/
def sameInside (x y : Value) : Bool := (x.isNan && y.isNan) || same x y

theorem sameInside_comm {x y : Value} (comm : same x y = same y x) : sameInside x y = sameInside y x := by
  rw [sameInside, sameInside, comm, Bool.and_comm]

theorem sound_of_entry {entries : List (Value × Value)} (sound : SoundEntries entries) :
    ∀ entry ∈ entries, Sound entry.2 := by
  induction entries with
  | nil => exact fun _ member => absurd member List.not_mem_nil
  | cons first rest ih => exact List.forall_mem_cons.mpr ⟨sound.1, ih sound.2⟩

theorem sameMembers_iff (xs ys : List Value) :
    sameMembers xs ys = true ↔ ∀ x ∈ xs, ∃ y ∈ ys, same x y = true := by
  induction xs with
  | nil => simp [sameMembers]
  | cons x xs ih => simp only [sameMembers, Bool.and_eq_true, List.any_eq_true, ih, List.forall_mem_cons]

theorem sameEntries_iff (xs ys : List (Value × Value)) :
    sameEntries xs ys = true ↔ ∀ x ∈ xs, ∃ y ∈ ys, same x.1 y.1 = true ∧ sameInside x.2 y.2 = true := by
  induction xs with
  | nil => simp [sameEntries]
  | cons x xs ih =>
    obtain ⟨key, value⟩ := x
    simp only [sameEntries, Bool.and_eq_true, List.any_eq_true, ih, List.forall_mem_cons]
    rfl

/-- If each member of one list is matched by one of another list of the same length, and no two by one, then all
members of the other list match. -/
theorem matched_onto {α β : Type} {xs : List α} {ys : List β} {R : α → β → Prop} (long : xs.length = ys.length)
    (each : ∀ x ∈ xs, ∃ y ∈ ys, R x y) (apart : xs.Pairwise fun x x' => ∀ y, R x y → ¬ R x' y) :
    ∀ y ∈ ys, ∃ x ∈ xs, R x y := by
  have indexed : ∀ i : Fin xs.length, ∃ j : Fin xs.length, R xs[i] (ys.get (j.cast long)) := by
    intro i
    obtain ⟨y, member, matched⟩ := each xs[i] (List.getElem_mem _)
    obtain ⟨j, inside, rfl⟩ := List.getElem_of_mem member
    exact ⟨⟨j, by omega⟩, matched⟩
  choose place matched using indexed
  have before : ∀ i i' : Fin xs.length, i < i' → place i ≠ place i' := by
    intro i i' less same
    have first := matched i
    rw [same] at first
    exact List.pairwise_iff_getElem.mp apart i i' i.isLt i'.isLt less _ first (matched i')
  -- Both lists have one length, so a choice that takes no place twice takes them all.
  have injective : Function.Injective place := by
    intro i i' same
    rcases lt_trichotomy i i' with less | equal | more
    · exact absurd same (before i i' less)
    · exact equal
    · exact absurd same.symm (before i' i more)
  intro y member
  obtain ⟨j, inside, rfl⟩ := List.getElem_of_mem member
  obtain ⟨i, reached⟩ := Finite.injective_iff_surjective.mp injective ⟨j, by omega⟩
  have found := matched i
  rw [reached] at found
  exact ⟨xs[i], List.getElem_mem _, found⟩

/-- Members that are found in another set of the same size are all that it has. -/
theorem members_back {xs ys : List Value} (distinct : Distinct xs) (distinct' : Distinct ys)
    (long : xs.length = ys.length) (each : sameMembers xs ys = true) : sameMembers ys xs = true := by
  rw [sameMembers_iff] at each ⊢
  have apart : xs.Pairwise fun x x' => ∀ y, (y ∈ ys ∧ same x y = true) → ¬ (y ∈ ys ∧ same x' y = true) := by
    refine distinct.2.imp_of_mem ?_
    rintro x x' member member' different y ⟨_, first⟩ ⟨_, second⟩
    have equal := same_of_both (distinct.1 x member) (distinct.1 x' member') first second
    rw [different] at equal
    cases equal
  intro y member
  obtain ⟨x, own, inside, found⟩ := matched_onto long
    (fun x own => (each x own).imp fun y found => ⟨found.1, found.1, found.2⟩) apart y member
  exact ⟨x, own, by rwa [scalar_comm (distinct'.1 y inside)]⟩

/-- Entries that are found in another mapping of the same size are all that it has, if their values are equal both
ways. -/
theorem entries_back {xs ys : List (Value × Value)} (distinct : Distinct (xs.map (·.1)))
    (distinct' : Distinct (ys.map (·.1))) (long : xs.length = ys.length)
    (comm : ∀ x ∈ xs, ∀ y ∈ ys, sameInside x.2 y.2 = sameInside y.2 x.2) (each : sameEntries xs ys = true) :
    sameEntries ys xs = true := by
  rw [sameEntries_iff] at each ⊢
  have key : ∀ {entries : List (Value × Value)}, Distinct (entries.map (·.1)) → ∀ entry ∈ entries, IsScalar entry.1 :=
    fun distinct entry member => distinct.1 _ (List.mem_map_of_mem member)
  have apart : xs.Pairwise fun x x' => ∀ y, (y ∈ ys ∧ same x.1 y.1 = true ∧ sameInside x.2 y.2 = true) →
      ¬ (y ∈ ys ∧ same x'.1 y.1 = true ∧ sameInside x'.2 y.2 = true) := by
    refine (List.pairwise_map.mp distinct.2).imp_of_mem ?_
    rintro x x' member member' different y ⟨_, first, _⟩ ⟨_, second, _⟩
    have equal := same_of_both (key distinct x member) (key distinct x' member') first second
    rw [different] at equal
    cases equal
  intro y member
  obtain ⟨x, own, inside, found, value⟩ := matched_onto long
    (fun x own => (each x own).imp fun y found => ⟨found.1, found.1, found.2⟩) apart y member
  exact ⟨x, own, by rwa [scalar_comm (key distinct' y inside)], by rwa [← comm x own y inside]⟩

mutual

/-- Equality of sound values goes both ways. -/
theorem same_comm : ∀ x y : Value, Sound x → Sound y → same x y = same y x
  | .list xs => by
    intro y sound sound'
    cases y with
    | list ys =>
      rw [same, same]
      exact items_comm xs ys sound sound'
    | _ => simp [same, sameNumber, number?]
  | .pair a b => by
    intro y sound sound'
    cases y with
    | pair c d =>
      have first := sameInside_comm (same_comm a c sound.1 sound'.1)
      have second := sameInside_comm (same_comm b d sound.2 sound'.2)
      simp only [sameInside] at first second
      rw [same, same, first, second]
    | _ => simp [same, sameNumber, number?]
  | .map xs => by
    intro y sound sound'
    cases y with
    | map ys =>
      -- The values are compared crosswise, whichever entries turn out to have one key.
      have comm : ∀ x ∈ xs, ∀ y ∈ ys, sameInside x.2 y.2 = sameInside y.2 x.2 := fun x member y member' =>
        sameInside_comm (values_comm xs sound.2 x member y.2 (sound_of_entry sound'.2 y member'))
      rw [Bool.eq_iff_iff, same, same, Bool.and_eq_true, Bool.and_eq_true, beq_iff_eq, beq_iff_eq]
      constructor
      · rintro ⟨long, each⟩
        exact ⟨long.symm, entries_back sound.1 sound'.1 long comm each⟩
      · rintro ⟨long, each⟩
        exact ⟨long.symm, entries_back sound'.1 sound.1 long
          (fun y member' x member => (comm x member y member').symm) each⟩
    | _ => simp [same, sameNumber, number?]
  | .set xs => by
    intro y sound sound'
    cases y with
    | set ys =>
      rw [Bool.eq_iff_iff, same, same, Bool.and_eq_true, Bool.and_eq_true, beq_iff_eq, beq_iff_eq]
      exact ⟨fun ⟨long, each⟩ => ⟨long.symm, members_back sound sound' long each⟩,
        fun ⟨long, each⟩ => ⟨long.symm, members_back sound' sound long each⟩⟩
    | _ => simp [same, sameNumber, number?]
  | .null => fun y _ _ => scalar_comm (x := .null) trivial y
  | .bool b => fun y _ _ => scalar_comm (x := .bool b) trivial y
  | .int n => fun y _ _ => scalar_comm (x := .int n) trivial y
  | .float f => fun y _ _ => scalar_comm (x := .float f) trivial y
  | .text s => fun y _ _ => scalar_comm (x := .text s) trivial y
  | .bytes data => fun y _ _ => scalar_comm (x := .bytes data) trivial y
  | .date d => fun y _ _ => scalar_comm (x := .date d) trivial y
  | .moment m => fun y _ _ => scalar_comm (x := .moment m) trivial y
  | .listAgain => fun y _ _ => scalar_comm (x := .listAgain) trivial y
  | .mapAgain => fun y _ _ => scalar_comm (x := .mapAgain) trivial y

theorem items_comm : ∀ xs ys : List Value, SoundItems xs → SoundItems ys → sameItems xs ys = sameItems ys xs
  | [] => by
    intro ys _ _
    cases ys <;> simp [sameItems]
  | x :: xs => by
    intro ys sound sound'
    cases ys with
    | nil => simp [sameItems]
    | cons y ys =>
      have first := sameInside_comm (same_comm x y sound.1 sound'.1)
      simp only [sameInside] at first
      rw [sameItems, sameItems, first, items_comm xs ys sound.2 sound'.2]

theorem values_comm : ∀ xs : List (Value × Value), SoundEntries xs → ∀ x ∈ xs, ∀ y, Sound y → same x.2 y = same y x.2
  | [] => fun _ _ member => absurd member List.not_mem_nil
  | (_, v) :: rest => by
    intro sound
    exact List.forall_mem_cons.mpr ⟨fun y => same_comm v y sound.1, values_comm rest sound.2⟩

end

end TapeSheet.Equality
