import TapeSheet.Selector
import Mathlib.Data.Bool.AllAny
import Mathlib.Data.List.Basic

/-!
# Names of inputs and cells

Decimal texts of whole numbers and the names made of them consist of characters of names, and different numbers,
inputs and cells have different ones. A number has too many digits only if all larger ones have.
-/

namespace TapeSheet.Names

/-- A character of a name. -/
def isNameChar (c : Char) : Bool := c.isAlphanum || c == '-' || c == '_'

/-! ## Numbers with too many digits -/

theorem isWritable_unwritable : Decimal.isWritable Decimal.unwritable = false := by
  unfold Decimal.isWritable
  rw [Int.natAbs_natCast]
  exact decide_eq_false (Nat.lt_irrefl _)

theorem isWritable_neg (n : Int) : Decimal.isWritable (-n) = Decimal.isWritable n := by
  unfold Decimal.isWritable
  rw [Int.natAbs_neg]

theorem isWritable_of_smaller {m n : Int} (smaller : m.natAbs ≤ n.natAbs) (few : Decimal.isWritable n = true) :
    Decimal.isWritable m = true :=
  decide_eq_true (Nat.lt_of_le_of_lt smaller (of_decide_eq_true few))

/-! ## Decimal texts -/

theorem repr_digits (n : Nat) (c : Char) (member : c ∈ n.repr.toList) : c.isDigit = true := by
  rw [Nat.toList_repr] at member
  exact Nat.isDigit_of_mem_toDigits (by decide) (by decide) member

theorem repr_injective {m n : Nat} (same : m.repr = n.repr) : m = n := by
  have digits := congrArg (fun s => Nat.ofDigitChars 10 (String.toList s) 0) same
  simpa only [Nat.toList_repr, Nat.ofDigitChars_ten_toDigits] using digits

/-- Decimal texts have digits, and a minus sign if the number is negative. -/
theorem ofInt_chars (n : Int) (c : Char) (member : c ∈ (Decimal.ofInt n).toList) : c.isDigit = true ∨ c = '-' := by
  cases n with
  | ofNat n => exact .inl (repr_digits n c member)
  | negSucc n =>
    rw [Decimal.ofInt, String.toList_append] at member
    rcases List.mem_append.mp member with sign | digits
    · exact .inr (by simpa using sign)
    · exact .inl (repr_digits _ c digits)

theorem repr_ne_negative (m n : Nat) : m.repr ≠ "-" ++ n.repr := by
  intro same
  have sign : '-' ∈ m.repr.toList := by
    rw [same, String.toList_append]
    exact List.mem_append_left _ (by decide)
  exact absurd (repr_digits m '-' sign) (by decide)

theorem ofInt_injective {m n : Int} (same : Decimal.ofInt m = Decimal.ofInt n) : m = n := by
  cases m with
  | ofNat m =>
    cases n with
    | ofNat n => exact congrArg Int.ofNat (repr_injective same)
    | negSucc n => exact absurd same (repr_ne_negative m (n + 1))
  | negSucc m =>
    cases n with
    | ofNat n => exact absurd same.symm (repr_ne_negative n (m + 1))
    | negSucc n =>
      have digits := congrArg String.toList same
      simp only [Decimal.ofInt, String.toList_append, List.append_cancel_left_eq] at digits
      have numbers := repr_injective (String.toList_inj.mp digits)
      exact congrArg Int.negSucc (by omega)

theorem digit_isNameChar {c : Char} (digit : c.isDigit = true ∨ c = '-') : isNameChar c = true := by
  rcases digit with digit | rfl
  · simp [isNameChar, Char.isAlphanum, digit]
  · decide

theorem ofInt_isName (n : Int) (c : Char) (member : c ∈ (Decimal.ofInt n).toList) : isNameChar c = true :=
  digit_isNameChar (ofInt_chars n c member)

theorem repr_cons (n : Nat) : ∃ c more, n.repr.toList = c :: more ∧ c.isDigit = true := by
  match found : n.repr.toList with
  | [] =>
    rw [Nat.toList_repr] at found
    exact absurd found Nat.toDigits_ne_nil
  | c :: more => exact ⟨c, more, rfl, repr_digits n c (by rw [found]; simp)⟩

theorem ofInt_cons (n : Int) : ∃ c more, (Decimal.ofInt n).toList = c :: more ∧ (c.isDigit = true ∨ c = '-') := by
  cases n with
  | ofNat n =>
    obtain ⟨c, more, digits, digit⟩ := repr_cons n
    exact ⟨c, more, digits, .inl digit⟩
  | negSucc n =>
    have sign : "-".toList = ['-'] := by decide
    exact ⟨'-', (n + 1).repr.toList, by rw [Decimal.ofInt, String.toList_append, sign]; rfl, .inr rfl⟩

theorem ofInt_notEmpty (n : Int) : (Decimal.ofInt n).toList ≠ [] := by
  obtain ⟨c, more, spelled, _⟩ := ofInt_cons n
  rw [spelled]
  exact List.cons_ne_nil c more

theorem ofInt_free {c : Char} (n : Int) (noDigit : c.isDigit = false) (noSign : c ≠ '-') :
    c ∉ (Decimal.ofInt n).toList := by
  intro member
  rcases ofInt_chars n c member with digit | sign
  · exact absurd (noDigit.symm.trans digit) (by decide)
  · exact noSign sign

theorem ofInt_ne_underscore (n : Int) : '_' ∉ (Decimal.ofInt n).toList := ofInt_free n (by decide) (by decide)

/-! ## Inputs and cells -/

theorem inputName_isName (index : Int) (c : Char) (member : c ∈ (inputName index).toList) : isNameChar c = true := by
  have letters : ∀ c ∈ "t_".toList, isNameChar c = true := List.all_iff_forall_prop.mp (by decide)
  rw [inputName, String.toList_append] at member
  rcases List.mem_append.mp member with start | digits
  · exact letters c start
  · exact ofInt_isName index c digits

theorem inputName_injective {i j : Int} (same : inputName i = inputName j) : i = j := by
  have digits := congrArg String.toList same
  simp only [inputName, String.toList_append, List.append_cancel_left_eq] at digits
  exact ofInt_injective (String.toList_inj.mp digits)

theorem className_isName (t : Target) (c : Char) (member : c ∈ t.className.toList) : isNameChar c = true := by
  have letters : ∀ c ∈ "r_".toList ++ "_c_".toList, isNameChar c = true :=
    List.all_iff_forall_prop.mp (by decide)
  simp only [Target.className, String.toList_append, List.mem_append] at member
  rcases member with ((start | row) | middle) | col
  · exact letters c (List.mem_append_left _ start)
  · exact ofInt_isName t.row c row
  · exact letters c (List.mem_append_right _ middle)
  · exact ofInt_isName t.col c col

/-- Texts are split alike at the first place of a character. -/
theorem split_at_first {d : Char} {x y r s : List Char} (notInX : d ∉ x) (notInY : d ∉ y)
    (same : x ++ d :: r = y ++ d :: s) : x = y ∧ r = s := by
  induction x generalizing y with
  | nil =>
    cases y with
    | nil => exact ⟨rfl, (List.cons.inj same).2⟩
    | cons c y => exact absurd ((List.cons.inj same).1 ▸ List.mem_cons_self) notInY
  | cons c x ih =>
    cases y with
    | nil => exact absurd ((List.cons.inj same).1 ▸ List.mem_cons_self) notInX
    | cons e y =>
      obtain ⟨rfl, rest⟩ := List.cons.inj same
      obtain ⟨rfl, tails⟩ := ih (fun member => notInX (List.mem_cons_of_mem _ member))
        (fun member => notInY (List.mem_cons_of_mem _ member)) rest
      exact ⟨rfl, tails⟩

theorem className_injective {t u : Target} (same : t.className = u.className) : t = u := by
  have chars := congrArg String.toList same
  have middle : "_c_".toList = '_' :: ['c', '_'] := by decide
  simp only [Target.className, String.toList_append, List.append_assoc, List.append_cancel_left_eq, middle,
    List.cons_append, List.nil_append] at chars
  obtain ⟨rows, rest⟩ := split_at_first (ofInt_ne_underscore t.row) (ofInt_ne_underscore u.row) chars
  have cols := (List.cons.inj (List.cons.inj rest).2).2
  cases t with | mk row col =>
    cases u with | mk row' col' =>
      obtain rfl := ofInt_injective (String.toList_inj.mp rows)
      obtain rfl := ofInt_injective (String.toList_inj.mp cols)
      rfl

end TapeSheet.Names
