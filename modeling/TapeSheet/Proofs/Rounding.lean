import TapeSheet.Accuracy
import TapeSheet.Binary64.Text
import Mathlib.Tactic.Linarith

/-!
# Rounded scores

A rounded number of units is off by at most one part in 2⁵³ and half a unit (`nearest_le`, `le_nearest`). A score is
rounded twice and then shown with four places, so these tell apart a grid that has one cell in 20000 wrong and a grid
that has one in 19999 wrong (`high_of_few`, `few_of_high`; `full_of_high`, `high_of_full`).
-/

namespace TapeSheet.Rounding
open Binary64

/-! ## Whole numbers -/

theorem roundDiv_near (num : Nat) {den : Nat} (some : 0 < den) :
    2 * (den * roundDiv num den) ≤ 2 * num + den ∧ 2 * num ≤ 2 * (den * roundDiv num den) + den := by
  have parts := Nat.div_add_mod num den
  have less := Nat.mod_lt num some
  unfold roundDiv
  simp only
  split
  · omega
  · rw [Nat.mul_succ]
    omega

theorem roundDiv_le {num den q : Nat} (some : 0 < den) (le : num ≤ den * q) : roundDiv num den ≤ q := by
  have near := (roundDiv_near num some).1
  by_contra more
  have next : den * (q + 1) ≤ den * roundDiv num den := Nat.mul_le_mul_left den (by omega)
  rw [Nat.mul_succ] at next
  omega

/-! ## Units -/

theorem one_parts : ∃ k, 60 ≤ k ∧ one = 2 ^ (53 + k) := ⟨1021, by decide, by decide +kernel⟩

theorem one_large : ∃ k, 2 ^ 60 ≤ 2 ^ k ∧ one = 2 ^ 53 * 2 ^ k := by
  obtain ⟨k, large, same⟩ := one_parts
  exact ⟨k, Nat.pow_le_pow_right (by decide) large, by rw [same, Nat.pow_add]⟩

theorem one_pos : 0 < one := by
  obtain ⟨k, _, same⟩ := one_parts
  rw [same]
  exact Nat.two_pow_pos _

theorem one_isFinite : one < Nat.pow 2 2098 := by decide +kernel

/-- Units of the double nearest to `num / den` units. -/
def nearest (num den : Nat) : Nat := roundDiv num (den <<< spacing (num / den)) <<< spacing (num / den)

section Units
variable {num den : Nat}

theorem ofUnits_eq (negative : Bool) (le : nearest num den ≤ one) :
    ofUnits negative num den = .finite negative (nearest num den) := by
  unfold ofUnits
  simp only
  exact if_pos (Nat.lt_of_le_of_lt le one_isFinite)

theorem two_pow_log2_le {n : Nat} (some : 0 < n.log2) : 2 ^ n.log2 ≤ n := by
  apply Nat.log2_self_le
  rintro rfl
  rw [Nat.log2_zero] at some
  omega

/-- Neighbouring doubles are one part in 2⁵² apart, or one unit. -/
theorem spacing_le (num den : Nat) : 2 ^ 52 * (den * 2 ^ spacing (num / den)) ≤ num + 2 ^ 52 * den := by
  unfold spacing
  by_cases normal : 52 ≤ (num / den).log2
  · have leading : 2 ^ (num / den).log2 ≤ num / den := two_pow_log2_le (by omega)
    calc 2 ^ 52 * (den * 2 ^ ((num / den).log2 - 52))
      _ = den * (2 ^ 52 * 2 ^ ((num / den).log2 - 52)) := Nat.mul_left_comm ..
      _ = den * 2 ^ (num / den).log2 := by rw [← Nat.pow_add, Nat.add_sub_cancel' normal]
      _ ≤ den * (num / den) := Nat.mul_le_mul_left den leading
      _ ≤ num := Nat.mul_div_le num den
      _ ≤ num + 2 ^ 52 * den := Nat.le_add_right ..
  · rw [Nat.sub_eq_zero_of_le (by omega), Nat.pow_zero, Nat.mul_one]
    exact Nat.le_add_left ..

theorem nearest_near (num : Nat) (some : 0 < den) :
    2 * (den * nearest num den) ≤ 2 * num + den * 2 ^ spacing (num / den) ∧
      2 * num ≤ 2 * (den * nearest num den) + den * 2 ^ spacing (num / den) := by
  unfold nearest
  generalize spacing (num / den) = s
  have near := roundDiv_near num (Nat.mul_pos some (Nat.two_pow_pos s))
  rwa [Nat.shiftLeft_eq, Nat.shiftLeft_eq, Nat.mul_comm (roundDiv ..), ← Nat.mul_assoc den]

theorem nearest_le (num : Nat) (some : 0 < den) :
    2 ^ 53 * (den * nearest num den) ≤ (2 ^ 53 + 1) * num + 2 ^ 52 * den := by
  have near := (nearest_near num some).1
  have apart := spacing_le num den
  omega

theorem le_nearest (num : Nat) (some : 0 < den) :
    (2 ^ 53 - 1) * num ≤ 2 ^ 53 * (den * nearest num den) + 2 ^ 52 * den := by
  have near := (nearest_near num some).2
  have apart := spacing_le num den
  omega

/-- Nothing is rounded up over a power of two. -/
theorem nearest_le_pow {k : Nat} (some : 0 < den) (le : num ≤ den * 2 ^ k) : nearest num den ≤ 2 ^ k := by
  have quotient : num / den ≤ 2 ^ k := Nat.div_le_of_le_mul le
  have low : spacing (num / den) ≤ k := by
    unfold spacing
    by_cases leading : 0 < (num / den).log2
    · have := (Nat.pow_le_pow_iff_right (by decide : 1 < 2)).mp ((two_pow_log2_le leading).trans quotient)
      omega
    · omega
  unfold nearest
  generalize spacing (num / den) = s at low
  have parts : 2 ^ s * 2 ^ (k - s) = 2 ^ k := by rw [← Nat.pow_add, Nat.add_sub_cancel' low]
  have rounded : roundDiv num (den * 2 ^ s) ≤ 2 ^ (k - s) := by
    apply roundDiv_le (Nat.mul_pos some (Nat.two_pow_pos s))
    rwa [Nat.mul_assoc, parts]
  rw [Nat.shiftLeft_eq, Nat.shiftLeft_eq, Nat.mul_comm, ← parts]
  exact Nat.mul_le_mul_left _ rounded

theorem nearest_le_one (some : 0 < den) (le : num ≤ den * one) : nearest num den ≤ one := by
  obtain ⟨k, _, same⟩ := one_parts
  rw [same] at le ⊢
  exact nearest_le_pow some le

theorem roundDiv_exact (q : Nat) {den : Nat} (some : 0 < den) : roundDiv (den * q) den = q := by
  have whole : den * q / den = q := Nat.mul_div_cancel_left q some
  have even : den * q % den = 0 := Nat.mul_mod_right den q
  unfold roundDiv
  simp only
  rw [whole, even, if_pos (by omega)]

/-- One is a double. -/
theorem nearest_one : nearest one 1 = one := by
  obtain ⟨k, _, same⟩ := one_parts
  have exponent : 53 + k = 1 + k + 52 := by omega
  have units : 2 ^ (53 + k) = 2 ^ (1 + k) * 2 ^ 52 := by rw [← Nat.pow_add, exponent]
  rw [same, nearest, Nat.div_one, spacing, Nat.log2_two_pow, Nat.shiftLeft_eq, Nat.shiftLeft_eq, Nat.one_mul,
    (by omega : 53 + k - 52 = 1 + k), units, roundDiv_exact _ (Nat.two_pow_pos _), Nat.mul_comm]

end Units

/-! ## Scores -/

/-- Units of the difference of a rounded fraction from one. -/
def rest (s : Score) : Nat := one - nearest (s.wrong * one) s.cells

/-- Units of a score. -/
def unitsOf (s : Score) : Nat := nearest (rest s) 1

theorem ofNat_one : Binary64.ofNat 1 = .finite false one := by
  have rounded : nearest (1 * one) 1 = one := by rw [Nat.one_mul, nearest_one]
  rw [Binary64.ofNat, Binary64.ofQuotient, ofUnits_eq false rounded.le, rounded]

section Scores
variable {s : Score}

theorem fraction_le (some : 0 < s.cells) (le : s.wrong ≤ s.cells) : nearest (s.wrong * one) s.cells ≤ one :=
  nearest_le_one some (Nat.mul_le_mul_right one le)

theorem unitsOf_le (s : Score) : unitsOf s ≤ one :=
  nearest_le_one Nat.one_pos ((Nat.sub_le ..).trans (Nat.one_mul _).ge)

/-- A score is a rounded difference of a rounded fraction from one. -/
theorem double_eq (some : 0 < s.cells) (le : s.wrong ≤ s.cells) : s.double = .finite false (unitsOf s) := by
  have fraction := fraction_le some le
  have quotient : Binary64.ofQuotient false s.wrong s.cells = .finite false (nearest (s.wrong * one) s.cells) :=
    ofUnits_eq false fraction
  have total : signedUnits false one + signedUnits true (nearest (s.wrong * one) s.cells) = (rest s : Int) := by
    unfold rest signedUnits
    simp only [Bool.false_eq_true, if_false, if_true]
    omega
  have share : (Binary64.ofNat 1).add (Binary64.ofQuotient false s.wrong s.cells).neg = .finite false (unitsOf s) := by
    rw [ofNat_one, quotient]
    simp only [Binary64.neg, Bool.not_false, Binary64.add]
    rw [total]
    by_cases zero : (rest s : Int) = 0
    · have : rest s = 0 := by omega
      rw [if_pos zero, unitsOf, this]
      decide
    · rw [if_neg zero, decide_eq_false (by omega), Int.natAbs_natCast]
      exact ofUnits_eq false (unitsOf_le s)
  unfold Score.double
  rw [share]
  simp only
  split
  · rfl
  · rename_i low
    simp only [Binary64.lt, signedUnits, Bool.false_eq_true, if_false, decide_eq_true_eq] at low
    have : unitsOf s = 0 := by omega
    rw [this]

theorem fraction_nearest_le (some : 0 < s.cells) (few : 20000 * s.wrong ≤ s.cells) :
    20000 * (2 ^ 53 * nearest (s.wrong * one) s.cells) ≤ (2 ^ 53 + 1) * one + 20000 * 2 ^ 52 := by
  have near := nearest_le (s.wrong * one) some
  have part : 20000 * (s.wrong * one) ≤ s.cells * one := by
    rw [← Nat.mul_assoc]
    exact Nat.mul_le_mul_right one few
  refine Nat.le_of_mul_le_mul_left ?_ some
  rw [Nat.mul_left_comm] at near
  linarith

theorem le_fraction_nearest (some : 0 < s.cells) (many : s.cells ≤ 19999 * s.wrong) :
    (2 ^ 53 - 1) * one ≤ 19999 * (2 ^ 53 * nearest (s.wrong * one) s.cells + 2 ^ 52) := by
  have near := le_nearest (s.wrong * one) some
  have wrong : 0 < s.wrong := by omega
  have part := Nat.mul_le_mul_right (2 ^ 53 * nearest (s.wrong * one) s.cells + 2 ^ 52) many
  refine Nat.le_of_mul_le_mul_left ?_ wrong
  linarith

/-- A score that is not rounded down from one in four places has less than one cell in 19999 wrong. -/
theorem few_of_high (some : 0 < s.cells) (high : 19999 * one ≤ 20000 * unitsOf s) : 19999 * s.wrong < s.cells := by
  by_contra many
  have fraction := le_fraction_nearest some (Nat.le_of_not_lt many)
  have near := nearest_le (rest s) Nat.one_pos
  obtain ⟨k, large, same⟩ := one_large
  unfold unitsOf at high
  unfold rest at near high
  omega

/-- A score with at most one cell in 20000 wrong is rounded up to one in four places. -/
theorem high_of_few (some : 0 < s.cells) (few : 20000 * s.wrong ≤ s.cells) :
    19999 * one < 20000 * unitsOf s := by
  have fraction := fraction_nearest_le some few
  obtain ⟨k, large, same⟩ := one_large
  by_cases full : one ≤ rest s
  · have all : rest s = one := Nat.le_antisymm (Nat.sub_le ..) full
    have rounded : unitsOf s = one := by rw [unitsOf, all, nearest_one]
    have := one_pos
    omega
  · -- The difference is at least one half, where doubles are `2 ^ k` units apart.
    have leading : (rest s).log2 = k + 52 := by
      rw [Nat.log2_eq_iff (by unfold rest; omega), Nat.pow_add, Nat.pow_add, Nat.pow_add]
      unfold rest at full ⊢
      omega
    have multiple : unitsOf s = 2 ^ k * roundDiv (rest s) (2 ^ k) := by
      rw [unitsOf, nearest, Nat.div_one, spacing, leading, Nat.add_sub_cancel, Nat.shiftLeft_eq, Nat.shiftLeft_eq,
        Nat.one_mul, Nat.mul_comm]
    have near := (roundDiv_near (rest s) (Nat.two_pow_pos k)).2
    rw [multiple]
    -- The next multiple above 19999 / 20000 is less than half a step away.
    by_contra low
    have less : roundDiv (rest s) (2 ^ k) ≤ 9006748894778254 := by
      by_contra more
      have := Nat.mul_le_mul_left (2 ^ k) (by omega : 9006748894778255 ≤ roundDiv (rest s) (2 ^ k))
      omega
    have := Nat.mul_le_mul_left (2 ^ k) less
    unfold rest at near this
    omega

/-- A score without wrong cells is full. -/
theorem isPerfect_of_right (some : 0 < s.cells) (right : s.wrong = 0) : s.isPerfect = true := by
  have fraction : nearest 0 s.cells = 0 := by simp [nearest, spacing, roundDiv, some]
  have all : unitsOf s = one := by rw [unitsOf, rest, right, Nat.zero_mul, fraction, Nat.sub_zero, nearest_one]
  rw [Score.isPerfect, double_eq some (by omega), all, ofNat_one]
  simp [Binary64.lt]

end Scores

/-! ## Four places -/

theorem fixed_four (v : Nat) : (Binary64.finite false v).fixed 4 =
    Decimal.ofNat (roundDiv (v * 10000) one / 10000) ++ ("." ++ Decimal.padded 4 (roundDiv (v * 10000) one % 10000)) :=
  rfl

/-- A number closer to one than half of the last place is shown as one. -/
theorem full_of_high {v : Nat} (le : v ≤ one) (high : 19999 * one < 20000 * v) :
    (Binary64.finite false v).fixed 4 = "1.0000" := by
  have near := (roundDiv_near (v * 10000) one_pos).2
  have most : roundDiv (v * 10000) one ≤ 10000 := roundDiv_le one_pos (Nat.mul_le_mul_right 10000 le)
  have scaled : roundDiv (v * 10000) one = 10000 := by
    by_contra other
    have less := Nat.mul_le_mul_left one (by omega : roundDiv (v * 10000) one ≤ 9999)
    omega
  rw [fixed_four, scaled]
  rfl

/-- A number that is shown as one is as close to it as half of the last place. -/
theorem high_of_full {v : Nat} (shown : (Binary64.finite false v).fixed 4 = "1.0000") :
    19999 * one ≤ 20000 * v := by
  have near := (roundDiv_near (v * 10000) one_pos).1
  by_contra low
  have less : roundDiv (v * 10000) one < 10000 := by
    by_contra full
    have more := Nat.mul_le_mul_left one (by omega : 10000 ≤ roundDiv (v * 10000) one)
    omega
  have zero : Decimal.ofNat 0 = "0" := rfl
  rw [fixed_four, Nat.div_eq_of_lt less, zero] at shown
  -- Below one the text starts with another digit.
  have first := congrArg (fun t => t.toList.head?) shown
  simp at first

end TapeSheet.Rounding
