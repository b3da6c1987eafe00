import BlogSnapshot.Number.Binary64
import Mathlib.Algebra.Order.Field.Power
import Mathlib.Algebra.Order.Floor.Semifield
import Mathlib.Data.Nat.Log
import Mathlib.Data.Rat.Floor
import Mathlib.Tactic.FieldSimp
import Mathlib.Tactic.GCongr
import Mathlib.Tactic.Linarith
import Mathlib.Tactic.NormNum
import Mathlib.Tactic.Positivity
import Mathlib.Tactic.Ring

/-! Rounding to doubles over the rational numbers. A ratio is rounded to a double that no other
double is nearer to, and what a rounding keeps is derived from its competitors: a double between
the exact number and the rounded one would be nearer.
-/

namespace BlogSnapshot.Binary64

/-- The non-negative rational numbers that are doubles. -/
def IsDouble (v : ℚ) : Prop :=
  ∃ (m : Nat) (e : Int), m < 2 ^ 53 ∧ minExponent ≤ e ∧ e ≤ maxExponent ∧ v = m * 2 ^ e

/-- The double stands for a non-negative rational number. -/
def Stands (b : Binary64) (v : ℚ) : Prop :=
  ∃ m e, b = finite false m e ∧ v = m * 2 ^ e

/-- The double `v` is a nearest one to `x`. -/
structure Nearest (x v : ℚ) : Prop where
  isDouble : IsDouble v
  nearest : ∀ w, IsDouble w → |v - x| ≤ |w - x|

/-! ## What a nearest double keeps -/

namespace IsDouble

theorem natCast {k : Nat} (small : k < 2 ^ 53) : IsDouble k :=
  ⟨k, 0, small, by decide, by decide, by simp⟩

/-- Whole multiples of a power of two are doubles up to `2^53` times that power. -/
theorem of_le {m : Nat} {e : Int} (full : m ≤ 2 ^ 53) (lower : minExponent ≤ e)
    (upper : e < maxExponent)
    : IsDouble (m * 2 ^ e) := by
  rcases Nat.lt_or_eq_of_le full with small | rfl
  · exact ⟨m, e, small, lower, upper.le, rfl⟩
  · refine ⟨2 ^ 52, e + 1, by decide, by omega, by omega, ?_⟩
    rw [zpow_add_one₀ (by norm_num)]
    push_cast
    ring

end IsDouble

namespace Nearest

variable {x v w : ℚ}

theorem le_of_le (near : Nearest x v) (double : IsDouble w) (le : x ≤ w) : v ≤ w := by
  have closer := near.nearest w double
  rw [abs_of_nonneg (sub_nonneg.mpr le)] at closer
  linarith [le_abs_self (v - x)]

theorem ge_of_ge (near : Nearest x v) (double : IsDouble w) (le : w ≤ x) : w ≤ v := by
  have closer := near.nearest w double
  rw [abs_sub_comm w, abs_of_nonneg (sub_nonneg.mpr le)] at closer
  linarith [neg_abs_le (v - x)]

theorem eq_of_isDouble (near : Nearest x v) (double : IsDouble x) : v = x :=
  le_antisymm (near.le_of_le double le_rfl) (near.ge_of_ge double le_rfl)

theorem nonneg (near : Nearest x v) (exact : 0 ≤ x) : 0 ≤ v := by
  refine near.ge_of_ge ?_ exact
  exact_mod_cast IsDouble.natCast (k := 0) (by decide)

/-- A number to which the larger of two doubles is a nearest one is not below their middle. -/
theorem middle_le (near : Nearest x v) (double : IsDouble w) (larger : w < v)
    : v + w ≤ 2 * x := by
  have squares := sq_le_sq.mpr (near.nearest w double)
  nlinarith

/-- A number to which the smaller of two doubles is a nearest one is not above their middle. -/
theorem le_middle (near : Nearest x v) (double : IsDouble w) (smaller : v < w)
    : 2 * x ≤ v + w := by
  have squares := sq_le_sq.mpr (near.nearest w double)
  nlinarith

/-- A larger number is not rounded to a smaller double. -/
theorem le_of_lt {y : ℚ} (near : Nearest x v) (near' : Nearest y w) (less : x < y) : v ≤ w := by
  by_contra crossed
  have larger : w < v := not_le.mp crossed
  have left := near.middle_le near'.isDouble larger
  have right := near'.le_middle near.isDouble larger
  linarith

/-- One of the two multiples of a power of two around a number is within half that power. -/
theorem error_le (near : Nearest x v) {e : Int} (lower : minExponent ≤ e)
    (upper : e < maxExponent) (nonneg : 0 ≤ x) (below : x < 2 ^ 53 * 2 ^ e)
    : |v - x| ≤ 2 ^ e / 2 := by
  have unit : (0 : ℚ) < 2 ^ e := zpow_pos (by norm_num) e
  have floor := Nat.floor_le (div_nonneg nonneg unit.le)
  have ceiling := Nat.lt_floor_add_one (x / 2 ^ e)
  rw [le_div_iff₀ unit] at floor
  rw [div_lt_iff₀ unit] at ceiling
  have small : ⌊x / 2 ^ e⌋₊ < 2 ^ 53 := by
    rw [Nat.floor_lt (div_nonneg nonneg unit.le), div_lt_iff₀ unit]
    exact_mod_cast below
  have down := near.nearest _ (IsDouble.of_le small.le lower upper)
  have up := near.nearest _ (IsDouble.of_le (m := ⌊x / 2 ^ e⌋₊ + 1) small lower upper)
  rw [abs_sub_comm (_ * _) x, abs_of_nonneg (sub_nonneg.mpr floor)] at down
  push_cast at up
  rw [abs_of_nonneg (sub_nonneg.mpr ceiling.le)] at up
  linarith

end Nearest

/-- The double `v` is a nearest one to `x`, and both may be negative: the doubles below zero mirror
those above.
-/
def NearestSigned (x v : ℚ) : Prop :=
  (0 ≤ x ∧ Nearest x v) ∨ (x ≤ 0 ∧ Nearest (-x) (-v))

/-! ## Rounding a ratio -/

section Quotient

variable {n d : Nat}

/-- A quotient is rounded by at most a half. -/
theorem abs_divNearestEven_sub_le (positive : 0 < d)
    : |(divNearestEven n d : ℚ) - n / d| ≤ 1 / 2 := by
  have parts := Nat.div_add_mod n d
  have rest := Nat.mod_lt n positive
  have bounds : 2 * (divNearestEven n d * d) ≤ 2 * n + d
      ∧ 2 * n ≤ 2 * (divNearestEven n d * d) + d := by
    have next : (n / d + 1) * d = n / d * d + d := Nat.add_one_mul _ _
    rw [Nat.mul_comm] at parts
    simp only [divNearestEven]
    split_ifs <;> omega
  have denominator : (0 : ℚ) < d := by exact_mod_cast positive
  have above : (2 * (divNearestEven n d * d) : ℚ) ≤ 2 * n + d := by exact_mod_cast bounds.1
  have below : (2 * n : ℚ) ≤ 2 * (divNearestEven n d * d) + d := by exact_mod_cast bounds.2
  rw [abs_le, ← sub_nonneg, ← sub_nonneg (b := _ - _)]
  constructor
  · have exact : (divNearestEven n d : ℚ) - n / d - -(1 / 2)
        = (2 * (divNearestEven n d * d) + d - 2 * n) / (2 * d) := by
      field_simp
      ring
    rw [exact]
    exact div_nonneg (by linarith) (by linarith)
  · have exact : 1 / 2 - ((divNearestEven n d : ℚ) - n / d)
        = (2 * n + d - 2 * (divNearestEven n d * d)) / (2 * d) := by
      field_simp
      ring
    rw [exact]
    exact div_nonneg (by linarith) (by linarith)

/-- No whole number is nearer to a quotient than the rounded one. -/
theorem divNearestEven_nearest (positive : 0 < d) (k : Nat)
    : |(divNearestEven n d : ℚ) - n / d| ≤ |(k : ℚ) - n / d| := by
  have half := abs_divNearestEven_sub_le (n := n) positive
  by_cases same : divNearestEven n d = k
  · rw [same]
  · have apart : (1 : ℚ) ≤ |(divNearestEven n d : ℚ) - k| := by
      have whole : (1 : Int) ≤ |(divNearestEven n d : Int) - k| :=
        Int.one_le_abs (sub_ne_zero.mpr (by exact_mod_cast same))
      exact_mod_cast whole
    have triangle := abs_sub_le (divNearestEven n d : ℚ) (n / d) k
    rw [abs_sub_comm (n / d : ℚ) k] at triangle
    linarith

/-- Scaling multiplies a ratio by a power of two and keeps the denominator positive. -/
theorem scaled_spec (positive : 0 < d) (e : Int)
    : 0 < (scaled n d e).2
      ∧ ((scaled n d e).1 : ℚ) / (scaled n d e).2 = n / d / 2 ^ e := by
  unfold scaled
  split_ifs with sign
  · obtain ⟨k, rfl⟩ := Int.eq_ofNat_of_zero_le sign
    refine ⟨Nat.mul_pos positive (Nat.two_pow_pos k), ?_⟩
    simp only [Int.toNat_natCast, Nat.pow_eq, Nat.cast_mul, Nat.cast_pow, Nat.cast_ofNat,
      zpow_natCast, div_div]
  · obtain ⟨k, rfl⟩ := Int.exists_eq_neg_ofNat (by omega : e ≤ 0)
    refine ⟨positive, ?_⟩
    simp only [neg_neg, Int.toNat_natCast, Nat.pow_eq, Nat.cast_mul, Nat.cast_pow,
      Nat.cast_ofNat, zpow_neg, zpow_natCast]
    field_simp

/-- A ratio scaled by the difference of the lengths lies within a factor of two of one. -/
theorem log_bounds (numerator : 0 < n) (positive : 0 < d)
    : (2 : ℚ) ^ ((Nat.log2 n : Int) - Nat.log2 d - 1) < n / d
      ∧ (n / d : ℚ) < 2 ^ ((Nat.log2 n : Int) - Nat.log2 d + 1) := by
  have two : (2 : ℚ) ≠ 0 := by norm_num
  have denominator : (0 : ℚ) < d := by exact_mod_cast positive
  have nLow : (2 : ℚ) ^ (Nat.log2 n : Int) ≤ n := by
    exact_mod_cast Nat.log2_self_le numerator.ne'
  have nHigh : (n : ℚ) < 2 ^ ((Nat.log2 n : Int) + 1) := by
    exact_mod_cast Nat.lt_log2_self (n := n)
  have dLow : (2 : ℚ) ^ (Nat.log2 d : Int) ≤ d := by
    exact_mod_cast Nat.log2_self_le positive.ne'
  have dHigh : (d : ℚ) < 2 ^ ((Nat.log2 d : Int) + 1) := by
    exact_mod_cast Nat.lt_log2_self (n := d)
  constructor
  · rw [lt_div_iff₀ denominator]
    calc (2 : ℚ) ^ ((Nat.log2 n : Int) - Nat.log2 d - 1) * d
        < 2 ^ ((Nat.log2 n : Int) - Nat.log2 d - 1) * 2 ^ ((Nat.log2 d : Int) + 1) := by gcongr
      _ = 2 ^ (Nat.log2 n : Int) := by
          rw [← zpow_add₀ two]
          congr 1
          omega
      _ ≤ n := nLow
  · rw [div_lt_iff₀ denominator]
    calc (n : ℚ) < 2 ^ ((Nat.log2 n : Int) + 1) := nHigh
      _ = 2 ^ ((Nat.log2 n : Int) - Nat.log2 d + 1) * 2 ^ (Nat.log2 d : Int) := by
          rw [← zpow_add₀ two]
          congr 1
          omega
      _ ≤ 2 ^ ((Nat.log2 n : Int) - Nat.log2 d + 1) * d := by gcongr

/-- At its exponent a ratio has a mantissa below `2^53`, and one of full precision unless the
exponent is the least.
-/
theorem exponentOf_spec (numerator : 0 < n) (positive : 0 < d)
    : minExponent ≤ exponentOf n d
      ∧ (n / d : ℚ) < 2 ^ 53 * 2 ^ exponentOf n d
      ∧ (minExponent < exponentOf n d → (2 : ℚ) ^ 52 * 2 ^ exponentOf n d ≤ n / d) := by
  obtain ⟨low, high⟩ := log_bounds numerator positive
  set guess : Int := (Nat.log2 n : Int) - Nat.log2 d - 52 with guess_eq
  have unit : (0 : ℚ) < 2 ^ guess := zpow_pos (by norm_num) guess
  have shift (k : Int) : (2 : ℚ) ^ (guess + k) = 2 ^ k * 2 ^ guess := by
    rw [add_comm, zpow_add₀ (by norm_num)]
  rw [show (Nat.log2 n : Int) - Nat.log2 d - 1 = guess + 51 by omega, shift] at low
  rw [show (Nat.log2 n : Int) - Nat.log2 d + 1 = guess + 53 by omega, shift] at high
  obtain ⟨scale, ratio⟩ := scaled_spec (n := n) positive guess
  have denominator : (0 : ℚ) < (scaled n d guess).2 := by exact_mod_cast scale
  -- The comparison of the whole quotient is one of the ratio itself, as the bound is whole.
  have short : (scaled n d guess).1 / (scaled n d guess).2 < 2 ^ 52
      ↔ (n / d : ℚ) < 2 ^ 52 * 2 ^ guess := by
    rw [Nat.div_lt_iff_lt_mul scale, ← div_lt_iff₀ unit, ← ratio, div_lt_iff₀ denominator]
    exact_mod_cast Iff.rfl
  have unfolded : exponentOf n d
      = max (if (scaled n d guess).1 / (scaled n d guess).2 < 2 ^ 52 then guess - 1 else guess)
          minExponent := rfl
  have clamped {e : Int} (full : (2 : ℚ) ^ 52 * 2 ^ e ≤ n / d)
      (within : (n / d : ℚ) < 2 ^ 53 * 2 ^ e)
      : minExponent ≤ max e minExponent
        ∧ (n / d : ℚ) < 2 ^ 53 * 2 ^ max e minExponent
        ∧ (minExponent < max e minExponent → (2 : ℚ) ^ 52 * 2 ^ max e minExponent ≤ n / d) := by
    refine ⟨le_max_right _ _, within.trans_le ?_, fun above => ?_⟩
    · gcongr
      · norm_num
      · exact le_max_left _ _
    · rwa [max_eq_left (by omega)]
  rw [unfolded]
  split_ifs with isShort
  · have half : (2 : ℚ) ^ guess = 2 * 2 ^ (guess - 1) := by
      rw [← zpow_one_add₀ (by norm_num)]
      congr 1
      omega
    refine clamped (le_of_lt (lt_of_eq_of_lt ?_ low)) (lt_of_lt_of_eq (short.mp isShort) ?_)
    · rw [half]
      norm_num
      ring
    · rw [half]
      ring
  · exact clamped (not_lt.mp (mt short.mpr isShort)) high

/-- Every double is a multiple of the unit at a ratio's exponent or lies below its least number of
full precision, which is at most the ratio.
-/
theorem exists_closer_multiple (numerator : 0 < n) (positive : 0 < d) {w : ℚ}
    (double : IsDouble w)
    : ∃ k : Nat, |k * 2 ^ exponentOf n d - (n / d : ℚ)| ≤ |w - n / d| := by
  obtain ⟨-, -, full⟩ := exponentOf_spec numerator positive
  obtain ⟨m, e, small, lower, -, rfl⟩ := double
  rcases le_or_gt (exponentOf n d) e with coarse | fine
  · refine ⟨m * 2 ^ (e - exponentOf n d).toNat, le_of_eq ?_⟩
    have split : (2 : ℚ) ^ e = 2 ^ (e - exponentOf n d).toNat * 2 ^ exponentOf n d := by
      rw [← zpow_natCast, ← zpow_add₀ (by norm_num)]
      congr 1
      omega
    rw [split]
    push_cast
    ring_nf
  · refine ⟨2 ^ 52, ?_⟩
    have atMost := full (by omega)
    have below : (m : ℚ) * 2 ^ e ≤ 2 ^ 52 * 2 ^ exponentOf n d := by
      calc (m : ℚ) * 2 ^ e ≤ 2 ^ 53 * 2 ^ (exponentOf n d - 1) := by
            gcongr
            · exact_mod_cast small.le
            · norm_num
            · omega
        _ = 2 ^ 52 * 2 ^ exponentOf n d := by
            rw [show exponentOf n d = 1 + (exponentOf n d - 1) by omega,
              zpow_one_add₀ (by norm_num)]
            ring_nf
    push_cast
    rw [abs_of_nonpos (by linarith), abs_of_nonpos (by linarith)]
    linarith

/-- Below `2^1000` the exponent is far from the largest. -/
theorem exponentOf_lt (numerator : 0 < n) (positive : 0 < d) (inRange : (n / d : ℚ) < 2 ^ 1000)
    : exponentOf n d + 1 < maxExponent := by
  obtain ⟨lower, -, full⟩ := exponentOf_spec numerator positive
  rcases lower.eq_or_lt with least | above
  · rw [← least]
    decide
  · have power : (2 : ℚ) ^ (52 + exponentOf n d) < 2 ^ (1000 : Int) := by
      rw [zpow_add₀ (by norm_num)]
      exact (full above).trans_lt (by exact_mod_cast inRange)
    rw [zpow_lt_zpow_iff_right₀ (by norm_num)] at power
    simp only [maxExponent]
    omega

/-- The mantissa of a ratio at its exponent. -/
def mantissaOf (n d : Nat) : Nat :=
  divNearestEven (scaled n d (exponentOf n d)).1 (scaled n d (exponentOf n d)).2

theorem mantissaOf_le (numerator : 0 < n) (positive : 0 < d) : mantissaOf n d ≤ 2 ^ 53 := by
  obtain ⟨-, within, -⟩ := exponentOf_spec numerator positive
  obtain ⟨scale, ratio⟩ := scaled_spec (n := n) positive (exponentOf n d)
  have near := abs_divNearestEven_sub_le (n := (scaled n d (exponentOf n d)).1) scale
  rw [← mantissaOf, ratio] at near
  have quotient : (n / d / 2 ^ exponentOf n d : ℚ) < 2 ^ 53 :=
    (div_lt_iff₀ (zpow_pos (by norm_num) _)).mpr within
  have below : (mantissaOf n d : ℚ) < 2 ^ 53 + 1 := by
    linarith [le_abs_self ((mantissaOf n d : ℚ) - n / d / 2 ^ exponentOf n d)]
  exact Nat.lt_succ_iff.mp (by exact_mod_cast below)

theorem mantissaOf_nearest (positive : 0 < d) (k : Nat)
    : |mantissaOf n d * 2 ^ exponentOf n d - (n / d : ℚ)|
      ≤ |k * 2 ^ exponentOf n d - (n / d : ℚ)| := by
  obtain ⟨scale, ratio⟩ := scaled_spec (n := n) positive (exponentOf n d)
  have near := divNearestEven_nearest (n := (scaled n d (exponentOf n d)).1) scale k
  rw [← mantissaOf, ratio] at near
  have unit : (0 : ℚ) < 2 ^ exponentOf n d := zpow_pos (by norm_num) _
  have factor (k : Nat)
      : (k : ℚ) * 2 ^ exponentOf n d - n / d
        = (k - n / d / 2 ^ exponentOf n d) * 2 ^ exponentOf n d := by
    rw [sub_mul, div_mul_cancel₀ _ unit.ne']
  rw [factor, factor, abs_mul, abs_mul]
  gcongr

/-- Below `2^1000` a ratio becomes its mantissa at its exponent, halved where it is too long. -/
theorem ofRatio_eq (numerator : 0 < n) (positive : 0 < d) (inRange : (n / d : ℚ) < 2 ^ 1000)
    : ofRatio false n d
      = if mantissaOf n d = 2 ^ 53 then finite false (2 ^ 52) (exponentOf n d + 1)
        else finite false (mantissaOf n d) (exponentOf n d) := by
  have upper := exponentOf_lt numerator positive inRange
  have unfolded : ofRatio false n d
      = let parts :=
          if mantissaOf n d = 2 ^ 53 then (2 ^ 52, exponentOf n d + 1)
          else (mantissaOf n d, exponentOf n d)
        if maxExponent < parts.2 then infinite false else finite false parts.1 parts.2 := by
    rw [ofRatio, if_neg numerator.ne']
    rfl
  rw [unfolded]
  by_cases carry : mantissaOf n d = 2 ^ 53
  · simp only [if_pos carry, if_neg (not_lt.mpr upper.le)]
  · simp only [if_neg carry, if_neg (by omega : ¬ maxExponent < exponentOf n d)]

theorem stands_ofRatio (numerator : 0 < n) (positive : 0 < d) (inRange : (n / d : ℚ) < 2 ^ 1000)
    : Stands (ofRatio false n d) (mantissaOf n d * 2 ^ exponentOf n d) := by
  rw [ofRatio_eq numerator positive inRange]
  split_ifs with carry
  · refine ⟨2 ^ 52, exponentOf n d + 1, rfl, ?_⟩
    rw [carry, zpow_add_one₀ (by norm_num)]
    push_cast
    ring
  · exact ⟨_, _, rfl, rfl⟩

/-- A ratio below `2^1000` is rounded to a nearest double. -/
theorem ofRatio_nearest (positive : 0 < d) (inRange : (n / d : ℚ) < 2 ^ 1000)
    : ∃ v, Stands (ofRatio false n d) v ∧ Nearest (n / d) v := by
  rcases Nat.eq_zero_or_pos n with rfl | numerator
  · refine ⟨0, ⟨0, minExponent, rfl, by simp⟩, ?_, fun w _ => ?_⟩
    · exact_mod_cast IsDouble.natCast (k := 0) (by decide)
    · simp
  · obtain ⟨lower, -, -⟩ := exponentOf_spec numerator positive
    have upper := exponentOf_lt numerator positive inRange
    refine ⟨_, stands_ofRatio numerator positive inRange,
      IsDouble.of_le (mantissaOf_le numerator positive) lower (by omega), fun w double => ?_⟩
    obtain ⟨k, closer⟩ := exists_closer_multiple numerator positive double
    exact (mantissaOf_nearest positive k).trans closer

/-- A mantissa has full precision unless its exponent is the least. -/
theorem le_mantissaOf (numerator : 0 < n) (positive : 0 < d)
    (above : minExponent < exponentOf n d)
    : 2 ^ 52 ≤ mantissaOf n d := by
  obtain ⟨-, -, full⟩ := exponentOf_spec numerator positive
  obtain ⟨scale, ratio⟩ := scaled_spec (n := n) positive (exponentOf n d)
  have near := abs_divNearestEven_sub_le (n := (scaled n d (exponentOf n d)).1) scale
  rw [← mantissaOf, ratio] at near
  have quotient : (2 : ℚ) ^ 52 ≤ n / d / 2 ^ exponentOf n d :=
    (le_div_iff₀ (zpow_pos (by norm_num) _)).mpr (full above)
  have atLeast : (2 ^ 52 : ℚ) < mantissaOf n d + 1 := by
    linarith [neg_abs_le ((mantissaOf n d : ℚ) - n / d / 2 ^ exponentOf n d)]
  exact Nat.lt_succ_iff.mp (by exact_mod_cast atLeast)

/-- The double is written in the one way in which rounding writes doubles. -/
def Normal (b : Binary64) : Prop :=
  ∃ m e, b = finite false m e ∧ m < 2 ^ 53 ∧ minExponent ≤ e ∧ (minExponent < e → 2 ^ 52 ≤ m)

/-- Rounding writes doubles in the one way. -/
theorem normal_ofRatio (positive : 0 < d) (inRange : (n / d : ℚ) < 2 ^ 1000)
    : Normal (ofRatio false n d) := by
  rcases Nat.eq_zero_or_pos n with rfl | numerator
  · exact ⟨0, minExponent, rfl, by decide, le_rfl, fun above => absurd above (lt_irrefl _)⟩
  · obtain ⟨lower, -, -⟩ := exponentOf_spec numerator positive
    rw [ofRatio_eq numerator positive inRange]
    split_ifs with carry
    · exact ⟨2 ^ 52, exponentOf n d + 1, rfl, by decide, by omega, fun _ => le_rfl⟩
    · have short := (mantissaOf_le numerator positive).lt_of_ne carry
      exact ⟨_, _, rfl, short, lower, le_mantissaOf numerator positive⟩

end Quotient

/-- Of two ways to write a number, the one with the larger exponent has no full precision. -/
theorem exponent_le_of_same {m m' : Nat} {e e' : Int} (short : m < 2 ^ 53)
    (full : e < e' → 2 ^ 52 ≤ m') (same : (m * 2 ^ e : ℚ) = m' * 2 ^ e')
    : e' ≤ e := by
  by_contra larger
  have less : e < e' := not_le.mp larger
  have tooLarge : (m : ℚ) * 2 ^ e < m' * 2 ^ e' := by
    calc (m : ℚ) * 2 ^ e < 2 ^ 53 * 2 ^ e := by
          gcongr
          exact_mod_cast short
      _ = 2 ^ 52 * 2 ^ (e + 1) := by
          rw [zpow_add_one₀ (by norm_num)]
          ring
      _ ≤ m' * 2 ^ e' := by
          gcongr
          · exact_mod_cast full less
          · norm_num
          · omega
  exact tooLarge.ne same

/-- A number is written in one way. -/
theorem Normal.eq_of_stands {a b : Binary64} {v : ℚ} (normal : Normal a) (normal' : Normal b)
    (stands : Stands a v) (stands' : Stands b v)
    : a = b := by
  obtain ⟨m, e, rfl, short, lower, full⟩ := normal
  obtain ⟨m', e', rfl, short', lower', full'⟩ := normal'
  obtain ⟨_, _, written, rfl⟩ := stands
  obtain ⟨_, _, written', same⟩ := stands'
  cases written
  cases written'
  have exponents : e = e' := by
    apply le_antisymm
    · exact exponent_le_of_same short' (fun less => full (lower'.trans_lt less)) same.symm
    · exact exponent_le_of_same short (fun less => full' (lower.trans_lt less)) same
  subst exponents
  have unit : (2 : ℚ) ^ e ≠ 0 := (zpow_pos (by norm_num) e).ne'
  have mantissas : m = m' := by exact_mod_cast mul_right_cancel₀ unit same
  rw [mantissas]

/-! ## Products and whole parts -/

theorem ratio_spec (m : Nat) (e : Int)
    : 0 < (ratio m e).2 ∧ ((ratio m e).1 : ℚ) / (ratio m e).2 = m * 2 ^ e := by
  unfold ratio
  split_ifs with sign
  · obtain ⟨k, rfl⟩ := Int.eq_ofNat_of_zero_le sign
    simp
  · obtain ⟨k, rfl⟩ := Int.exists_eq_neg_ofNat (by omega : e ≤ 0)
    refine ⟨Nat.two_pow_pos _, ?_⟩
    simp [div_eq_mul_inv]

theorem stands_ofNat {k : Nat} (small : k < 2 ^ 53) : Stands (ofNat k) k := by
  have inRange : (k / (1 : Nat) : ℚ) < 2 ^ 1000 := by
    rw [Nat.cast_one, div_one]
    calc (k : ℚ) < 2 ^ 53 := by exact_mod_cast small
      _ < 2 ^ 1000 := pow_lt_pow_right₀ (by norm_num) (by norm_num)
  obtain ⟨v, stands, near⟩ := ofRatio_nearest one_pos inRange
  rw [Nat.cast_one, div_one] at near
  rwa [near.eq_of_isDouble (.natCast small)] at stands

namespace Stands

variable {a b : Binary64} {u v : ℚ}

/-- A product is rounded to a double nearest to the exact one. -/
theorem mul_nearest (left : Stands a u) (right : Stands b v) (inRange : u * v < 2 ^ 1000)
    : ∃ w, Stands (a.mul b) w ∧ Nearest (u * v) w := by
  obtain ⟨m, e, rfl, rfl⟩ := left
  obtain ⟨n, f, rfl, rfl⟩ := right
  obtain ⟨positive, exact⟩ := ratio_spec (m * n) (e + f)
  have product : (m * 2 ^ e * (n * 2 ^ f) : ℚ)
      = (ratio (m * n) (e + f)).1 / (ratio (m * n) (e + f)).2 := by
    rw [exact, zpow_add₀ (by norm_num)]
    push_cast
    ring
  rw [product] at inRange ⊢
  exact ofRatio_nearest positive inRange

theorem floorNat_eq (stands : Stands a u) : a.floorNat = ⌊u⌋₊ := by
  obtain ⟨m, e, rfl, rfl⟩ := stands
  rw [← (ratio_spec m e).2, Nat.floor_div_eq_div]
  rfl

end Stands

end BlogSnapshot.Binary64
