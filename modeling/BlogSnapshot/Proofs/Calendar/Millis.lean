import BlogSnapshot.Calendar.Format
import BlogSnapshot.Post.Content
import BlogSnapshot.Proofs.Calendar.UniversalTime
import BlogSnapshot.Proofs.Number.Rounding
import BlogSnapshot.Proofs.Steps

/-! Milliseconds against the microseconds that they are computed from. The seconds are rounded to
a double, and so is their product by 1000: over the whole calendar both roundings move a number
of milliseconds by less than its thirtieth part, so that only next to a whole millisecond the
count can be off, and by one.
-/

namespace BlogSnapshot

open Binary64

namespace Calendar

/-- The microseconds from the epoch to the end of the calendar in every offset are below this. -/
def microsBound : Nat :=
  2 ^ 38 * 1000000

/-- How a count of milliseconds agrees with the microseconds since the epoch: it is the whole part
of a twofold rounding, which next to a whole millisecond may be one off.
-/
structure RoundedMillis (micros millis : Nat) : Prop where
  roundings : ∃ s p : ℚ, Nearest (micros / 1000000) s ∧ Nearest (s * 1000) p ∧ millis = ⌊p⌋₊
  notAbove : millis ≤ micros / 1000 + 1
  notBelow : micros / 1000 ≤ millis + 1
  wholeSecond : micros % 1000000 = 0 → millis = micros / 1000
  wholeMillisecond : micros % 1000 = 0 → millis = micros / 1000 ∨ millis + 1 = micros / 1000
  apart : 31 ≤ micros % 1000 → micros % 1000 ≤ 969 → millis = micros / 1000
  early : micros < 2 ^ 33 * 1000000 → micros % 1000 ≠ 0 → millis = micros / 1000

section Micros

variable {micros : Nat} {s p : ℚ}

theorem seconds_lt (bound : micros < microsBound) : (micros / 1000000 : ℚ) < 2 ^ 38 := by
  rw [div_lt_iff₀ (by norm_num)]
  exact_mod_cast bound

/-- The seconds are far from the largest double. -/
theorem seconds_inRange (bound : micros < microsBound)
    : (micros / microsPerSecond : ℚ) < 2 ^ 1000 := by
  have power : (2 : ℚ) ^ 38 < 2 ^ 1000 := pow_lt_pow_right₀ (by norm_num) (by norm_num)
  exact_mod_cast (seconds_lt bound).trans power

/-- The seconds are rounded to a double. -/
theorem exists_seconds (bound : micros < microsBound)
    : ∃ s : ℚ,
        Stands (ofRatio false micros microsPerSecond) s
        ∧ Nearest (micros / 1000000) s
        ∧ s ≤ 2 ^ 38 := by
  obtain ⟨s, stands, near⟩ := ofRatio_nearest (by decide) (seconds_inRange bound)
  have near : Nearest (micros / 1000000) s := by exact_mod_cast near
  refine ⟨s, stands, near, near.le_of_le ?_ (seconds_lt bound).le⟩
  exact_mod_cast IsDouble.natCast (k := 2 ^ 38) (by decide)

/-- The product of such seconds by 1000 is rounded to a double. -/
theorem exists_product {b : Binary64} (stands : Stands b s) (notLarge : s ≤ 2 ^ 38)
    : ∃ p : ℚ, Stands (b.mul (ofNat 1000)) p ∧ Nearest (s * 1000) p := by
  have inRange : s * 1000 < 2 ^ 1000 := by
    calc s * 1000 ≤ 2 ^ 38 * 1000 := by gcongr
      _ < 2 ^ 48 := by norm_num
      _ < 2 ^ 1000 := pow_lt_pow_right₀ (by norm_num) (by norm_num)
  obtain ⟨p, standsProduct, near⟩ :=
    stands.mul_nearest (stands_ofNat (k := 1000) (by decide)) (by exact_mod_cast inRange)
  exact ⟨p, standsProduct, by exact_mod_cast near⟩

/-- The milliseconds are the whole part of seconds and product rounded to doubles. -/
theorem exists_roundings (bound : micros < microsBound)
    : ∃ s p : ℚ,
        Nearest (micros / 1000000) s
        ∧ Nearest (s * 1000) p
        ∧ millisOfMicros micros = ⌊p⌋₊ := by
  obtain ⟨s, stands, nearSeconds, notLarge⟩ := exists_seconds bound
  obtain ⟨p, standsProduct, nearProduct⟩ := exists_product stands notLarge
  exact ⟨s, p, nearSeconds, nearProduct, standsProduct.floorNat_eq⟩

/-- More microseconds have no fewer milliseconds. Witness: both roundings keep the order of distinct
numbers, and seconds that are rounded to one double are multiplied as one.
-/
theorem millisOfMicros_le {micros' : Nat} (le : micros ≤ micros') (bound : micros' < microsBound)
    : millisOfMicros micros ≤ millisOfMicros micros' := by
  rcases le.eq_or_lt with rfl | less
  · exact le_rfl
  obtain ⟨s, stands, near, notLarge⟩ := exists_seconds (le.trans_lt bound)
  obtain ⟨s', stands', near', notLarge'⟩ := exists_seconds bound
  have ratios : (micros / 1000000 : ℚ) < micros' / 1000000 := by
    gcongr
  obtain ⟨p, standsProduct, nearProduct⟩ := exists_product stands notLarge
  obtain ⟨p', standsProduct', nearProduct'⟩ := exists_product stands' notLarge'
  have millis : millisOfMicros micros = ⌊p⌋₊ := standsProduct.floorNat_eq
  have millis' : millisOfMicros micros' = ⌊p'⌋₊ := standsProduct'.floorNat_eq
  rcases (near.le_of_lt near' ratios).eq_or_lt with same | later
  · have normal := normal_ofRatio (by decide) (seconds_inRange (le.trans_lt bound))
    have normal' := normal_ofRatio (by decide) (seconds_inRange bound)
    have seconds : ofRatio false micros microsPerSecond = ofRatio false micros' microsPerSecond :=
      normal.eq_of_stands normal' stands (same ▸ stands')
    simp only [millisOfMicros, Int.toNat_natCast, seconds, le_refl]
  · have products : s * 1000 < s' * 1000 := by gcongr
    rw [millis, millis']
    exact Nat.floor_mono (nearProduct.le_of_lt nearProduct' products)

/-- Below `2^k` seconds the two roundings move the milliseconds by at most `1012 · 2^(k - 53)`. -/
theorem abs_sub_millis_le {k : Nat} (small : k ≤ 38) (bound : micros < 2 ^ k * 1000000)
    (nearSeconds : Nearest (micros / 1000000) s) (nearProduct : Nearest (s * 1000) p)
    : |p - micros / 1000| ≤ 1012 * 2 ^ ((k : Int) - 53) := by
  have unit : (0 : ℚ) < 2 ^ ((k : Int) - 53) := zpow_pos (by norm_num) _
  have power : (2 : ℚ) ^ k = 2 ^ 53 * 2 ^ ((k : Int) - 53) := by
    rw [← zpow_natCast, ← zpow_natCast, ← zpow_add₀ (by norm_num)]
    congr 1
    omega
  have seconds : (micros / 1000000 : ℚ) < 2 ^ k := by
    rw [div_lt_iff₀ (by norm_num)]
    exact_mod_cast bound
  have secondsError := nearSeconds.error_le (e := (k : Int) - 53)
    (by simp only [minExponent]; omega) (by simp only [maxExponent]; omega) (by positivity)
    (by rwa [← power])
  have nonneg : 0 ≤ s := nearSeconds.nonneg (by positivity)
  have notLarge : s ≤ 2 ^ k := by
    refine nearSeconds.le_of_le ?_ seconds.le
    have double := IsDouble.natCast (k := 2 ^ k) (Nat.pow_lt_pow_right (by decide) (by omega))
    exact_mod_cast double
  have ten : (2 : ℚ) ^ ((k : Int) - 53 + 10) = 1024 * 2 ^ ((k : Int) - 53) := by
    rw [zpow_add₀ (by norm_num)]
    norm_num
    ring
  have product : s * 1000 < 2 ^ 53 * 2 ^ ((k : Int) - 53 + 10) := by
    rw [ten]
    linarith
  have productError := nearProduct.error_le (e := (k : Int) - 53 + 10)
    (by simp only [minExponent]; omega) (by simp only [maxExponent]; omega) (by positivity) product
  rw [ten] at productError
  have parts : p - micros / 1000 = (p - s * 1000) + (s - micros / 1000000) * 1000 := by ring
  calc |p - micros / 1000| ≤ |p - s * 1000| + |(s - micros / 1000000) * 1000| := by
        rw [parts]
        exact abs_add_le _ _
    _ = |p - s * 1000| + |s - micros / 1000000| * 1000 := by
        rw [abs_mul, abs_of_nonneg (by norm_num : (0 : ℚ) ≤ 1000)]
    _ ≤ 1012 * 2 ^ ((k : Int) - 53) := by linarith

theorem nonneg_of_roundings (nearSeconds : Nearest (micros / 1000000) s)
    (nearProduct : Nearest (s * 1000) p)
    : 0 ≤ p := by
  have seconds : 0 ≤ s := nearSeconds.nonneg (by positivity)
  exact nearProduct.nonneg (by positivity)

/-- A count of whole seconds and one of their milliseconds are doubles, which rounding keeps. -/
theorem eq_of_wholeSecond (bound : micros < microsBound) (whole : micros % 1000000 = 0)
    (nearSeconds : Nearest (micros / 1000000) s) (nearProduct : Nearest (s * 1000) p)
    : p = (micros / 1000 : Nat) := by
  obtain ⟨t, rfl⟩ := Nat.dvd_of_mod_eq_zero whole
  simp only [microsBound] at bound
  have seconds : s = t := by
    have exact : ((1000000 * t : Nat) / 1000000 : ℚ) = t := by
      push_cast
      ring
    rw [exact] at nearSeconds
    exact nearSeconds.eq_of_isDouble (.natCast (by omega))
  have millis : 1000000 * t / 1000 = t * 1000 := by omega
  have double := IsDouble.natCast (k := t * 1000) (by omega)
  rw [millis]
  rw [seconds] at nearProduct
  push_cast at double ⊢
  exact nearProduct.eq_of_isDouble double

/-- An error that is smaller than the distance to the next whole numbers leaves the whole part. -/
theorem floor_eq_of_apart {q r : Nat} {ε : ℚ} (nonneg : 0 ≤ p)
    (error : |p - (q + r / 1000)| ≤ ε) (above : ε ≤ r / 1000) (below : r / 1000 + ε < 1)
    : ⌊p⌋₊ = q := by
  obtain ⟨low, high⟩ := abs_le.mp error
  rw [Nat.floor_eq_iff nonneg]
  constructor <;> linarith

/-- A number a small part off keeps its whole part up to one, and a whole number does not grow. -/
theorem floor_within_one {q r : Nat} (nonneg : 0 ≤ p) (rest : r < 1000)
    (error : |p - (q + r / 1000)| < 31 / 1000)
    : ⌊p⌋₊ ≤ q + 1 ∧ q ≤ ⌊p⌋₊ + 1 ∧ (r = 0 → ⌊p⌋₊ ≤ q) := by
  obtain ⟨low, high⟩ := abs_lt.mp error
  have part : (0 : ℚ) ≤ r / 1000 := by positivity
  have partBelow : (r : ℚ) ≤ 999 := by exact_mod_cast Nat.le_of_lt_succ rest
  have next := Nat.lt_floor_add_one p
  refine ⟨Nat.lt_succ_iff.mp ((Nat.floor_lt nonneg).mpr ?_), Nat.lt_succ_iff.mp ?_, fun whole => ?_⟩
  · push_cast
    linarith
  · have lower : (q : ℚ) < (⌊p⌋₊ + 2 : Nat) := by
      push_cast at next ⊢
      linarith
    exact_mod_cast lower
  · refine Nat.lt_succ_iff.mp ((Nat.floor_lt nonneg).mpr ?_)
    rw [whole] at high
    push_cast at high ⊢
    linarith

theorem div_thousand_eq (micros : Nat)
    : (micros / 1000 : ℚ) = (micros / 1000 : Nat) + (micros % 1000 : Nat) / 1000 := by
  have whole : (micros : ℚ) = (1000 * (micros / 1000) + micros % 1000 : Nat) := by
    rw [Nat.div_add_mod]
  rw [whole]
  push_cast
  ring

/-- Before the epoch there are no milliseconds. -/
theorem millisOfMicros_of_nonpos {micros : Int} (before : micros ≤ 0)
    : millisOfMicros micros = 0 := by
  have none : micros.toNat = (0 : Int).toNat := by omega
  have same : millisOfMicros micros = millisOfMicros 0 := by
    rw [millisOfMicros, none]
    rfl
  rw [same]
  decide +kernel

/-- Before the epoch the roundings are mirrored, and what is negative counts as zero. -/
theorem exists_signedRoundings {micros : Int} (bound : micros.natAbs < microsBound)
    : ∃ s p : ℚ,
        NearestSigned (micros / 1000000) s
        ∧ NearestSigned (s * 1000) p
        ∧ millisOfMicros micros = ⌊p⌋₊ := by
  obtain ⟨s, p, nearSeconds, nearProduct, millis⟩ := exists_roundings bound
  have nonneg := nonneg_of_roundings nearSeconds nearProduct
  have seconds : 0 ≤ s := nearSeconds.nonneg (by positivity)
  obtain ⟨n, rfl | rfl⟩ := micros.eq_nat_or_neg
  · rw [Int.natAbs_natCast] at nearSeconds millis
    rw [Int.cast_natCast]
    exact ⟨s, p, .inl ⟨by positivity, nearSeconds⟩, .inl ⟨by positivity, nearProduct⟩, millis⟩
  · rw [Int.natAbs_neg, Int.natAbs_natCast] at nearSeconds
    have before : ((-n : Int) : ℚ) / 1000000 = -(n / 1000000) := by
      push_cast
      ring
    have positive : (0 : ℚ) ≤ n / 1000000 := by positivity
    refine ⟨-s, -p, .inr ⟨?_, ?_⟩, .inr ⟨by linarith, ?_⟩, ?_⟩
    · rw [before]
      linarith
    · rwa [before, neg_neg, neg_neg]
    · rwa [neg_neg, neg_mul, neg_neg]
    · rw [Nat.floor_of_nonpos (by linarith), millisOfMicros_of_nonpos (by omega)]

theorem roundedMillis_millisOfMicros (bound : micros < microsBound)
    : RoundedMillis micros (millisOfMicros micros) := by
  obtain ⟨s, p, nearSeconds, nearProduct, millis⟩ := exists_roundings bound
  have nonneg := nonneg_of_roundings nearSeconds nearProduct
  have error := abs_sub_millis_le (k := 38) le_rfl bound nearSeconds nearProduct
  have small : (1012 * 2 ^ (((38 : Nat) : Int) - 53) : ℚ) < 31 / 1000 := by norm_num
  rw [div_thousand_eq] at error
  have rest : micros % 1000 < 1000 := Nat.mod_lt micros (by decide)
  obtain ⟨notAbove, notBelow, notGrown⟩ := floor_within_one nonneg rest (error.trans_lt small)
  rw [millis]
  constructor
  case roundings => exact ⟨s, p, nearSeconds, nearProduct, rfl⟩
  case notAbove => exact notAbove
  case notBelow => exact notBelow
  case wholeSecond =>
    intro whole
    rw [eq_of_wholeSecond bound whole nearSeconds nearProduct, Nat.floor_natCast]
  case wholeMillisecond =>
    intro whole
    have := notGrown whole
    omega
  case apart =>
    intro above below
    have restAbove : (31 : ℚ) ≤ (micros % 1000 : Nat) := by exact_mod_cast above
    have restBelow : ((micros % 1000 : Nat) : ℚ) ≤ 969 := by exact_mod_cast below
    exact floor_eq_of_apart nonneg error (by linarith) (by linarith)
  case early =>
    intro early off
    have closer := abs_sub_millis_le (k := 33) (by decide) early nearSeconds nearProduct
    have tiny : (1012 * 2 ^ (((33 : Nat) : Int) - 53) : ℚ) < 1 / 1000 := by norm_num
    have restAbove : (1 : ℚ) ≤ (micros % 1000 : Nat) := by
      exact_mod_cast Nat.one_le_iff_ne_zero.mpr off
    have restBelow : ((micros % 1000 : Nat) : ℚ) ≤ 999 := by
      exact_mod_cast Nat.le_of_lt_succ rest
    rw [div_thousand_eq] at closer
    exact floor_eq_of_apart nonneg closer (by linarith) (by linarith)

end Micros

end Calendar

open Calendar

namespace Moment

theorem natAbs_instant_sub_epoch_lt (m : Moment)
    : (m.instant - epoch).natAbs < microsBound := by
  have wall := m.wallMicros_lt
  have offset := (m.offset.getD .utc).range
  simp only [calendarMicros, lastDayNumber, microsPerDay, microsPerSecond] at wall
  simp only [instant, epoch, microsBound, microsPerDay, microsPerSecond]
  omega

theorem instant_sub_epoch_lt (m : Moment) : (m.instant - epoch).toNat < microsBound := by
  have bound := m.natAbs_instant_sub_epoch_lt
  omega

/-- Milliseconds depend on the microseconds since the epoch alone. -/
theorem millis_eq (m : Moment) : m.millis = millisOfMicros (m.instant - epoch).toNat := by
  rw [millis, millisOfMicros, millisOfMicros, Int.toNat_natCast]

/-- How the milliseconds of a moment go with its microseconds since the epoch. -/
structure OrderedMillis (m : Moment) : Prop where
  /-- The seconds are rounded to a double and so is their product by 1000, the whole part of which
  counts unless it is negative.
  -/
  roundings : ∃ s p : ℚ,
    NearestSigned ((m.instant - epoch : Int) / 1000000) s
    ∧ NearestSigned (s * 1000) p
    ∧ m.millis = ⌊p⌋₊
  monotone : ∀ later : Moment, m.instant ≤ later.instant → m.millis ≤ later.millis
  zero : m.instant ≤ epoch → m.millis = 0
  wholeSecond : ∀ seconds : Nat, m.instant = epoch + 1000000 * seconds
    → m.millis = 1000 * seconds
  within : epoch ≤ m.instant → |(m.millis : Int) - (m.instant - epoch) / 1000| ≤ 1

theorem orderedMillis (m : Moment) : m.OrderedMillis where
  roundings := exists_signedRoundings m.natAbs_instant_sub_epoch_lt
  monotone later notBefore := by
    rw [millis_eq, millis_eq]
    exact millisOfMicros_le (by omega) later.instant_sub_epoch_lt
  zero before := millisOfMicros_of_nonpos (by omega)
  wholeSecond seconds whole := by
    have exact := (roundedMillis_millisOfMicros m.instant_sub_epoch_lt).wholeSecond
    rw [millis_eq, exact] <;> omega
  within since := by
    obtain ⟨-, notAbove, notBelow, -⟩ := roundedMillis_millisOfMicros m.instant_sub_epoch_lt
    rw [← millis_eq] at notAbove notBelow
    rw [abs_le]
    omega

/-- The milliseconds of a moment that is not before the epoch, which are those of the content of a
post published then, agree with its microseconds up to the two roundings.
-/
theorem roundedMillis {m : Moment} (since : epoch ≤ m.instant)
    : RoundedMillis (m.instant - epoch).toNat m.millis
      ∧ ∀ settings body content,
          PostContent.ofBody settings body m = .ok content → content.time = m.millis := by
  constructor
  · rw [millis, ← Int.toNat_of_nonneg (by omega : 0 ≤ m.instant - epoch), Int.toNat_natCast]
    exact roundedMillis_millisOfMicros m.instant_sub_epoch_lt
  · intro settings body content rendered
    obtain ⟨html, -, made⟩ := (bind_eq_ok_iff _ _ _).mp rendered
    rw [← Except.ok.inj made]

theorem roundedMillis_afterOneSecond
    : ∃ m : Moment,
        m.iso = "1970-01-01T00:00:01.001000+00:00"
        ∧ epoch ≤ m.instant
        ∧ RoundedMillis (m.instant - epoch).toNat m.millis :=
  ⟨⟨.epoch, { second := 1, micro := 1000 }, some .utc⟩, by decide, by decide,
    (roundedMillis (by decide)).1⟩

/-- The product of 1.001 and 1000 is rounded to the double below 1001: a millisecond is lost. -/
theorem millis_afterOneSecond
    : ∃ m : Moment,
        m.iso = "1970-01-01T00:00:01.001000+00:00"
        ∧ epoch ≤ m.instant
        ∧ (m.instant - epoch).toNat / 1000 = 1001
        ∧ m.millis = 1000 :=
  ⟨⟨.epoch, { second := 1, micro := 1000 }, some .utc⟩, by decide, by decide, by decide,
    by decide +kernel⟩

end Moment

end BlogSnapshot
