import Mathlib
import Sift.Number.Binary

/-!
# Rounding

A finite binary number has a rational value, and numbers are ordered as their values are. What it
means to round a rational to a format is said of values alone: `IsRounding f q v` if no number of
the format is nearer to `q` than `v`, and if of two that are equally near `v` is the even one. Such
a `v` is unique and grows with `q`, so two roundings order what was rounded, unless they are the
same. `ofRatio` computes it (`isRounding_ofRatio`): it looks for the power of two at which the
significand has as many bits as the format allows and rounds the quotient there.
-/

namespace Sift.Binary

variable {f : BinaryFormat}

/-! ## Values -/

/-- A rational under a sign. -/
def signed (negative : Bool) (q : ℚ) : ℚ := if negative then -q else q

/-- The value of a finite number. -/
def value? : Binary f → Option ℚ
  | .finite negative significand shift => some (signed negative (significand * 2 ^ shift))
  | _ => none

theorem exists_value? {x : Binary f} (finite : x.isFinite = true) : ∃ v, x.value? = some v := by
  cases x with
  | nan => cases finite
  | infinity => cases finite
  | finite negative significand shift => exact ⟨_, rfl⟩

theorem scaled_mul (negative : Bool) (significand : Nat) {shift unit : Int} (low : unit ≤ shift) :
    (scaled negative significand shift unit : ℚ) * 2 ^ unit =
      signed negative (significand * 2 ^ shift) := by
  have apart : ((shift - unit).toNat : ℤ) = shift - unit := Int.toNat_of_nonneg (by omega)
  have magnitude : ((significand <<< (shift - unit).toNat : ℕ) : ℚ) * 2 ^ unit =
      significand * 2 ^ shift := by
    rw [Nat.shiftLeft_eq, Nat.cast_mul, mul_assoc, Nat.cast_pow, Nat.cast_ofNat, ← zpow_natCast,
      apart, ← zpow_add₀ two_ne_zero, sub_add_cancel]
  unfold scaled signed
  cases negative with
  | false => exact_mod_cast magnitude
  | true =>
    simp only [if_true]
    rw [Int.cast_neg, neg_mul]
    exact congrArg Neg.neg (by exact_mod_cast magnitude)

/-- Finite numbers are ordered as their values are. -/
theorem exists_order {x y : Binary f} {u v : ℚ} (left : x.value? = some u)
    (right : y.value? = some v) : ∃ o, x.order y = some o ∧ o.Compares u v := by
  cases x with
  | nan => cases left
  | infinity => cases left
  | finite a m s =>
    cases y with
    | nan => cases right
    | infinity => cases right
    | finite b n t =>
      cases left
      cases right
      refine ⟨_, rfl, ?_⟩
      rw [← scaled_mul a m (min_le_left s t), ← scaled_mul b n (min_le_right s t)]
      have unit : (0 : ℚ) < 2 ^ min s t := by positivity
      exact (Int.cast_strictMono.mul_const unit).compares.mpr ((compare_iff _ _).mp rfl)

/-! ## Roundings -/

/-- The values of the finite numbers of a format. -/
def Representable (f : BinaryFormat) (v : ℚ) : Prop :=
  ∃ k e : ℤ, |k| < 2 ^ f.precision ∧ f.minShift ≤ e ∧ e ≤ f.maxShift ∧ v = k * 2 ^ e

/-- Rounding to nearest. Two numbers that are equally near are neighbours, and the one with the even
significand is an even multiple of the distance between them. -/
structure IsRounding (f : BinaryFormat) (q v : ℚ) : Prop where
  representable : Representable f v
  nearest (w : ℚ) : Representable f w → |v - q| ≤ |w - q|
  even (w : ℚ) : Representable f w → w ≠ v → |w - q| = |v - q| → ∃ n : ℤ, v = 2 * n * (v - w)

theorem Representable.neg {v : ℚ} (representable : Representable f v) : Representable f (-v) := by
  obtain ⟨k, e, small, low, high, rfl⟩ := representable
  exact ⟨-k, e, by rwa [abs_neg], low, high, by push_cast; ring⟩

namespace IsRounding

variable {q r v w : ℚ}

theorem unique (first : IsRounding f q v) (second : IsRounding f q w) : v = w := by
  by_contra other
  have near : |w - q| = |v - q| :=
    le_antisymm (second.nearest v first.representable) (first.nearest w second.representable)
  obtain ⟨n, even⟩ := first.even w second.representable (Ne.symm other) near
  obtain ⟨m, even'⟩ := second.even v first.representable other near.symm
  have apart : v - w ≠ 0 := sub_ne_zero.mpr other
  have odd : (1 : ℚ) * (v - w) = (2 * (n + m) : ℤ) * (v - w) := by
    push_cast
    linear_combination even - even'
  have absurd : (1 : ℤ) = 2 * (n + m) := by exact_mod_cast mul_right_cancel₀ apart odd
  omega

/-- Of two numbers, the lower one is nearer only to what is not above the middle. -/
theorem middle_le (greater : w < v) (near : |v - q| ≤ |w - q|) : v + w ≤ 2 * q := by
  have squares : (v - q) ^ 2 ≤ (w - q) ^ 2 := sq_le_sq.mpr near
  have product : (v - w) * (v + w - 2 * q) ≤ 0 := by linarith
  have apart : 0 < v - w := sub_pos.mpr greater
  linarith [nonpos_of_mul_nonpos_right product apart]

theorem le_middle (less : v < w) (near : |v - q| ≤ |w - q|) : 2 * q ≤ v + w := by
  have mirrored : |-v - -q| ≤ |-w - -q| := by
    simpa only [neg_sub_neg, abs_sub_comm] using near
  linarith [middle_le (neg_lt_neg less) mirrored]

/-- What is greater rounds to no less. -/
theorem mono (first : IsRounding f q v) (second : IsRounding f r w) (less : q < r) : v ≤ w := by
  by_contra greater
  have high := middle_le (not_le.mp greater) (first.nearest w second.representable)
  have low := le_middle (not_le.mp greater) (second.nearest v first.representable)
  linarith

theorem neg (rounding : IsRounding f q v) : IsRounding f (-q) (-v) := by
  have opposite (u : ℚ) : |u - -q| = |-u - q| := by
    rw [← abs_neg (-u - q)]
    congr 1
    ring
  refine ⟨rounding.representable.neg, fun w representable => ?_,
    fun w representable other near => ?_⟩
  · rw [opposite, opposite, neg_neg]
    exact rounding.nearest (-w) representable.neg
  · rw [opposite, opposite, neg_neg] at near
    obtain ⟨n, even⟩ := rounding.even (-w) representable.neg (neg_eq_iff_eq_neg.not.mpr other) near
    exact ⟨n, by linear_combination -even⟩

theorem signed (rounding : IsRounding f q v) (negative : Bool) :
    IsRounding f (signed negative q) (signed negative v) := by
  cases negative with
  | false => exact rounding
  | true => exact rounding.neg

end IsRounding

/-- Two rationals round to the same number. -/
def RoundAlike (f : BinaryFormat) (q r : ℚ) : Prop := ∃ v, IsRounding f q v ∧ IsRounding f r v

/-- Roundings are ordered as what was rounded, unless both round alike. -/
theorem compares_of_roundings {q r v w : ℚ} (first : IsRounding f q v) (second : IsRounding f r w)
    {o : Ordering} (ordered : o.Compares v w) :
    (RoundAlike f q r → o = .eq) ∧ (¬RoundAlike f q r → o.Compares q r) := by
  constructor
  · rintro ⟨u, first', second'⟩
    have same : v = w := (first.unique first').trans (second'.unique second)
    exact ordered.eq_eq.mpr same
  · intro apart
    have distinct : v ≠ w := fun same => apart ⟨v, first, same ▸ second⟩
    rcases lt_trichotomy q r with less | rfl | greater
    · have below := lt_of_le_of_ne (first.mono second less) distinct
      rw [ordered.eq_lt.mpr below]
      exact less
    · exact absurd (first.unique second) distinct
    · have above := lt_of_le_of_ne (second.mono first greater) distinct.symm
      rw [ordered.eq_gt.mpr above]
      exact greater

/-- What lies below half of the least positive number rounds to zero. -/
theorem isRounding_zero {q : ℚ} (fits : f.minShift ≤ f.maxShift)
    (small : 2 * |q| < 2 ^ f.minShift) : IsRounding f q 0 := by
  have least (w : ℚ) (representable : Representable f w) (filled : w ≠ 0) :
      2 ^ f.minShift ≤ |w| := by
    obtain ⟨k, e, -, low, -, rfl⟩ := representable
    have whole : (1 : ℚ) ≤ |(k : ℚ)| := by
      have some : 1 ≤ |k| := Int.one_le_abs (by rintro rfl; simp at filled)
      exact_mod_cast some
    have unit : (2 : ℚ) ^ f.minShift ≤ 2 ^ e := zpow_le_zpow_right₀ one_le_two low
    rw [abs_mul, abs_of_pos (by positivity : (0 : ℚ) < 2 ^ e)]
    calc (2 : ℚ) ^ f.minShift ≤ 1 * 2 ^ e := by rwa [one_mul]
      _ ≤ |(k : ℚ)| * 2 ^ e := by gcongr
  have nearer (w : ℚ) (representable : Representable f w) (filled : w ≠ 0) : |0 - q| < |w - q| := by
    have far := least w representable filled
    have triangle : |w| ≤ |w - q| + |q| := by simpa using abs_add_le (w - q) q
    rw [zero_sub, abs_neg]
    linarith
  refine ⟨⟨0, f.minShift, by positivity, le_rfl, fits, by simp⟩, fun w representable => ?_,
    fun w representable other near => absurd near (nearer w representable other).ne'⟩
  rcases eq_or_ne w 0 with rfl | filled
  · exact le_rfl
  · exact (nearer w representable filled).le

/-! ## Rounding a quotient -/

/-- The whole number chosen is at most a half away, and even if it is exactly a half. -/
theorem roundHalfEven_near (num : Nat) {den : Nat} (positive : 0 < den) :
    |(roundHalfEven num den : ℚ) - num / den| ≤ 1 / 2 ∧
      (|(roundHalfEven num den : ℚ) - num / den| = 1 / 2 → Even (roundHalfEven num den)) := by
  have unit : (0 : ℚ) < den := by exact_mod_cast positive
  have split : (num : ℚ) / den = (num / den : ℕ) + ((num % den : ℕ) : ℚ) / den := by
    field_simp
    exact_mod_cast (Nat.div_add_mod num den).symm
  have half : ((num % den : ℕ) : ℚ) / den = 1 / 2 ↔ 2 * (num % den) = den := by
    rw [div_eq_div_iff unit.ne' two_ne_zero, one_mul, mul_comm]
    exact_mod_cast Iff.rfl
  have part : (0 : ℚ) ≤ ((num % den : ℕ) : ℚ) / den := by positivity
  unfold roundHalfEven
  simp only [Bool.or_eq_true, Bool.and_eq_true, decide_eq_true_eq, beq_iff_eq]
  split
  next up =>
    have enough : 1 / 2 ≤ ((num % den : ℕ) : ℚ) / den := by
      rw [div_le_div_iff₀ two_pos unit, one_mul, mul_comm]
      exact_mod_cast (by omega : den ≤ 2 * (num % den))
    have below : ((num % den : ℕ) : ℚ) / den < 1 := by
      rw [div_lt_one unit]
      exact_mod_cast Nat.mod_lt num positive
    have distance : |((num / den + 1 : ℕ) : ℚ) - num / den| =
        1 - ((num % den : ℕ) : ℚ) / den := by
      rw [split, Nat.cast_add, Nat.cast_one, add_sub_add_left_eq_sub, abs_of_pos (by linarith)]
    rw [distance]
    refine ⟨by linarith, fun tie => ?_⟩
    have exact_half := half.mp (by linarith)
    rw [Nat.even_iff]
    omega
  next down =>
    have little : ((num % den : ℕ) : ℚ) / den ≤ 1 / 2 := by
      rw [div_le_div_iff₀ unit two_pos, one_mul, mul_comm]
      exact_mod_cast (by omega : 2 * (num % den) ≤ den)
    have distance : |((num / den : ℕ) : ℚ) - num / den| = ((num % den : ℕ) : ℚ) / den := by
      rw [split, sub_add_cancel_left, abs_neg, abs_of_nonneg part]
    rw [distance]
    refine ⟨little, fun tie => ?_⟩
    have exact_half := half.mp tie
    rw [Nat.even_iff]
    omega

/-- Whole numbers other than one that is at most a half away are no nearer, and as near only if they
are neighbours and both are a half away. -/
theorem nearest_whole {t : ℚ} {r : ℤ} (near : |(r : ℚ) - t| ≤ 1 / 2) {j : ℤ} (other : j ≠ r) :
    |(r : ℚ) - t| ≤ |(j : ℚ) - t| ∧
      (|(j : ℚ) - t| = |(r : ℚ) - t| → |(r : ℚ) - t| = 1 / 2 ∧ |r - j| = 1) := by
  have whole : 1 ≤ |r - j| := Int.one_le_abs (sub_ne_zero.mpr other.symm)
  have apart : (1 : ℚ) ≤ |(r : ℚ) - j| := by exact_mod_cast whole
  have triangle : |(r : ℚ) - j| ≤ |(r : ℚ) - t| + |(j : ℚ) - t| := by
    rw [abs_sub_comm (j : ℚ) t]
    exact abs_sub_le _ _ _
  refine ⟨by linarith, fun same => ⟨by linarith, ?_⟩⟩
  have close : (|r - j| : ℚ) ≤ 1 := by linarith
  have close' : |r - j| ≤ 1 := by exact_mod_cast close
  omega

/-- A number of the format lies on the grid of `2 ^ s`, or below everything on it that has all bits.
-/
theorem Representable.onGrid {w : ℚ} (representable : Representable f w) (s : ℤ) :
    (∃ j : ℤ, w = j * 2 ^ s) ∨ f.minShift < s ∧ w < 2 ^ (f.precision - 1 : ℤ) * 2 ^ s := by
  obtain ⟨k, e, small, low, -, rfl⟩ := representable
  rcases le_or_gt s e with coarse | fine
  · refine .inl ⟨k * 2 ^ (e - s).toNat, ?_⟩
    have apart : ((e - s).toNat : ℤ) = e - s := Int.toNat_of_nonneg (by omega)
    push_cast
    rw [mul_assoc, ← zpow_natCast, apart, ← zpow_add₀ two_ne_zero, sub_add_cancel]
  · refine .inr ⟨by omega, ?_⟩
    have bits : (k : ℚ) < 2 ^ (f.precision : ℤ) := by
      rw [zpow_natCast]
      exact_mod_cast (le_abs_self k).trans_lt small
    calc (k : ℚ) * 2 ^ e < 2 ^ (f.precision : ℤ) * 2 ^ e := by gcongr
      _ ≤ 2 ^ (f.precision : ℤ) * 2 ^ (s - 1) := by
        gcongr
        · exact one_le_two
        · omega
      _ = 2 ^ (f.precision - 1 : ℤ) * 2 ^ s := by
        rw [← zpow_add₀ two_ne_zero, ← zpow_add₀ two_ne_zero]
        congr 1
        ring

/-- The whole number that is nearest on the grid of `2 ^ s`, the even one of two, is the rounding,
if the grid is the finest one or all bits are used. -/
theorem isRounding_scaled {t : ℚ} {s r : ℤ} (representable : Representable f (r * 2 ^ s))
    (filled : 0 < f.precision) (fine : s = f.minShift ∨ 2 ^ (f.precision - 1 : ℤ) ≤ t)
    (near : |(r : ℚ) - t| ≤ 1 / 2) (even : |(r : ℚ) - t| = 1 / 2 → Even r) :
    IsRounding f (t * 2 ^ s) (r * 2 ^ s) := by
  have unit : (0 : ℚ) < 2 ^ s := by positivity
  have distance (x : ℚ) : |x * 2 ^ s - t * 2 ^ s| = |x - t| * 2 ^ s := by
    rw [← sub_mul, abs_mul, abs_of_pos unit]
  have onGrid (j : ℤ) : |(r : ℚ) - t| ≤ |(j : ℚ) - t| := by
    rcases eq_or_ne j r with rfl | other
    · exact le_rfl
    · exact (nearest_whole near other).1
  -- Below the grid there are numbers only if `t` has all its bits; then one of the grid is nearer.
  have offGrid {w : ℚ} (low : w < 2 ^ (f.precision - 1 : ℤ) * 2 ^ s)
      (full : 2 ^ (f.precision - 1 : ℤ) ≤ t) : |(r * 2 ^ s : ℚ) - t * 2 ^ s| < |w - t * 2 ^ s| := by
    have least : (2 : ℚ) ^ (f.precision - 1 : ℤ) = ((2 ^ (f.precision - 1) : ℕ) : ℤ) := by
      rw [← Nat.cast_pred filled, zpow_natCast]
      norm_cast
    have full' : (2 : ℚ) ^ (f.precision - 1 : ℤ) * 2 ^ s ≤ t * 2 ^ s := by gcongr
    calc |(r * 2 ^ s : ℚ) - t * 2 ^ s| ≤ |(2 : ℚ) ^ (f.precision - 1 : ℤ) * 2 ^ s - t * 2 ^ s| := by
          rw [distance, distance, least]
          exact mul_le_mul_of_nonneg_right (onGrid _) unit.le
      _ = t * 2 ^ s - 2 ^ (f.precision - 1 : ℤ) * 2 ^ s := by
          rw [abs_of_nonpos (by linarith), neg_sub]
      _ < t * 2 ^ s - w := by linarith
      _ ≤ |w - t * 2 ^ s| := by
          rw [abs_sub_comm]
          exact le_abs_self _
  refine ⟨representable, fun w other => ?_, fun w other apart same => ?_⟩
  · rcases other.onGrid s with ⟨j, rfl⟩ | ⟨above, low⟩
    · rw [distance, distance]
      exact mul_le_mul_of_nonneg_right (onGrid j) unit.le
    · exact (offGrid low (fine.resolve_left above.ne')).le
  · rcases other.onGrid s with ⟨j, rfl⟩ | ⟨above, low⟩
    · rw [distance, distance] at same
      have same' := mul_right_cancel₀ unit.ne' same
      have distinct : j ≠ r := fun equal => apart (by rw [equal])
      obtain ⟨half, neighbours⟩ := (nearest_whole near distinct).2 same'
      obtain ⟨n, double⟩ := even half
      -- The neighbour is one unit up or down, so the sign of the multiple follows it.
      refine ⟨n * (r - j), ?_⟩
      have one : ((r : ℚ) - j) * (r - j) = 1 := by
        have square : (r - j) * (r - j) = 1 := by
          rw [← abs_mul_abs_self, neighbours, one_mul]
        exact_mod_cast square
      have double' : (r : ℚ) = 2 * n := by
        rw [double]
        push_cast
        ring
      push_cast
      calc (r : ℚ) * 2 ^ s = 2 * n * (((r : ℚ) - j) * (r - j)) * 2 ^ s := by rw [one, double']; ring
        _ = 2 * (n * ((r : ℚ) - j)) * (r * 2 ^ s - j * 2 ^ s) := by ring
    · exact absurd same (offGrid low (fine.resolve_left above.ne')).ne'

/-! ## Where a quotient is rounded -/

theorem scaleDown_pos (num : Nat) {den : Nat} (positive : 0 < den) (s : ℤ) :
    0 < (scaleDown num den s).2 := by
  simp only [scaleDown, Nat.shiftLeft_eq]
  exact Nat.mul_pos positive (Nat.two_pow_pos _)

theorem scaleDown_mul (num den : Nat) (s : ℤ) :
    ((scaleDown num den s).1 : ℚ) / (scaleDown num den s).2 * 2 ^ s = num / den := by
  obtain ⟨n, rfl | rfl⟩ := s.eq_nat_or_neg
  · simp only [scaleDown, Nat.shiftLeft_eq, Int.toNat_natCast, Int.toNat_neg_natCast, pow_zero,
      mul_one, Nat.cast_mul, Nat.cast_pow, Nat.cast_ofNat, zpow_natCast]
    rw [div_mul_eq_mul_div, mul_div_mul_right _ _ (by positivity)]
  · simp only [scaleDown, Nat.shiftLeft_eq, neg_neg, Int.toNat_natCast, Int.toNat_neg_natCast,
      pow_zero, mul_one, Nat.cast_mul, Nat.cast_pow, Nat.cast_ofNat, zpow_neg, zpow_natCast]
    rw [div_mul_eq_mul_div, mul_assoc, mul_inv_cancel₀ (by positivity), mul_one]

/-- A quotient lies within a factor of two of what the lengths of its parts say. -/
theorem log2_bounds {num den : Nat} (filled : 0 < num) (positive : 0 < den) :
    (2 : ℚ) ^ ((num.log2 : ℤ) - den.log2 - 1) < num / den ∧
      (num : ℚ) / den < 2 ^ ((num.log2 : ℤ) - den.log2 + 1) := by
  have numLow : (2 : ℚ) ^ (num.log2 : ℤ) ≤ num := by
    rw [zpow_natCast]
    exact_mod_cast Nat.log2_self_le filled.ne'
  have numHigh : (num : ℚ) < 2 ^ ((num.log2 : ℤ) + 1) := by
    exact_mod_cast Nat.lt_log2_self (n := num)
  have denLow : (2 : ℚ) ^ (den.log2 : ℤ) ≤ den := by
    rw [zpow_natCast]
    exact_mod_cast Nat.log2_self_le positive.ne'
  have denHigh : (den : ℚ) < 2 ^ ((den.log2 : ℤ) + 1) := by
    exact_mod_cast Nat.lt_log2_self (n := den)
  have unit : (0 : ℚ) < den := by exact_mod_cast positive
  constructor
  · rw [lt_div_iff₀ unit]
    calc (2 : ℚ) ^ ((num.log2 : ℤ) - den.log2 - 1) * den
        < 2 ^ ((num.log2 : ℤ) - den.log2 - 1) * 2 ^ ((den.log2 : ℤ) + 1) := by gcongr
      _ = 2 ^ (num.log2 : ℤ) := by
        rw [← zpow_add₀ two_ne_zero]
        congr 1
        ring
      _ ≤ num := numLow
  · rw [div_lt_iff₀ unit]
    calc (num : ℚ) < 2 ^ ((num.log2 : ℤ) + 1) := numHigh
      _ = 2 ^ ((num.log2 : ℤ) - den.log2 + 1) * 2 ^ (den.log2 : ℤ) := by
        rw [← zpow_add₀ two_ne_zero]
        congr 1
        ring
      _ ≤ 2 ^ ((num.log2 : ℤ) - den.log2 + 1) * den := by gcongr

/-- Before the point the significand has at most as many bits as the format allows, and as many if
the power of two is not the least one. -/
theorem roundingShift_bounds {num den : Nat} (filled : 0 < num) (positive : 0 < den) :
    f.minShift ≤ roundingShift f num den ∧
      (num : ℚ) / den < 2 ^ (f.precision : ℤ) * 2 ^ roundingShift f num den ∧
      (roundingShift f num den = f.minShift ∨
        (2 : ℚ) ^ (f.precision - 1 : ℤ) * 2 ^ roundingShift f num den ≤ num / den) := by
  obtain ⟨low, high⟩ := log2_bounds filled positive
  unfold roundingShift
  generalize guessed : max f.minShift ((num.log2 : ℤ) - den.log2 - f.precision) = guess
  have notBelow : f.minShift ≤ guess := by omega
  have scaled := scaleDown_mul num den guess
  have unit : (0 : ℚ) < (scaleDown num den guess).2 := by
    exact_mod_cast scaleDown_pos num positive guess
  have bits : (scaleDown num den guess).1 / (scaleDown num den guess).2 < 1 <<< f.precision ↔
      (num : ℚ) / den < 2 ^ (f.precision : ℤ) * 2 ^ guess := by
    rw [← scaled, mul_lt_mul_iff_left₀ (by positivity), div_lt_iff₀ unit, Nat.one_shiftLeft,
      Nat.div_lt_iff_lt_mul (scaleDown_pos num positive guess), zpow_natCast]
    exact_mod_cast Iff.rfl
  dsimp only
  split
  next few =>
    refine ⟨notBelow, bits.mp few, ?_⟩
    rcases eq_or_ne guess f.minShift with least | other
    · exact .inl least
    · right
      calc (2 : ℚ) ^ (f.precision - 1 : ℤ) * 2 ^ guess
          = 2 ^ ((num.log2 : ℤ) - den.log2 - 1) := by
            rw [← zpow_add₀ two_ne_zero]
            congr 1
            omega
        _ ≤ num / den := low.le
  next many =>
    have atLeast := not_lt.mp (mt bits.mpr many)
    refine ⟨by omega, ?_, .inr ?_⟩
    · calc (num : ℚ) / den < 2 ^ ((num.log2 : ℤ) - den.log2 + 1) := high
        _ ≤ 2 ^ (f.precision + (guess + 1) : ℤ) := zpow_le_zpow_right₀ one_le_two (by omega)
        _ = 2 ^ (f.precision : ℤ) * 2 ^ (guess + 1) := zpow_add₀ two_ne_zero _ _
    · calc (2 : ℚ) ^ (f.precision - 1 : ℤ) * 2 ^ (guess + 1)
          = 2 ^ (f.precision : ℤ) * 2 ^ guess := by
            rw [← zpow_add₀ two_ne_zero, ← zpow_add₀ two_ne_zero]
            congr 1
            ring
        _ ≤ num / den := atLeast

/-- A significand that gained a bit by rounding is halved, which changes no value. -/
theorem carry_eq {r : Nat} {s : ℤ} (precise : 0 < f.precision) (high : r ≤ 2 ^ f.precision) :
    ∃ m e, (if r < 1 <<< f.precision then (r, s) else (r / 2, s + 1)) = (m, e) ∧
      m < 2 ^ f.precision ∧ s ≤ e ∧ (m : ℚ) * 2 ^ e = r * 2 ^ s := by
  rw [Nat.one_shiftLeft]
  split
  next small => exact ⟨r, s, rfl, small, le_rfl, rfl⟩
  next gained =>
    have top : r = 2 ^ f.precision := by omega
    have double : 2 ^ f.precision = 2 * 2 ^ (f.precision - 1) := by
      rw [← pow_succ', Nat.sub_add_cancel precise]
    have halved : r / 2 < 2 ^ f.precision := by
      rw [top]
      exact Nat.div_lt_self (Nat.two_pow_pos _) one_lt_two
    refine ⟨r / 2, s + 1, rfl, halved, by omega, ?_⟩
    rw [top, double, Nat.mul_div_cancel_left _ two_pos, zpow_add_one₀ two_ne_zero]
    push_cast
    ring

/-- Where a quotient is turned into a finite number, that is its rounding. -/
theorem isRounding_ofRatio (precise : 0 < f.precision) (fits : f.minShift ≤ f.maxShift)
    {negative : Bool} {num den : Nat} (positive : 0 < den) {v : ℚ}
    (finite : (ofRatio negative num den : Binary f).value? = some v) :
    IsRounding f (signed negative (num / den)) v := by
  rcases Nat.eq_zero_or_pos num with rfl | filled
  · cases finite
    have rounding : IsRounding f 0 0 := isRounding_zero fits (by simp; positivity)
    simpa only [Nat.cast_zero, zero_div, zero_mul] using rounding.signed negative
  obtain ⟨low, high, fine⟩ := roundingShift_bounds (f := f) filled positive
  unfold ofRatio at finite
  rw [if_neg filled.ne'] at finite
  dsimp only at finite
  generalize roundingShift f num den = s at low high fine finite
  have unit : (0 : ℚ) < 2 ^ s := by positivity
  have quotient := scaleDown_mul num den s
  obtain ⟨near, even⟩ := roundHalfEven_near (scaleDown num den s).1 (scaleDown_pos num positive s)
  generalize roundHalfEven (scaleDown num den s).1 (scaleDown num den s).2 = r at near even finite
  generalize ((scaleDown num den s).1 : ℚ) / (scaleDown num den s).2 = t at near even quotient
  have top : r ≤ 2 ^ f.precision := by
    have bits : t < 2 ^ (f.precision : ℤ) := by
      rwa [← quotient, mul_lt_mul_iff_left₀ unit] at high
    rw [zpow_natCast] at bits
    have above : (r : ℚ) < (2 ^ f.precision + 1 : ℕ) := by
      push_cast
      linarith [le_abs_self ((r : ℚ) - t)]
    exact Nat.lt_succ_iff.mp (by exact_mod_cast above)
  obtain ⟨m, e, carried, small, atLeast, same⟩ := carry_eq precise top (s := s)
  rw [carried] at finite
  dsimp only at finite
  split at finite
  · cases finite
  next notAbove =>
    cases finite
    have representable : Representable f ((r : ℤ) * 2 ^ s) := by
      refine ⟨m, e, ?_, by omega, by omega, ?_⟩
      · exact_mod_cast small
      · exact_mod_cast same.symm
    have fine' : s = f.minShift ∨ (2 : ℚ) ^ (f.precision - 1 : ℤ) ≤ t := by
      rwa [← quotient, mul_le_mul_iff_left₀ unit] at fine
    have rounding := isRounding_scaled representable precise fine' (by exact_mod_cast near)
      (by exact_mod_cast even)
    rw [quotient, Int.cast_natCast, ← same] at rounding
    exact rounding.signed negative

/-! ## Numbers of 64 bits -/

theorem signed_eq_intCast (n : ℤ) : signed (n < 0) ((n.natAbs : ℚ) / (1 : ℕ)) = n := by
  rw [Nat.cast_one, div_one, signed]
  by_cases negative : n < 0
  · rw [if_pos (decide_eq_true negative)]
    have opposite : (n.natAbs : ℤ) = -n := by omega
    rw [← Int.cast_natCast, opposite, Int.cast_neg, neg_neg]
  · rw [if_neg (by simpa using negative)]
    have same : (n.natAbs : ℤ) = n := by omega
    rw [← Int.cast_natCast, same]

/-- A quotient of at most 64 bits is finite. -/
theorem value?_ofRatio {num den : Nat} (positive : 0 < den) (small : (num : ℚ) / den ≤ 2 ^ 64)
    (negative : Bool) : ∃ v, (ofRatio negative num den : Binary64).value? = some v := by
  unfold ofRatio
  split
  · exact ⟨_, rfl⟩
  next filled =>
    obtain ⟨-, -, fine⟩ :=
      roundingShift_bounds (f := .double) (Nat.pos_of_ne_zero filled) positive
    have low : roundingShift .double num den ≤ 12 := by
      rcases fine with least | full
      · rw [least]
        decide
      · have bits : (2 : ℚ) ^ (52 + roundingShift .double num den) ≤ 2 ^ (64 : ℤ) := by
          rw [zpow_add₀ two_ne_zero]
          exact full.trans small
        have shorter := (zpow_le_zpow_iff_right₀ one_lt_two).mp bits
        omega
    have top : BinaryFormat.double.maxShift = 971 := rfl
    dsimp only
    generalize roundHalfEven _ _ = r
    by_cases short : r < 1 <<< BinaryFormat.double.precision
    · rw [if_pos short]
      dsimp only
      rw [if_neg (by omega)]
      exact ⟨_, rfl⟩
    · rw [if_neg short]
      dsimp only
      rw [if_neg (by omega)]
      exact ⟨_, rfl⟩

/-- An integer of at most 64 bits becomes a finite number, its rounding. -/
theorem isRounding_ofInt {n : ℤ} (small : n.natAbs ≤ 2 ^ 64) :
    ∃ v, (ofInt n : Binary64).value? = some v ∧ IsRounding .double n v := by
  have bound : (n.natAbs : ℚ) / (1 : ℕ) ≤ 2 ^ 64 := by
    rw [Nat.cast_one, div_one]
    exact_mod_cast small
  obtain ⟨v, finite⟩ := value?_ofRatio one_pos bound (n < 0)
  exact ⟨v, finite, signed_eq_intCast n ▸ isRounding_ofRatio (by decide) (by decide) one_pos finite⟩

/-- A decimal digit is worth more than three bits. -/
theorem two_pow_lt {m n : Nat} (short : m < 3 * n) : (2 : ℚ) ^ m < 10 ^ n :=
  calc (2 : ℚ) ^ m < 2 ^ (3 * n) := pow_lt_pow_right₀ one_lt_two short
    _ = (2 ^ 3) ^ n := pow_mul 2 3 n
    _ ≤ 10 ^ n := pow_le_pow_left₀ (by norm_num) (by norm_num) n

/-- A power of ten so low that it decides alone is below everything but zero. -/
theorem small_of_magnitude {digits places : Nat}
    (low : (-places : ℤ) + (Nat.toDigits 10 digits).length < -400) :
    2 * |(digits : ℚ) / 10 ^ places| < 2 ^ BinaryFormat.double.minShift := by
  have short : digits < 10 ^ (Nat.toDigits 10 digits).length :=
    (Nat.length_toDigits_le_iff (by decide) Nat.length_toDigits_pos).mp le_rfl
  have wide : digits * 10 ^ 401 ≤ 10 ^ places := by
    calc digits * 10 ^ 401 ≤ 10 ^ (Nat.toDigits 10 digits).length * 10 ^ 401 := by gcongr
      _ = 10 ^ ((Nat.toDigits 10 digits).length + 401) := (pow_add _ _ _).symm
      _ ≤ 10 ^ places := Nat.pow_le_pow_right (by decide) (by omega)
  have wide' : (digits : ℚ) * 10 ^ 401 ≤ 10 ^ places := by exact_mod_cast wide
  have bound : (digits : ℚ) / 10 ^ places ≤ 1 / 10 ^ 401 := by
    rw [div_le_div_iff₀ (by positivity) (by positivity), one_mul]
    exact wide'
  rw [abs_of_nonneg (by positivity)]
  calc 2 * ((digits : ℚ) / 10 ^ places) ≤ 2 * (1 / 10 ^ 401) := by gcongr
    _ = 2 / 10 ^ 401 := mul_one_div _ _
    _ < 1 / 2 ^ 1074 := by
      rw [div_lt_div_iff₀ (by positivity) (by positivity), one_mul, ← pow_succ']
      exact two_pow_lt (by decide)
    _ = 2 ^ BinaryFormat.double.minShift := by
      rw [one_div, ← zpow_natCast, ← zpow_neg]
      rfl

/-- A decimal that becomes a finite number becomes its rounding. -/
theorem isRounding_ofDecimal {negative : Bool} {digits places : Nat} {v : ℚ}
    (finite : (ofDecimal negative digits (-places) : Binary64).value? = some v) :
    IsRounding .double (signed negative (digits / 10 ^ places)) v := by
  unfold ofDecimal at finite
  dsimp only at finite
  split at finite
  next little =>
    cases finite
    have small : 2 * |(digits : ℚ) / 10 ^ places| < 2 ^ BinaryFormat.double.minShift := by
      rcases little with rfl | low
      · simp
        positivity
      · exact small_of_magnitude low
    have rounding := (isRounding_zero (by decide) small).signed negative
    simpa only [Nat.cast_zero, zero_mul] using rounding
  next =>
    split at finite
    · cases finite
    · rw [Int.toNat_neg_natCast, neg_neg, Int.toNat_natCast] at finite
      have tens (n : Nat) : powerOfTen n = 10 ^ n := rfl
      rw [tens, tens, pow_zero, mul_one] at finite
      have rounding := isRounding_ofRatio (by decide) (by decide) (by positivity) finite
      rwa [Nat.cast_pow, Nat.cast_ofNat] at rounding

end Sift.Binary
