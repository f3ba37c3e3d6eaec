import QuoteKeeper.Price.Basic
import Mathlib.Data.Rat.Floor
import Mathlib.Algebra.Order.Field.Power
/-
  QuoteKeeper.Proofs.PriceArithmetic — what a fixed-point price is worth, and which operations
  keep that worth exactly.

  A price stands for the rational `val p = v · 10^-scale`, an unset price for zero (at scale 0).
  Moving an integer to a larger scale multiplies it by a power of ten, so sums, differences,
  distances and comparisons, which first move both sides to the larger scale, are exact.
  Moving to a smaller scale truncates toward zero (`towardZero`). The power is of the
  difference of the two scales taken in 64 bits: it is the true one for scales that are near
  (`ScalesNear`, the difference less than `2^63` either way), and all that follows is stated
  for such scales; past that the difference wraps, and a wrapped difference that is not
  positive moves by `10^0` (`scaleInt_of_wrapped_up`).

  Proved:
  (1) `val_add`, `val_sub`, `val_absDiff`: exact sums, differences and distances, set at the
      larger scale (`scale_add`, `scale_sub`).
  (2) `cmp_eq_compare_val`: comparison is comparison of worth; `equal_eq_true_iff`: equality
      also tells unset from zero.
  (3) `val_rescale_of_le`, `val_rescale_of_lt`: rescaling keeps the worth upward and
      truncates it toward zero downward.
  (4) `div_eq_error_iff`: division fails with divide-by-zero exactly for a worthless divisor;
      `div_of_nonneg_scale`: otherwise it is the quotient truncated at the dividend's scale,
      when the divisor's scale is not negative. `div_set_of_valid` gives the quotient for
      every scale: a negative divisor scale counts as zero (`pow10` of it is one), so there
      the quotient is off by that power of ten (`div_ignores_negative_divisor_scale`).
  (5) `price_arithmetic_exact`: all of it, with the laws that follow: sums commute and
      associate up to `equal`, and `cmp` is a total preorder.
-/

namespace QuoteKeeper

/-- A rational truncated toward zero to an integer. -/
def towardZero (x : ℚ) : ℤ := if 0 ≤ x then ⌊x⌋ else ⌈x⌉

/-! ## Powers of ten and moves between scales -/

theorem pow10_of_nonpos {n : Int} (h : n ≤ 0) : pow10 n = 1 := by
  simp [pow10, h]

theorem pow10_eq_pow {n : Int} (h : 0 ≤ n) : pow10 n = 10 ^ n.toNat := by
  unfold pow10
  split
  · have : n = 0 := by omega
    subst this; rfl
  · rfl

theorem pow10_pos (n : Int) : 0 < pow10 n := by
  by_cases h : n ≤ 0
  · simp [pow10_of_nonpos h]
  · rw [pow10_eq_pow (by omega)]; positivity

theorem cast_pow10 {n : Int} (h : 0 ≤ n) : (pow10 n : ℚ) = 10 ^ n := by
  rw [pow10_eq_pow h, Int.cast_pow, ← zpow_natCast, Int.toNat_of_nonneg h]
  norm_num

/-- Two scales whose difference fits in a signed 64-bit integer either way: the difference
the scales' own arithmetic takes between them is the true one. -/
def ScalesNear (a b : Int) : Prop := -2 ^ 63 < b - a ∧ b - a < 2 ^ 63

instance (a b : Int) : Decidable (ScalesNear a b) := inferInstanceAs (Decidable (_ ∧ _))

theorem ScalesNear.refl (a : Int) : ScalesNear a a := by
  unfold ScalesNear; omega

theorem ScalesNear.symm {a b : Int} (h : ScalesNear a b) : ScalesNear b a := by
  unfold ScalesNear at *; omega

/-- The larger of two near scales is near each of them. -/
theorem ScalesNear.max_left {a b : Int} (h : ScalesNear a b) : ScalesNear a (max a b) := by
  unfold ScalesNear at *; omega

theorem ScalesNear.max_right {a b : Int} (h : ScalesNear a b) : ScalesNear b (max a b) := by
  unfold ScalesNear at *; omega

theorem scaleGap_of_near {a b : Int} (h : ScalesNear a b) : scaleGap a b = b - a := by
  obtain ⟨h1, h2⟩ := h
  rw [scaleGap, Int64.toInt_ofInt]
  exact Int.bmod_eq_of_le (by simp [Int64.size]; omega) (by simp [Int64.size]; omega)

theorem scaleInt_self (x a : Int) : scaleInt x a a = x := by
  simp [scaleInt]

theorem scaleInt_of_le {v a b : Int} (h : a ≤ b) (hn : ScalesNear a b) :
    scaleInt v a b = v * pow10 (b - a) := by
  unfold scaleInt
  split
  · rw [scaleGap_of_near hn]
  · rw [if_neg (by omega), pow10_of_nonpos (by omega), Int.mul_one]

theorem scaleInt_of_lt {v a b : Int} (h : b < a) (hn : ScalesNear a b) :
    scaleInt v a b = v.tdiv (pow10 (a - b)) := by
  simp [scaleInt, h, show ¬ a < b by omega, scaleGap_of_near hn.symm]

/-- A move up whose 64-bit difference wraps to a number that is not positive leaves the
integer as it is. -/
theorem scaleInt_of_wrapped_up {v a b : Int} (h : a < b) (hw : scaleGap a b ≤ 0) : scaleInt v a b = v := by
  rw [scaleInt, if_pos h, pow10_of_nonpos hw, Int.mul_one]

theorem scaleInt_zero (a b : Int) : scaleInt 0 a b = 0 := by
  simp [scaleInt]

theorem scaleInt_nonneg {v : Int} (hv : 0 ≤ v) (a b : Int) : 0 ≤ scaleInt v a b := by
  unfold scaleInt
  split
  · exact Int.mul_nonneg hv (pow10_pos _).le
  · split
    · exact Int.tdiv_nonneg hv (pow10_pos _).le
    · exact hv

/-- Moving up a scale keeps the worth: the integer gains exactly the powers of ten the unit
loses. -/
theorem scaleInt_worth {v a b : Int} (h : a ≤ b) (hn : ScalesNear a b) :
    (scaleInt v a b : ℚ) * 10 ^ (-b) = v * 10 ^ (-a) := by
  rw [scaleInt_of_le h hn, Int.cast_mul, cast_pow10 (by omega), mul_assoc, ← zpow_add₀ (by norm_num)]
  congr 2
  ring

theorem tdiv_eq_towardZero {a b : Int} (hb : 0 < b) : a.tdiv b = towardZero ((a : ℚ) / b) := by
  have hbn : (b : ℚ) = ((b.toNat : ℤ) : ℚ) := by rw [Int.toNat_of_nonneg hb.le]
  have hbz : b = (b.toNat : ℤ) := (Int.toNat_of_nonneg hb.le).symm
  unfold towardZero
  by_cases ha : 0 ≤ a
  · have hq : (0 : ℚ) ≤ a / b := div_nonneg (by exact_mod_cast ha) (by exact_mod_cast hb.le)
    rw [if_pos hq, Int.tdiv_eq_ediv_of_nonneg ha, hbn, Int.cast_natCast, Rat.floor_intCast_div_natCast,
      ← hbz]
  · have hq : ¬ (0 : ℚ) ≤ a / b := by
      rw [not_le]; exact div_neg_of_neg_of_pos (by exact_mod_cast (not_le.mp ha)) (by exact_mod_cast hb)
    rw [if_neg hq, hbn, Int.cast_natCast, Rat.ceil_intCast_div_natCast, ← hbz,
      ← Int.tdiv_eq_ediv_of_nonneg (by omega : 0 ≤ -a), Int.neg_tdiv, Int.neg_neg]

/-- Truncation toward zero commutes with negation. -/
theorem towardZero_neg (x : ℚ) : towardZero (-x) = -towardZero x := by
  unfold towardZero
  rcases lt_trichotomy x 0 with hx | rfl | hx
  · rw [if_pos (by linarith), if_neg (by linarith), Int.floor_neg]
  · simp
  · rw [if_neg (by linarith), if_pos hx.le, Int.ceil_neg]

theorem tdiv_eq_towardZero_of_ne {a b : Int} (hb : b ≠ 0) : a.tdiv b = towardZero ((a : ℚ) / b) := by
  rcases lt_or_gt_of_ne hb with hneg | hpos
  · have h := tdiv_eq_towardZero (a := a) (show 0 < -b by omega)
    rw [Int.tdiv_neg, Int.cast_neg, div_neg, towardZero_neg] at h
    omega
  · exact tdiv_eq_towardZero hpos

namespace Price

/-! ## Worth -/

/-- The number a price stands for: `v · 10^-scale`, zero when unset. -/
def val (p : Price) : ℚ := p.intD * 10 ^ (-p.scale)

@[simp] theorem val_set (v s : Int) : (Price.set v s).val = v * 10 ^ (-s) := rfl
@[simp] theorem val_unset : Price.unset.val = 0 := by simp [val, intD, int?]
@[simp] theorem scale_set (v s : Int) : (Price.set v s).scale = s := rfl
@[simp] theorem scale_unset : Price.unset.scale = 0 := rfl
@[simp] theorem intD_set (v s : Int) : (Price.set v s).intD = v := rfl
@[simp] theorem intD_unset : Price.unset.intD = 0 := rfl
@[simp] theorem valid_set (v s : Int) : (Price.set v s).valid = true := rfl
@[simp] theorem valid_unset : Price.unset.valid = false := rfl

theorem val_eq_zero_iff (p : Price) : p.val = 0 ↔ p.intD = 0 := by
  have h10 : (10 : ℚ) ^ (-p.scale) ≠ 0 := zpow_ne_zero _ (by norm_num)
  rw [val, mul_eq_zero, or_iff_left h10, Int.cast_eq_zero]

section Near

variable {p q : Price} (h : ScalesNear p.scale q.scale)
include h

/-- Each side of an alignment of near scales, at the common scale, is worth what the price
is. -/
theorem align_fst_worth : ((p.align q).1 : ℚ) * 10 ^ (-(p.align q).2.2) = p.val :=
  scaleInt_worth (le_max_left _ _) h.max_left

theorem align_snd_worth : ((p.align q).2.1 : ℚ) * 10 ^ (-(p.align q).2.2) = q.val :=
  scaleInt_worth (le_max_right _ _) h.max_right

end Near

theorem add_eq (p q : Price) : p.add q = .set ((p.align q).1 + (p.align q).2.1) (p.align q).2.2 := rfl
theorem sub_eq (p q : Price) : p.sub q = .set ((p.align q).1 - (p.align q).2.1) (p.align q).2.2 := rfl
theorem absDiff_eq (p q : Price) :
    p.absDiff q = .set ((p.align q).1 - (p.align q).2.1).natAbs (p.align q).2.2 := rfl
theorem cmp_eq (p q : Price) : p.cmp q = compare (p.align q).1 (p.align q).2.1 := rfl

/-! ## (1) Sums, differences, distances -/

@[simp] theorem valid_add (p q : Price) : (p.add q).valid = true := rfl
@[simp] theorem valid_sub (p q : Price) : (p.sub q).valid = true := rfl
@[simp] theorem scale_add (p q : Price) : (p.add q).scale = max p.scale q.scale := rfl
@[simp] theorem scale_sub (p q : Price) : (p.sub q).scale = max p.scale q.scale := rfl

section Near

variable {p q : Price} (h : ScalesNear p.scale q.scale)
include h

theorem val_add : (p.add q).val = p.val + q.val := by
  rw [add_eq, val_set, Int.cast_add, add_mul, align_fst_worth h, align_snd_worth h]

theorem val_sub : (p.sub q).val = p.val - q.val := by
  rw [sub_eq, val_set, Int.cast_sub, sub_mul, align_fst_worth h, align_snd_worth h]

theorem val_absDiff : (p.absDiff q).val = |p.val - q.val| := by
  rw [absDiff_eq, val_set, Int.natCast_natAbs, ← align_fst_worth h, ← align_snd_worth h, ← sub_mul,
    abs_mul, abs_of_pos (zpow_pos (by norm_num : (0 : ℚ) < 10) _), Int.cast_abs, Int.cast_sub]

/-! ## (2) Comparison and equality -/

theorem cmp_eq_compare_val : p.cmp q = compare p.val q.val := by
  have h10 : (0 : ℚ) < 10 ^ (-(p.align q).2.2) := zpow_pos (by norm_num) _
  rw [cmp_eq, ← align_fst_worth h, ← align_snd_worth h, ← cmp_eq_compare, ← cmp_eq_compare,
    cmp_mul_pos_right h10, Int.cast_strictMono.cmp_map_eq]

theorem cmp_eq_eq_iff : p.cmp q = .eq ↔ p.val = q.val := by
  rw [cmp_eq_compare_val h, compare_eq_iff_eq]

/-- Two unset prices are equal, a set and an unset one never are (even at worth zero), and
two set prices are equal when they are worth the same. -/
theorem equal_eq_true_iff :
    p.equal q = true ↔ (p = .unset ∧ q = .unset) ∨ (p.valid ∧ q.valid ∧ p.val = q.val) := by
  cases p <;> cases q <;> simp [equal, cmp_eq_eq_iff h]

theorem cmp_ne_gt_iff : p.cmp q ≠ .gt ↔ p.val ≤ q.val := by
  rw [cmp_eq_compare_val h, Ne, compare_gt_iff_gt, not_lt]

end Near

/-- A price worth nothing is never above a price whose integer is not negative, at whatever
scales: both sides keep their signs through any move. -/
theorem cmp_ne_gt_of_intD {p q : Price} (hp : p.intD = 0) (hq : 0 ≤ q.intD) : p.cmp q ≠ .gt := by
  have h0 := scaleInt_nonneg hq q.scale (max p.scale q.scale)
  rw [cmp_eq, Ne, compare_gt_iff_gt, not_lt]
  simp only [Price.align, hp, scaleInt_zero]
  exact h0

/-! ## (3) Rescaling -/

theorem scale_rescale {p : Price} (hp : p.valid) (t : Int) : (p.rescale t).scale = t := by
  cases p <;> simp_all [rescale]

theorem val_rescale_of_le {p : Price} {t : Int} (h : p.scale ≤ t) (hn : ScalesNear p.scale t) :
    (p.rescale t).val = p.val := by
  cases p with
  | unset => rfl
  | set v s => exact scaleInt_worth h hn

/-- Moving down a scale truncates the worth toward zero, to a whole number of the new unit. -/
theorem val_rescale_of_lt {p : Price} {t : Int} (h : t < p.scale) (hn : ScalesNear p.scale t) :
    (p.rescale t).val = towardZero (p.val * 10 ^ t) * 10 ^ (-t) := by
  cases p with
  | unset => simp at h; simp [rescale, towardZero]
  | set v s =>
    simp only [scale_set] at h
    have hw : (v : ℚ) * 10 ^ (-s) * 10 ^ t = v / (pow10 (s - t) : ℤ) := by
      rw [cast_pow10 (by omega), mul_assoc, ← zpow_add₀ (by norm_num), div_eq_mul_inv, ← zpow_neg]
      congr 2; ring
    simp only [rescale, val_set, scaleInt_of_lt h hn, hw, tdiv_eq_towardZero (pow10_pos _)]

/-! ## (4) Division -/

theorem div_of_zero {p q : Price} (hq : q.val = 0) : p.div q = .error (Failure.of .divideByZero) := by
  rw [val_eq_zero_iff] at hq
  simp [div, sign, hq]

theorem div_unset_of_nonzero {q : Price} (hq : q.val ≠ 0) : Price.unset.div q = .error Failure.nilDeref := by
  rw [Ne, val_eq_zero_iff] at hq
  cases q with
  | unset => simp at hq
  | set w s => simp_all [div, sign, mulDiv, mulDivInt, int?, Except.map]

theorem div_set_of_valid {p q : Price} (hp : p.valid) (hq : q.val ≠ 0) :
    p.div q = .ok (.set ((p.intD * pow10 q.scale).tdiv q.intD) p.scale) := by
  rw [Ne, val_eq_zero_iff] at hq
  cases p with
  | unset => simp at hp
  | set v s =>
    cases q with
    | unset => simp at hq
    | set w r => simp_all [div, sign, mulDiv, mulDivInt, int?, Except.map]

/-- Division fails with divide-by-zero exactly when the divisor is worth nothing. -/
theorem div_eq_error_iff (p q : Price) : p.div q = .error (Failure.of .divideByZero) ↔ q.val = 0 := by
  refine ⟨fun h => ?_, div_of_zero⟩
  by_contra hq
  cases p with
  | unset => rw [div_unset_of_nonzero hq] at h; simp [Failure.nilDeref, Failure.of] at h
  | set v s => rw [div_set_of_valid rfl hq] at h; cases h

/-- With a divisor at a scale that is not negative, the quotient is exact up to truncation
toward zero at the dividend's scale. -/
theorem div_of_nonneg_scale {p q : Price} (hp : p.valid) (hq : q.val ≠ 0) (hs : 0 ≤ q.scale) :
    p.div q = .ok (.set (towardZero (p.intD * 10 ^ q.scale / q.intD)) p.scale) := by
  rw [div_set_of_valid hp hq]
  rw [Ne, val_eq_zero_iff] at hq
  rw [tdiv_eq_towardZero_of_ne hq, Int.cast_mul, cast_pow10 hs]

/-- A divisor at a negative scale is divided as if its scale were zero: `100 / 10` (the
divisor written `1 · 10^1`) comes out as `100`, where the truncated quotient is `10`. -/
theorem div_ignores_negative_divisor_scale :
    (Price.set 100 0).div (.set 1 (-1)) = .ok (.set 100 0) ∧
      (Price.set 100 0).div (.set 1 (-1)) ≠
        .ok (.set (towardZero ((100 : ℤ) * 10 ^ (-1 : ℤ) / (1 : ℤ))) 0) := by
  have h : towardZero ((100 : ℤ) * 10 ^ (-1 : ℤ) / (1 : ℤ)) = 10 := by
    simp [towardZero]; norm_num
  rw [h]
  decide

/-! ## (5) The laws that follow -/

theorem add_comm_equal {p q : Price} (h : ScalesNear p.scale q.scale) : (p.add q).equal (q.add p) = true := by
  have hs : ScalesNear (p.add q).scale (q.add p).scale := by
    simp only [scale_add]; unfold ScalesNear; omega
  rw [equal_eq_true_iff hs, val_add h, val_add h.symm, add_comm p.val]
  exact .inr ⟨rfl, rfl, rfl⟩

/-- Sums of near prices associate: each partial sum sits at a scale near the third price. -/
theorem add_assoc_equal {p q r : Price} (hpq : ScalesNear p.scale q.scale) (hqr : ScalesNear q.scale r.scale)
    (hpr : ScalesNear p.scale r.scale) : ((p.add q).add r).equal (p.add (q.add r)) = true := by
  have hl : ScalesNear (p.add q).scale r.scale := by
    simp only [scale_add]; unfold ScalesNear at *; omega
  have hr : ScalesNear p.scale (q.add r).scale := by
    simp only [scale_add]; unfold ScalesNear at *; omega
  have hs : ScalesNear ((p.add q).add r).scale (p.add (q.add r)).scale := by
    simp only [scale_add]; unfold ScalesNear at *; omega
  rw [equal_eq_true_iff hs, val_add hl, val_add hr, val_add hpq, val_add hqr, add_assoc]
  exact .inr ⟨rfl, rfl, rfl⟩

theorem cmp_total {p q : Price} (h : ScalesNear p.scale q.scale) : p.cmp q ≠ .gt ∨ q.cmp p ≠ .gt := by
  rw [cmp_ne_gt_iff h, cmp_ne_gt_iff h.symm]
  exact le_total _ _

theorem cmp_trans {p q r : Price} (hpq : ScalesNear p.scale q.scale) (hqr : ScalesNear q.scale r.scale)
    (hpr : ScalesNear p.scale r.scale) (h₁ : p.cmp q ≠ .gt) (h₂ : q.cmp r ≠ .gt) : p.cmp r ≠ .gt := by
  rw [cmp_ne_gt_iff hpq] at h₁
  rw [cmp_ne_gt_iff hqr] at h₂
  rw [cmp_ne_gt_iff hpr]
  exact h₁.trans h₂

/-- Price arithmetic on prices at near scales is exact rational arithmetic, truncating only
where it moves down a scale or divides; division by a divisor at a negative scale is the one
place where the quotient is not the truncated exact one (see
`div_ignores_negative_divisor_scale`), and moves between scales that are not near are not
exact (see `scaleInt_of_wrapped_up`). -/
theorem price_arithmetic_exact (p q r : Price) (hpq : ScalesNear p.scale q.scale)
    (hqr : ScalesNear q.scale r.scale) (hpr : ScalesNear p.scale r.scale) :
    ((p.add q).valid ∧ (p.add q).scale = max p.scale q.scale ∧ (p.add q).val = p.val + q.val) ∧
    ((p.sub q).valid ∧ (p.sub q).scale = max p.scale q.scale ∧ (p.sub q).val = p.val - q.val) ∧
    (p.absDiff q).val = |p.val - q.val| ∧
    p.cmp q = compare p.val q.val ∧
    (p.equal q = true ↔ (p = .unset ∧ q = .unset) ∨ (p.valid ∧ q.valid ∧ p.val = q.val)) ∧
    (∀ t, ScalesNear p.scale t → (p.scale ≤ t → (p.rescale t).val = p.val) ∧
      (t < p.scale → (p.rescale t).val = towardZero (p.val * 10 ^ t) * 10 ^ (-t))) ∧
    (p.div q = .error (Failure.of .divideByZero) ↔ q.val = 0) ∧
    (p.valid → q.val ≠ 0 → p.div q = .ok (.set ((p.intD * pow10 q.scale).tdiv q.intD) p.scale)) ∧
    (p.valid → q.val ≠ 0 → 0 ≤ q.scale →
      p.div q = .ok (.set (towardZero (p.intD * 10 ^ q.scale / q.intD)) p.scale)) ∧
    (p.add q).equal (q.add p) = true ∧ ((p.add q).add r).equal (p.add (q.add r)) = true ∧
    (p.cmp q ≠ .gt ∨ q.cmp p ≠ .gt) ∧ (p.cmp q ≠ .gt → q.cmp r ≠ .gt → p.cmp r ≠ .gt) :=
  ⟨⟨valid_add p q, scale_add p q, val_add hpq⟩, ⟨valid_sub p q, scale_sub p q, val_sub hpq⟩,
    val_absDiff hpq, cmp_eq_compare_val hpq, equal_eq_true_iff hpq,
    fun _ ht => ⟨fun h => val_rescale_of_le h ht, fun h => val_rescale_of_lt h ht⟩, div_eq_error_iff p q,
    div_set_of_valid, div_of_nonneg_scale, add_comm_equal hpq, add_assoc_equal hpq hqr hpr, cmp_total hpq,
    cmp_trans hpq hqr hpr⟩

/-- A price at price scale, one at 18 places and one at scale 0 are pairwise near, so their
sum and comparison are exact. -/
theorem price_arithmetic_at_common_scales :
    (ScalesNear 36 18 ∧ ScalesNear 18 0 ∧ ScalesNear 36 0) ∧
      ((Price.set 1 36).add (.set 2 18)).val = (Price.set 1 36).val + (Price.set 2 18).val ∧
      (Price.set 1 36).cmp (.set 2 18) = compare (Price.set 1 36).val (Price.set 2 18).val := by
  have hpq : ScalesNear 36 18 := by decide
  have hqr : ScalesNear 18 0 := by decide
  have hpr : ScalesNear 36 0 := by decide
  have h := price_arithmetic_exact (.set 1 36) (.set 2 18) (.set 3 0) hpq hqr hpr
  exact ⟨⟨hpq, hqr, hpr⟩, h.1.2.2, h.2.2.2.1⟩

end Price

end QuoteKeeper
