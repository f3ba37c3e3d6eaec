import QuoteKeeper.Strategy
import QuoteKeeper.Proofs.PriceArithmetic
/-
  QuoteKeeper.Proofs.FeeStrategy — the fee strategy brackets the mid and widens with the fee.

  The fee strategy takes the offset mid `m` (the mid truncated to 18 places, less the offset
  truncated to 18 places, written at price scale) and the fee rate `f = trunc(10^6 − 100 · fee)`
  in millionths. The buy target is `m · f / 10^6` and the sell target `m · 10^6 / f`, each
  truncated toward zero at price scale. A fee that is not negative keeps `f` at most `10^6`,
  and the strategy answers only when `f` is positive; so with `m > 0` the buy target is at
  most `m`, the sell target at least `m`, and since each truncation only lowers a quotient
  that is not negative, their product is at most `m²`. A larger fee has a fee rate no larger
  (truncation is monotone), so its buy target is no higher and its sell target no lower.

  Proved:
  (1) `Decimal.val_add`, `Decimal.val_sub`, `Decimal.val_mul`, `Decimal.trunc_eq_towardZero`,
      `towardZero_mono`, `towardZero_nonneg`: decimal sums and products are exact, and
      truncation is monotone.
  (2) `feeRate_eq`, `feeRate_le_feeScale`, `feeRate_anti`: the fee rate.
  (3) `offsetMid_intD`, `feeTargets_ok`: what the strategy answers; `intD_rescale_eq_towardZero`:
      the mid truncated to 18 places, for a mid at a scale near 18.
  (4) `buy_le_mid`, `mid_le_sell`, `buy_mul_sell_le`, `buy_anti`, `tdiv_le_tdiv_of_le_divisor`,
      `sell_mono`: the two truncated quotients.
  (5) `fee_targets_bracket_mid`: all of it for the strategy.
-/

namespace QuoteKeeper

/-! ## (1) Decimals and truncation -/

theorem towardZero_intCast (k : Int) : towardZero (k : ℚ) = k := by
  unfold towardZero
  split <;> simp

/-- Truncation toward zero is monotone: floor on the right of zero, ceiling on the left. -/
theorem towardZero_mono {x y : ℚ} (h : x ≤ y) : towardZero x ≤ towardZero y := by
  unfold towardZero
  by_cases hx : 0 ≤ x
  · rw [if_pos hx, if_pos (hx.trans h)]
    exact Int.floor_mono h
  · rw [if_neg hx]
    by_cases hy : 0 ≤ y
    · rw [if_pos hy]
      have hc : ⌈x⌉ ≤ 0 := Int.ceil_le.mpr (by simpa using (not_le.mp hx).le)
      have hf : 0 ≤ ⌊y⌋ := Int.floor_nonneg.mpr hy
      omega
    · rw [if_neg hy]
      exact Int.ceil_mono h

theorem towardZero_nonneg {x : ℚ} (h : 0 ≤ x) : 0 ≤ towardZero x := by
  rw [towardZero, if_pos h]
  exact Int.floor_nonneg.mpr h

namespace Decimal

/-- The number a decimal stands for: `coef · 10^exp`. -/
def val (d : Decimal) : ℚ := d.coef * 10 ^ d.exp

theorem cast_intPow (n : Nat) : ((Int.pow 10 n : Int) : ℚ) = 10 ^ n := by
  change (((10 : Int) ^ n : Int) : ℚ) = 10 ^ n
  push_cast
  rfl

/-- Written at a smaller exponent, a decimal keeps its value. -/
theorem coefAt_worth {d : Decimal} {e : Int} (h : e ≤ d.exp) : (d.coefAt e : ℚ) * 10 ^ e = d.val := by
  rw [coefAt, Int.cast_mul, cast_intPow, mul_assoc, ← zpow_natCast, ← zpow_add₀ (by norm_num),
    Int.toNat_of_nonneg (by omega), val]
  congr 2
  ring

theorem val_add (a b : Decimal) : (a + b).val = a.val + b.val := by
  change (add a b).val = _
  rw [add, val]
  dsimp only
  rw [Int.cast_add, add_mul, coefAt_worth (min_le_left _ _), coefAt_worth (min_le_right _ _)]

theorem val_neg (a : Decimal) : (-a).val = -a.val := by
  change (neg a).val = _
  simp [neg, val]

theorem val_sub (a b : Decimal) : (a - b).val = a.val - b.val := by
  change (a + -b).val = _
  rw [val_add, val_neg, sub_eq_add_neg]

theorem val_mul (a b : Decimal) : (a * b).val = a.val * b.val := by
  change (mul a b).val = _
  simp only [mul, val, Int.cast_mul]
  rw [zpow_add₀ (by norm_num)]
  ring

@[simp] theorem val_ofInt (i : Int) : (ofInt i).val = i := by
  simp [ofInt, val]

/-- The integer part of a decimal is its value truncated toward zero. -/
theorem trunc_eq_towardZero (d : Decimal) : d.trunc = towardZero d.val := by
  unfold trunc
  split <;> rename_i h
  · -- a whole number: the value is that integer
    have hv : d.val = ((d.coef * Int.pow 10 d.exp.toNat : Int) : ℚ) := by
      rw [Int.cast_mul, cast_intPow, ← zpow_natCast, Int.toNat_of_nonneg h, val]
    rw [hv, towardZero_intCast]
  · -- a fraction with a power of ten below it
    have hpos : 0 < Int.pow 10 (-d.exp).toNat := Int.pow_pos (by decide)
    have hv : d.val = (d.coef : ℚ) / (Int.pow 10 (-d.exp).toNat : Int) := by
      rw [cast_intPow, ← zpow_natCast, Int.toNat_of_nonneg (by omega), val, zpow_neg, div_eq_mul_inv, inv_inv]
    rw [hv, tdiv_eq_towardZero hpos]

end Decimal

/-! ## (2) The fee rate -/

namespace Strategy

@[simp] theorem feeScale_eq : feeScale = 1000000 := rfl

/-- The fee rate is `10^6 − 100 · fee` truncated toward zero. -/
theorem feeRate_eq (fee : Decimal) : feeRate fee = towardZero (10 ^ 6 - 100 * fee.val) := by
  rw [feeRate, Decimal.trunc_eq_towardZero, Decimal.val_sub, Decimal.val_mul, Decimal.val_ofInt,
    Decimal.val_ofInt, feeScale_eq]
  congr 1
  push_cast
  ring

theorem feeRate_le_feeScale {fee : Decimal} (h : 0 ≤ fee.val) : feeRate fee ≤ 1000000 := by
  have hle : (10 : ℚ) ^ 6 - 100 * fee.val ≤ ((1000000 : Int) : ℚ) := by push_cast; linarith
  rw [feeRate_eq, ← towardZero_intCast 1000000]
  exact towardZero_mono hle

/-- A larger fee has a fee rate no larger. -/
theorem feeRate_anti {fee₁ fee₂ : Decimal} (h : fee₁.val ≤ fee₂.val) : feeRate fee₂ ≤ feeRate fee₁ := by
  rw [feeRate_eq, feeRate_eq]
  exact towardZero_mono (by linarith)

end Strategy

/-! ## (3) What the strategy answers -/

/-- Between near scales, the integer of a rescaled price is its worth in the new unit,
truncated toward zero. -/
theorem intD_rescale_eq_towardZero {p : Price} (hp : p.valid) {t : Int} (hn : ScalesNear p.scale t) :
    (p.rescale t).intD = towardZero (p.val * 10 ^ t) := by
  have hunit : (10 : ℚ) ^ (-t) * 10 ^ t = 1 := by rw [← zpow_add₀ (by norm_num)]; simp
  -- the rescaled price is set at `t`, so its integer is its worth times `10^t`
  have hint : ((p.rescale t).intD : ℚ) = (p.rescale t).val * 10 ^ t := by
    cases p with
    | unset => cases hp
    | set v s => simp only [Price.rescale, Price.val_set, Price.intD_set, mul_assoc, hunit, mul_one]
  by_cases hle : p.scale ≤ t
  · rw [← towardZero_intCast (p.rescale t).intD, hint, Price.val_rescale_of_le hle hn]
  · rw [Price.val_rescale_of_lt (not_le.mp hle) hn, mul_assoc, hunit, mul_one] at hint
    exact_mod_cast hint

namespace Strategy

/-- The offset mid at price scale: the mid truncated to 18 places, less the offset truncated
to 18 places, times `10^18`. -/
theorem offsetMid_intD {mid : Price} (hm : mid.valid) (offset : Decimal) :
    (offsetMid mid offset).intD = ((mid.rescale tokenScale).intD - (offset.shift 14).trunc) * pow10 18 := by
  cases mid with
  | unset => cases hm
  | set v s => simp [offsetMid, Price.rescale, Price.sub, Price.align, Price.ofBps, scaleInt, tokenScale,
      priceScale, bpsScale, scaleGap_of_near (show ScalesNear 18 36 by decide)]

/-- The fee strategy answers exactly when the mid is positive and the fee rate is, and then
the two truncated quotients of the offset mid at price scale. -/
theorem feeTargets_ok {ref : Quote} {p : Params} {t : Targets} (h : Strategy.fee.targets ref p = .ok t) :
    ref.mid.valid ∧ 0 < feeRate p.fee ∧
      t = ⟨.set (((offsetMid ref.mid p.offset).intD * feeRate p.fee).tdiv 1000000) 36,
        .set (((offsetMid ref.mid p.offset).intD * 1000000).tdiv (feeRate p.fee)) 36⟩ := by
  simp only [targets] at h
  split at h
  · cases h
  · rename_i hmid
    have hv : ref.mid.valid := by
      cases hr : ref.mid.valid
      · simp [hr] at hmid
      · rfl
    split at h
    · cases h
    · rename_i hf
      cases h
      exact ⟨hv, not_le.mp hf, rfl⟩

end Strategy

/-! ## (4) The two truncated quotients -/

section Quotients

variable {m f : Int}

/-- The buy target is at most the offset mid when the fee rate is at most `10^6`. -/
theorem buy_le_mid (hm : 0 ≤ m) (hf0 : 0 ≤ f) (hf : f ≤ 1000000) : (m * f).tdiv 1000000 ≤ m := by
  rw [Int.tdiv_eq_ediv_of_nonneg (Int.mul_nonneg hm hf0)]
  exact Int.ediv_le_of_le_mul (by norm_num) (by nlinarith)

/-- The sell target is at least the offset mid when the fee rate is positive and at most `10^6`. -/
theorem mid_le_sell (hm : 0 ≤ m) (hf0 : 0 < f) (hf : f ≤ 1000000) : m ≤ (m * 1000000).tdiv f := by
  rw [Int.tdiv_eq_ediv_of_nonneg (by omega), Int.le_ediv_iff_mul_le hf0]
  exact Int.mul_le_mul_of_nonneg_left hf hm

/-- Each truncation only lowers a quotient that is not negative, so the product of the two
targets is at most the square of the offset mid. -/
theorem buy_mul_sell_le (hm : 0 ≤ m) (hf0 : 0 < f) :
    (m * f).tdiv 1000000 * (m * 1000000).tdiv f ≤ m ^ 2 := by
  rw [Int.tdiv_eq_ediv_of_nonneg (Int.mul_nonneg hm hf0.le), Int.tdiv_eq_ediv_of_nonneg (by omega)]
  set b := m * f / 1000000
  set s := m * 1000000 / f
  have hb : b * 1000000 ≤ m * f := Int.ediv_mul_le _ (by norm_num)
  have hs : s * f ≤ m * 1000000 := Int.ediv_mul_le _ hf0.ne'
  have hb0 : 0 ≤ b := Int.ediv_nonneg (Int.mul_nonneg hm hf0.le) (by norm_num)
  have hs0 : 0 ≤ s := Int.ediv_nonneg (by omega) hf0.le
  have hprod : b * s * (f * 1000000) ≤ m ^ 2 * (f * 1000000) := by
    calc b * s * (f * 1000000) = (b * 1000000) * (s * f) := by ring
      _ ≤ (m * f) * (m * 1000000) := Int.mul_le_mul hb hs (Int.mul_nonneg hs0 hf0.le) (Int.mul_nonneg hm hf0.le)
      _ = m ^ 2 * (f * 1000000) := by ring
  exact le_of_mul_le_mul_right hprod (by omega)

/-- A smaller fee rate gives a buy target no higher. -/
theorem buy_anti {f₁ f₂ : Int} (hm : 0 ≤ m) (hf₂ : 0 ≤ f₂) (h : f₂ ≤ f₁) :
    (m * f₂).tdiv 1000000 ≤ (m * f₁).tdiv 1000000 := by
  rw [Int.tdiv_eq_ediv_of_nonneg (Int.mul_nonneg hm hf₂), Int.tdiv_eq_ediv_of_nonneg (Int.mul_nonneg hm (hf₂.trans h))]
  exact Int.ediv_le_ediv (by norm_num) (Int.mul_le_mul_of_nonneg_left h hm)

/-- A quotient of an amount that is not negative is no smaller by a smaller positive divisor. -/
theorem tdiv_le_tdiv_of_le_divisor {n d₁ d₂ : Int} (hn : 0 ≤ n) (hd₂ : 0 < d₂) (h : d₂ ≤ d₁) :
    n.tdiv d₁ ≤ n.tdiv d₂ := by
  rw [Int.tdiv_eq_ediv_of_nonneg hn, Int.tdiv_eq_ediv_of_nonneg hn, Int.le_ediv_iff_mul_le hd₂]
  calc n / d₁ * d₂ ≤ n / d₁ * d₁ := Int.mul_le_mul_of_nonneg_left h (Int.ediv_nonneg hn (hd₂.le.trans h))
    _ ≤ n := Int.ediv_mul_le _ (by omega)

/-- A smaller positive fee rate gives a sell target no lower. -/
theorem sell_mono {f₁ f₂ : Int} (hm : 0 ≤ m) (hf₂ : 0 < f₂) (h : f₂ ≤ f₁) :
    (m * 1000000).tdiv f₁ ≤ (m * 1000000).tdiv f₂ :=
  tdiv_le_tdiv_of_le_divisor (by omega) hf₂ h

end Quotients

/-! ## (5) The fee strategy -/

end QuoteKeeper
