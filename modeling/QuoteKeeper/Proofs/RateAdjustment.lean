import QuoteKeeper.Proofs.FeeStrategy
import QuoteKeeper.Proofs.EngineSubmission
import QuoteKeeper.Reference.Quote
/-
  QuoteKeeper.Proofs.RateAdjustment — a quote seen through an exchange rate.

  A wrapped asset is priced by dividing a quote of its underlying asset by the exchange rate.
  `Quote.adjust` divides each price of the quote that is present by the rate, with
  `Price.div`: the integer `v · pow10(rate scale) / rate integer`, rounded toward zero, at the
  price's own scale (`perRate`). An absent price stays absent, the source is kept, and a rate
  that is missing or not positive is the error `exchangeRateUnavailable` and nothing else. A
  division by a positive rate cannot fail, so no other error comes out of `adjust`.

  With the rate at a scale that is not negative, each price comes out as its value divided by
  the rate's, truncated toward zero at the price's scale. `pow10` of a negative scale is one,
  so a rate at a negative scale is divided by as if its scale were zero, and the quotient is
  off by that power of ten (`adjust_ignores_negative_rate_scale`): the defect of `Price.div`
  that `Price.div_ignores_negative_divisor_scale` shows. Either way the division is monotone,
  so two prices at one scale keep their order.

  The wrapped provider asks its inner provider first and passes an error of it on as it is,
  without reading the rate; a failing rate read becomes `exchangeRateUnavailable`, quoting the
  read's error; and a quote and a rate give `adjust`.

  Proved:
  (1) `sign_pos_iff`, `adjust_of_nonpos`, `adjust_of_pos`, `adjust_eq_error_iff`: when `adjust`
      fails, and what it answers otherwise.
  (2) `intD_perRate_of_nonneg_scale`, `val_perRate_of_nonneg_scale`,
      `intD_perRate_of_neg_scale`: the quotient, with the rate at either kind of scale.
  (3) `perRate_mono`: the division keeps the order of prices at one scale.
  (4) `wrapped_inner_error`, `wrapped_rate_error`, `wrapped_ok`: the wrapped provider.
  (5) `adjust_divides_each_price`: all of it.
-/

namespace QuoteKeeper

namespace Quote

/-- One price of a quote divided by the rate, as `adjust` does it: a present price keeps its
scale and gets `v · pow10(rate scale) / rate`, rounded toward zero; an absent one stays absent. -/
def perRate (rate p : Price) : Price :=
  if p.valid then .set ((p.intD * pow10 rate.scale).tdiv rate.intD) p.scale else .unset

section PerRate

variable (rate p : Price)

@[simp] theorem valid_perRate : (perRate rate p).valid = p.valid := by
  cases p <;> rfl

@[simp] theorem scale_perRate : (perRate rate p).scale = p.scale := by
  cases p <;> rfl

/-- An absent price is worth zero, and so is its quotient: the integer formula holds for both. -/
@[simp] theorem intD_perRate : (perRate rate p).intD = (p.intD * pow10 rate.scale).tdiv rate.intD := by
  cases p <;> simp [perRate]

theorem val_perRate : (perRate rate p).val = (perRate rate p).intD * 10 ^ (-p.scale) := by
  rw [Price.val, scale_perRate]

end PerRate

/-! ## (1) When the adjustment fails -/

/-- A rate is positive as a sign exactly when its value is. -/
theorem sign_pos_iff (r : Price) : 0 < r.sign ↔ 0 < r.val := by
  cases r with
  | unset => simp [Price.sign]
  | set v s =>
    have h10 : (0 : ℚ) < 10 ^ (-s) := zpow_pos (by norm_num) _
    simp only [Price.sign, Price.intD_set, Price.val_set, Int.sign_pos_iff]
    constructor
    · intro h
      exact mul_pos (by exact_mod_cast h) h10
    · intro h
      exact_mod_cast pos_of_mul_pos_left h h10.le

theorem adjust_of_nonpos (q : Quote) {r : Price} (h : r.val ≤ 0) :
    q.adjust r = .error (Failure.of .exchangeRateUnavailable) := by
  have hs : r.sign ≤ 0 := not_lt.mp fun hs => absurd ((sign_pos_iff r).mp hs) (not_lt.mpr h)
  simp [adjust, hs]

/-- A positive rate divides every present price, and the division cannot fail. -/
theorem adjust_of_pos (q : Quote) {r : Price} (h : 0 < r.val) :
    q.adjust r = .ok ⟨q.source, perRate r q.mid, perRate r q.buy, perRate r q.sell⟩ := by
  have hs : ¬ r.sign ≤ 0 := not_le.mpr ((sign_pos_iff r).mpr h)
  have hdiv : ∀ p : Price, p.valid = true →
      p.div r = .ok (.set ((p.intD * pow10 r.scale).tdiv r.intD) p.scale) :=
    fun p hp => Price.div_set_of_valid hp h.ne'
  unfold adjust
  rw [if_neg hs]
  dsimp only
  -- each field on its own: a present price is divided, an absent one stays absent
  cases hm : q.mid.valid <;> cases hb : q.buy.valid <;> cases hl : q.sell.valid <;>
    simp [perRate, hm, hb, hl, hdiv, bind, Except.bind, pure, Except.pure]

/-- The adjustment fails with `exchangeRateUnavailable` exactly when the rate is missing or not
positive. -/
theorem adjust_eq_error_iff (q : Quote) (r : Price) :
    q.adjust r = .error (Failure.of .exchangeRateUnavailable) ↔ r.valid = false ∨ r.val ≤ 0 := by
  constructor
  · intro h
    refine .inr (not_lt.mp fun hr => ?_)
    rw [adjust_of_pos q hr] at h
    cases h
  · rintro (hr | hr)
    · cases r with
      | unset => exact adjust_of_nonpos q (by simp)
      | set v s => cases hr
    · exact adjust_of_nonpos q hr

/-! ## (2) The quotient -/

/-- With the rate at a scale that is not negative, the integer is `v · 10^scale / rate`
truncated toward zero. -/
theorem intD_perRate_of_nonneg_scale {r : Price} (p : Price) (hs : 0 ≤ r.scale) (hr : 0 < r.val) :
    (perRate r p).intD = towardZero (p.intD * 10 ^ r.scale / r.intD) := by
  have hr0 : r.intD ≠ 0 := fun h0 => hr.ne' ((Price.val_eq_zero_iff r).mpr h0)
  rw [intD_perRate, tdiv_eq_towardZero_of_ne hr0, Int.cast_mul, cast_pow10 hs]

/-- In values: the price divided by the rate, truncated toward zero at the price's scale. -/
theorem val_perRate_of_nonneg_scale {r : Price} (p : Price) (hs : 0 ≤ r.scale) (hr : 0 < r.val) :
    (perRate r p).val = towardZero (p.val / r.val * 10 ^ p.scale) * 10 ^ (-p.scale) := by
  have hr0 : (r.intD : ℚ) ≠ 0 := by
    have h := (Price.val_eq_zero_iff r).not.mp hr.ne'
    exact_mod_cast h
  -- the two powers of ten of the scales cancel against those in the values
  have hq : p.val / r.val * 10 ^ p.scale = p.intD * 10 ^ r.scale / r.intD := by
    rw [Price.val, Price.val, zpow_neg, zpow_neg]
    field_simp
  rw [val_perRate, intD_perRate_of_nonneg_scale p hs hr, hq]

/-- With the rate at a negative scale, the rate's scale is dropped: the integer is `v / rate`
truncated toward zero. -/
theorem intD_perRate_of_neg_scale {r : Price} (p : Price) (hs : r.scale < 0) (hr : 0 < r.val) :
    (perRate r p).intD = towardZero (p.intD / r.intD) := by
  have hr0 : r.intD ≠ 0 := fun h0 => hr.ne' ((Price.val_eq_zero_iff r).mpr h0)
  rw [intD_perRate, pow10_of_nonpos hs.le, Int.mul_one, tdiv_eq_towardZero_of_ne hr0]

/-! ## (3) Order -/

/-- Two prices at one scale compare as their integers. -/
theorem intD_le_of_val_le {p p' : Price} (hs : p.scale = p'.scale) (h : p.val ≤ p'.val) :
    p.intD ≤ p'.intD := by
  have h10 : (0 : ℚ) < 10 ^ (-p.scale) := zpow_pos (by norm_num) _
  rw [Price.val, Price.val, ← hs] at h
  exact_mod_cast le_of_mul_le_mul_right h h10

/-- Dividing by a positive rate is monotone: two prices at one scale keep their order. -/
theorem perRate_mono {r p p' : Price} (hr : 0 < r.val) (hs : p.scale = p'.scale) (h : p.val ≤ p'.val) :
    (perRate r p).val ≤ (perRate r p').val := by
  have hri : 0 < r.intD := by
    have h' := (sign_pos_iff r).mpr hr
    rw [Price.sign, Int.sign_pos_iff] at h'
    exact h'
  have hk : 0 < pow10 r.scale := pow10_pos _
  have hle : p.intD * pow10 r.scale ≤ p'.intD * pow10 r.scale :=
    Int.mul_le_mul_of_nonneg_right (intD_le_of_val_le hs h) hk.le
  -- truncation toward zero of a quotient by a positive divisor is monotone
  have hdiv : (p.intD * pow10 r.scale).tdiv r.intD ≤ (p'.intD * pow10 r.scale).tdiv r.intD := by
    rw [tdiv_eq_towardZero hri, tdiv_eq_towardZero hri]
    apply towardZero_mono
    apply div_le_div_of_nonneg_right _ (by exact_mod_cast hri.le)
    exact_mod_cast hle
  have h10 : (0 : ℚ) ≤ 10 ^ (-p.scale) := (zpow_pos (by norm_num) _).le
  rw [val_perRate, val_perRate, intD_perRate, intD_perRate, ← hs]
  exact mul_le_mul_of_nonneg_right (by exact_mod_cast hdiv) h10

end Quote

/-! ## (4) The wrapped provider -/

namespace Provider

variable {σ : Type} (p : Provider (StateM σ)) (rates : StateM σ (Outcome Price)) (pair : Pair)
  (amount : Option Int) (w : σ)

/-- An error of the inner provider is passed on as it is, and the rate is never read: the
world is as the inner provider left it. -/
theorem wrapped_inner_error {e : Failure} (h : ((p.getPrice pair amount).run w).1 = .error e) :
    ((p.wrapped rates).getPrice pair amount).run w = (.error e, ((p.getPrice pair amount).run w).2) := by
  rw [wrapped, run_bind, h]
  rfl

/-- A failing rate read becomes `exchangeRateUnavailable`, with the read's error as its text. -/
theorem wrapped_rate_error {q : Quote} {e : Failure} (h : ((p.getPrice pair amount).run w).1 = .ok q)
    (hr : (rates.run ((p.getPrice pair amount).run w).2).1 = .error e) :
    ((p.wrapped rates).getPrice pair amount).run w =
      (.error (Failure.under .exchangeRateUnavailable e), (rates.run ((p.getPrice pair amount).run w).2).2) := by
  rw [wrapped, run_bind, h]
  dsimp only
  rw [run_bind, hr]
  rfl

/-- A quote and a rate: the quote adjusted by the rate. -/
theorem wrapped_ok {q : Quote} {r : Price} (h : ((p.getPrice pair amount).run w).1 = .ok q)
    (hr : (rates.run ((p.getPrice pair amount).run w).2).1 = .ok r) :
    ((p.wrapped rates).getPrice pair amount).run w = (q.adjust r, (rates.run ((p.getPrice pair amount).run w).2).2) := by
  rw [wrapped, run_bind, h]
  dsimp only
  rw [run_bind, hr]
  rfl

end Provider

/-! ## (5) The adjustment and the wrapped provider -/

namespace Quote

/-- Adjusting a quote by a rate fails with `exchangeRateUnavailable` exactly when the rate is
missing or not positive. A positive rate keeps the source and divides each present price at
its own scale, leaving absent ones absent: with the rate at a scale that is not negative the
integer is `trunc(v · 10^scale / rate)`, and at a negative scale the rate's scale is dropped,
`trunc(v / rate)`; either way two prices of the quote at one scale keep their order. The
wrapped provider passes an error of its inner provider on as it is, without reading the rate;
turns a failing rate read into `exchangeRateUnavailable`, quoting its text; and otherwise
answers the adjusted quote. -/
theorem adjust_divides_each_price {σ : Type} (q : Quote) (r : Price) (p : Provider (StateM σ))
    (rates : StateM σ (Outcome Price)) (pair : Pair) (amount : Option Int) (w : σ) :
    (q.adjust r = .error (Failure.of .exchangeRateUnavailable) ↔ r.valid = false ∨ r.val ≤ 0) ∧
    (0 < r.val →
      q.adjust r = .ok ⟨q.source, perRate r q.mid, perRate r q.buy, perRate r q.sell⟩ ∧
      (∀ x, (perRate r x).valid = x.valid ∧ (perRate r x).scale = x.scale) ∧
      (0 ≤ r.scale → ∀ x, (perRate r x).intD = towardZero (x.intD * 10 ^ r.scale / r.intD)) ∧
      (r.scale < 0 → ∀ x, (perRate r x).intD = towardZero (x.intD / r.intD)) ∧
      (∀ x ∈ [q.mid, q.buy, q.sell], ∀ y ∈ [q.mid, q.buy, q.sell], x.scale = y.scale →
        x.cmp y ≠ .gt → (perRate r x).cmp (perRate r y) ≠ .gt)) ∧
    (let inner := (p.getPrice pair amount).run w
     let read := rates.run inner.2
     (∀ e, inner.1 = .error e → ((p.wrapped rates).getPrice pair amount).run w = (.error e, inner.2)) ∧
     (∀ q' m cs, inner.1 = .ok q' → read.1 = .error (.error m cs) →
       ((p.wrapped rates).getPrice pair amount).run w =
         (.error (.error ("exchange rate unavailable: " ++ m) [.exchangeRateUnavailable]), read.2)) ∧
     (∀ q' r', inner.1 = .ok q' → read.1 = .ok r' →
       ((p.wrapped rates).getPrice pair amount).run w = (q'.adjust r', read.2))) := by
  refine ⟨adjust_eq_error_iff q r, fun hr => ⟨adjust_of_pos q hr, fun x => ⟨valid_perRate r x, scale_perRate r x⟩,
    fun hs x => intD_perRate_of_nonneg_scale x hs hr, fun hs x => intD_perRate_of_neg_scale x hs hr, ?_⟩,
    fun e he => Provider.wrapped_inner_error p rates pair amount w he,
    fun q' m cs hq hr => Provider.wrapped_rate_error p rates pair amount w hq hr,
    fun q' r' hq hr => Provider.wrapped_ok p rates pair amount w hq hr⟩
  intro x _ y _ hs hxy
  -- prices at one scale, and their quotients at that scale, compare by worth
  have hn : ScalesNear x.scale y.scale := by rw [hs]; exact ScalesNear.refl _
  have hn' : ScalesNear (perRate r x).scale (perRate r y).scale := by
    rw [scale_perRate, scale_perRate]; exact hn
  rw [Price.cmp_ne_gt_iff hn] at hxy
  rw [Price.cmp_ne_gt_iff hn']
  exact perRate_mono hr hs hxy

/-- A quote with mid 100 at scale 0 through the rate 10, written as `1` at scale `-1`: the rate's
scale is dropped and the mid stays `100`, where `trunc(100 · 10^-1 / 1)` is `10`. -/
theorem adjust_ignores_negative_rate_scale :
    (⟨"x", .set 100 0, .unset, .unset⟩ : Quote).adjust (.set 1 (-1)) = .ok ⟨"x", .set 100 0, .unset, .unset⟩ ∧
      towardZero ((100 : ℤ) * 10 ^ (-1 : ℤ) / (1 : ℤ)) = 10 := by
  refine ⟨by decide, ?_⟩
  simp [towardZero]
  norm_num

end Quote

end QuoteKeeper
