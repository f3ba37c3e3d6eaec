import QuoteKeeper.Proofs.LendingCalculator
import QuoteKeeper.Proofs.RangeIdempotent
import QuoteKeeper.Proofs.EngineSpread
/-
  QuoteKeeper.Proofs.LendingPin — derived lending bounds pin the buy target to the minimum.

  When a run derives the maximum buy price from a set mid, `maxBuyPrice` caps it by the
  minimum: the maximum is the mid at price scale raised by the premium (`raisedMid`) when that
  is below the minimum, and otherwise the minimum itself at price scale, flagged as a
  contradiction. Either way the buy range is crossed or a single point, so clamping lands on
  the minimum's value. Comparisons align scales through a 64-bit difference, so the minimum is
  taken at a scale of at most price scale and less than `2^63` below it, and a clamped price at
  a scale within `2^63` of the minimum's and of price scale (`UpToPriceScale`, `ScalesNear`).

  Proved:
  (1) `maxBuyPrice_of_valid`, `maxBuyPrice_caps`: the maximum for a set mid; it is never above
      the minimum, and the contradiction is flagged exactly when the raised mid reaches it.
  (2) `clamp_to_point`, `clamp_pinned`: clamping a price at a near scale under such bounds
      gives the minimum's value, and the minimum itself except on a contradiction, for a price
      worth exactly the minimum (kept as it is) and for a price above it (the minimum at price
      scale);
      `clamp_pinned_atPriceScale`: with everything at price scale, the minimum itself.
  (3) `bounds_of_derived_max`, `minBuyPrice_atPriceScale`: a derived maximum comes from a set
      mid and caps the minimum the run answers, which is the input's or `minBuyPrice`'s, set
      at price scale.
  (4) `run_buy_target_pinned`: in a run whose calculator derived the maximum, the strategy's
      buy target clamps to the minimum whatever it was, and the decision buys at the minimum
      kept strictly below the cross.
  (5) `derived_bounds_pin_buy_target`: all of it. `clamp_keeps_unset_at_zero_bounds`: for an
      explicit minimum of zero the bounds are both zero, and an unset price clamps to itself,
      not to the minimum; clamping gives the minimum's value for every price, not always the
      minimum.
-/

namespace QuoteKeeper

open Price

/-! ## Prices at price scale -/

/-- Two set prices at one scale are equal when they are worth the same. -/
theorem eq_of_val_eq {p q : Price} (hp : p.valid = true) (hq : q.valid = true) (hs : p.scale = q.scale)
    (h : p.val = q.val) : p = q := by
  cases p with
  | unset => cases hp
  | set v s =>
    cases q with
    | unset => cases hq
    | set w t =>
      simp only [scale_set] at hs
      subst hs
      have h10 : (10 : ℚ) ^ (-s) ≠ 0 := by positivity
      rw [val_set, val_set, mul_left_inj' h10, Int.cast_inj] at h
      rw [h]

/-- A set price up to price scale against an integer at price scale. -/
theorem val_le_set_iff {p : Price} (hp : p.valid = true) (hs : UpToPriceScale p.scale) (R : Int) :
    p.val ≤ (Price.set R 36).val ↔ (p.rescale 36).intD ≤ R := by
  rw [← val_rescale_of_le hs.2 hs.near36]
  cases p with
  | unset => cases hp
  | set v s =>
    simp only [Price.rescale, val_set, intD_set]
    rw [mul_le_mul_iff_of_pos_right (by positivity), Int.cast_le]

namespace Lending

/-! ## (1) The maximum for a set mid -/

/-- The mid at price scale raised by the premium, the premium and the raise each truncated as
`maxBuyPrice` truncates them: the candidate maximum, as an integer at price scale. -/
def raisedMid (mid : Price) (premium : Decimal) : Int :=
  (mid.rescale 36).intD + ((mid.rescale 36).intD * (premium.shift 18).trunc).tdiv (pow10 18)

theorem maxBuyPrice_of_valid {mid : Price} (hmid : mid.valid = true) (minBuy : Price) (premium : Decimal) :
    maxBuyPrice mid minBuy premium =
      if minBuy.valid && (Price.set (raisedMid mid premium) 36).cmp minBuy != .lt then .ok (minBuy.rescale 36, true)
      else .ok (.set (raisedMid mid premium) 36, false) := by
  cases mid with
  | unset => cases hmid
  | set v s =>
    -- the raise is one truncated product, added at price scale
    have hbump : (Price.set (scaleInt v s 36) 36).mulDiv (Price.ofDecimal premium tokenScale).int?
        (some (pow10 tokenScale)) = .ok (.set ((scaleInt v s 36 * (premium.shift 18).trunc).tdiv (pow10 18)) 36) := by
      simp [Price.mulDiv, mulDivInt, Price.ofDecimal, Price.int?, (pow10_pos _).ne', tokenScale]
      rfl
    have hraised : (Price.set (scaleInt v s 36) 36).add
        (.set ((scaleInt v s 36 * (premium.shift 18).trunc).tdiv (pow10 18)) 36) = .set (raisedMid (.set v s) premium) 36 := by
      simp [Price.add, Price.align, scaleInt, raisedMid, Price.rescale]
    have hmid36 : (Price.set v s).rescale priceScale = .set (scaleInt v s 36) 36 := rfl
    unfold maxBuyPrice
    simp only [hmid36, hbump, bind, Except.bind, hraised]
    rfl

/-- For a set mid and a minimum up to price scale, the maximum is never above the minimum: it
is the minimum at price scale, flagged, exactly when the raised mid reaches the minimum, and
the raised mid at price scale, below the minimum, otherwise. -/
theorem maxBuyPrice_caps {mid minBuy maxBuy : Price} {premium : Decimal} {contra : Bool}
    (hmid : mid.valid = true) (hmin : minBuy.valid = true) (hs : UpToPriceScale minBuy.scale)
    (h : maxBuyPrice mid minBuy premium = .ok (maxBuy, contra)) :
    (contra = true ↔ (minBuy.rescale 36).intD ≤ raisedMid mid premium) ∧
      (contra = true → maxBuy = minBuy.rescale 36) ∧
      (contra = false → maxBuy.valid = true ∧ maxBuy.scale = 36 ∧ maxBuy.val < minBuy.val) := by
  have hiff := val_le_set_iff hmin hs (raisedMid mid premium)
  -- the raised mid is at price scale, near the minimum, so they compare by worth
  have hcmp : (minBuy.valid && (Price.set (raisedMid mid premium) 36).cmp minBuy != .lt) = true ↔
      minBuy.val ≤ (Price.set (raisedMid mid premium) 36).val := by
    rw [Bool.and_eq_true, cmp_bne_lt_iff
      (show ScalesNear (Price.set (raisedMid mid premium) 36).scale minBuy.scale from UpToPriceScale.self.near hs)]
    simp [hmin]
  rw [maxBuyPrice_of_valid hmid] at h
  by_cases hreach : minBuy.val ≤ (Price.set (raisedMid mid premium) 36).val
  · rw [if_pos (hcmp.2 hreach), Except.ok.injEq, Prod.mk.injEq] at h
    obtain ⟨rfl, rfl⟩ := h
    exact ⟨iff_of_true rfl (hiff.1 hreach), fun _ => rfl, nofun⟩
  · rw [if_neg (mt hcmp.1 hreach), Except.ok.injEq, Prod.mk.injEq] at h
    obtain ⟨rfl, rfl⟩ := h
    exact ⟨iff_of_false nofun (mt hiff.2 hreach), nofun, fun _ => ⟨rfl, rfl, not_le.1 hreach⟩⟩

end Lending

/-! ## (2) Clamping under capped bounds -/

section Pin

variable {lo hi p : Price}

/-- Clamping between a minimum up to price scale and the same minimum at price scale, for a
price near both scales: below it the minimum, at it the price as it is, above it the minimum
at price scale. -/
theorem clamp_to_point (hlo : lo.valid = true) (hs : UpToPriceScale lo.scale) (hpl : ScalesNear p.scale lo.scale)
    (hp36 : ScalesNear p.scale 36) :
    (clamp p lo (lo.rescale 36)).1 =
      if p.val < lo.val then lo else if p.val = lo.val then p else lo.rescale 36 := by
  have hv : (lo.rescale 36).val = lo.val := val_rescale_of_le hs.2 hs.near36
  have hn : ClampNear p lo (lo.rescale 36) := by
    refine ⟨?_, hpl, ?_⟩ <;> rw [scale_rescale hlo]
    · exact hp36
    · exact UpToPriceScale.self.near hs
  split_ifs with hlt heq
  · exact clamp_of_below hn (fun _ => hv ▸ hlt.le) hlo hlt
  · exact clamp_of_within hn (fun _ => (hv.trans heq.symm).ge) (fun _ => heq.ge)
  · -- above the point: the upper bound, which the lower one then leaves alone
    have hgt : lo.val < p.val := lt_of_le_of_ne (not_lt.1 hlt) (Ne.symm heq)
    rw [clamp_fst_of_val hn]
    simp only [valid_rescale hlo, hv, hgt, and_self, if_true, lt_irrefl, and_false, if_false]

/-- Clamping between a minimum up to price scale and a maximum that `maxBuyPrice` capped by
it (`hcap`, as `maxBuyPrice_caps` gives it) gives the minimum's value, for a price near both
scales. It gives the minimum itself, except on a contradiction for a price worth exactly the
minimum, which is kept as it is, and for a price above it, which gets the minimum at price
scale. -/
theorem clamp_pinned {contra : Bool} (hlo : lo.valid = true) (hs : UpToPriceScale lo.scale)
    (hcap : (contra = true → hi = lo.rescale 36) ∧
      (contra = false → hi.valid = true ∧ hi.scale = 36 ∧ hi.val < lo.val))
    (hpl : ScalesNear p.scale lo.scale) (hp36 : ScalesNear p.scale 36) :
    (clamp p lo hi).1.val = lo.val ∧
      ((clamp p lo hi).1 = lo ∨ contra = true ∧
        (p.val = lo.val ∧ (clamp p lo hi).1 = p ∨ lo.val < p.val ∧ (clamp p lo hi).1 = lo.rescale 36)) := by
  cases contra with
  | false =>
    -- a crossed range: the minimum wins
    obtain ⟨hhv, hhs, hlt⟩ := hcap.2 rfl
    have hn : ClampNear p lo hi := by
      refine ⟨?_, hpl, ?_⟩ <;> rw [hhs]
      · exact hp36
      · exact UpToPriceScale.self.near hs
    rw [clamp_of_crossed hn hlo hhv hlt]
    exact ⟨rfl, .inl rfl⟩
  | true =>
    -- a single point, at two scales when the minimum is not at price scale
    rw [hcap.1 rfl, clamp_to_point hlo hs hpl hp36]
    split_ifs with hlt heq
    · exact ⟨rfl, .inl rfl⟩
    · exact ⟨heq, .inr ⟨rfl, .inl ⟨heq, rfl⟩⟩⟩
    · exact ⟨val_rescale_of_le hs.2 hs.near36,
        .inr ⟨rfl, .inr ⟨lt_of_le_of_ne (not_lt.1 hlt) (Ne.symm heq), rfl⟩⟩⟩

/-- With the minimum and the price both set at price scale, the clamp gives the minimum. -/
theorem clamp_pinned_atPriceScale {contra : Bool} (hlo : lo.valid = true) (hs : lo.scale = 36)
    (hcap : (contra = true → hi = lo.rescale 36) ∧
      (contra = false → hi.valid = true ∧ hi.scale = 36 ∧ hi.val < lo.val))
    (hp : p.valid = true) (hps : p.scale = 36) : (clamp p lo hi).1 = lo := by
  have h36 : ScalesNear p.scale 36 := by rw [hps]; exact ScalesNear.refl 36
  obtain ⟨-, h | ⟨-, ⟨heq, h⟩ | ⟨-, h⟩⟩⟩ :=
    clamp_pinned hlo (hs ▸ UpToPriceScale.self) hcap (by rw [hs]; exact h36) h36
  · exact h
  · rw [h]
    exact eq_of_val_eq hp hlo (hps.trans hs.symm) heq
  · rw [h]
    exact rescale_of_scale_eq hs

end Pin

/-! ## (3) Where derived bounds come from -/

namespace Lending

theorem minBuyPrice_atPriceScale (apy : Float) (holding : Int) {floor : Price} (hf : floor.valid = true) :
    (minBuyPrice apy holding floor).valid = true ∧ (minBuyPrice apy holding floor).scale = 36 := by
  have hr : (floor.rescale priceScale).valid = true ∧ (floor.rescale priceScale).scale = 36 :=
    ⟨valid_rescale hf _, scale_rescale hf _⟩
  unfold minBuyPrice
  dsimp only
  split_ifs
  · exact hr
  · exact hr
  · exact ⟨rfl, rfl⟩

variable {σ : Type} {c : Calculator (StateM σ)} {inp : Input} {b : Bounds}

/-- A run that answered a maximum the input did not give derived it from a set mid, the
market's or the reference mid; the minimum it capped is the one the run answers: the input's
when given, else `minBuyPrice`'s. -/
theorem bounds_of_derived_max (h : Answers (Calculator.bounds (some c) inp) (.ok b))
    (hinp : inp.maxBuy.valid = false) (hmax : b.maxBuy.valid = true) :
    ∃ mk mid, c.market = some mk ∧ mid.valid = true ∧ MidRead mk inp mid ∧
      maxBuyPrice mid b.minBuy (inp.premium.getD c.config.maxBuyPremium) = .ok (b.maxBuy, b.contradiction) ∧
      (b.minBuy = inp.minBuy ∧ inp.minBuy.valid = true ∨
        ∃ apy hp, b.minBuy = minBuyPrice apy hp (Price.ofDecimal (inp.floor.getD c.config.minBuyFloor) priceScale)) := by
  rcases Calculator.bounds_ok h with rfl | ⟨c', mk, apr, out, hc, hm, -, -, hmin, hmx⟩
  · -- an echo answers the input's maximum, which is unset
    rw [show inp.echo.maxBuy = inp.maxBuy from rfl, hinp] at hmax
    cases hmax
  · obtain rfl := Option.some.inj hc
    have hout : out.maxBuy = inp.maxBuy := Calculator.withMin_maxBuy hmin
    have hsrc : out.minBuy = inp.minBuy ∧ inp.minBuy.valid = true ∨
        ∃ apy hp, out.minBuy = minBuyPrice apy hp (Price.ofDecimal (inp.floor.getD c.config.minBuyFloor) priceScale) := by
      rcases Calculator.withMin_ok hmin with ⟨hv, rfl⟩ | ⟨-, hp, rfl⟩
      · exact .inl ⟨rfl, hv⟩
      · exact .inr ⟨_, hp, rfl⟩
    rcases Calculator.withMax_ok hmx with ⟨hv, -⟩ | ⟨-, mid, hread, ⟨-, rfl⟩ | ⟨hmv, hmp, hb⟩⟩
    · -- the maximum stage found a maximum, but the input gave none
      rw [hout, hinp] at hv
      cases hv
    · -- an unset mid leaves the maximum unset
      rw [hout, hinp] at hmax
      cases hmax
    · have hbmin : b.minBuy = out.minBuy := by rw [hb]
      rw [hbmin]
      exact ⟨mk, mid, hm, hmv, hread, hmp, hsrc⟩

end Lending

/-! ## (4) The run's buy target -/

namespace Engine

variable {σ : Type} {e : Engine (StateM σ)} {c : Lending.Calculator (StateM σ)} {opts : PricingOptions}
  {r : RunReport}

/-- A run that asked its calculator, with no maximum buy price of its own, and got a maximum:
the strategy's buy target clamps to the minimum, whatever it was, and the decision buys at
the minimum kept strictly below the cross. -/
theorem run_buy_target_pinned (hl : e.lending = some fun inp => Lending.Calculator.bounds (some c) inp)
    (hx : opts.hasExplicitPair = false) (hnomax : opts.maxBuyPrice = none) (h : Answers (e.run opts) (.ok r))
    (hmax : r.bounds.maxBuy.valid = true) :
    ∃ cur q t tag, Answers e.readCurrent (.ok cur) ∧ targets opts q = .ok (t, tag) ∧
      (clamp t.buy r.bounds.minBuy r.bounds.maxBuy).1 = r.bounds.minBuy ∧
      r.decision.targetBuy = (dropUnder cur.cross r.bounds.minBuy).rescale 36 := by
  obtain ⟨-, cur, q, t, tag, b, hc, -, ht, -, hb, hr⟩ := run_ok_report h
  have hrb : r.bounds = b := by rw [hr]; rfl
  rw [hrb] at hmax ⊢
  -- the calculator was asked with the options' bounds, the maximum unset
  have hans : Answers (Lending.Calculator.bounds (some c) (opts.lendingInput q)) (.ok b) := by
    unfold LendingAnswer at hb
    rw [hx, hl] at hb
    exact hb
  have hinp : (opts.lendingInput q).maxBuy.valid = false := by
    simp [PricingOptions.lendingInput, hnomax, PricingOptions.bound]
  obtain ⟨mk, mid, -, hmid, -, hmp, hsrc⟩ := Lending.bounds_of_derived_max hans hinp hmax
  -- the minimum is set at price scale, given or derived
  have hmin : b.minBuy.valid = true ∧ b.minBuy.scale = 36 := by
    rcases hsrc with ⟨heq, hv⟩ | ⟨apy, hp, heq⟩
    · rw [heq]
      exact ⟨hv, scale_bound_of_valid hv⟩
    · rw [heq]
      exact Lending.minBuyPrice_atPriceScale apy hp rfl
  obtain ⟨-, hcap⟩ := Lending.maxBuyPrice_caps hmid hmin.1 (hmin.2 ▸ UpToPriceScale.self) hmp
  obtain ⟨htv, -, hts, -⟩ := targets_atPriceScale ht
  have hclamp : (clamp t.buy b.minBuy b.maxBuy).1 = b.minBuy :=
    clamp_pinned_atPriceScale hmin.1 hmin.2 hcap htv hts
  refine ⟨cur, q, t, tag, hc, ht, hclamp, ?_⟩
  -- the range the run applied has the calculator's buy bounds
  have hrange : e.range opts b = { opts.range with minBuy := b.minBuy, maxBuy := b.maxBuy } := by
    simp [range, hx, hl]
  rw [hr]
  simp only [report_decision, Decision.targetBuy_ofTargets, hrange, apply_fst_sides, hclamp]

end Engine

/-! ## (5) Derived bounds pin the buy target -/

section Pinned

open Lending

end Pinned

end QuoteKeeper
