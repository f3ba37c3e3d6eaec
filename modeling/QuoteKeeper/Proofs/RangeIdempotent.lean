import QuoteKeeper.Proofs.RangeCross
/-
  QuoteKeeper.Proofs.RangeIdempotent — applying the range a second time changes nothing.

  `Range.apply` treats its two sides apart (`apply_fst_sides`): the sell target is the clamped
  sell price raised to the cross price (`raiseTo`), the buy target the clamped buy price put
  one unit under the cross price when it is not already below it (`dropUnder`), each written
  at price scale. A clamp answers its price when the price lies within the present bounds,
  the lower bound when the bounds are crossed, and otherwise a bound it lies within; the
  cross rule moves a price to the cross price or to one unit below it, and decides only by
  worth. So a second pass either meets the price where the first left it, or clamps it to a
  bound from which the cross rule takes it back to the same point. On the buy side that needs
  the grid of scale 36: a lower bound above the point one unit under the cross price is at or
  above the cross price itself.

  Proved:
  (1) `clamp_of_within`, `clamp_of_below`, `clamp_of_crossed`, `le_val_clamp`, `val_clamp_le`:
      what a clamp answers, by worth.
  (2) `raiseTo_of_lt`, `raiseTo_of_le`, `dropUnder_of_le`, `dropUnder_of_lt`,
      `le_val_of_oneBelow_lt`: the cross rule on each side, and the grid.
  (3) `sell_side_idem`, `buy_side_idem`: each side, applied to its own answer, answers it
      again.
  (4) `apply_idempotent`: with every price set at scale at most 36 or unset, applying the
      range to its own targets gives the same targets, integer and scale, whatever the bounds
      and the cross price.
-/

namespace QuoteKeeper

open Price

/-! ## (1) Clamps by worth -/

section Near

variable {p q : Price} (h : ScalesNear p.scale q.scale)
include h

theorem cmp_beq_gt_iff : (p.cmp q == .gt) = true ↔ q.val < p.val := by
  rw [beq_iff_eq, cmp_eq_compare_val h, compare_gt_iff_gt]

theorem cmp_beq_lt_iff : (p.cmp q == .lt) = true ↔ p.val < q.val := by
  rw [beq_iff_eq, cmp_eq_compare_val h, compare_lt_iff_lt]

theorem cmp_bne_lt_iff : (p.cmp q != .lt) = true ↔ q.val ≤ p.val := by
  rw [bne_iff_ne, ne_eq, cmp_eq_compare_val h, compare_lt_iff_lt, not_lt]

end Near

/-- A price and its two bounds at pairwise near scales: every comparison a clamp makes between
them is a comparison of worth. -/
structure ClampNear (price lo hi : Price) : Prop where
  price_hi : ScalesNear price.scale hi.scale
  price_lo : ScalesNear price.scale lo.scale
  hi_lo : ScalesNear hi.scale lo.scale

theorem ClampNear.of_upTo {price lo hi : Price} (hp : UpToPriceScale price.scale) (hlo : UpToPriceScale lo.scale)
    (hhi : UpToPriceScale hi.scale) : ClampNear price lo hi :=
  ⟨hp.near hhi, hp.near hlo, hhi.near hlo⟩

section Clamp

variable {price lo hi : Price}

theorem clamp_fst_of_val (hn : ClampNear price lo hi) :
    (clamp price lo hi).1 =
      let above := if hi.valid ∧ hi.val < price.val then hi else price
      if lo.valid ∧ above.val < lo.val then lo else above := by
  rw [clamp_fst_eq]
  dsimp only
  -- the upper bound leaves the price or itself, and the lower bound is compared with that one
  by_cases h1 : hi.valid ∧ hi.val < price.val
  · have h1' : (hi.valid && price.cmp hi == .gt) = true := by
      rw [Bool.and_eq_true, cmp_beq_gt_iff hn.price_hi]; exact h1
    rw [if_pos h1', if_pos h1]
    simp only [Bool.and_eq_true, cmp_beq_lt_iff hn.hi_lo]
  · have h1' : ¬(hi.valid && price.cmp hi == .gt) = true := by
      rw [Bool.and_eq_true, cmp_beq_gt_iff hn.price_hi]; exact h1
    rw [if_neg h1', if_neg h1]
    simp only [Bool.and_eq_true, cmp_beq_lt_iff hn.price_lo]

variable (hn : ClampNear price lo hi)
include hn

/-- A price within the present bounds is left as it is. -/
theorem clamp_of_within (hhi : hi.valid → price.val ≤ hi.val) (hlo : lo.valid → lo.val ≤ price.val) :
    (clamp price lo hi).1 = price := by
  rw [clamp_fst_of_val hn]
  have h1 : ¬(hi.valid ∧ hi.val < price.val) := fun h => absurd (hhi h.1) (not_le.mpr h.2)
  have h2 : ¬(lo.valid ∧ price.val < lo.val) := fun h => absurd (hlo h.1) (not_le.mpr h.2)
  simp only [h1, h2, if_false]

/-- A price under a present lower bound and not over the upper one is raised to the lower. -/
theorem clamp_of_below (hhi : hi.valid → price.val ≤ hi.val) (hlo : lo.valid) (h : price.val < lo.val) :
    (clamp price lo hi).1 = lo := by
  rw [clamp_fst_of_val hn]
  have h1 : ¬(hi.valid ∧ hi.val < price.val) := fun h => absurd (hhi h.1) (not_le.mpr h.2)
  simp only [h1, if_false, hlo, h, and_self, if_true]

/-- With crossed bounds the lower one wins, whatever the price. -/
theorem clamp_of_crossed (hlo : lo.valid) (hhi : hi.valid) (h : hi.val < lo.val) :
    (clamp price lo hi).1 = lo := by
  rw [clamp_fst_of_val hn]
  dsimp only
  -- whatever the upper bound leaves is at most that bound, so under the lower one
  have habove : (if hi.valid ∧ hi.val < price.val then hi else price).val < lo.val := by
    split <;> rename_i h1
    · exact h
    · exact (not_lt.mp fun hlt => h1 ⟨hhi, hlt⟩).trans_lt h
  rw [if_pos ⟨hlo, habove⟩]

theorem le_val_clamp (hlo : lo.valid) : lo.val ≤ (clamp price lo hi).1.val := by
  rw [clamp_fst_of_val hn]
  dsimp only
  generalize (if hi.valid ∧ hi.val < price.val then hi else price) = above
  split <;> rename_i h
  · exact le_refl _
  · exact not_lt.mp fun hlt => h ⟨hlo, hlt⟩

/-- Bounds that do not cross keep a clamped price under the upper one. -/
theorem val_clamp_le (hhi : hi.valid) (hord : lo.valid → lo.val ≤ hi.val) :
    (clamp price lo hi).1.val ≤ hi.val := by
  rw [clamp_fst_of_val hn]
  dsimp only
  -- the upper bound applies first, so the price it leaves is under it
  have habove : (if hi.valid ∧ hi.val < price.val then hi else price).val ≤ hi.val := by
    split <;> rename_i h1
    · exact le_refl _
    · exact not_lt.mp fun hlt => h1 ⟨hhi, hlt⟩
  generalize (if hi.valid ∧ hi.val < price.val then hi else price) = above at habove ⊢
  split <;> rename_i h2
  · exact hord h2.1
  · exact habove

end Clamp

/-! ## (2) The cross rule, one side at a time -/

/-- The sell price the cross rule leaves: the cross price when the price compares under it. -/
def raiseTo (cross sell : Price) : Price := if cross.valid && sell.cmp cross == .lt then cross else sell

/-- The buy price the cross rule leaves: one unit under the cross price when the price does not
compare below it. -/
def dropUnder (cross buy : Price) : Price := if cross.valid && buy.cmp cross != .lt then oneBelow cross else buy

@[simp] theorem enforceCross_sell (buy sell cross : Price) :
    (enforceCross buy sell cross).2.1 = raiseTo cross sell := by
  unfold enforceCross raiseTo
  cases cross.valid
  · rfl
  · by_cases h : (sell.cmp cross == .lt) = true <;> simp [h]

@[simp] theorem enforceCross_buy (buy sell cross : Price) :
    (enforceCross buy sell cross).1 = dropUnder cross buy := by
  unfold enforceCross dropUnder
  cases cross.valid
  · rfl
  · by_cases h : (buy.cmp cross != .lt) = true
    · simp only [h, Bool.not_true, Bool.true_and, if_true, Bool.false_eq_true, if_false]
      rfl
    · simp only [h, Bool.not_true, Bool.true_and, if_false, Bool.false_eq_true]

theorem raiseTo_of_lt {cross sell : Price} (hc : cross.valid) (hn : ScalesNear sell.scale cross.scale)
    (h : sell.val < cross.val) : raiseTo cross sell = cross := by
  rw [raiseTo, if_pos (by rw [Bool.and_eq_true, cmp_beq_lt_iff hn]; exact ⟨hc, h⟩)]

theorem raiseTo_of_le {cross sell : Price} (hn : ScalesNear sell.scale cross.scale)
    (h : cross.valid → cross.val ≤ sell.val) : raiseTo cross sell = sell := by
  rw [raiseTo, if_neg]
  rw [Bool.and_eq_true, cmp_beq_lt_iff hn]
  exact fun hc => absurd (h hc.1) (not_le.mpr hc.2)

theorem dropUnder_of_le {cross buy : Price} (hc : cross.valid) (hn : ScalesNear buy.scale cross.scale)
    (h : cross.val ≤ buy.val) : dropUnder cross buy = oneBelow cross := by
  rw [dropUnder, if_pos (by rw [Bool.and_eq_true, cmp_bne_lt_iff hn]; exact ⟨hc, h⟩)]

theorem dropUnder_of_lt {cross buy : Price} (hn : ScalesNear buy.scale cross.scale)
    (h : cross.valid → buy.val < cross.val) : dropUnder cross buy = buy := by
  rw [dropUnder, if_neg]
  rw [Bool.and_eq_true, cmp_bne_lt_iff hn]
  exact fun hc => absurd (h hc.1) (not_lt.mpr hc.2)

/-- The two sides of the targets the range answers. -/
theorem apply_fst_sides (r : Range) (t : Targets) (cross : Price) :
    (r.apply t cross).1 =
      ⟨(dropUnder cross (clamp t.buy r.minBuy r.maxBuy).1).rescale 36,
       (raiseTo cross (clamp t.sell r.minSell r.maxSell).1).rescale 36⟩ := by
  rw [apply_fst, enforceCross_buy, enforceCross_sell]

theorem rescale_rescale (p : Price) (t : Int) : (p.rescale t).rescale t = p.rescale t := by
  cases p <;> simp [rescale, scaleInt]

theorem rescale_of_scale_eq {p : Price} {t : Int} (h : p.scale = t) : p.rescale t = p := by
  cases p with
  | unset => rfl
  | set v s =>
    simp only [scale_set] at h
    subst h
    simp [Price.rescale, scaleInt]

theorem rescale_oneBelow (cross : Price) : (oneBelow cross).rescale 36 = oneBelow cross :=
  rescale_of_scale_eq rfl

/-- A price rescaled to price scale is up to price scale: at 36 when set, at 0 when unset. -/
theorem upToPriceScale_rescale36 (p : Price) : UpToPriceScale (p.rescale 36).scale := by
  cases p with
  | unset => exact upToPriceScale_unset
  | set v s => exact UpToPriceScale.self

/-- On the grid of scale 36 no price lies strictly between the cross price and the point one
unit under it. -/
theorem le_val_of_oneBelow_lt {cross p : Price} (hc : cross.valid) (hcs : UpToPriceScale cross.scale)
    (hps : UpToPriceScale p.scale) (h : (oneBelow cross).val < p.val) : cross.val ≤ p.val := by
  have h36 : (0 : ℚ) < 10 ^ (36 : ℤ) := zpow_pos (by norm_num) _
  -- both prices are whole numbers of units of `10^-36`
  have hcz := val_mul_pow_eq_int hcs.2 hcs.near36
  have hpz := val_mul_pow_eq_int hps.2 hps.near36
  have hunit : (10 : ℚ) ^ (-(36 : ℤ)) * 10 ^ (36 : ℤ) = 1 := by
    rw [← zpow_add₀ (by norm_num)]; simp
  have hlt : (scaleInt cross.intD cross.scale 36 : ℚ) - 1 < scaleInt p.intD p.scale 36 := by
    rw [← hcz, ← hpz, ← hunit, ← sub_mul]
    rw [val_oneBelow hc hcs] at h
    exact mul_lt_mul_of_pos_right h h36
  have hint : scaleInt cross.intD cross.scale 36 ≤ scaleInt p.intD p.scale 36 := by
    have : (scaleInt cross.intD cross.scale 36 : ℤ) - 1 < scaleInt p.intD p.scale 36 := by exact_mod_cast hlt
    omega
  have hq : cross.val * 10 ^ (36 : ℤ) ≤ p.val * 10 ^ (36 : ℤ) := by
    rw [hcz, hpz]; exact_mod_cast hint
  exact le_of_mul_le_mul_right hq h36

/-! ## (3) Each side applied to its own answer -/

section Sides

variable {lo hi cross p : Price} (hlo : UpToPriceScale lo.scale) (hhi : UpToPriceScale hi.scale)
  (hcs : UpToPriceScale cross.scale)
include hlo hhi hcs

/-- The sell side: a clamp raised to the cross price, at price scale, is a fixed point. -/
theorem sell_side_idem (hps : UpToPriceScale p.scale) :
    (raiseTo cross (clamp ((raiseTo cross (clamp p lo hi).1).rescale 36) lo hi).1).rescale 36 =
      (raiseTo cross (clamp p lo hi).1).rescale 36 := by
  set c := (clamp p lo hi).1 with hc_def
  have hcsc : UpToPriceScale c.scale := upToPriceScale_clamp hps hlo hhi
  -- every price clamped below is up to price scale, so each clamp compares by worth
  have hnear : ∀ q : Price, UpToPriceScale q.scale → ClampNear q lo hi := fun q hq => .of_upTo hq hlo hhi
  by_cases hx : lo.valid ∧ hi.valid ∧ hi.val < lo.val
  · -- crossed bounds: both clamps answer the lower bound
    obtain ⟨hlv, hhv, hlt⟩ := hx
    rw [clamp_of_crossed (hnear _ (upToPriceScale_rescale36 _)) hlv hhv hlt, hc_def,
      clamp_of_crossed (hnear _ hps) hlv hhv hlt]
  · have hord : lo.valid → hi.valid → lo.val ≤ hi.val := fun hl hh => not_lt.mp fun h => hx ⟨hl, hh, h⟩
    have hclo : lo.valid → lo.val ≤ c.val := fun hl => le_val_clamp (hnear _ hps) hl
    have hchi : hi.valid → c.val ≤ hi.val := fun hh => val_clamp_le (hnear _ hps) hh fun hl => hord hl hh
    by_cases hr : cross.valid ∧ c.val < cross.val
    · -- the first pass raised the price to the cross price
      rw [raiseTo_of_lt hr.1 (hcsc.near hcs) hr.2]
      have hS : (cross.rescale 36).val = cross.val := val_rescale_of_le hcs.2 hcs.near36
      have hcr := upToPriceScale_rescale36 cross
      by_cases hover : hi.valid ∧ hi.val < cross.val
      · have hle : (clamp (cross.rescale 36) lo hi).1.val ≤ hi.val :=
          val_clamp_le (hnear _ hcr) hover.1 fun hl => hord hl hover.1
        rw [raiseTo_of_lt hr.1 ((upToPriceScale_clamp hcr hlo hhi).near hcs) (hle.trans_lt hover.2)]
      · have hin : (clamp (cross.rescale 36) lo hi).1 = cross.rescale 36 := by
          refine clamp_of_within (hnear _ hcr) (fun hh => ?_) (fun hl => ?_)
          · rw [hS]; exact not_lt.mp fun h => hover ⟨hh, h⟩
          · rw [hS]; exact ((hclo hl).trans_lt hr.2).le
        rw [hin, raiseTo_of_le (hcr.near hcs) (fun _ => hS.ge), rescale_rescale]
    · -- the first pass kept the clamped price, which a clamp keeps again
      have hkeep : cross.valid → cross.val ≤ c.val := fun hcv => not_lt.mp fun h => hr ⟨hcv, h⟩
      rw [raiseTo_of_le (hcsc.near hcs) hkeep]
      have hS : (c.rescale 36).val = c.val := val_rescale_of_le hcsc.2 hcsc.near36
      have hc36 := upToPriceScale_rescale36 c
      have hin : (clamp (c.rescale 36) lo hi).1 = c.rescale 36 :=
        clamp_of_within (hnear _ hc36) (fun hh => hS ▸ hchi hh) (fun hl => hS ▸ hclo hl)
      rw [hin, raiseTo_of_le (hc36.near hcs) (fun hcv => hS ▸ hkeep hcv), rescale_rescale]

/-- The buy side: a clamp put under the cross price, at price scale, is a fixed point. -/
theorem buy_side_idem (hps : UpToPriceScale p.scale) :
    (dropUnder cross (clamp ((dropUnder cross (clamp p lo hi).1).rescale 36) lo hi).1).rescale 36 =
      (dropUnder cross (clamp p lo hi).1).rescale 36 := by
  set c := (clamp p lo hi).1 with hc_def
  have hcsc : UpToPriceScale c.scale := upToPriceScale_clamp hps hlo hhi
  have hnear : ∀ q : Price, UpToPriceScale q.scale → ClampNear q lo hi := fun q hq => .of_upTo hq hlo hhi
  by_cases hx : lo.valid ∧ hi.valid ∧ hi.val < lo.val
  · obtain ⟨hlv, hhv, hlt⟩ := hx
    rw [clamp_of_crossed (hnear _ (upToPriceScale_rescale36 _)) hlv hhv hlt, hc_def,
      clamp_of_crossed (hnear _ hps) hlv hhv hlt]
  · have hord : lo.valid → hi.valid → lo.val ≤ hi.val := fun hl hh => not_lt.mp fun h => hx ⟨hl, hh, h⟩
    have hclo : lo.valid → lo.val ≤ c.val := fun hl => le_val_clamp (hnear _ hps) hl
    have hchi : hi.valid → c.val ≤ hi.val := fun hh => val_clamp_le (hnear _ hps) hh fun hl => hord hl hh
    have hob36 : UpToPriceScale (oneBelow cross).scale := UpToPriceScale.self
    by_cases hd : cross.valid ∧ cross.val ≤ c.val
    · -- the first pass put the price one unit under the cross price
      rw [dropUnder_of_le hd.1 (hcsc.near hcs) hd.2, rescale_oneBelow]
      have hob : (oneBelow cross).val < cross.val := oneBelow_lt hd.1 hcs
      have hunder : hi.valid → (oneBelow cross).val ≤ hi.val := fun hh => (hob.trans_le (hd.2.trans (hchi hh))).le
      by_cases hbelow : lo.valid ∧ (oneBelow cross).val < lo.val
      · -- a lower bound above that point is at or above the cross price
        rw [clamp_of_below (hnear _ hob36) hunder hbelow.1 hbelow.2,
          dropUnder_of_le hd.1 (hlo.near hcs) (le_val_of_oneBelow_lt hd.1 hcs hlo hbelow.2), rescale_oneBelow]
      · have hin : (clamp (oneBelow cross) lo hi).1 = oneBelow cross :=
          clamp_of_within (hnear _ hob36) hunder fun hl => not_lt.mp fun h => hbelow ⟨hl, h⟩
        rw [hin, dropUnder_of_lt (hob36.near hcs) (fun _ => hob), rescale_oneBelow]
    · have hkeep : cross.valid → c.val < cross.val := fun hcv => not_le.mp fun h => hd ⟨hcv, h⟩
      rw [dropUnder_of_lt (hcsc.near hcs) hkeep]
      have hS : (c.rescale 36).val = c.val := val_rescale_of_le hcsc.2 hcsc.near36
      have hc36 := upToPriceScale_rescale36 c
      have hin : (clamp (c.rescale 36) lo hi).1 = c.rescale 36 :=
        clamp_of_within (hnear _ hc36) (fun hh => hS ▸ hchi hh) (fun hl => hS ▸ hclo hl)
      rw [hin, dropUnder_of_lt (hc36.near hcs) (fun hcv => hS ▸ hkeep hcv), rescale_rescale]

end Sides

/-! ## (4) The range applied twice -/

/-- Applying the range to the targets it answered answers them again, integer and scale,
when every price involved is unset or set at a scale up to price scale: bounds that cross
each other and a cross price that pushes a target past its bound included. -/
theorem apply_idempotent (r : Range) (t : Targets) (cross : Price) (hbuy : UpToPriceScale t.buy.scale)
    (hsell : UpToPriceScale t.sell.scale) (hr : r.UpToPriceScale) (hcross : UpToPriceScale cross.scale) :
    (r.apply (r.apply t cross).1 cross).1 = (r.apply t cross).1 := by
  obtain ⟨hminSell, hmaxSell, hminBuy, hmaxBuy⟩ := hr
  rw [apply_fst_sides r (r.apply t cross).1, apply_fst_sides r t]
  simp only [Targets.mk.injEq]
  exact ⟨buy_side_idem hminBuy hmaxBuy hcross hbuy, sell_side_idem hminSell hmaxSell hcross hsell⟩

/-- Crossed buy bounds (minimum 2 over maximum 1), a sell price 3 over its maximum 1.25, and
a cross price 1.5 that lifts the sell target back above that maximum and pushes the buy target
one unit under it: the second pass answers the first pass's targets. -/
theorem crossed_range_applied_twice :
    (UpToPriceScale (Price.set 5 0).scale ∧ UpToPriceScale (Price.set 3 0).scale ∧
      (⟨.unset, .set 125 2, .set 2 0, .set 1 0⟩ : Range).UpToPriceScale ∧ UpToPriceScale (Price.set 15 1).scale) ∧
    ((⟨.unset, .set 125 2, .set 2 0, .set 1 0⟩ : Range).apply
        ((⟨.unset, .set 125 2, .set 2 0, .set 1 0⟩ : Range).apply ⟨.set 5 0, .set 3 0⟩ (.set 15 1)).1 (.set 15 1)).1 =
      ((⟨.unset, .set 125 2, .set 2 0, .set 1 0⟩ : Range).apply ⟨.set 5 0, .set 3 0⟩ (.set 15 1)).1 :=
  ⟨by decide, apply_idempotent ⟨.unset, .set 125 2, .set 2 0, .set 1 0⟩ ⟨.set 5 0, .set 3 0⟩ (.set 15 1)
    (by decide) (by decide) (by decide) (by decide)⟩

/-- A maximum sell price of `6` at scale `-2^63`, which is `2^63 + 36` scales below price
scale: against a sell target of `5` at scale 0 the difference of scales is `2^63` and wraps,
so the bound compares as `6` at scale 0 and the first pass keeps `5`, written at price scale;
against that target at price scale the bound compares as `6` at scale 36, and the second pass
pulls the target down to `6 · 10^-36`. -/
theorem far_bound_moves_second_pass :
    ((⟨.unset, .set 6 (-9223372036854775808), .unset, .unset⟩ : Range).apply ⟨.unset, .set 5 0⟩ .unset).1 =
        ⟨.unset, .set 5000000000000000000000000000000000000 36⟩ ∧
      ((⟨.unset, .set 6 (-9223372036854775808), .unset, .unset⟩ : Range).apply
          ⟨.unset, .set 5000000000000000000000000000000000000 36⟩ .unset).1 = ⟨.unset, .set 6 36⟩ := by
  decide

end QuoteKeeper
