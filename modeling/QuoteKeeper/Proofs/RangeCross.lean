import QuoteKeeper.Range
import QuoteKeeper.Proofs.PriceArithmetic
/-
  QuoteKeeper.Proofs.RangeCross — the range and the cross rule never invert the spread.

  `clamp` answers the price it was given or one of its present bounds; `enforceCross` answers
  a sell price at or above the cross price, and a buy price that is either the one it was
  given, already below the cross, or one unit at price scale below it. The last rescaling to
  price scale truncates toward zero, which can only raise a price above a grid point to that
  grid point or above, and keeps a price already on the grid.

  Proved:
  (1) `clamp_fst_cases`, `clamp_fst_of`: what a clamp can answer.
  (2) `le_val_enforceCross_sell`, `enforceCross_buy_cases`: the cross rule on each side.
  (3) `le_val_rescale`, `oneBelow_lt`: truncating to a grid keeps a lower grid point below,
      and the buy price one unit under the cross is under it.
  (4) `apply_straddles_cross`: after `Range.apply` with a set cross price, set targets and
      bounds all at scales up to price scale (`UpToPriceScale`: at most 36, and less than
      `2^63` below it, so that every comparison among them is exact), both targets are set at
      scale 36, the sell target is at or above the cross price and the buy target strictly
      below it, whatever the bounds, even contradictory ones.
  (5) `apply_far_cross`: a cross price far below price scale (`FarBelowPriceScale`) compares
      with prices at price scale as its integer at price scale (`cmp_far_right`,
      `cmp_far_left`), so with the clamped targets at price scale the range answers what it
      answers for that cross price.
-/

namespace QuoteKeeper

open Price

@[simp] theorem priceScale_eq : priceScale = 36 := rfl

/-- A scale at most price scale and less than `2^63` below it. Two such scales are near, and
each is near price scale. -/
def UpToPriceScale (s : Int) : Prop := 36 - 2 ^ 63 < s ∧ s ≤ 36

instance (s : Int) : Decidable (UpToPriceScale s) := inferInstanceAs (Decidable (_ ∧ _))

namespace UpToPriceScale

theorem near {a b : Int} (ha : UpToPriceScale a) (hb : UpToPriceScale b) : ScalesNear a b := by
  unfold UpToPriceScale ScalesNear at *; omega

theorem self : UpToPriceScale 36 := by
  unfold UpToPriceScale; omega

theorem near36 {a : Int} (ha : UpToPriceScale a) : ScalesNear a 36 := ha.near self

end UpToPriceScale

/-- The unset price counts as scale 0, which is up to price scale. -/
theorem upToPriceScale_unset : UpToPriceScale Price.unset.scale := by
  unfold UpToPriceScale; simp

/-! ## (1) Clamps -/

theorem clamp_fst_eq (price lo hi : Price) :
    (clamp price lo hi).1 =
      let above := if hi.valid && price.cmp hi == .gt then hi else price
      if lo.valid && above.cmp lo == .lt then lo else above := by
  unfold clamp
  by_cases h1 : (hi.valid && price.cmp hi == .gt) = true <;> simp only [h1, if_true, if_false, Bool.false_eq_true] <;>
    split <;> rfl

/-- A clamp answers its price, or a bound that is present. -/
theorem clamp_fst_cases (price lo hi : Price) :
    (clamp price lo hi).1 = price ∨ ((clamp price lo hi).1 = lo ∧ lo.valid) ∨
      ((clamp price lo hi).1 = hi ∧ hi.valid) := by
  rw [clamp_fst_eq]
  dsimp only
  -- the upper bound applies first, then the lower one, each only when present
  by_cases h1 : (hi.valid && price.cmp hi == .gt) = true
  · have hv : hi.valid := (Bool.and_eq_true _ _).mp h1 |>.1
    rw [if_pos h1]
    by_cases h2 : (lo.valid && hi.cmp lo == .lt) = true
    · exact .inr (.inl ⟨if_pos h2, ((Bool.and_eq_true _ _).mp h2).1⟩)
    · exact .inr (.inr ⟨if_neg h2, hv⟩)
  · rw [if_neg h1]
    by_cases h2 : (lo.valid && price.cmp lo == .lt) = true
    · exact .inr (.inl ⟨if_pos h2, ((Bool.and_eq_true _ _).mp h2).1⟩)
    · exact .inl (if_neg h2)

/-- Whatever holds of a price and of each present bound holds of the clamped price. -/
theorem clamp_fst_of (P : Price → Prop) {price lo hi : Price} (hp : P price) (hlo : lo.valid → P lo)
    (hhi : hi.valid → P hi) : P (clamp price lo hi).1 := by
  rcases clamp_fst_cases price lo hi with h | ⟨h, hv⟩ | ⟨h, hv⟩
  · rw [h]; exact hp
  · rw [h]; exact hlo hv
  · rw [h]; exact hhi hv

/-! ## (2) The cross rule -/

/-- The buy price one unit at price scale below the cross price. -/
def oneBelow (cross : Price) : Price := .set ((cross.rescale priceScale).intD - 1) priceScale

theorem enforceCross_sell_cases (buy sell : Price) {cross : Price} (hc : cross.valid)
    (hn : ScalesNear sell.scale cross.scale) :
    (enforceCross buy sell cross).2.1 = sell ∧ cross.val ≤ sell.val ∨ (enforceCross buy sell cross).2.1 = cross := by
  unfold enforceCross
  simp only [hc, Bool.not_true, Bool.false_eq_true, if_false]
  by_cases h : sell.cmp cross = .lt
  · simp [h]
  · left
    refine ⟨by simp [h], ?_⟩
    rw [cmp_eq_compare_val hn, compare_lt_iff_lt] at h
    exact not_lt.mp h

theorem le_val_enforceCross_sell {buy sell cross : Price} (hc : cross.valid) (hn : ScalesNear sell.scale cross.scale) :
    cross.val ≤ (enforceCross buy sell cross).2.1.val := by
  rcases enforceCross_sell_cases buy sell hc hn with ⟨h, hle⟩ | h
  · rw [h]; exact hle
  · rw [h]

/-- The cross rule leaves a buy price that is already below the cross price, and puts any
other one unit below it. -/
theorem enforceCross_buy_cases (buy sell : Price) {cross : Price} (hc : cross.valid)
    (hn : ScalesNear buy.scale cross.scale) :
    ((enforceCross buy sell cross).1 = buy ∧ buy.val < cross.val) ∨
      (enforceCross buy sell cross).1 = oneBelow cross := by
  unfold enforceCross
  simp only [hc, Bool.not_true, Bool.false_eq_true, if_false]
  by_cases h : buy.cmp cross = .lt
  · left
    refine ⟨by simp [h], ?_⟩
    rwa [cmp_eq_compare_val hn, compare_lt_iff_lt] at h
  · right
    simp [h, oneBelow]

/-! ## (3) The last rescaling -/

/-- A price at a scale no finer than `t` is a whole number of units of `10^-t`. -/
theorem val_mul_pow_eq_int {c : Price} {t : Int} (h : c.scale ≤ t) (hn : ScalesNear c.scale t) :
    c.val * 10 ^ t = (scaleInt c.intD c.scale t : ℚ) := by
  have hw := scaleInt_worth (v := c.intD) h hn
  have h10 : (10 : ℚ) ^ (-t) * 10 ^ t = 1 := by
    rw [← zpow_add₀ (by norm_num)]; simp
  calc c.val * 10 ^ t = (scaleInt c.intD c.scale t : ℚ) * 10 ^ (-t) * 10 ^ t := by rw [hw]; rfl
    _ = (scaleInt c.intD c.scale t : ℚ) := by rw [mul_assoc, h10, mul_one]

theorem floor_le_towardZero (x : ℚ) : ⌊x⌋ ≤ towardZero x := by
  unfold towardZero
  split
  · exact le_refl _
  · exact Int.floor_le_ceil x

/-- Truncating to the grid of `10^-t` never takes a price below a grid point under it. -/
theorem le_val_rescale {c p : Price} {t : Int} (hc : c.scale ≤ t) (hcn : ScalesNear c.scale t)
    (hpn : ScalesNear p.scale t) (h : c.val ≤ p.val) : c.val ≤ (p.rescale t).val := by
  by_cases hpt : p.scale ≤ t
  · rw [val_rescale_of_le hpt hpn]; exact h
  · rw [val_rescale_of_lt (not_le.mp hpt) hpn]
    have hpos : (0 : ℚ) < 10 ^ t := zpow_pos (by norm_num) _
    have hgrid : ((scaleInt c.intD c.scale t : ℤ) : ℚ) ≤ p.val * 10 ^ t := by
      rw [← val_mul_pow_eq_int hc hcn]; exact mul_le_mul_of_nonneg_right h hpos.le
    have hfloor : scaleInt c.intD c.scale t ≤ towardZero (p.val * 10 ^ t) :=
      (Int.le_floor.mpr hgrid).trans (floor_le_towardZero _)
    have hcast : ((scaleInt c.intD c.scale t : ℤ) : ℚ) ≤ (towardZero (p.val * 10 ^ t) : ℚ) := by
      exact_mod_cast hfloor
    calc c.val = (scaleInt c.intD c.scale t : ℚ) * 10 ^ (-t) := (scaleInt_worth hc hcn).symm
      _ ≤ (towardZero (p.val * 10 ^ t) : ℚ) * 10 ^ (-t) :=
        mul_le_mul_of_nonneg_right hcast (zpow_pos (by norm_num) _).le

theorem val_oneBelow {cross : Price} (hc : cross.valid) (hcs : UpToPriceScale cross.scale) :
    (oneBelow cross).val = cross.val - 10 ^ (-(36 : ℤ)) := by
  cases cross with
  | unset => simp at hc
  | set v s =>
    simp only [scale_set] at hcs
    have hw := scaleInt_worth (v := v) hcs.2 hcs.near36
    simp only [oneBelow, priceScale_eq, rescale, intD_set, val_set, Int.cast_sub, Int.cast_one, sub_mul,
      one_mul] at hw ⊢
    rw [hw]

theorem oneBelow_lt {cross : Price} (hc : cross.valid) (hcs : UpToPriceScale cross.scale) :
    (oneBelow cross).val < cross.val := by
  rw [val_oneBelow hc hcs]
  have : (0 : ℚ) < 10 ^ (-(36 : ℤ)) := zpow_pos (by norm_num) _
  linarith

/-! ## (4) The spread after the range -/

theorem apply_fst (r : Range) (t : Targets) (cross : Price) :
    (r.apply t cross).1 =
      ⟨(enforceCross (clamp t.buy r.minBuy r.maxBuy).1 (clamp t.sell r.minSell r.maxSell).1 cross).1.rescale 36,
       (enforceCross (clamp t.buy r.minBuy r.maxBuy).1 (clamp t.sell r.minSell r.maxSell).1 cross).2.1.rescale 36⟩ :=
  rfl

theorem valid_rescale {p : Price} (hp : p.valid) (t : Int) : (p.rescale t).valid := by
  cases p <;> simp_all [rescale]

/-- The scales of a range's bounds are all up to price scale. -/
def Range.UpToPriceScale (r : Range) : Prop :=
  QuoteKeeper.UpToPriceScale r.minSell.scale ∧ QuoteKeeper.UpToPriceScale r.maxSell.scale ∧
    QuoteKeeper.UpToPriceScale r.minBuy.scale ∧ QuoteKeeper.UpToPriceScale r.maxBuy.scale

instance (r : Range) : Decidable r.UpToPriceScale := inferInstanceAs (Decidable (_ ∧ _))

/-- A clamp between bounds up to price scale of a price up to price scale is up to price
scale. -/
theorem upToPriceScale_clamp {p lo hi : Price} (hp : UpToPriceScale p.scale) (hlo : UpToPriceScale lo.scale)
    (hhi : UpToPriceScale hi.scale) : UpToPriceScale (clamp p lo hi).1.scale :=
  clamp_fst_of (fun q => UpToPriceScale q.scale) hp (fun _ => hlo) (fun _ => hhi)

/-- After the range and the cross rule, both targets are set at scale 36, the sell target
is at or above a set cross price and the buy target strictly below it, whatever the bounds;
the targets, the bounds and the cross price are at scales up to price scale. -/
theorem apply_straddles_cross (r : Range) (t : Targets) (cross : Price) (hc : cross.valid)
    (hcs : UpToPriceScale cross.scale) (htb : t.buy.valid) (hts : t.sell.valid) (hbs : UpToPriceScale t.buy.scale)
    (hss : UpToPriceScale t.sell.scale) (hr : r.UpToPriceScale) :
    (r.apply t cross).1.sell.valid ∧ (r.apply t cross).1.buy.valid ∧
      (r.apply t cross).1.sell.scale = 36 ∧ (r.apply t cross).1.buy.scale = 36 ∧
      cross.val ≤ (r.apply t cross).1.sell.val ∧ (r.apply t cross).1.buy.val < cross.val := by
  obtain ⟨hminS, hmaxS, hminB, hmaxB⟩ := hr
  rw [apply_fst]
  -- the clamped sell and buy are present, at scales up to price scale
  have hsv : (clamp t.sell r.minSell r.maxSell).1.valid := clamp_fst_of (·.valid) hts id id
  have hbv : (clamp t.buy r.minBuy r.maxBuy).1.valid := clamp_fst_of (·.valid) htb id id
  have hssc := upToPriceScale_clamp hss hminS hmaxS
  have hbsc := upToPriceScale_clamp hbs hminB hmaxB
  set sell := (clamp t.sell r.minSell r.maxSell).1
  set buy := (clamp t.buy r.minBuy r.maxBuy).1
  have hsell : (enforceCross buy sell cross).2.1.valid ∧ UpToPriceScale (enforceCross buy sell cross).2.1.scale := by
    rcases enforceCross_sell_cases buy sell hc (hssc.near hcs) with ⟨h, -⟩ | h <;> rw [h]
    · exact ⟨hsv, hssc⟩
    · exact ⟨hc, hcs⟩
  have hbuy : (enforceCross buy sell cross).1.valid ∧ UpToPriceScale (enforceCross buy sell cross).1.scale ∧
      (enforceCross buy sell cross).1.val < cross.val := by
    rcases enforceCross_buy_cases buy sell hc (hbsc.near hcs) with ⟨h, hlt⟩ | h <;> rw [h]
    · exact ⟨hbv, hbsc, hlt⟩
    · exact ⟨rfl, UpToPriceScale.self, oneBelow_lt hc hcs⟩
  obtain ⟨hbv', hbs', hblt⟩ := hbuy
  refine ⟨valid_rescale hsell.1 36, valid_rescale hbv' 36, scale_rescale hsell.1 36, scale_rescale hbv' 36,
    le_val_rescale hcs.2 hcs.near36 hsell.2.near36 (le_val_enforceCross_sell hc (hssc.near hcs)), ?_⟩
  rw [val_rescale_of_le hbs'.2 hbs'.near36]
  exact hblt

/-! ## (5) A cross price far below price scale -/

/-- A scale `2^63` or more below price scale, and less than `2^64` below it: the 64-bit
difference up to price scale wraps to a number that is not positive. -/
def FarBelowPriceScale (s : Int) : Prop := 36 - 2 ^ 64 ≤ s ∧ s ≤ 36 - 2 ^ 63

instance (s : Int) : Decidable (FarBelowPriceScale s) := inferInstanceAs (Decidable (_ ∧ _))

/-- A 64-bit scale at most price scale is up to it or far below it. -/
theorem upToPriceScale_or_farBelow {s : Int} (h0 : -2 ^ 63 ≤ s) (h : s ≤ 36) :
    UpToPriceScale s ∨ FarBelowPriceScale s := by
  unfold UpToPriceScale FarBelowPriceScale; omega

theorem scaleGap_far {s : Int} (h : FarBelowPriceScale s) : scaleGap s 36 ≤ 0 := by
  obtain ⟨h1, h2⟩ := h
  have : scaleGap s 36 = 36 - s - 2 ^ 64 := by
    rw [scaleGap, Int64.toInt_ofInt, Int.bmod_eq_iff (by decide)]
    exact ⟨by simp [Int64.size]; omega, by simp [Int64.size]; omega, ⟨-1, by simp [Int64.size]⟩⟩
  omega

/-- So a move from a far scale up to price scale leaves the integer as it is. -/
theorem scaleInt_far (v : Int) {s : Int} (h : FarBelowPriceScale s) : scaleInt v s 36 = v :=
  scaleInt_of_wrapped_up (by unfold FarBelowPriceScale at h; omega) (scaleGap_far h)

theorem rescale_far (c : Int) {s : Int} (h : FarBelowPriceScale s) : (Price.set c s).rescale 36 = .set c 36 := by
  simp [Price.rescale, scaleInt_far c h]

/-- Against a price at price scale, a price far below compares as its integer at price
scale, on either side. -/
theorem cmp_far_right {x : Price} (hx : x.scale = 36) (c : Int) {s : Int} (h : FarBelowPriceScale s) :
    x.cmp (.set c s) = x.cmp (.set c 36) := by
  cases x with
  | unset => simp at hx
  | set v t =>
    simp only [scale_set] at hx
    subst hx
    have hs : max 36 s = 36 := max_eq_left (by unfold FarBelowPriceScale at h; omega)
    simp [Price.cmp, Price.align, hs, scaleInt_self, scaleInt_far c h]

theorem cmp_far_left {x : Price} (hx : x.scale = 36) (c : Int) {s : Int} (h : FarBelowPriceScale s) :
    (Price.set c s).cmp x = (Price.set c 36).cmp x := by
  cases x with
  | unset => simp at hx
  | set v t =>
    simp only [scale_set] at hx
    subst hx
    have hs : max s 36 = 36 := max_eq_right (by unfold FarBelowPriceScale at h; omega)
    simp [Price.cmp, Price.align, hs, scaleInt_self, scaleInt_far c h]

/-- With the clamped targets at price scale, a cross price far below price scale acts as its
integer at price scale: the range answers the same targets. -/
theorem apply_far_cross (r : Range) (t : Targets) (c : Int) {s : Int} (h : FarBelowPriceScale s)
    (hb : (clamp t.buy r.minBuy r.maxBuy).1.scale = 36) (hs : (clamp t.sell r.minSell r.maxSell).1.scale = 36) :
    (r.apply t (.set c s)).1 = (r.apply t (.set c 36)).1 := by
  rw [apply_fst, apply_fst]
  simp only [enforceCross, valid_set, Bool.not_true, Bool.false_eq_true, if_false, cmp_far_right hs c h,
    cmp_far_right hb c h]
  split_ifs <;> simp [Price.rescale, scaleInt_self, scaleInt_far c h]

end QuoteKeeper
