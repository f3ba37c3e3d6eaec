import QuoteKeeper.Config.Validate
import QuoteKeeper.Proofs.EngineFixpoint
import QuoteKeeper.Proofs.FeeStrategy
import QuoteKeeper.Proofs.RateAdjustment
import QuoteKeeper.Proofs.SwapLegs
/-
  QuoteKeeper.Proofs.ValidatedConversions — what validation leaves for the integer conversions
  that follow it.

  Validation checks decimals: a fee in `[0, 10000)` basis points, an amount not below zero, a
  market-price amount above zero. What runs after it truncates them. The fee strategy's rate is
  `trunc(10^6 − 100 · fee)` millionths, the run's amount is the amount (100 when zero) at 18
  places, and the market-price amount is the given decimal (1000 when absent) at 18 places.
  Each truncation keeps the sign of its decimal but loses whatever lies below one unit: a fee
  above 9999.99 passes validation with a rate of zero, which the fee strategy refuses as too
  large, and an amount below `10^-18` passes with an integer amount of zero, which a swap quoter
  refuses as invalid (`validation_admits_conversions_to_zero`).

  Proved:
  (1) `PricingOptions.validate_eq_ok_iff`: what accepted options satisfy, check by check;
      `fee_range_of_validate`, `amount_isNeg_of_validate` read the fee and amount off it.
  (2) `Strategy.feeRate_nonneg`, `Strategy.feeRate_pos_iff`, `Strategy.feeTargets_too_large_iff`:
      the fee rate and when the fee strategy refuses it.
  (3) `amountWei_of_isZero`, `amountWei_nonneg`, `amountWei_of_fits`: the amount at 18 places.
  (4) `Config.validate_eq_ok_iff`, `Config.problem_of_validate`, `Config.marketPriceAmount_eq_ok`,
      `Config.pricingOptions_validate`: what an accepted configuration gives each of its ARMs.
  (5) `validated_amounts_truncate`: all of it.
-/

namespace QuoteKeeper

/-- Truncation toward zero is positive exactly from one up. -/
theorem towardZero_pos_iff {x : ℚ} : 0 < towardZero x ↔ 1 ≤ x := by
  by_cases hx : 0 ≤ x
  · rw [towardZero, if_pos hx, Int.floor_pos]
  · rw [towardZero, if_neg hx]
    constructor
    · intro h
      have : (0 : ℚ) < x := Int.ceil_pos.mp h
      linarith
    · intro h
      linarith

/-- At 18 places a value truncates to a positive integer exactly when it is at least `10^-18`. -/
theorem towardZero_scaled_pos_iff (v : ℚ) : 0 < towardZero (v * 10 ^ 18) ↔ 10 ^ (-18 : ℤ) ≤ v := by
  rw [towardZero_pos_iff, zpow_neg, zpow_ofNat, ← one_div, div_le_iff₀ (by positivity)]

namespace Decimal

theorem isNeg_eq_false_iff (d : Decimal) : d.isNeg = false ↔ 0 ≤ d.val := by
  have h10 : (0 : ℚ) < 10 ^ d.exp := zpow_pos (by norm_num) _
  rw [isNeg, decide_eq_false_iff_not, not_lt, val]
  constructor
  · intro h
    exact mul_nonneg (by exact_mod_cast h) h10.le
  · intro h
    exact_mod_cast nonneg_of_mul_nonneg_left h h10

theorem isNeg_of_isPos {d : Decimal} (h : d.isPos = true) : d.isNeg = false := by
  simp only [isPos, isNeg, decide_eq_true_eq, decide_eq_false_iff_not, not_lt] at h ⊢
  exact h.le

/-- Two decimals compare as their values do, whatever their exponents. -/
theorem cmp_eq_lt_iff (a b : Decimal) : a.cmp b = .lt ↔ a.val < b.val := by
  have h10 : (0 : ℚ) < 10 ^ (min a.exp b.exp) := zpow_pos (by norm_num) _
  rw [cmp, compare_lt_iff_lt, ← coefAt_worth (min_le_left a.exp b.exp),
    ← coefAt_worth (min_le_right a.exp b.exp), mul_lt_mul_iff_of_pos_right h10, Int.cast_lt]

@[simp] theorem isNeg_shift (d : Decimal) (n : Int) : (d.shift n).isNeg = d.isNeg := rfl

end Decimal

section Except

variable {ε α β : Type}

/-- A bind succeeds exactly when both halves do. -/
theorem bind_eq_ok {x : Except ε α} {f : α → Except ε β} {b : β} :
    x >>= f = .ok b ↔ ∃ a, x = .ok a ∧ f a = .ok b := by
  cases x with
  | error e => simp [bind, Except.bind]
  | ok a => simp [bind, Except.bind]

end Except

/-! ## Pricing options -/

namespace PricingOptions

/-- Accepted options, check by check in the order they are made. -/
theorem validate_eq_ok_iff (o : PricingOptions) :
    o.validate = .ok () ↔
      o.buyPrice.isSome = o.sellPrice.isSome ∧
      (o.hasExplicitPair && ((o.buyPrice.map Decimal.isNonPos).getD false ||
        (o.sellPrice.map Decimal.isNonPos).getD false)) = false ∧
      o.fee.isNeg = false ∧ o.fee.cmp (Decimal.ofInt 10000) = .lt ∧
      o.tolerance.isNeg = false ∧ o.amount.isNeg = false ∧
      (o.midPrice.map Decimal.isNonPos).getD false = false ∧ 0 ≤ o.holdingPeriod := by
  unfold validate
  split_ifs with hpair hpos hfee htol hamt hmid hhold <;> simp only [false_iff, true_iff] <;> grind

variable {o : PricingOptions}

theorem fee_range_of_validate (h : o.validate = .ok ()) : 0 ≤ o.fee.val ∧ o.fee.val < 10000 := by
  obtain ⟨-, -, hneg, hlt, -⟩ := o.validate_eq_ok_iff.mp h
  have hlt' := (Decimal.cmp_eq_lt_iff _ _).mp hlt
  rw [Decimal.val_ofInt] at hlt'
  exact ⟨(Decimal.isNeg_eq_false_iff _).mp hneg, by exact_mod_cast hlt'⟩

theorem amount_isNeg_of_validate (h : o.validate = .ok ()) : o.amount.isNeg = false :=
  (o.validate_eq_ok_iff.mp h).2.2.2.2.2.1

theorem amountWei_eq (o : PricingOptions) :
    o.amountWei = ((if o.amount.isZero then Decimal.ofInt 100 else o.amount).shift 18).trunc := rfl

theorem amountWei_of_isZero (h : o.amount.isZero = true) : o.amountWei = 10 ^ 20 := by
  rw [amountWei_eq, if_pos h]
  rfl

theorem amountWei_nonneg (h : o.amount.isNeg = false) : 0 ≤ o.amountWei := by
  rw [amountWei_eq]
  split
  · exact trunc_nonneg rfl
  · exact trunc_nonneg (by rw [Decimal.isNeg_shift]; exact h)

/-- A nonzero amount is truncated at 18 places, while its shifted exponent fits in 32 bits. -/
theorem amountWei_of_fits (hz : o.amount.isZero = false) (hf : Decimal.expFits (o.amount.exp + 18)) :
    o.amountWei = towardZero (o.amount.val * 10 ^ 18) := by
  rw [amountWei_eq, if_neg (by simp [hz]), Decimal.trunc_shift_of_fits hf, zpow_ofNat]

end PricingOptions

/-! ## The fee rate -/

namespace Strategy

theorem feeRate_nonneg {fee : Decimal} (h : fee.val < 10000) : 0 ≤ feeRate fee := by
  rw [feeRate_eq]
  exact towardZero_nonneg (by linarith)

theorem feeRate_pos_iff (fee : Decimal) : 0 < feeRate fee ↔ 100 * fee.val ≤ 999999 := by
  rw [feeRate_eq, towardZero_pos_iff]
  constructor <;> intro h <;> linarith

/-- With a positive mid to work from, the fee strategy refuses a fee exactly when its rate is
not positive. -/
theorem feeTargets_too_large_iff {ref : Quote} {p : Params} (hv : ref.mid.valid) (hpos : 0 < ref.mid.val) :
    Strategy.fee.targets ref p = .error (.plain ("fee " ++ p.fee.toString ++ " bps too large")) ↔
      feeRate p.fee ≤ 0 := by
  have hsign : ¬ ref.mid.sign ≤ 0 := not_le.mpr ((Quote.sign_pos_iff _).mpr hpos)
  by_cases hf : feeRate p.fee ≤ 0
  · simp [targets, hv, hsign, hf]
  · simp [targets, hv, hsign, hf]

end Strategy

/-! ## Configurations -/

namespace Config

/-- The market-price amount is `10^21` when none is given, and otherwise a positive decimal
shifted 18 places and truncated. -/
theorem marketPriceAmount_eq_ok {l : LendingSettings} {v : Int} (h : l.marketPriceAmount = .ok v) :
    (l.priceAmount = "" ∧ v = 10 ^ 21) ∨
      ∃ d, Decimal.ofString? l.priceAmount = .ok d ∧ d.isPos = true ∧ v = (d.shift 18).trunc := by
  unfold LendingSettings.marketPriceAmount at h
  split at h
  · rename_i he
    cases h
    exact .inl ⟨by simpa using he, rfl⟩
  · split at h
    · cases h
    · rename_i d hs
      split at h
      · rename_i hp
        cases h
        exact .inr ⟨d, hs, hp, rfl⟩
      · cases h

section Settings

variable {arm : String} {a : ArmSettings}

theorem marketPriceAmount_of_settingsProblem (h : a.settingsProblem arm = none) :
    ∃ v, a.lending.marketPriceAmount = .ok v := by
  cases hm : a.lending.marketPriceAmount with
  | ok v => exact ⟨v, rfl⟩
  | error e =>
    simp only [ArmSettings.settingsProblem, hm] at h
    split_ifs at h

theorem pricingOptions_of_settingsProblem (h : a.settingsProblem arm = none) :
    ∃ o, a.pricingOptions = .ok o := by
  cases hp : a.pricingOptions with
  | ok o => exact ⟨o, rfl⟩
  | error e =>
    obtain ⟨v, hv⟩ := marketPriceAmount_of_settingsProblem h
    simp only [ArmSettings.settingsProblem, hv, hp] at h
    split_ifs at h

end Settings

theorem settingsProblem_of_problem {name : String} {a : ArmSettings} (h : a.problem name = none) :
    a.settingsProblem ("arm " ++ name ++ " ") = none := by
  simp only [ArmSettings.problem, Option.orElse_eq_none] at h
  exact h.2.2.2.2

/-- Options read from an ARM's settings have passed their own validation. -/
theorem pricingOptions_validate {a : ArmSettings} {o : PricingOptions} (h : a.pricingOptions = .ok o) :
    o.validate = .ok () := by
  simp only [ArmSettings.pricingOptions, bind_eq_ok] at h
  obtain ⟨_, -, _, -, _, -, _, -, _, -, _, -, _, -, _, -, _, -, _, -, _, -, _, -, _, -, h⟩ := h
  -- the holding period is a field like the others; only the source check can fail here
  generalize (if a.lending.holdingDays > 0 then _ else (0 : Int)) = holding at h
  split_ifs at h
  · cases h
  · obtain ⟨u, hv, h⟩ := bind_eq_ok.mp h
    cases h
    exact hv

theorem validate_eq_ok_iff (c : AppSettings) :
    c.validate = .ok () ↔ c.globalProblem = none ∧ armProblems (c.arms.getD []) = [] := by
  unfold AppSettings.validate
  split
  · rename_i hg
    simp [hg]
  · rename_i hg
    simp only [hg, true_and]
    split <;> simp_all

theorem lookup_of_arm {c : AppSettings} {name : String} {a : ArmSettings} (h : c.arm name = .ok a) :
    (c.arms.getD []).lookup name = some a := by
  unfold AppSettings.arm at h
  split at h
  · cases h
    assumption
  · cases h

theorem mem_sortedNames {arms : List (String × ArmSettings)} {name : String} {a : ArmSettings}
    (h : arms.lookup name = some a) : name ∈ sortedNames arms := by
  obtain ⟨p, hp, hk⟩ := List.lookup_isSome_iff.mp (Option.isSome_iff_exists.mpr ⟨a, h⟩)
  rw [sortedNames, List.mem_mergeSort, List.mem_map]
  exact ⟨p, hp, (beq_iff_eq.mp hk).symm⟩

/-- Every ARM of an accepted configuration passed all of its checks. -/
theorem problem_of_validate {c : AppSettings} (h : c.validate = .ok ()) {name : String} {a : ArmSettings}
    (ha : c.arm name = .ok a) : a.problem name = none := by
  have hl := lookup_of_arm ha
  have hnone := List.filterMap_eq_nil_iff.mp ((validate_eq_ok_iff c).mp h).2 name (mem_sortedNames hl)
  rwa [hl, Option.bind_some] at hnone

end Config

/-! ## What validation leaves -/

open Config in
/-- Validated options have a fee rate of `trunc(10^6 − 100 · fee)` millionths, never negative
and positive exactly when `100 · fee ≤ 999999`; the fee strategy refuses the fee as too large
exactly when it is not. Their amount at 18 places is never negative: `10^20` for a zero amount,
otherwise (while the exponent fits in 32 bits) the amount times `10^18` truncated, positive
exactly when the amount is at least `10^-18`. Each ARM of an accepted configuration has options
that validate and a market-price amount, never negative: `10^21` when none is given, otherwise
the given decimal at 18 places, positive exactly when it is at least `10^-18`. -/
theorem validated_amounts_truncate (o : PricingOptions) (ref : Quote) (offset : Decimal)
    (c : AppSettings) (name : String) (a : ArmSettings) :
    (o.validate = .ok () →
      Strategy.feeRate o.fee = towardZero (10 ^ 6 - 100 * o.fee.val) ∧ 0 ≤ Strategy.feeRate o.fee ∧
      (0 < Strategy.feeRate o.fee ↔ 100 * o.fee.val ≤ 999999) ∧
      (ref.mid.valid → 0 < ref.mid.val →
        (Strategy.fee.targets ref ⟨o.fee, offset⟩ =
            .error (.plain ("fee " ++ o.fee.toString ++ " bps too large")) ↔ 999999 < 100 * o.fee.val)) ∧
      0 ≤ o.amountWei ∧
      (o.amount.isZero = true → o.amountWei = 10 ^ 20) ∧
      (o.amount.isZero = false → Decimal.expFits (o.amount.exp + 18) →
        o.amountWei = towardZero (o.amount.val * 10 ^ 18) ∧
          (0 < o.amountWei ↔ 10 ^ (-18 : ℤ) ≤ o.amount.val))) ∧
    (c.validate = .ok () → c.arm name = .ok a →
      (∃ opts, a.pricingOptions = .ok opts ∧ opts.validate = .ok ()) ∧
      ∃ v, a.lending.marketPriceAmount = .ok v ∧ 0 ≤ v ∧
        (a.lending.priceAmount = "" → v = 10 ^ 21) ∧
        ∀ d, Decimal.ofString? a.lending.priceAmount = .ok d → Decimal.expFits (d.exp + 18) →
          v = towardZero (d.val * 10 ^ 18) ∧ (0 < v ↔ 10 ^ (-18 : ℤ) ≤ d.val)) := by
  refine ⟨fun h => ?_, fun h ha => ?_⟩
  · -- the options: the fee and the amount, each read off validation
    obtain ⟨-, hf⟩ := PricingOptions.fee_range_of_validate h
    have hamt := PricingOptions.amount_isNeg_of_validate h
    refine ⟨Strategy.feeRate_eq _, Strategy.feeRate_nonneg hf, Strategy.feeRate_pos_iff _,
      fun hv hpos => ?_, PricingOptions.amountWei_nonneg hamt, PricingOptions.amountWei_of_isZero,
      fun hz hfit => ?_⟩
    · rw [Strategy.feeTargets_too_large_iff hv hpos, ← not_lt, Strategy.feeRate_pos_iff, not_le]
    · rw [PricingOptions.amountWei_of_fits hz hfit]
      exact ⟨rfl, towardZero_scaled_pos_iff _⟩
  · -- the configuration: the ARM passed every check, the last two among them
    have hs := settingsProblem_of_problem (problem_of_validate h ha)
    obtain ⟨opts, ho⟩ := pricingOptions_of_settingsProblem hs
    obtain ⟨v, hv⟩ := marketPriceAmount_of_settingsProblem hs
    refine ⟨⟨opts, ho, pricingOptions_validate ho⟩, v, hv, ?_⟩
    rcases marketPriceAmount_eq_ok hv with ⟨he, rfl⟩ | ⟨d, hd, hpos, rfl⟩
    · have hnone : ∀ d, Decimal.ofString? a.lending.priceAmount ≠ .ok d := by
        rw [he]
        intro d hd
        cases hd
      exact ⟨by norm_num, fun _ => rfl, fun d hd => absurd hd (hnone d)⟩
    · refine ⟨trunc_nonneg (by rw [Decimal.isNeg_shift]; exact Decimal.isNeg_of_isPos hpos),
        fun he => ?_, fun d' hd' hfit => ?_⟩
      · rw [he] at hd
        cases hd
      · rw [hd] at hd'
        cases hd'
        rw [Decimal.trunc_shift_of_fits hfit, zpow_ofNat]
        exact ⟨rfl, towardZero_scaled_pos_iff _⟩

open Config in
/-- A fee of 9999.995 basis points and an amount of `10^-19` pass validation, yet the fee rate is
zero, so the fee strategy refuses the fee as too large, and the amount at 18 places is zero, so a
swap quoter refuses it; a market-price amount of `10^-19` is accepted as zero. -/
theorem validation_admits_conversions_to_zero :
    let o : PricingOptions := { PricingOptions.default with fee := ⟨9999995, -3⟩, amount := ⟨1, -19⟩ }
    o.validate = .ok () ∧ Strategy.feeRate o.fee = 0 ∧
      Strategy.fee.targets ⟨"x", .set 1 0, .unset, .unset⟩ ⟨o.fee, Decimal.zero⟩ =
        .error (.plain "fee 9999.995 bps too large") ∧
      o.amountWei = 0 ∧
      ((SwapQuoter.scripted "q").quote Decimal.zero ⟨⟨1⟩, ⟨2⟩⟩ (some o.amountWei)).run ([], []) =
        (.error (.plain "q: invalid amount"), [], []) ∧
      ({ LendingSettings.zero with priceAmount := "1e-19" } : LendingSettings).marketPriceAmount = .ok 0 := by
  intro o
  have hzero : o.amountWei = 0 := by dsimp only [o]; rfl
  refine ⟨by dsimp only [o]; rfl, by dsimp only [o]; rfl, by dsimp only [o]; rfl, hzero, ?_, rfl⟩
  rw [SwapQuoter.quote_nonpos _ _ _ (fun a ha => by cases ha; exact hzero.le)]
  rfl

end QuoteKeeper
