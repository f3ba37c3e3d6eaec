import QuoteKeeper.Proofs.PriceArithmetic
import QuoteKeeper.Proofs.EngineStages
/-
  QuoteKeeper.Proofs.EngineFixpoint — the targets of a run do not depend on the contract's
  current prices, so a contract that holds a run's targets is left as it is.

  A run reads the contract's buy and sell prices only to compare them with its targets: the
  targets come from the options, the reference quote, the lending bounds and the cross price.
  So when the other collaborators answer fixed values (`Determined`), two engines that differ
  only in how the contract answers its buy and sell prices (`Engine.withCurrent`) decide on
  the same plan in any two successful runs (`RunReport.SamePlan`). And when the contract
  answers a previous run's targets, the next run, with any tolerance that is not negative,
  succeeds from every state of the world with a settled decision (`Decision.Settled`): no
  distance on either side, the tolerance not exceeded, nothing to submit.

  Proved:
  (1) `QuoteAnswer.eq_of_determined`, `QuoteAnswer.yields_of_determined`,
      `LendingAnswer.eq_of_determined`, `lendingBounds_yields`: with determined collaborators a
      run's reference quote and lending answer are unique, and its stages yield them.
  (2) `samePlan_of_runs`: the current prices do not change the plan.
  (3) `intD_ofBps_nonneg`, `ofTargets_settled`: a decision between targets and the same prices
      is settled under any tolerance that is not negative.
  (4) `validate_withTolerance`, `run_settles_at_targets`, and `run_fixpoint_of_targets` for
      both facts together.
-/

namespace QuoteKeeper

open Price

/-- The engine whose contract reads its buy and sell prices from `buy` and `sell`. -/
def Engine.withCurrent {m : Type → Type} (e : Engine m) (buy sell : m (Outcome Price)) : Engine m :=
  { e with contract := { e.contract with buyPrice := buy, sellPrice := sell } }

/-- The range a run applies does not read the contract. -/
@[simp] theorem Engine.range_withCurrent {m : Type → Type} (e : Engine m) (buy sell : m (Outcome Price))
    (opts : PricingOptions) (b : Lending.Bounds) : (e.withCurrent buy sell).range opts b = e.range opts b := rfl

/-- Two runs decided on the same targets, bounds, adjustments and strategy. -/
def RunReport.SamePlan (r₁ r₂ : RunReport) : Prop :=
  r₁.decision.targetBuy = r₂.decision.targetBuy ∧ r₁.decision.targetSell = r₂.decision.targetSell ∧
    r₁.bounds = r₂.bounds ∧ r₁.adjustments = r₂.adjustments ∧ r₁.strategy = r₂.strategy

/-- A decision that leaves the contract as it is: no distance on either side, the tolerance
not exceeded, nothing to submit. -/
def Decision.Settled (d : Decision) : Prop :=
  d.diffBuy.val = 0 ∧ d.diffSell.val = 0 ∧ d.exceeded = false ∧ d.shouldSubmit = false

namespace Engine

variable {σ : Type} {e : Engine (StateM σ)} {opts : PricingOptions}

/-! ## (1) Unique answers -/

theorem QuoteAnswer.eq_of_determined (hd : Determined (e.referenceQuote opts)) {q₁ q₂ : Quote}
    (h₁ : e.QuoteAnswer opts q₁) (h₂ : e.QuoteAnswer opts q₂) : q₁ = q₂ := by
  unfold QuoteAnswer at h₁ h₂
  by_cases hx : opts.hasExplicitPair = true
  · rw [if_pos hx] at h₁ h₂
    rw [h₁, h₂]
  · rw [if_neg hx] at h₁ h₂
    exact Except.ok.inj (hd _ _ h₁ h₂)

/-- With a determined reference stage, the quote a run got is the one that stage yields. -/
theorem QuoteAnswer.yields_of_determined (hd : Determined (e.referenceQuote opts)) {q : Quote}
    (h : e.QuoteAnswer opts q) :
    if opts.hasExplicitPair then q = Quote.empty else Yields (e.referenceQuote opts) (.ok q) := by
  unfold QuoteAnswer at h
  by_cases hx : opts.hasExplicitPair = true
  · rw [if_pos hx] at h ⊢
    exact h
  · rw [if_neg hx] at h ⊢
    exact hd.yields h

theorem LendingAnswer.eq_of_determined (hlend : ∀ l ∈ e.lending, ∀ inp, Determined (l inp)) {q : Quote}
    {b₁ b₂ : Lending.Bounds} (h₁ : e.LendingAnswer opts q b₁) (h₂ : e.LendingAnswer opts q b₂) : b₁ = b₂ := by
  unfold LendingAnswer at h₁ h₂
  cases hx : opts.hasExplicitPair <;> cases hl : e.lending <;> simp only [hx, hl] at h₁ h₂
  case false.some lend => exact Except.ok.inj (hlend lend (Option.mem_def.mpr hl) _ _ _ h₁ h₂)
  all_goals rw [h₁, h₂]

theorem lendingBounds_yields (hlend : ∀ l ∈ e.lending, ∀ inp, Determined (l inp)) {q : Quote}
    {b : Lending.Bounds} (hb : e.LendingAnswer opts q b) : Yields (e.lendingBounds opts q) (.ok b) := by
  unfold LendingAnswer at hb
  unfold lendingBounds
  cases hx : opts.hasExplicitPair <;> cases hl : e.lending <;> simp only [hx, hl] at hb ⊢
  case false.some lend =>
    refine Yields.bind ((hlend lend (Option.mem_def.mpr hl) _).yields hb) ?_
    dsimp only
    split
    · exact Yields.bind (Yields.unit _) (Yields.pure _)
    · exact Yields.pure _
  all_goals
    subst hb
    exact Yields.pure _

/-! ## (2) The plan does not read the current prices -/

/-- Two successful runs of engines that differ only in the contract's buy and sell prices
decided on the same plan, when the cross price, the reference quote and the lending
calculator answer fixed values. -/
theorem samePlan_of_runs (hcross : Determined e.contract.crossPrice) (hq : Determined (e.referenceQuote opts))
    (hlend : ∀ l ∈ e.lending, ∀ inp, Determined (l inp)) {buy₁ sell₁ buy₂ sell₂ : StateM σ (Outcome Price)}
    {r₁ r₂ : RunReport} (h₁ : Answers ((e.withCurrent buy₁ sell₁).run opts) (.ok r₁))
    (h₂ : Answers ((e.withCurrent buy₂ sell₂).run opts) (.ok r₂)) : r₁.SamePlan r₂ := by
  obtain ⟨-, c₁, q₁, t₁, tag₁, b₁, hc₁, hq₁, ht₁, -, hb₁, hr₁⟩ := run_ok_report h₁
  obtain ⟨-, c₂, q₂, t₂, tag₂, b₂, hc₂, hq₂, ht₂, -, hb₂, hr₂⟩ := run_ok_report h₂
  -- the cross price, the reference quote, the targets and the lending answer agree
  have hcr : c₁.cross = c₂.cross :=
    Except.ok.inj (hcross _ _ (readCurrent_ok hc₁).2.2 (readCurrent_ok hc₂).2.2)
  obtain rfl : q₁ = q₂ := QuoteAnswer.eq_of_determined (e := e) hq hq₁ hq₂
  obtain ⟨rfl, rfl⟩ : t₁ = t₂ ∧ tag₁ = tag₂ := by
    rw [ht₁, Except.ok.injEq, Prod.mk.injEq] at ht₂
    exact ht₂
  obtain rfl : b₁ = b₂ := LendingAnswer.eq_of_determined (e := e) hlend hb₁ hb₂
  rw [hr₁, hr₂]
  simp only [RunReport.SamePlan, report_decision, report_bounds, report_adjustments, report_strategy,
    Decision.targetBuy_ofTargets, Decision.targetSell_ofTargets, hcr, range_withCurrent, and_self]

end Engine

/-! ## (3) A decision at its own targets -/

theorem trunc_nonneg {d : Decimal} (h : d.isNeg = false) : 0 ≤ d.trunc := by
  have hc : 0 ≤ d.coef := by simpa [Decimal.isNeg] using h
  have hp : ∀ n : Nat, 0 < Int.pow 10 n := fun n => Int.pow_pos (by decide)
  unfold Decimal.trunc
  split
  · exact Int.mul_nonneg hc (hp _).le
  · exact Int.tdiv_nonneg hc (hp _).le

/-- A tolerance that is not negative gives a threshold whose integer is not negative: a shift
moves the point only, so the sign is kept. -/
theorem intD_ofBps_nonneg {tol : Decimal} (h : tol.isNeg = false) (s : Int) : 0 ≤ (Price.ofBps tol s).intD :=
  trunc_nonneg h

/-- A decision whose current prices are its targets is settled under any tolerance that is
not negative. -/
theorem ofTargets_settled (t : Targets) (cross : Price) {tol : Decimal} (dryRun : Bool)
    (htol : tol.isNeg = false) : (Decision.ofTargets t ⟨t.buy, t.sell, cross⟩ tol dryRun).Settled := by
  have hzero : ∀ p : Price, (p.absDiff p).val = 0 := fun p => by
    rw [val_absDiff (ScalesNear.refl _), sub_self, abs_zero]
  -- a distance of zero is within any threshold that is not negative, at whatever scales
  have hwithin : ∀ p : Price, ((p.absDiff p).cmp (Price.ofBps tol priceScale) == .gt) = false := by
    intro p
    rw [beq_eq_false_iff_ne]
    exact cmp_ne_gt_of_intD ((val_eq_zero_iff _).1 (hzero p)) (intD_ofBps_nonneg htol _)
  refine ⟨hzero _, hzero _, ?_, ?_⟩
  · simp only [Decision.exceeded_ofTargets, hwithin, Bool.or_false]
  · simp only [Decision.shouldSubmit_ofTargets, Decision.exceeded_ofTargets, hwithin, Bool.or_false,
      Bool.false_and]

/-! ## (4) A contract at its targets -/

theorem validate_withTolerance {opts : PricingOptions} {tol : Decimal} (hv : opts.validate = .ok ())
    (htol : tol.isNeg = false) : ({ opts with tolerance := tol } : PricingOptions).validate = .ok () := by
  -- a run that validated had a tolerance that is not negative
  have hopts : opts.tolerance.isNeg = false := by
    cases h : opts.tolerance.isNeg
    · rfl
    · unfold PricingOptions.validate at hv
      simp only [h, if_true] at hv
      split_ifs at hv
  -- so both checks of the tolerance pass, and the others read the same fields
  rw [← hv]
  unfold PricingOptions.validate
  simp only [htol, hopts, PricingOptions.hasExplicitPair, Bool.false_eq_true, if_false]

namespace Engine

variable {σ : Type} {e : Engine (StateM σ)} {opts : PricingOptions}

/-- When the contract answers a successful run's targets, the next run with any tolerance
that is not negative succeeds from every state of the world, with the same plan and a
settled decision. -/
theorem run_settles_at_targets (hcross : Determined e.contract.crossPrice)
    (hq : Determined (e.referenceQuote opts)) (hlend : ∀ l ∈ e.lending, ∀ inp, Determined (l inp))
    {r₁ : RunReport} (h₁ : Answers (e.run opts) (.ok r₁)) {buy sell : StateM σ (Outcome Price)}
    (hbuy : Yields buy (.ok r₁.decision.targetBuy)) (hsell : Yields sell (.ok r₁.decision.targetSell))
    {tol : Decimal} (htol : tol.isNeg = false) :
    ∃ r₃, Yields ((e.withCurrent buy sell).run { opts with tolerance := tol }) (.ok r₃) ∧
      r₃.SamePlan r₁ ∧ r₃.decision.Settled := by
  obtain ⟨hv, c, q, t, tag, b, hc, hqa, ht, htv, hb, hr₁⟩ := run_ok_report h₁
  -- the next run reads the previous targets and the same cross price
  have hread : Yields (e.withCurrent buy sell).readCurrent
      (.ok ⟨r₁.decision.targetBuy, r₁.decision.targetSell, c.cross⟩) :=
    readCurrent_yields hsell hbuy (hcross.yields (readCurrent_ok hc).2.2)
  -- it gets the same reference quote and lending answer, so the same plan
  have hquote : if ({ opts with tolerance := tol } : PricingOptions).hasExplicitPair then q = Quote.empty
      else Yields ((e.withCurrent buy sell).referenceQuote { opts with tolerance := tol }) (.ok q) :=
    QuoteAnswer.yields_of_determined hq hqa
  have hplan : Yields ((e.withCurrent buy sell).plan { opts with tolerance := tol }
      ⟨r₁.decision.targetBuy, r₁.decision.targetSell, c.cross⟩ q)
      (.ok ((e.withCurrent buy sell).report { opts with tolerance := tol }
        ⟨r₁.decision.targetBuy, r₁.decision.targetSell, c.cross⟩ q t tag b)) :=
    plan_yields ht htv (lendingBounds_yields hlend hb)
  -- its decision is between the previous targets and the same prices
  have hdec : ((e.withCurrent buy sell).report { opts with tolerance := tol }
      ⟨r₁.decision.targetBuy, r₁.decision.targetSell, c.cross⟩ q t tag b).decision =
      Decision.ofTargets ⟨r₁.decision.targetBuy, r₁.decision.targetSell⟩
        ⟨r₁.decision.targetBuy, r₁.decision.targetSell, c.cross⟩ tol opts.dryRun := by
    rw [report_decision, hr₁]
    rfl
  have hsettled := ofTargets_settled ⟨r₁.decision.targetBuy, r₁.decision.targetSell⟩ c.cross opts.dryRun htol
  refine ⟨_, run_yields (attempt_yields (prepare_yields (validate_withTolerance hv htol) hread hquote hplan) ?_),
    ?_, ?_⟩
  · rw [hdec]
    exact hsettled.2.2.2
  · refine ⟨by rw [hdec]; rfl, by rw [hdec]; rfl, ?_, ?_, ?_⟩ <;> rw [hr₁] <;> rfl
  · rw [hdec]
    exact hsettled

/-- The plan of a run does not depend on the contract's current prices, and a contract that
holds a run's targets is a fixpoint, when every other collaborator the plan asks answers a
fixed value: two engines that differ only in the contract's buy and sell prices decide on
the same targets, bounds, adjustments and strategy in any two successful runs; and when the
contract answers a successful run's targets, the next run, with any tolerance that is not
negative, succeeds from every state of the world with that plan, no distance on either
side, the tolerance not exceeded and nothing to submit. -/
theorem run_fixpoint_of_targets (e : Engine (StateM σ)) (opts : PricingOptions)
    (hcross : Determined e.contract.crossPrice) (hliq : Determined e.contract.liquidityAsset)
    (hbase : Determined e.contract.baseAsset)
    (href : ∀ p ∈ e.reference, ∀ pr amt, Determined (p.getPrice pr amt)) (hrates : ∀ r ∈ e.rates, Determined r)
    (hlend : ∀ l ∈ e.lending, ∀ inp, Determined (l inp)) :
    (∀ (buy₁ sell₁ buy₂ sell₂ : StateM σ (Outcome Price)) (r₁ r₂ : RunReport),
      Answers ((e.withCurrent buy₁ sell₁).run opts) (.ok r₁) →
      Answers ((e.withCurrent buy₂ sell₂).run opts) (.ok r₂) → r₁.SamePlan r₂) ∧
    (∀ (r₁ : RunReport) (buy sell : StateM σ (Outcome Price)) (tol : Decimal),
      Answers (e.run opts) (.ok r₁) → Yields buy (.ok r₁.decision.targetBuy) →
      Yields sell (.ok r₁.decision.targetSell) → tol.isNeg = false →
      ∃ r₃, Yields ((e.withCurrent buy sell).run { opts with tolerance := tol }) (.ok r₃) ∧
        r₃.SamePlan r₁ ∧ r₃.decision.Settled) := by
  -- the reference quote is determined when the collaborators it asks are
  have hq : Determined (e.referenceQuote opts) :=
    referenceQuote_stable Determined.stable (Quiet.determined e) hliq hbase href hrates
  refine ⟨fun buy₁ sell₁ buy₂ sell₂ r₁ r₂ h₁ h₂ => ?_, fun r₁ buy sell tol h₁ hbuy hsell htol => ?_⟩
  · exact samePlan_of_runs hcross hq hlend h₁ h₂
  · exact run_settles_at_targets hcross hq hlend h₁ hbuy hsell htol

end Engine

theorem fixed_run_is_fixpoint :
    Determined fixedEngine.contract.crossPrice ∧ Determined fixedEngine.contract.liquidityAsset ∧
    Determined fixedEngine.contract.baseAsset ∧
    (∀ p ∈ fixedEngine.reference, ∀ pr amt, Determined (p.getPrice pr amt)) ∧
    (∀ r ∈ fixedEngine.rates, Determined r) ∧ (∀ l ∈ fixedEngine.lending, ∀ inp, Determined (l inp)) ∧
    ∃ r₁, Answers (fixedEngine.run feeOptions) (.ok r₁) ∧
      ∃ r₃, Yields ((fixedEngine.withCurrent (pure (.ok r₁.decision.targetBuy))
          (pure (.ok r₁.decision.targetSell))).run { feeOptions with tolerance := Decimal.zero }) (.ok r₃) ∧
        r₃.SamePlan r₁ ∧ r₃.decision.Settled := by
  have href : ∀ p ∈ fixedEngine.reference, ∀ pr amt, Determined (p.getPrice pr amt) := by
    intro p hp pr amt
    cases hp
    exact Determined.pure _
  have hrates : ∀ r ∈ fixedEngine.rates, Determined r := fun r h => absurd h (Option.not_mem_none r)
  have hlend : ∀ l ∈ fixedEngine.lending, ∀ inp, Determined (l inp) := by
    intro l hl inp
    cases hl
    exact Determined.pure _
  have hfix := Engine.run_fixpoint_of_targets fixedEngine feeOptions (Determined.pure _) (Determined.pure _)
    (Determined.pure _) href hrates hlend
  obtain ⟨r₁, hr₁⟩ : ∃ r₁, ((fixedEngine.run feeOptions).run ()).1 = .ok r₁ := ⟨_, rfl⟩
  exact ⟨Determined.pure _, Determined.pure _, Determined.pure _, href, hrates, hlend, r₁, ⟨(), hr₁⟩,
    hfix.2 r₁ _ _ Decimal.zero ⟨(), hr₁⟩ (Yields.pure _) (Yields.pure _) rfl⟩

end QuoteKeeper
