import QuoteKeeper.Engine.Run
/-
  QuoteKeeper.Proofs.EngineStages — what each stage of a pricing run can answer, whatever
  its collaborators do.

  The collaborators of an engine are actions on a world `σ` (`StateM σ`), so a stub may
  answer anything and change anything, and may answer differently from one state of the
  world to the next. Three notions describe such an action:
  * `Answers x a`: from some state of the world, `x` answers `a`. A run's answer decomposes
    into answers of the steps it took (`Answers.of_bind`), which is how a property of every
    successful run is read back from its stages.
  * `Yields x a`: from every state of the world, `x` answers `a`. A run whose steps all yield
    yields (`Yields.bind`), which is how a run is shown to succeed.
  * `Determined x`: `x` answers the same from every state, as a stub with a fixed answer does.
    What answers a `Unit` is determined, and determined steps make a determined run
    (`Determined.bind`); a determined action that can answer `a` yields it.

  The report of a run that reached its decision is `Engine.report`, with one `@[simp]` lemma
  per field, beside those of `Decision.ofTargets`.

  Proved, one lemma per stage of `Engine.run`:
  (1) backward, for a run that answers a report: `readCurrent_ok`, `lendingBounds_ok`,
      `plan_ok` (the report is `Engine.report` of the targets and the lending answer),
      `prepare_ok`, `attempt_ok`, `run_ok` (through `finish_yields`: recording an outcome
      never changes it), and `run_ok_report` for all of them at once;
  (2) inheritance: a property of actions that `pure` has and `bind` keeps (`Stable`) holds
      of every stage before submission when it holds of the collaborators that stage asks
      (`readCurrent_stable`, `pair_stable`, `getPrice_stable`, `referenceQuote_stable`,
      `lendingBounds_stable`, `plan_stable`, `prepare_stable`); the collaborators a run only
      reports to are grouped in `Quiet`. Being determined is such a property
      (`Determined.stable`), and reporting is always determined (`Quiet.determined`);
  (3) forward: `readCurrent_yields`, `plan_yields`, `prepare_yields`, `attempt_yields`,
      `run_yields`.
  `fixedEngine` answers fixed values everywhere; the witnesses of the run theorems run it.
-/

namespace QuoteKeeper

section World

variable {σ α β : Type}

/-- From some state of the world, `x` answers `a`. -/
def Answers (x : StateM σ α) (a : α) : Prop := ∃ w, (x.run w).1 = a

/-- From every state of the world, `x` answers `a`. -/
def Yields (x : StateM σ α) (a : α) : Prop := ∀ w, (x.run w).1 = a

/-- `x` answers the same whatever the state of the world. -/
def Determined (x : StateM σ α) : Prop := ∀ a b, Answers x a → Answers x b → a = b

theorem answers_run (x : StateM σ α) (w : σ) : Answers x (x.run w).1 := ⟨w, rfl⟩

theorem Answers.of_bind {x : StateM σ α} {f : α → StateM σ β} {b : β} (h : Answers (x >>= f) b) :
    ∃ a, Answers x a ∧ Answers (f a) b := by
  obtain ⟨w, hw⟩ := h
  exact ⟨(x.run w).1, answers_run x w, ⟨(x.run w).2, hw⟩⟩

theorem Answers.of_pure {a b : α} (h : Answers (pure a : StateM σ α) b) : b = a := by
  obtain ⟨w, hw⟩ := h
  exact hw.symm

theorem Yields.bind {x : StateM σ α} {f : α → StateM σ β} {a : α} {b : β} (hx : Yields x a)
    (hf : Yields (f a) b) : Yields (x >>= f) b := by
  intro w
  show ((f (x.run w).1).run (x.run w).2).1 = b
  rw [hx w]
  exact hf _

/-- A step whose answer the rest of the run ignores. -/
theorem Yields.bind_any {x : StateM σ α} {f : α → StateM σ β} {b : β} (hf : ∀ a, Yields (f a) b) :
    Yields (x >>= f) b :=
  fun w => hf (x.run w).1 (x.run w).2

theorem Yields.pure (a : α) : Yields (pure a : StateM σ α) a := fun _ => rfl

theorem Yields.unit (x : StateM σ Unit) : Yields x () := fun _ => rfl

theorem Yields.eq_of_answers {x : StateM σ α} {a b : α} (hx : Yields x a) (hb : Answers x b) : b = a := by
  obtain ⟨w, hw⟩ := hb
  rw [← hw, hx w]

theorem Determined.yields {x : StateM σ α} {a : α} (hd : Determined x) (ha : Answers x a) : Yields x a :=
  fun w => hd _ _ (answers_run x w) ha

theorem Determined.pure (a : α) : Determined (pure a : StateM σ α) := by
  intro b c hb hc
  rw [hb.of_pure, hc.of_pure]

theorem Determined.unit (x : StateM σ Unit) : Determined x := fun _ _ _ _ => rfl

theorem Determined.bind {x : StateM σ α} {f : α → StateM σ β} (hx : Determined x) (hf : ∀ a, Determined (f a)) :
    Determined (x >>= f) := by
  intro b c hb hc
  obtain ⟨a, ha, hb⟩ := hb.of_bind
  obtain ⟨a', ha', hc⟩ := hc.of_bind
  obtain rfl := hx _ _ ha ha'
  exact hf a _ _ hb hc

/-- A property of world actions that `pure` has and `bind` keeps. Every stage of a run is
built from its collaborators by `pure`, `bind` and case splits, so it has such a property
when its collaborators do (section (2)). -/
structure Stable (P : {α : Type} → StateM σ α → Prop) : Prop where
  pure {α : Type} (a : α) : P (pure a : StateM σ α)
  bind {α β : Type} {x : StateM σ α} {f : α → StateM σ β} : P x → (∀ a, P (f a)) → P (x >>= f)

theorem Determined.stable : Stable (σ := σ) (fun x => Determined x) :=
  ⟨Determined.pure, Determined.bind⟩

/-- A loop whose body has a stable property has it. -/
theorem Stable.forIn {P : {α : Type} → StateM σ α → Prop} (hP : Stable P) {γ : Type} (l : List γ) (b : β)
    {f : γ → β → StateM σ (ForInStep β)} (hf : ∀ a b, P (f a b)) : P (forIn l b f) := by
  induction l generalizing b with
  | nil => exact hP.pure b
  | cons a l ih =>
    rw [List.forIn_cons]
    refine hP.bind (hf a b) fun r => ?_
    cases r with
    | done b' => exact hP.pure b'
    | yield b' => exact ih b'

end World

namespace Decision

variable (target : Targets) (current : Current) (tolerance : Decimal) (dryRun : Bool)

@[simp] theorem targetBuy_ofTargets : (ofTargets target current tolerance dryRun).targetBuy = target.buy := rfl
@[simp] theorem targetSell_ofTargets : (ofTargets target current tolerance dryRun).targetSell = target.sell := rfl
@[simp] theorem diffBuy_ofTargets :
    (ofTargets target current tolerance dryRun).diffBuy = target.buy.absDiff current.buy := rfl
@[simp] theorem diffSell_ofTargets :
    (ofTargets target current tolerance dryRun).diffSell = target.sell.absDiff current.sell := rfl
@[simp] theorem exceeded_ofTargets :
    (ofTargets target current tolerance dryRun).exceeded =
      ((target.buy.absDiff current.buy).cmp (Price.ofBps tolerance priceScale) == .gt ||
        (target.sell.absDiff current.sell).cmp (Price.ofBps tolerance priceScale) == .gt) := rfl
@[simp] theorem shouldSubmit_ofTargets :
    (ofTargets target current tolerance dryRun).shouldSubmit =
      ((ofTargets target current tolerance dryRun).exceeded && !dryRun) := rfl

end Decision

namespace Engine

variable {σ : Type} {e : Engine (StateM σ)} {opts : PricingOptions}

/-- The report of a run that reached its decision with targets `t` (from strategy `tag`) and
lending answer `b`, before anything is submitted. -/
def report {m : Type → Type} (e : Engine m) (opts : PricingOptions) (c : Current) (q : Quote) (t : Targets) (tag : String)
    (b : Lending.Bounds) : RunReport :=
  let applied := (e.range opts b).apply t c.cross
  ⟨Decision.ofTargets applied.1 c opts.tolerance opts.dryRun, q, tag, b, applied.2, ""⟩

section Report

variable {m : Type → Type} (e : Engine m) (opts : PricingOptions) (c : Current) (q : Quote) (t : Targets)
  (tag : String) (b : Lending.Bounds)

@[simp] theorem report_decision :
    (e.report opts c q t tag b).decision =
      Decision.ofTargets ((e.range opts b).apply t c.cross).1 c opts.tolerance opts.dryRun := rfl
@[simp] theorem report_strategy : (e.report opts c q t tag b).strategy = tag := rfl
@[simp] theorem report_bounds : (e.report opts c q t tag b).bounds = b := rfl
@[simp] theorem report_adjustments :
    (e.report opts c q t tag b).adjustments = ((e.range opts b).apply t c.cross).2 := rfl

end Report

/-- A lending answer a run can get: the calculator's, when the run asks it, else none. -/
def LendingAnswer (e : Engine (StateM σ)) (opts : PricingOptions) (q : Quote) (b : Lending.Bounds) : Prop :=
  match opts.hasExplicitPair, e.lending with
  | false, some lend => Answers (lend (opts.lendingInput q)) (.ok b)
  | _, _ => b = Lending.Bounds.none

/-- The reference quote a run can get: none for explicit prices, else the fetched one. -/
def QuoteAnswer (e : Engine (StateM σ)) (opts : PricingOptions) (q : Quote) : Prop :=
  if opts.hasExplicitPair then q = Quote.empty else Answers (e.referenceQuote opts) (.ok q)

/-! ## (1) What a successful run's stages answered -/

theorem readCurrent_ok {c : Current} (h : Answers e.readCurrent (.ok c)) :
    Answers e.contract.sellPrice (.ok c.sell) ∧ Answers e.contract.buyPrice (.ok c.buy) ∧
      Answers e.contract.crossPrice (.ok c.cross) := by
  unfold readCurrent at h
  obtain ⟨so, hs, h⟩ := h.of_bind
  cases so with
  | error err => cases h.of_pure
  | ok sell =>
    obtain ⟨bo, hb, h⟩ := h.of_bind
    cases bo with
    | error err => cases h.of_pure
    | ok buy =>
      obtain ⟨co, hc, h⟩ := h.of_bind
      cases co with
      | error err => cases h.of_pure
      | ok cross =>
        cases h.of_pure
        exact ⟨hs, hb, hc⟩

theorem lendingBounds_ok {q : Quote} {b : Lending.Bounds} (h : Answers (e.lendingBounds opts q) (.ok b)) :
    e.LendingAnswer opts q b := by
  unfold lendingBounds at h
  unfold LendingAnswer
  cases hx : opts.hasExplicitPair
  · cases hl : e.lending with
    | none =>
      simp only [hx, hl] at h ⊢
      simpa using h.of_pure
    | some lend =>
      simp only [hx, hl] at h ⊢
      obtain ⟨r, hr, h⟩ := h.of_bind
      cases r with
      | error err => cases h.of_pure
      | ok b' =>
        dsimp only at h
        -- the contradiction alert, when it is raised, answers nothing
        have hb : b = b' := by
          split at h
          · obtain ⟨_, -, h⟩ := h.of_bind
            simpa using h.of_pure
          · simpa using h.of_pure
        subst hb
        exact hr
  · simp only [hx] at h ⊢
    simpa using h.of_pure

/-- A successful planning stage reports the range and the decision for the strategy's
targets and the lending answer. -/
theorem plan_ok {c : Current} {q : Quote} {r : RunReport} (h : Answers (e.plan opts c q) (.ok r)) :
    ∃ t tag b, targets opts q = .ok (t, tag) ∧ t.valid ∧ e.LendingAnswer opts q b ∧
      r = e.report opts c q t tag b := by
  unfold plan at h
  obtain ⟨_, -, h⟩ := h.of_bind
  obtain ⟨_, -, h⟩ := h.of_bind
  split at h
  · cases h.of_pure
  · rename_i t tag ht
    split at h
    · cases h.of_pure
    · rename_i hv
      obtain ⟨_, -, h⟩ := h.of_bind
      obtain ⟨bo, hb, h⟩ := h.of_bind
      cases bo with
      | error err => cases h.of_pure
      | ok b =>
        obtain ⟨_, -, h⟩ := h.of_bind
        obtain ⟨_, -, h⟩ := h.of_bind
        obtain ⟨_, -, h⟩ := h.of_bind
        refine ⟨t, tag, b, ht, by simpa using hv, lendingBounds_ok hb, ?_⟩
        cases h.of_pure
        rfl

theorem quoteBranch_ok {q : Quote} (h : Answers (e.quoteBranch opts) (.ok q)) : e.QuoteAnswer opts q := by
  unfold quoteBranch at h
  unfold QuoteAnswer
  -- the reference quote is fetched only for derived prices
  by_cases hx : opts.hasExplicitPair = true
  · rw [if_pos hx] at h ⊢
    cases h.of_pure
    rfl
  · rw [if_neg hx] at h ⊢
    exact h

theorem prepare_ok {r : RunReport} (h : Answers (e.prepare opts) (.ok r)) :
    opts.validate = .ok () ∧
      ∃ c q, Answers e.readCurrent (.ok c) ∧ e.QuoteAnswer opts q ∧ Answers (e.plan opts c q) (.ok r) := by
  unfold prepare at h
  cases hv : opts.validate with
  | error err => rw [hv] at h; cases h.of_pure
  | ok u =>
    rw [hv] at h
    refine ⟨rfl, ?_⟩
    -- the reference branch, then the contract's prices; a failure of either fails the run
    obtain ⟨qo, hq, h⟩ := h.of_bind
    obtain ⟨co, hc, h⟩ := h.of_bind
    cases qo with
    | error err => cases co <;> cases h.of_pure
    | ok q =>
      cases co with
      | error err => cases h.of_pure
      | ok c => exact ⟨c, q, hc, quoteBranch_ok hq, h⟩

/-- A successful run without its reporting is its decision, with the transaction hash when
it submitted. -/
theorem attempt_ok {r : RunReport} (h : Answers (e.attempt opts) (.ok r)) :
    ∃ report, Answers (e.prepare opts) (.ok report) ∧ r = { report with txHash := r.txHash } := by
  unfold attempt at h
  obtain ⟨po, hp, h⟩ := h.of_bind
  cases po with
  | error err => cases h.of_pure
  | ok report =>
    refine ⟨report, hp, ?_⟩
    dsimp only at h
    split at h
    · cases h.of_pure
      rfl
    · obtain ⟨so, -, h⟩ := h.of_bind
      cases so with
      | error err => cases h.of_pure
      | ok hash =>
        cases h.of_pure
        rfl

/-- Recording a run's outcome does not change it, whatever the collaborators answer. -/
theorem finish_yields (start : Int) (o : Outcome RunReport) : Yields (e.finish start o) o := by
  unfold finish
  split
  · exact Yields.pure _
  · exact Yields.bind (Yields.unit _) (Yields.bind (Yields.unit _)
      (Yields.bind (Yields.unit _) (Yields.bind (Yields.unit _) (Yields.pure _))))
  · exact Yields.bind (Yields.unit _) (Yields.bind_any fun _ => Yields.bind (Yields.unit _) (Yields.pure _))

theorem run_ok {r : RunReport} (h : Answers (e.run opts) (.ok r)) : Answers (e.attempt opts) (.ok r) := by
  unfold run at h
  obtain ⟨start, -, h⟩ := h.of_bind
  obtain ⟨o, ho, h⟩ := h.of_bind
  obtain rfl := (finish_yields start o).eq_of_answers h
  exact ho

/-- What a run that answers a report validated, read and decided, in one statement. -/
theorem run_ok_report {r : RunReport} (h : Answers (e.run opts) (.ok r)) :
    opts.validate = .ok () ∧ ∃ c q t tag b, Answers e.readCurrent (.ok c) ∧ e.QuoteAnswer opts q ∧
      targets opts q = .ok (t, tag) ∧ t.valid ∧ e.LendingAnswer opts q b ∧
      r = { e.report opts c q t tag b with txHash := r.txHash } := by
  obtain ⟨report, hprep, hr⟩ := attempt_ok (run_ok h)
  obtain ⟨hv, c, q, hc, hq, hplan⟩ := prepare_ok hprep
  obtain ⟨t, tag, b, ht, htv, hb, rfl⟩ := plan_ok hplan
  exact ⟨hv, c, q, t, tag, b, hc, hq, ht, htv, hb, hr⟩

/-! ## (2) Properties every stage inherits from its collaborators -/

/-- The collaborators a run only reports to: the log sink, the gauges it sets and the
contradiction alert. Every pricing stage before submission is built from these, the
contract reads, the reference source, the rate source and the lending calculator. -/
structure Quiet (P : {α : Type} → StateM σ α → Prop) (e : Engine (StateM σ)) : Prop where
  sink : ∀ entry, P (e.logger.sink entry)
  setReference : ∀ arm m b s, P (e.metrics.setReference arm m b s)
  setTargets : ∀ arm b s, P (e.metrics.setTargets arm b s)
  setCurrent : ∀ arm b s, P (e.metrics.setCurrent arm b s)
  setDiffs : ∀ arm b s, P (e.metrics.setDiffs arm b s)
  setLending : ∀ arm y d, P (e.metrics.setLending arm y d)
  boundContradiction : ∀ arm b m, P (e.alerts.boundContradiction arm b m)

/-- Reporting answers nothing, so it is determined. -/
theorem Quiet.determined (e : Engine (StateM σ)) : Quiet (fun x => Determined x) e :=
  ⟨fun _ => Determined.unit _, fun _ _ _ _ => Determined.unit _, fun _ _ _ => Determined.unit _,
    fun _ _ _ => Determined.unit _, fun _ _ _ => Determined.unit _, fun _ _ _ => Determined.unit _,
    fun _ _ _ => Determined.unit _⟩

section Inherit

variable {P : {α : Type} → StateM σ α → Prop} (hP : Stable P)
include hP

theorem readCurrent_stable (hs : P e.contract.sellPrice) (hb : P e.contract.buyPrice)
    (hc : P e.contract.crossPrice) : P e.readCurrent := by
  unfold readCurrent
  refine hP.bind hs fun so => ?_
  cases so with
  | error err => exact hP.pure _
  | ok sell =>
    refine hP.bind hb fun bo => ?_
    cases bo with
    | error err => exact hP.pure _
    | ok buy =>
      refine hP.bind hc fun co => ?_
      cases co <;> exact hP.pure _

theorem pair_stable (hl : P e.contract.liquidityAsset) (hb : P e.contract.baseAsset) : P (e.pair opts) := by
  unfold pair
  split
  · exact hP.pure _
  · refine hP.bind hl fun lo => ?_
    cases lo with
    | error err => exact hP.pure _
    | ok liq =>
      refine hP.bind hb fun bo => ?_
      cases bo <;> exact hP.pure _

/-- The provider a run asks has the property when the configured provider and the rate
source do: a mid price is a constant, and a wrapped quote is a quote divided by a rate. -/
theorem getPrice_stable (href : ∀ p ∈ e.reference, ∀ pr amt, P (p.getPrice pr amt))
    (hrates : ∀ r ∈ e.rates, P r) {p : Provider (StateM σ)} (hp : e.provider opts = .ok p)
    (pr : Pair) (amt : Option Int) : P (p.getPrice pr amt) := by
  unfold provider at hp
  cases hm : opts.midPrice with
  | some mid =>
    simp only [hm] at hp
    cases hp
    exact hP.pure _
  | none =>
    cases hr : e.reference with
    | none => simp [hm, hr] at hp
    | some p' =>
      have hp' := href p' (Option.mem_def.mpr hr) pr amt
      simp only [hm, hr] at hp
      split at hp
      · cases hrs : e.rates with
        | none => simp [hrs] at hp
        | some r =>
          simp only [hrs, Except.ok.injEq] at hp
          subst hp
          refine hP.bind hp' fun qo => ?_
          cases qo with
          | error err => exact hP.pure _
          | ok q =>
            refine hP.bind (hrates r (Option.mem_def.mpr hrs)) fun ro => ?_
            cases ro <;> exact hP.pure _
      · cases hp
        exact hp'

variable (hq : Quiet P e)
include hq

theorem referenceQuote_stable (hl : P e.contract.liquidityAsset) (hb : P e.contract.baseAsset)
    (href : ∀ p ∈ e.reference, ∀ pr amt, P (p.getPrice pr amt)) (hrates : ∀ r ∈ e.rates, P r) :
    P (e.referenceQuote opts) := by
  unfold referenceQuote
  cases hp : e.provider opts with
  | error err => exact hP.pure _
  | ok p =>
    refine hP.bind (pair_stable hP hl hb) fun po => ?_
    cases po with
    | error err => exact hP.pure _
    | ok pr =>
      refine hP.bind (getPrice_stable hP href hrates hp pr _) fun qo => ?_
      cases qo with
      | error err => exact hP.pure _
      | ok q => exact hP.bind (hq.sink _) fun _ => hP.bind (hq.setReference _ _ _ _) fun _ => hP.pure _

theorem logBounds_stable (b : Lending.Bounds) (mid : Price) : P (e.logBounds b mid) := by
  unfold logBounds
  refine hP.bind (hq.sink _) fun _ => hP.bind (hq.setLending _ _ _) fun _ => ?_
  split
  · exact hP.bind (hq.sink _) fun _ => hq.boundContradiction _ _ _
  · exact hP.pure _

theorem lendingBounds_stable (hlend : ∀ l ∈ e.lending, ∀ inp, P (l inp)) (q : Quote) :
    P (e.lendingBounds opts q) := by
  unfold lendingBounds
  cases hx : opts.hasExplicitPair
  · cases hl : e.lending with
    | none =>
      simp only
      exact hP.pure _
    | some lend =>
      simp only
      refine hP.bind (hlend lend (Option.mem_def.mpr hl) _) fun bo => ?_
      cases bo with
      | error err => exact hP.pure _
      | ok b =>
        dsimp only
        split
        · exact hP.bind (logBounds_stable hP hq b _) fun _ => hP.pure _
        · exact hP.pure _
  · simp only
    exact hP.pure _

theorem logAdjustments_stable (adjustments : List Adjustment) : P (e.logAdjustments adjustments) := by
  unfold logAdjustments
  exact hP.forIn _ _ fun _ _ => hP.bind (hq.sink _) fun _ => hP.pure _

theorem logDecision_stable (d : Decision) : P (e.logDecision d) := by
  unfold logDecision
  refine hP.bind (hq.setDiffs _ _ _) fun _ => hP.bind (hq.sink _) fun _ => ?_
  split
  · exact hq.sink _
  · exact hP.pure _

theorem plan_stable (hlend : ∀ l ∈ e.lending, ∀ inp, P (l inp)) (c : Current) (q : Quote) :
    P (e.plan opts c q) := by
  unfold plan
  refine hP.bind (hq.sink _) fun _ => hP.bind (hq.setCurrent _ _ _) fun _ => ?_
  split
  · exact hP.pure _
  · dsimp only
    split
    · exact hP.pure _
    · refine hP.bind (hq.sink _) fun _ => hP.bind (lendingBounds_stable hP hq hlend q) fun bo => ?_
      cases bo with
      | error err => exact hP.pure _
      | ok b =>
        exact hP.bind (logAdjustments_stable hP hq _) fun _ => hP.bind (hq.setTargets _ _ _) fun _ =>
          hP.bind (logDecision_stable hP hq _) fun _ => hP.pure _

/-- Everything before submission has the property when the contract, the reference source,
the rate source, the lending calculator and the reporting collaborators do. -/
theorem prepare_stable (hs : P e.contract.sellPrice) (hb : P e.contract.buyPrice) (hc : P e.contract.crossPrice)
    (hl : P e.contract.liquidityAsset) (hbase : P e.contract.baseAsset)
    (href : ∀ p ∈ e.reference, ∀ pr amt, P (p.getPrice pr amt)) (hrates : ∀ r ∈ e.rates, P r)
    (hlend : ∀ l ∈ e.lending, ∀ inp, P (l inp)) : P (e.prepare opts) := by
  -- the reference quote is fetched only for derived prices
  have hquote : P (e.quoteBranch opts) := by
    unfold quoteBranch
    split
    · exact hP.pure _
    · exact referenceQuote_stable hP hq hl hbase href hrates
  unfold prepare
  split
  · exact hP.pure _
  · refine hP.bind hquote fun qo => hP.bind (readCurrent_stable hP hs hb hc) fun co => ?_
    split
    · exact hP.pure _
    · exact hP.pure _
    · exact plan_stable hP hq hlend _ _

end Inherit

/-! ## (3) Runs that succeed -/

theorem readCurrent_yields {buy sell cross : Price} (hs : Yields e.contract.sellPrice (.ok sell))
    (hb : Yields e.contract.buyPrice (.ok buy)) (hc : Yields e.contract.crossPrice (.ok cross)) :
    Yields e.readCurrent (.ok ⟨buy, sell, cross⟩) := by
  unfold readCurrent
  exact Yields.bind hs (Yields.bind hb (Yields.bind hc (Yields.pure _)))

theorem plan_yields {c : Current} {q : Quote} {t : Targets} {tag : String} {b : Lending.Bounds}
    (ht : targets opts q = .ok (t, tag)) (hv : t.valid) (hb : Yields (e.lendingBounds opts q) (.ok b)) :
    Yields (e.plan opts c q) (.ok (e.report opts c q t tag b)) := by
  unfold plan
  refine Yields.bind (Yields.unit _) (Yields.bind (Yields.unit _) ?_)
  rw [ht]
  dsimp only
  rw [if_neg (by simp [hv])]
  refine Yields.bind (Yields.unit _) (Yields.bind hb ?_)
  exact Yields.bind (Yields.unit _) (Yields.bind (Yields.unit _) (Yields.bind (Yields.unit _) (Yields.pure _)))

theorem prepare_yields {c : Current} {q : Quote} {r : RunReport} (hv : opts.validate = .ok ())
    (hc : Yields e.readCurrent (.ok c))
    (hq : if opts.hasExplicitPair then q = Quote.empty else Yields (e.referenceQuote opts) (.ok q))
    (hp : Yields (e.plan opts c q) (.ok r)) : Yields (e.prepare opts) (.ok r) := by
  have hquote : Yields (e.quoteBranch opts) (.ok q) := by
    unfold quoteBranch
    by_cases hx : opts.hasExplicitPair = true
    · rw [if_pos hx] at hq ⊢
      subst hq
      exact Yields.pure _
    · rw [if_neg hx] at hq ⊢
      exact hq
  unfold prepare
  rw [hv]
  exact Yields.bind hquote (Yields.bind hc hp)

/-- A run whose decision does not call for submission answers that decision. -/
theorem attempt_yields {r : RunReport} (hp : Yields (e.prepare opts) (.ok r)) (hs : r.decision.shouldSubmit = false) :
    Yields (e.attempt opts) (.ok r) := by
  unfold attempt
  refine Yields.bind hp ?_
  dsimp only
  rw [if_pos (by simp [hs])]
  exact Yields.pure _

theorem run_yields {r : RunReport} (h : Yields (e.attempt opts) (.ok r)) : Yields (e.run opts) (.ok r) := by
  unfold run
  exact Yields.bind_any fun start => Yields.bind h (finish_yields start _)

end Engine

/-- An engine whose collaborators answer fixed values: a contract at buy 1, sell 2 and
cross 1.6, a reference quote at mid 2 (buy 1.9, sell 2.1), and lending buy bounds
[1.7, 1.8]. On the fee strategy at 100 bps the buy target 1.98 is brought under the lending
maximum and then one unit under the cross price. -/
def fixedEngine : Engine (StateM Unit) :=
  ⟨"arm", ⟨pure (.ok (.set 1 0)), pure (.ok (.set 2 0)), pure (.ok (.set 16 1)), pure (.ok Address.zero),
    pure (.ok Address.zero)⟩, none, none,
    some ⟨"ref", fun _ _ => pure (.ok ⟨"ref", .set 2 0, .set 19 1, .set 21 1⟩)⟩, none,
    some fun _ => pure (.ok { Lending.Bounds.none with minBuy := .set 17 1, maxBuy := .set 18 1 }),
    Logger.nop, Metrics.nop, Notifier.nop, pure 0⟩

/-- The fee strategy at 100 bps, as a dry run, with nothing else set. -/
def feeOptions : PricingOptions := { PricingOptions.default with fee := Decimal.ofInt 100, dryRun := true }

end QuoteKeeper
