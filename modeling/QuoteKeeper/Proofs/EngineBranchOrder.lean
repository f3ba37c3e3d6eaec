import QuoteKeeper.Proofs.EngineSubmission
/-
  QuoteKeeper.Proofs.EngineBranchOrder — a run's two concurrent branches, the contract read
  and the reference fetch, and the order in which they complete.

  The run reads the contract's prices and fetches the reference quote at once, waits for both,
  and fails with the error of the branch that failed first. `Engine.run` takes the reference
  branch first; `runIn lead` is the run in which the branch `lead` completes first, and
  `run_eq_runIn` says the two agree for `lead = .reference`.

  With the contract's price reads stubs of fixed answers that leave the world as it is
  (`Inert`, a property every stage inherits from its collaborators, `Inert.stable`), both
  branches leave the world where the reference branch leaves it, in either order
  (`branches_run`). So `run_order_matters_only_when_both_fail`: the order changes neither
  the answer nor the world and its log unless both branches fail, and when both fail the run
  fails with, and records, the error of the branch that completes first.
  `both_failing_branches_race`: a failing sell price read and a rate-limited reference give
  two runs with different errors and different kinds.
-/

namespace QuoteKeeper

section World

variable {σ α : Type}

/-- A stub with a fixed answer that leaves the world as it is. -/
def Inert (x : StateM σ α) : Prop := ∃ a, ∀ w, x.run w = (a, w)

/-- Fixed answers are kept by `pure` and `bind`, so every stage built from inert collaborators
is inert. -/
theorem Inert.stable : Stable (σ := σ) (fun x => Inert x) := by
  refine ⟨fun a => ⟨a, fun _ => rfl⟩, ?_⟩
  rintro α β x f ⟨a, ha⟩ hf
  obtain ⟨b, hb⟩ := hf a
  exact ⟨b, fun w => by
    show (f (x.run w).1).run (x.run w).2 = (b, w)
    rw [ha w, hb w]⟩

end World

namespace Engine

section Order

variable {m : Type → Type} [Monad m]

/-- Which of the two branches of a run completes first: the contract read or the reference
fetch. -/
inductive Lead where
  | contract
  | reference
  deriving DecidableEq, Repr

/-- What waiting on both branches answers: the error of the first to complete with one, else
both answers. -/
def Lead.wait : Lead → Outcome Current → Outcome Quote → Outcome (Current × Quote)
  | _, .ok c, .ok q => .ok (c, q)
  | .contract, .error err, _ => .error err
  | .contract, .ok _, .error err => .error err
  | .reference, _, .error err => .error err
  | .reference, .error err, .ok _ => .error err

/-- Both branches, the one that completes first run first. -/
def branches (e : Engine m) (opts : PricingOptions) : Lead → m (Outcome Current × Outcome Quote)
  | .contract => do
    let c ← e.readCurrent
    let q ← e.quoteBranch opts
    pure (c, q)
  | .reference => do
    let q ← e.quoteBranch opts
    let c ← e.readCurrent
    pure (c, q)

/-- The run up to its decision, with the branches completing in the order `lead` says. -/
def prepareIn (e : Engine m) (lead : Lead) (opts : PricingOptions) : m (Outcome RunReport) := do
  match opts.validate with
  | .error err => pure (.error err)
  | .ok () =>
    let r ← e.branches opts lead
    match lead.wait r.1 r.2 with
    | .error err => pure (.error err)
    | .ok (c, q) => e.plan opts c q

/-- The run without its reporting, with the branches completing in the order `lead` says. -/
def attemptIn (e : Engine m) (lead : Lead) (opts : PricingOptions) : m (Outcome RunReport) := do
  match ← e.prepareIn lead opts with
  | .error err => pure (.error err)
  | .ok report =>
    if !report.decision.shouldSubmit then return .ok report
    match ← e.submit report.decision opts.confirm with
    | .error err => pure (.error err)
    | .ok hash => pure (.ok { report with txHash := hash })

/-- One run, with the branches completing in the order `lead` says. -/
def runIn (e : Engine m) (lead : Lead) (opts : PricingOptions) : m (Outcome RunReport) := do
  let start ← e.clock
  e.finish start (← e.attemptIn lead opts)

variable [LawfulMonad m]

/-- The model's preparation is the one where the reference branch completes first. -/
theorem prepare_eq_prepareIn (e : Engine m) (opts : PricingOptions) :
    e.prepare opts = e.prepareIn .reference opts := by
  unfold prepare prepareIn branches
  cases opts.validate with
  | error err => rfl
  | ok u =>
    simp only [bind_assoc, pure_bind]
    refine bind_congr fun q => bind_congr fun c => ?_
    cases c <;> cases q <;> rfl

theorem attempt_eq_attemptIn (e : Engine m) (opts : PricingOptions) :
    e.attempt opts = e.attemptIn .reference opts := by
  unfold attempt attemptIn
  -- the two continuations differ only in their match auxiliaries
  exact congrArg (· >>= _) (prepare_eq_prepareIn e opts)

/-- The model's run is the one where the reference branch completes first. -/
theorem run_eq_runIn (e : Engine m) (opts : PricingOptions) : e.run opts = e.runIn .reference opts := by
  unfold run runIn
  rw [attempt_eq_attemptIn]

end Order

/-- Waiting on both branches answers the same in either order unless both fail. -/
theorem Lead.wait_eq_of_ok (l l' : Lead) {cur : Outcome Current} {quote : Outcome Quote}
    (h : (∃ c, cur = .ok c) ∨ (∃ q, quote = .ok q)) : l.wait cur quote = l'.wait cur quote := by
  rcases h with ⟨c, rfl⟩ | ⟨q, rfl⟩
  · cases quote <;> cases l <;> cases l' <;> rfl
  · cases cur <;> cases l <;> cases l' <;> rfl

section Inert

variable {σ : Type} (e : Engine (StateM σ)) (opts : PricingOptions) {cur : Outcome Current}
  (hcur : ∀ w, e.readCurrent.run w = (cur, w))
include hcur

/-- With the contract branch inert, both branches end where the reference branch leaves the
world, in either order. -/
theorem branches_run (lead : Lead) (w : σ) :
    (e.branches opts lead).run w =
      ((cur, ((e.quoteBranch opts).run w).1), ((e.quoteBranch opts).run w).2) := by
  cases lead <;> simp only [branches, run_bind, hcur] <;> rfl

/-- With the contract branch inert, a preparation answers what waiting on the branches gives. -/
theorem prepareIn_run (lead : Lead) (w : σ) :
    (e.prepareIn lead opts).run w =
      match opts.validate with
      | .error err => (.error err, w)
      | .ok () =>
        match lead.wait cur ((e.quoteBranch opts).run w).1 with
        | .error err => (.error err, ((e.quoteBranch opts).run w).2)
        | .ok (c, q) => (e.plan opts c q).run ((e.quoteBranch opts).run w).2 := by
  unfold prepareIn
  cases opts.validate with
  | error err => rfl
  | ok u =>
    simp only [run_bind, branches_run e opts hcur]
    split <;> rfl

end Inert

section Congr

variable {σ : Type} (e : Engine (StateM σ)) (opts : PricingOptions)

/-- Preparations that agree make attempts that agree. -/
theorem attemptIn_congr {l l' : Lead} {w : σ}
    (h : (e.prepareIn l opts).run w = (e.prepareIn l' opts).run w) :
    (e.attemptIn l opts).run w = (e.attemptIn l' opts).run w := by
  unfold attemptIn
  simp only [run_bind, h]

/-- A failed preparation is the attempt's answer. -/
theorem attemptIn_of_error {l : Lead} {w w' : σ} {err : Failure}
    (h : (e.prepareIn l opts).run w = (.error err, w')) :
    (e.attemptIn l opts).run w = (.error err, w') := by
  unfold attemptIn
  simp only [run_bind, h]
  rfl

/-- A run reads the clock, attempts, and records what the attempt answered. -/
theorem runIn_run (lead : Lead) (w : σ) :
    (e.runIn lead opts).run w =
      (e.finish (e.clock.run w).1 ((e.attemptIn lead opts).run (e.clock.run w).2).1).run
        ((e.attemptIn lead opts).run (e.clock.run w).2).2 := by
  simp only [runIn, run_bind]

end Congr

/-- The two branches of a run, the contract read and the reference fetch, may complete in
either order. With the contract's price reads stubs of fixed answers, the model's run is the
one where the reference branch completes first; the order changes nothing, neither the
answer nor the world and its log, unless both branches fail; and when both fail, the run
fails with, and records, the error of the branch that completes first. -/
theorem run_order_matters_only_when_both_fail {σ : Type} (e : Engine (StateM σ))
    (hs : Inert e.contract.sellPrice) (hb : Inert e.contract.buyPrice)
    (hc : Inert e.contract.crossPrice) (opts : PricingOptions) (w : σ) :
    let start := e.clock.run w
    let cur := (e.readCurrent.run w).1
    let quote := (e.quoteBranch opts).run start.2
    e.run opts = e.runIn .reference opts ∧
    ((∃ c, cur = .ok c) ∨ (∃ q, quote.1 = .ok q) →
      (e.runIn .reference opts).run w = (e.runIn .contract opts).run w) ∧
    (opts.validate = .ok () → ∀ ec eq, cur = .error ec → quote.1 = .error eq →
      (e.runIn .contract opts).run w = (e.finish start.1 (.error ec)).run quote.2 ∧
      (e.runIn .reference opts).run w = (e.finish start.1 (.error eq)).run quote.2) := by
  intro start cur quote
  -- the contract branch answers `cur` from every world and leaves it as it is
  obtain ⟨c₀, hc₀⟩ := readCurrent_stable Inert.stable hs hb hc
  have hcur : ∀ v, e.readCurrent.run v = (cur, v) := fun v => by
    rw [hc₀ v]
    simp [cur, hc₀ w]
  refine ⟨run_eq_runIn e opts, fun hone => ?_, fun hv ec eq hec heq => ?_⟩
  · rw [runIn_run, runIn_run, attemptIn_congr e opts ?_]
    rw [prepareIn_run e opts hcur, prepareIn_run e opts hcur,
      Lead.wait_eq_of_ok .reference .contract hone]
  · -- each order fails with its first error, where the reference branch left the world
    have hfirst : ∀ l err, l.wait cur quote.1 = .error err →
        (e.runIn l opts).run w = (e.finish start.1 (.error err)).run quote.2 := by
      intro l err hl
      have hprep : (e.prepareIn l opts).run start.2 = (.error err, quote.2) := by
        rw [prepareIn_run e opts hcur, hv]
        simp only [quote] at hl
        simp only [hl]
        rfl
      rw [runIn_run, attemptIn_of_error e opts hprep]
    exact ⟨hfirst .contract ec (by rw [hec, heq]; rfl), hfirst .reference eq (by rw [hec, heq]; rfl)⟩

/-- The engine of fixed answers reads fixed contract prices, and its run does not depend on
the order of its branches. -/
theorem fixed_run_ignores_branch_order :
    Inert fixedEngine.contract.sellPrice ∧ Inert fixedEngine.contract.buyPrice ∧
      Inert fixedEngine.contract.crossPrice ∧
      (fixedEngine.runIn .reference feeOptions).run () = (fixedEngine.runIn .contract feeOptions).run () := by
  have hs : Inert fixedEngine.contract.sellPrice := ⟨_, fun _ => rfl⟩
  have hb : Inert fixedEngine.contract.buyPrice := ⟨_, fun _ => rfl⟩
  have hc : Inert fixedEngine.contract.crossPrice := ⟨_, fun _ => rfl⟩
  exact ⟨hs, hb, hc,
    (run_order_matters_only_when_both_fail fixedEngine hs hb hc feeOptions ()).2.1 (Or.inl ⟨_, rfl⟩)⟩

/-- The engine of fixed answers with a sell price read that fails on a division by zero and a
reference source that is rate limited. -/
def failingBranchesEngine : Engine (StateM Unit) :=
  { fixedEngine with
    contract := { fixedEngine.contract with sellPrice := pure (.error (Failure.of .divideByZero)) }
    reference := some ⟨"stub", fun _ _ => pure (.error (Failure.of .rateLimited))⟩ }

/-- With both branches failing, the run fails with the contract's division by zero when the
contract branch completes first, and with the reference's rate limit when the reference
branch does, as in the model's run: another error text and another kind. -/
theorem both_failing_branches_race :
    ((failingBranchesEngine.runIn .contract feeOptions).run ()).1 =
        .error (Failure.because "read sell price" .divideByZero) ∧
      ((failingBranchesEngine.runIn .reference feeOptions).run ()).1 =
        .error (Failure.because "reference price from stub" .rateLimited) ∧
      ((failingBranchesEngine.run feeOptions).run ()).1 =
        .error (Failure.because "reference price from stub" .rateLimited) ∧
      (Failure.because "read sell price" .divideByZero).runKind = "divide_by_zero" ∧
      (Failure.because "reference price from stub" .rateLimited).runKind = "rate_limited" :=
  ⟨rfl, rfl, rfl, rfl, rfl⟩

end Engine

end QuoteKeeper
