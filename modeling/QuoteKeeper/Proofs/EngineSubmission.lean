import QuoteKeeper.Proofs.EngineStages
/-
  QuoteKeeper.Proofs.EngineSubmission — prices are submitted only on a positive decision, and
  a failure before submission is answered and recorded once.

  To see what a run calls, an engine over a world `σ` is run over the world and a journal
  (`Engine.observe`): the submitter, the run and failure counters and the run-failed alert
  add their call to the journal, and every collaborator, those included, then acts on the
  world as it would have. A stub may still answer anything and change its world as it likes.

  Everything before submission leaves the journal alone (`prepare_keeps`, from the
  inheritance lemmas of `Proofs.EngineStages`). Submitting adds one call with the decision's
  targets when there is a submitter and nothing otherwise (`submit_journal`), and recording
  the outcome adds its `records` (`finish_journal`).

  Proved:
  (1) `Keeps.stable`, `observe_quiet`, `prepare_keeps`: the stages before submission call
      none of the observed collaborators.
  (2) `submit_journal`, `attempt_journal`, `attempt_of_error`, `decision_of_attempt_ok`: one
      submission at most, with the decision's targets, and only when the decision says so.
  (3) `finish_journal`: the records of each outcome; a panic is passed on unrecorded.
  (4) `run_submits_only_on_decision`: over a whole run, the submitter is called at most once;
      it is called exactly when the stage before submission answered a decision to submit
      and there is a submitter, and with that decision's targets; a successful run answers
      that decision; a failure before submission that is not a panic is answered as it is,
      with the failed run, its kind and the run-failed alert recorded once each and nothing
      submitted.
-/

namespace QuoteKeeper

/-- A call of a run that the journal records. -/
inductive Call where
  | submit (buy sell : Price)
  | recordRun (arm outcome : String)
  | recordFailure (arm kind : String)
  | runFailed (arm kind : String) (err : Failure)
  deriving DecidableEq

/-- Whether the call is a submission. -/
def Call.isSubmit : Call → Bool
  | .submit _ _ => true
  | _ => false

section Journal

variable {σ τ α β : Type}

/-- `x` on the world, beside a journal it leaves alone. -/
def silent (x : StateM σ α) : StateM (σ × List Call) α :=
  fun s => ((x.run s.1).1, (x.run s.1).2, s.2)

/-- `x` on the world, with `c` added to the journal. -/
def noted (c : Call) (x : StateM σ α) : StateM (σ × List Call) α :=
  fun s => ((x.run s.1).1, (x.run s.1).2, s.2 ++ [c])

/-- `x` leaves the journal as it found it. -/
def Keeps (x : StateM (σ × List Call) α) : Prop := ∀ s, (x.run s).2.2 = s.2

theorem run_bind (x : StateM τ α) (f : α → StateM τ β) (s : τ) :
    (x >>= f).run s = (f (x.run s).1).run (x.run s).2 := rfl

theorem keeps_silent (x : StateM σ α) : Keeps (silent x) := fun _ => rfl

theorem journal_noted (c : Call) (x : StateM σ α) (s : σ × List Call) :
    ((noted c x).run s).2.2 = s.2 ++ [c] := rfl

theorem Keeps.bind {x : StateM (σ × List Call) α} {f : α → StateM (σ × List Call) β} (hx : Keeps x)
    (hf : ∀ a, Keeps (f a)) : Keeps (x >>= f) := by
  intro s
  rw [run_bind, hf, hx]

theorem Keeps.stable : Stable (σ := σ × List Call) (fun x => Keeps x) := ⟨fun _ _ => rfl, Keeps.bind⟩

/-- After `x >>= f` with `f` keeping the journal, the journal is the one `x` left. -/
theorem journal_bind_keeps {x : StateM (σ × List Call) α} {f : α → StateM (σ × List Call) β}
    (hf : ∀ a, Keeps (f a)) (s : σ × List Call) : ((x >>= f).run s).2.2 = (x.run s).2.2 := by
  rw [run_bind, hf]

end Journal

namespace Engine

variable {σ : Type}

/-- The engine run beside a journal of its submissions and of the records of its outcome. -/
def observe (e : Engine (StateM σ)) : Engine (StateM (σ × List Call)) where
  name := e.name
  contract := ⟨silent e.contract.buyPrice, silent e.contract.sellPrice, silent e.contract.crossPrice,
    silent e.contract.liquidityAsset, silent e.contract.baseAsset⟩
  submitter := e.submitter.map fun send buy sell => noted (.submit buy sell) (send buy sell)
  waiter := e.waiter.map fun wait tx => silent (wait tx)
  reference := e.reference.map fun p => ⟨p.name, fun pr amount => silent (p.getPrice pr amount)⟩
  rates := e.rates.map silent
  lending := e.lending.map fun lend inp => silent (lend inp)
  logger := ⟨fun entry => silent (e.logger.sink entry), e.logger.context, e.logger.name, e.logger.durationJson⟩
  metrics := ⟨fun arm m b s => silent (e.metrics.setReference arm m b s),
    fun arm b s => silent (e.metrics.setTargets arm b s), fun arm b s => silent (e.metrics.setCurrent arm b s),
    fun arm b s => silent (e.metrics.setDiffs arm b s), fun arm y d => silent (e.metrics.setLending arm y d),
    fun arm o => noted (.recordRun arm o) (e.metrics.recordRun arm o),
    fun arm k => noted (.recordFailure arm k) (e.metrics.recordFailure arm k)⟩
  alerts := ⟨fun arm b s h => silent (e.alerts.pricesSubmitted arm b s h),
    fun arm k err => noted (.runFailed arm k err) (e.alerts.runFailed arm k err),
    fun arm b m => silent (e.alerts.boundContradiction arm b m)⟩
  clock := silent e.clock

/-- The submission a run makes once the stage before it answered `po`: the decision's
targets, when it says to submit and there is a submitter. -/
def submitted {m : Type → Type} (e : Engine m) : Outcome RunReport → List Call
  | .ok r =>
    if r.decision.shouldSubmit && e.submitter.isSome then [.submit r.decision.targetBuy r.decision.targetSell]
    else []
  | .error _ => []

/-- The records `Engine.finish` makes of an attempt that answered `o`. -/
def records (arm : String) : Outcome RunReport → List Call
  | .error (.panic _) => []
  | .error (.error m cs) =>
    [.recordRun arm "failed", .recordFailure arm (Failure.error m cs).runKind,
      .runFailed arm (Failure.error m cs).runKind (.error m cs)]
  | .ok r => [.recordRun arm r.outcome]

/-- An attempt whose stage before submission failed answers that failure. -/
theorem attempt_of_error {τ : Type} {x : Engine (StateM τ)} {opts : PricingOptions} {s : τ} {err : Failure}
    (h : ((x.prepare opts).run s).1 = .error err) : ((x.attempt opts).run s).1 = .error err := by
  unfold attempt
  rw [run_bind, h]
  rfl

/-- An attempt that succeeds answers the decision of the stage before submission, with the
transaction hash when it submitted. -/
theorem decision_of_attempt_ok {τ : Type} {x : Engine (StateM τ)} {opts : PricingOptions} {s : τ}
    {r' : RunReport} (h : ((x.attempt opts).run s).1 = .ok r') :
    ∃ r, ((x.prepare opts).run s).1 = .ok r ∧ r'.decision = r.decision := by
  unfold attempt at h
  rw [run_bind] at h
  generalize hp : (x.prepare opts).run s = p at h
  obtain ⟨po, s'⟩ := p
  cases po with
  | error err => cases h
  | ok r =>
    refine ⟨r, rfl, ?_⟩
    dsimp only at h
    by_cases hs : r.decision.shouldSubmit = true
    · rw [if_neg (by simp [hs]), run_bind] at h
      generalize (x.submit r.decision opts.confirm).run s' = q at h
      obtain ⟨so, s''⟩ := q
      cases so with
      | error err => cases h
      | ok hash =>
        cases h
        rfl
    · rw [if_pos (by simp [hs])] at h
      cases h
      rfl

variable (e : Engine (StateM σ)) (opts : PricingOptions)

@[simp] theorem observe_name : e.observe.name = e.name := rfl

/-! ## (1) Nothing before submission is journaled -/

theorem observe_quiet : Quiet (fun x => Keeps x) e.observe :=
  ⟨fun _ => keeps_silent _, fun _ _ _ _ => keeps_silent _, fun _ _ _ => keeps_silent _,
    fun _ _ _ => keeps_silent _, fun _ _ _ => keeps_silent _, fun _ _ _ => keeps_silent _,
    fun _ _ _ => keeps_silent _⟩

theorem prepare_keeps : Keeps (e.observe.prepare opts) := by
  refine prepare_stable Keeps.stable (observe_quiet e) (keeps_silent _) (keeps_silent _) (keeps_silent _)
    (keeps_silent _) (keeps_silent _) ?_ ?_ ?_
  · intro p hp pr amount
    obtain ⟨p', -, rfl⟩ := Option.map_eq_some_iff.mp hp
    exact keeps_silent _
  · intro r hr
    obtain ⟨r', -, rfl⟩ := Option.map_eq_some_iff.mp hr
    exact keeps_silent _
  · intro l hl inp
    obtain ⟨l', -, rfl⟩ := Option.map_eq_some_iff.mp hl
    exact keeps_silent _

/-! ## (2) Submission -/

theorem submit_of_none (h : e.submitter = none) (d : Decision) (confirm : Bool) (s : σ × List Call) :
    (e.observe.submit d confirm).run s = (.error (Failure.of .noSubmitter), s) := by
  have hs : e.observe.submitter = none := by simp [observe, h]
  unfold submit
  rw [hs]
  rfl

/-- Submitting calls the submitter once with the decision's targets, when there is one; what
follows (the audit event, the alert, the receipt) is not journaled. -/
theorem submit_journal (d : Decision) (confirm : Bool) (s : σ × List Call) :
    ((e.observe.submit d confirm).run s).2.2 =
      s.2 ++ (if e.submitter.isSome then [.submit d.targetBuy d.targetSell] else []) := by
  cases hsub : e.submitter with
  | none =>
    rw [submit_of_none e hsub]
    simp
  | some send =>
    have hs : e.observe.submitter = some fun buy sell => noted (.submit buy sell) (send buy sell) := by
      simp [observe, hsub]
    unfold submit
    rw [hs]
    refine (journal_bind_keeps (fun sent => ?_) s).trans (by simp [journal_noted])
    cases sent with
    | error err => exact fun _ => rfl
    | ok tx =>
      refine Keeps.bind (keeps_silent _) fun _ => Keeps.bind (keeps_silent _) fun _ => ?_
      have hw : e.observe.waiter = e.waiter.map fun wait tx => silent (wait tx) := rfl
      rw [hw]
      cases e.waiter with
      | none => cases confirm <;> exact fun _ => rfl
      | some wait =>
        cases confirm with
        | false => exact fun _ => rfl
        | true =>
          refine Keeps.bind (keeps_silent _) fun wo => ?_
          cases wo <;> exact fun _ => rfl

theorem submitted_length_le (po : Outcome RunReport) : (e.submitted po).length ≤ 1 := by
  cases po with
  | error err => simp [submitted]
  | ok r =>
    simp only [submitted]
    split <;> simp

theorem mem_submitted (po : Outcome RunReport) (buy sell : Price) :
    Call.submit buy sell ∈ e.submitted po ↔ e.submitter.isSome ∧
      ∃ r, po = .ok r ∧ r.decision.shouldSubmit ∧ buy = r.decision.targetBuy ∧ sell = r.decision.targetSell := by
  cases po with
  | error err => simp [submitted]
  | ok r =>
    simp only [submitted]
    by_cases hs : r.decision.shouldSubmit = true <;> by_cases hsub : e.submitter.isSome = true <;>
      simp [hs, hsub]

theorem attempt_journal (s : σ × List Call) :
    ((e.observe.attempt opts).run s).2.2 = s.2 ++ e.submitted ((e.observe.prepare opts).run s).1 := by
  unfold attempt
  rw [run_bind, ← prepare_keeps e opts s]
  generalize (e.observe.prepare opts).run s = p
  obtain ⟨po, s'⟩ := p
  cases po with
  | error err => exact (List.append_nil _).symm
  | ok r =>
    dsimp only
    by_cases hs : r.decision.shouldSubmit = true
    · rw [if_neg (by simp [hs]), journal_bind_keeps (fun ho => by cases ho <;> exact fun _ => rfl),
        submit_journal]
      simp [submitted, hs]
    · have hnone : e.submitted (.ok r) = [] := by simp [submitted, hs]
      rw [if_pos (by simp [hs]), hnone, List.append_nil]
      rfl

/-! ## (3) The records of the outcome -/

theorem finish_journal (start : Int) (o : Outcome RunReport) (s : σ × List Call) :
    ((e.observe.finish start o).run s).2.2 = s.2 ++ records e.name o := by
  unfold finish
  rcases o with (⟨m, cs⟩ | msg) | r
  · -- a failure: the failed run, its kind, a log line and the alert
    show ((s.2 ++ [_]) ++ [_]) ++ [_] = _
    simp [records]
  · exact (List.append_nil _).symm
  · rfl

theorem records_filter_submit (arm : String) (o : Outcome RunReport) :
    (records arm o).filter Call.isSubmit = [] := by
  rcases o with (⟨m, cs⟩ | msg) | r <;> rfl

theorem records_no_submit (arm : String) (o : Outcome RunReport) (buy sell : Price) :
    Call.submit buy sell ∉ records arm o := by
  intro h
  have hf : Call.submit buy sell ∈ (records arm o).filter Call.isSubmit := List.mem_filter.mpr ⟨h, rfl⟩
  rw [records_filter_submit] at hf
  cases hf

/-! ## (4) A whole run -/

/-- Over a run from world `w` with an empty journal, where `po` is what the stage before
submission answered: the submitter is called at most once; it is called exactly when `po` is
a decision to submit and there is a submitter, and with that decision's targets; a
successful run answers that decision; and a failure before submission that is not a panic
is answered as it is, with the failed run, its kind and the run-failed alert recorded once
each and nothing submitted. -/
theorem run_submits_only_on_decision (e : Engine (StateM σ)) (opts : PricingOptions) (w : σ) :
    let po := ((e.observe.prepare opts).run ((e.clock.run w).2, [])).1
    let out := (e.observe.run opts).run (w, [])
    (out.2.2.filter Call.isSubmit).length ≤ 1 ∧
      (∀ buy sell, Call.submit buy sell ∈ out.2.2 ↔ e.submitter.isSome ∧
        ∃ r, po = .ok r ∧ r.decision.shouldSubmit ∧ buy = r.decision.targetBuy ∧ sell = r.decision.targetSell) ∧
      (∀ r', out.1 = .ok r' → ∃ r, po = .ok r ∧ r'.decision = r.decision) ∧
      (∀ err, po = .error err → err.isPanic = false →
        out.1 = .error err ∧
          out.2.2 = [.recordRun e.name "failed", .recordFailure e.name err.runKind, .runFailed e.name err.runKind err]) := by
  intro po out
  -- the run reads the clock, attempts from the world it leaves with an empty journal, and
  -- records the attempt's outcome
  obtain ⟨a, ha⟩ : ∃ a, (e.observe.attempt opts).run ((e.clock.run w).2, []) = a := ⟨_, rfl⟩
  have hout : out = (e.observe.finish (e.clock.run w).1 a.1).run a.2 := by
    rw [← ha]
    rfl
  have hans : out.1 = a.1 := by
    rw [hout]
    exact finish_yields _ _ _
  have hjournal : out.2.2 = e.submitted po ++ records e.name a.1 := by
    rw [hout, finish_journal, ← ha, attempt_journal]
    rfl
  refine ⟨?_, ?_, ?_, ?_⟩
  · -- the records hold no submission
    rw [hjournal, List.filter_append, records_filter_submit, List.append_nil]
    exact Nat.le_trans (List.length_filter_le _ _) (submitted_length_le e po)
  · intro buy sell
    rw [hjournal, List.mem_append, or_iff_left (records_no_submit _ _ _ _), mem_submitted]
  · intro r' hr'
    rw [hans, ← ha] at hr'
    exact decision_of_attempt_ok hr'
  · intro err hpo hpanic
    have herr : a.1 = .error err := by
      rw [← ha]
      exact attempt_of_error hpo
    refine ⟨hans.trans herr, ?_⟩
    rw [hjournal, hpo, herr]
    cases err with
    | panic msg => cases hpanic
    | error m cs => rfl

end Engine

end QuoteKeeper
