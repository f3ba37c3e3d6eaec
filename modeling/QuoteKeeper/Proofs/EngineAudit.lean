import Mathlib
import QuoteKeeper.Proofs.EngineSubmission
/-
  QuoteKeeper.Proofs.EngineAudit — the audit trail of a pricing run.

  To read what a run logs, an engine over a world `σ` is run beside a trail (`Engine.audit`).
  Every entry its logger writes goes to the trail with the fields the engine gave it (the
  logger's context is added only on the way to the real sink), and so do the two alerts that
  go with audit events; every collaborator then acts on the world as it would have. Lines the
  collaborators log themselves go to their own sinks, not to the trail.

  The trail is read as a list of `Audit` items (`Note.view`): the audit events by the name in
  their `event` field, the contradiction alert, and the submission alert with its transaction
  hash. `Logs x s v` says that `x`, run from `s`, adds notes whose view is `v` and none of
  whose entries carries a schema error; it composes along `bind` (`Logs.bind`).

  Proved:
  (1) `logs_line`, `logs_event`, `logs_risk`: a line that is not an event adds no item, and an
      event whose fields pass its schema adds one item and no schema error.
  (2) one lemma per stage of `Engine.run`, naming what the stage adds from what it answered:
      `referenceQuote_logs`, `logBounds_logs`, `lendingBounds_logs`, `logAdjustments_logs`,
      `logDecision_logs`, `plan_logs`, `prepare_logs`, `submit_logs`, `attempt_logs`,
      `finish_logs`, `run_logs`.
  (3) `run_audit_trail`: over a whole run, no entry carries a schema error; a run that reached
      its decision logs, in order, the reference quote (unless the prices were explicit), the
      targets, the lending bounds when derived, the contradiction with its alert when there
      is one, one adjustment event per adjustment, the decision, and the submission with its
      alert exactly when the submitter answered a transaction; a run that failed before its
      decision logs the reference quote when it was fetched and the targets when they were
      complete, and nothing else; a successful run logs the submission exactly when it
      submitted, with its transaction hash.
  (4) `Lending.Calculator.bounds_derived_of_contradiction`: the lending calculator reports a
      contradiction only for bounds it derived, which is what the run theorem asks of the
      engine's lending collaborator.
-/

namespace QuoteKeeper

/-- What the trail of a run keeps: each entry the engine logs, with the fields it gave it, and
the alerts that go with its audit events. -/
inductive Note where
  | entry (e : Entry)
  | contradictionAlert (arm minBuy mid : String)
  | submittedAlert (arm buy sell tx : String)

/-- An item of the audit trail: an audit event by name, or one of the two alerts that go with
audit events, the submission one with its transaction hash. -/
inductive Audit where
  | event (name : String)
  | contradictionAlert
  | submittedAlert (tx : String)
  deriving DecidableEq, Repr

/-- The audit event an entry records: the name in its `event` field. -/
def Entry.eventName? (en : Entry) : Option String :=
  match en.fields.lookup "event" with
  | some (.str n) => some n
  | _ => none

def Note.audit : Note → Option Audit
  | .entry en => en.eventName?.map Audit.event
  | .contradictionAlert _ _ _ => some .contradictionAlert
  | .submittedAlert _ _ _ tx => some (.submittedAlert tx)

/-- The audit items of a trail, in order. -/
def Note.view (ns : List Note) : List Audit := ns.filterMap Note.audit

/-- No entry of the trail carries a schema error. -/
def Note.Clean (ns : List Note) : Prop := ∀ en, Note.entry en ∈ ns → en.fields.lookup "schemaError" = none

@[simp] theorem Note.view_nil : Note.view [] = [] := rfl

@[simp] theorem Note.view_append (ns ms : List Note) : Note.view (ns ++ ms) = Note.view ns ++ Note.view ms :=
  List.filterMap_append

theorem Note.Clean.append {ns ms : List Note} (hn : Note.Clean ns) (hm : Note.Clean ms) :
    Note.Clean (ns ++ ms) := by
  intro en hen
  rcases List.mem_append.mp hen with h | h
  · exact hn en h
  · exact hm en h

section Trail

variable {σ α β : Type}

/-- `x` on the world, leaving the trail alone. -/
def unnoted (x : StateM σ α) : StateM (σ × List Note) α :=
  fun s => ((x.run s.1).1, (x.run s.1).2, s.2)

/-- `x` on the world, with `n` added to the trail. -/
def withNote (n : Note) (x : StateM σ α) : StateM (σ × List Note) α :=
  fun s => ((x.run s.1).1, (x.run s.1).2, s.2 ++ [n])

/-- Run from `s`, `x` adds to the trail notes whose view is `v` and whose entries carry no
schema error. -/
def Logs (x : StateM (σ × List Note) α) (s : σ × List Note) (v : List Audit) : Prop :=
  ∃ ns, (x.run s).2.2 = s.2 ++ ns ∧ Note.view ns = v ∧ Note.Clean ns

/-- `x` adds nothing to the trail, from any state. -/
def Unlogged (x : StateM (σ × List Note) α) : Prop := ∀ s, (x.run s).2.2 = s.2

theorem Unlogged.stable : Stable (σ := σ × List Note) (fun x => Unlogged x) :=
  ⟨fun _ _ => rfl, fun hx hf s => by rw [run_bind, hf, hx]⟩

theorem unlogged_unnoted (x : StateM σ α) : Unlogged (unnoted x) := fun _ => rfl

@[simp 1100] theorem run_pure (a : α) (s : σ × List Note) : (pure a : StateM (σ × List Note) α).run s = (a, s) := rfl

@[simp] theorem run_unnoted (x : StateM σ α) (s : σ × List Note) :
    (unnoted x).run s = ((x.run s.1).1, (x.run s.1).2, s.2) := rfl

theorem Unlogged.logs {x : StateM (σ × List Note) α} (h : Unlogged x) (s : σ × List Note) : Logs x s [] :=
  ⟨[], by rw [h, List.append_nil], rfl, nofun⟩

theorem logs_pure (a : α) (s : σ × List Note) : Logs (pure a : StateM (σ × List Note) α) s [] :=
  Unlogged.logs (fun _ => rfl) s

theorem Logs.bind {x : StateM (σ × List Note) α} {f : α → StateM (σ × List Note) β} {s : σ × List Note}
    {v w : List Audit} (hx : Logs x s v) (hf : Logs (f (x.run s).1) (x.run s).2 w) :
    Logs (x >>= f) s (v ++ w) := by
  obtain ⟨ns, hns, hv, hc⟩ := hx
  obtain ⟨ms, hms, hw, hc'⟩ := hf
  refine ⟨ns ++ ms, ?_, by rw [Note.view_append, hv, hw], hc.append hc'⟩
  rw [run_bind, hms, hns, List.append_assoc]

/-- A step that adds nothing, then the rest of the run. -/
theorem Logs.bind_unlogged {x : StateM (σ × List Note) α} {f : α → StateM (σ × List Note) β}
    {s : σ × List Note} {w : List Audit} (hx : Unlogged x) (hf : Logs (f (x.run s).1) (x.run s).2 w) :
    Logs (x >>= f) s w :=
  (hx.logs s).bind hf

/-- A step whose view is read from its answer, then the rest of the run. -/
theorem Logs.bind_of {x : StateM (σ × List Note) α} {f : α → StateM (σ × List Note) β} {s : σ × List Note}
    {v : List Audit} (w : α → List Audit) (hx : Logs x s v) (hf : Logs (f (x.run s).1) (x.run s).2 (w (x.run s).1)) :
    Logs (x >>= f) s (v ++ w (x.run s).1) :=
  hx.bind hf

/-- A step, then a rest whose view is read from the step's answer and the state it left. -/
theorem Logs.bind_dep {x : StateM (σ × List Note) α} {f : α → StateM (σ × List Note) β} {s : σ × List Note}
    {v : List Audit} (w : α → σ × List Note → List Audit) (hx : Logs x s v) (hf : ∀ a s', Logs (f a) s' (w a s')) :
    Logs (x >>= f) s (v ++ w (x.run s).1 (x.run s).2) :=
  hx.bind (hf _ _)

theorem Logs.congr {x : StateM (σ × List Note) α} {s : σ × List Note} {v v' : List Audit} (h : Logs x s v)
    (hv : v = v') : Logs x s v' :=
  hv ▸ h

end Trail

/-! ## (1) Lines and events -/

section Fields

/-- A key that no field has is not found. -/
theorem lookup_eq_none {k : String} :
    ∀ {fs : List (String × Json)}, (∀ kv ∈ fs, kv.1 ≠ k) → fs.lookup k = none
  | [], _ => rfl
  | kv :: fs, h => by
    have hne : (k == kv.1) = false := beq_false_of_ne (Ne.symm (h kv List.mem_cons_self))
    simp only [List.lookup, hne]
    exact lookup_eq_none fun kv' hkv' => h kv' (List.mem_cons_of_mem kv hkv')

theorem lookup_append_of_none {k : String} {fs gs : List (String × Json)} (h : fs.lookup k = none) :
    (fs ++ gs).lookup k = gs.lookup k := by
  induction fs with
  | nil => rfl
  | cons kv fs ih =>
    by_cases hk : (k == kv.1) = true
    · simp [List.lookup, hk] at h
    · have hk' : (k == kv.1) = false := by simpa using hk
      simp only [List.lookup, hk'] at h
      simp only [List.cons_append, List.lookup, hk']
      exact ih h

/-- The fields of a line the engine writes: none is named `event` or `schemaError`. -/
def OwnFields (fs : List (String × Json)) : Prop := ∀ kv ∈ fs, kv.1 ≠ "event" ∧ kv.1 ≠ "schemaError"

theorem ownFields_of_all {fs : List (String × Json)}
    (h : fs.all (fun kv => kv.1 != "event" && kv.1 != "schemaError") = true) : OwnFields fs := by
  intro kv hkv
  have := List.all_eq_true.mp h kv hkv
  simpa using this

/-- An event whose fields pass its schema is written with them, sorted, and its name. -/
theorem eventFields_of_check {name : String} {fs : List (String × Json)} (h : Schema.check name fs = none) :
    eventFields name fs = sortFields fs ++ [("event", .str name)] := by
  simp [eventFields, h]

theorem ownFields_sortFields {fs : List (String × Json)} (h : OwnFields fs) : OwnFields (sortFields fs) :=
  fun kv hkv => h kv (List.mem_mergeSort.mp hkv)

end Fields

namespace Engine

variable {σ : Type}

/-- The engine run beside a trail of its log entries and of the alerts that go with its audit
events. -/
def audit (e : Engine (StateM σ)) : Engine (StateM (σ × List Note)) where
  name := e.name
  contract := ⟨unnoted e.contract.buyPrice, unnoted e.contract.sellPrice, unnoted e.contract.crossPrice,
    unnoted e.contract.liquidityAsset, unnoted e.contract.baseAsset⟩
  submitter := e.submitter.map fun send buy sell => unnoted (send buy sell)
  waiter := e.waiter.map fun wait tx => unnoted (wait tx)
  reference := e.reference.map fun p => ⟨p.name, fun pr amount => unnoted (p.getPrice pr amount)⟩
  rates := e.rates.map unnoted
  lending := e.lending.map fun lend inp => unnoted (lend inp)
  logger := ⟨fun entry => withNote (.entry entry) (e.logger.sink { entry with fields := e.logger.context ++ entry.fields }),
    [], e.logger.name, e.logger.durationJson⟩
  metrics := ⟨fun arm m b s => unnoted (e.metrics.setReference arm m b s),
    fun arm b s => unnoted (e.metrics.setTargets arm b s), fun arm b s => unnoted (e.metrics.setCurrent arm b s),
    fun arm b s => unnoted (e.metrics.setDiffs arm b s), fun arm y d => unnoted (e.metrics.setLending arm y d),
    fun arm o => unnoted (e.metrics.recordRun arm o), fun arm k => unnoted (e.metrics.recordFailure arm k)⟩
  alerts := ⟨fun arm b s h => withNote (.submittedAlert arm b s h) (e.alerts.pricesSubmitted arm b s h),
    fun arm k err => unnoted (e.alerts.runFailed arm k err),
    fun arm b m => withNote (.contradictionAlert arm b m) (e.alerts.boundContradiction arm b m)⟩
  clock := unnoted e.clock

variable (e : Engine (StateM σ)) (s : σ × List Note)

/-- A line whose fields are the engine's own is no audit item. -/
theorem logs_line (level : Level) (msg : String) {fs : List (String × Json)} (h : OwnFields fs) :
    Logs (e.audit.logger.log level msg fs) s [] := by
  refine ⟨[.entry ⟨level, msg, [] ++ fs, e.logger.name⟩], rfl, ?_, ?_⟩
  · have hev : fs.lookup "event" = none := lookup_eq_none fun kv hkv => (h kv hkv).1
    simp [Note.view, Note.audit, Entry.eventName?, hev]
  · intro en hen
    obtain rfl : en = ⟨level, msg, [] ++ fs, e.logger.name⟩ := by simpa using hen
    exact lookup_eq_none fun kv hkv => (h kv hkv).2

/-- An event whose fields pass its schema is one audit item, with no schema error. -/
theorem logs_entry_event (level : Level) (msg name : String) {fs : List (String × Json)} (h : OwnFields fs)
    (hc : Schema.check name fs = none) :
    Logs (e.audit.logger.log level msg (eventFields name fs)) s [.event name] := by
  refine ⟨[.entry ⟨level, msg, [] ++ eventFields name fs, e.logger.name⟩], rfl, ?_, ?_⟩
  · have hev : (sortFields fs).lookup "event" = none :=
      lookup_eq_none fun kv hkv => (ownFields_sortFields h kv hkv).1
    simp [Note.view, Note.audit, Entry.eventName?, eventFields_of_check hc, lookup_append_of_none hev,
      List.lookup]
  · intro en hen
    obtain rfl : en = ⟨level, msg, [] ++ eventFields name fs, e.logger.name⟩ := by simpa using hen
    have hse : (sortFields fs).lookup "schemaError" = none :=
      lookup_eq_none fun kv hkv => (ownFields_sortFields h kv hkv).2
    simp [eventFields_of_check hc, lookup_append_of_none hse, List.lookup]

theorem logs_info (msg : String) {fs : List (String × Json)} (h : OwnFields fs) :
    Logs (e.audit.logger.info msg fs) s [] :=
  logs_line e s .info msg h

theorem logs_event (name : String) {fs : List (String × Json)} (h : OwnFields fs)
    (hc : Schema.check name fs = none) : Logs (e.audit.logger.event name fs) s [.event name] :=
  logs_entry_event e s .info name name h hc

theorem logs_risk (name : String) {fs : List (String × Json)} (h : OwnFields fs)
    (hc : Schema.check name fs = none) : Logs (e.audit.logger.risk name fs) s [.event name] :=
  logs_entry_event e s .warn "risk_event" name h hc

/-! ## (2) The stages -/

section Stages

variable (opts : PricingOptions)

theorem logs_contradictionAlert (arm minBuy mid : String) :
    Logs (e.audit.alerts.boundContradiction arm minBuy mid) s [.contradictionAlert] :=
  ⟨[.contradictionAlert arm minBuy mid], rfl, rfl, fun en hen => by simp at hen⟩

theorem logs_submittedAlert (arm buy sell tx : String) :
    Logs (e.audit.alerts.pricesSubmitted arm buy sell tx) s [.submittedAlert tx] :=
  ⟨[.submittedAlert arm buy sell tx], rfl, rfl, fun en hen => by simp at hen⟩

theorem pair_unlogged : Unlogged (e.audit.pair opts) :=
  pair_stable Unlogged.stable (unlogged_unnoted _) (unlogged_unnoted _)

theorem getPrice_unlogged {p : Provider (StateM (σ × List Note))} (hp : e.audit.provider opts = .ok p)
    (pr : Pair) (amount : Option Int) : Unlogged (p.getPrice pr amount) := by
  refine getPrice_stable Unlogged.stable ?_ ?_ hp pr amount
  · intro p' hp' pr' amount'
    obtain ⟨p'', -, rfl⟩ := Option.map_eq_some_iff.mp hp'
    exact unlogged_unnoted _
  · intro r hr
    obtain ⟨r', -, rfl⟩ := Option.map_eq_some_iff.mp hr
    exact unlogged_unnoted _

/-- What the reference stage adds: the reference quote event when it fetched a quote. -/
def quoteView : Outcome Quote → List Audit
  | .ok _ => [.event "reference_quote"]
  | .error _ => []

theorem referenceQuote_logs :
    Logs (e.audit.referenceQuote opts) s (quoteView ((e.audit.referenceQuote opts).run s).1) := by
  unfold referenceQuote
  cases hp : e.audit.provider opts with
  | error err => exact logs_pure _ s
  | ok p =>
    dsimp only
    rw [run_bind]
    refine Logs.bind_unlogged (pair_unlogged e opts) ?_
    generalize (e.audit.pair opts).run s = t
    obtain ⟨po, s'⟩ := t
    cases po with
    | error err => exact logs_pure _ s'
    | ok pr =>
      dsimp only
      rw [run_bind]
      refine Logs.bind_unlogged (getPrice_unlogged e opts hp pr _) ?_
      generalize (p.getPrice pr (some opts.amountWei)).run s' = t
      obtain ⟨qo, s''⟩ := t
      cases qo with
      | error err => exact logs_pure _ s''
      | ok q =>
        -- the reference quote event, then the gauge
        exact (logs_event e s'' "reference_quote" (ownFields_of_all rfl) rfl).bind
          (Logs.bind_unlogged (unlogged_unnoted _) (logs_pure _ _))

/-- The contradiction event with its alert, when the bounds contradict. -/
def contradictionView (b : Lending.Bounds) : List Audit :=
  if b.contradiction then [.event "bound_contradiction", .contradictionAlert] else []

theorem logBounds_logs (b : Lending.Bounds) (mid : Price) :
    Logs (e.audit.logBounds b mid) s (.event "lending_bounds" :: contradictionView b) := by
  unfold logBounds
  refine (logs_event e s "lending_bounds" (ownFields_of_all rfl) rfl).bind
    (Logs.bind_unlogged (unlogged_unnoted _) ?_)
  by_cases hc : b.contradiction = true
  · simp only [hc, if_true]
    exact (logs_risk e _ "bound_contradiction" (ownFields_of_all rfl) rfl).bind (logs_contradictionAlert e _ _ _ _)
  · simp only [hc]
    exact logs_pure _ _

/-- What the lending stage adds: the lending bounds event when they were derived, with the
contradiction event and its alert when they contradict. -/
def boundsView : Outcome Lending.Bounds → List Audit
  | .ok b => if b.derived then .event "lending_bounds" :: contradictionView b else []
  | .error _ => []

theorem lendingBounds_logs (q : Quote) :
    Logs (e.audit.lendingBounds opts q) s (boundsView ((e.audit.lendingBounds opts q).run s).1) := by
  unfold lendingBounds
  cases hx : opts.hasExplicitPair
  · cases hl : e.lending with
    | none =>
      have hal : e.audit.lending = none := by simp [audit, hl]
      simp only [hal]
      exact logs_pure _ s
    | some lend =>
      have hal : e.audit.lending = some fun inp => unnoted (lend inp) := by simp [audit, hl]
      simp only [hal]
      rw [run_bind]
      refine Logs.bind_unlogged (unlogged_unnoted _) ?_
      generalize (unnoted (lend (opts.lendingInput q))).run s = t
      obtain ⟨bo, s'⟩ := t
      cases bo with
      | error err => exact logs_pure _ s'
      | ok b =>
        -- the bounds are logged only when derived; either way they are the answer
        dsimp only
        by_cases hd : b.derived = true
        · simp only [hd, if_true]
          have hv : boundsView (.ok b) = (.event "lending_bounds" :: contradictionView b) ++ [] := by
            simp [boundsView, hd]
          exact hv ▸ (logBounds_logs e s' b q.mid).bind (logs_pure _ _)
        · simp only [hd]
          have hv : boundsView (.ok b) = [] := by simp [boundsView, hd]
          exact hv ▸ logs_pure _ _
  · simp only
    exact logs_pure _ s

theorem logAdjustments_logs (adjustments : List Adjustment) :
    Logs (e.audit.logAdjustments adjustments) s (adjustments.map fun _ => .event "range_adjust") := by
  unfold logAdjustments
  -- one event per adjustment, each from the state the one before left
  induction adjustments generalizing s with
  | nil => exact logs_pure _ s
  | cons a adjustments ih =>
    rw [List.forIn_cons, bind_assoc, bind_assoc]
    exact (logs_event e s "range_adjust" (ownFields_of_all rfl) rfl).bind (ih _)

theorem logDecision_logs (d : Decision) : Logs (e.audit.logDecision d) s [.event "quote_decision"] := by
  unfold logDecision
  refine Logs.bind_unlogged (unlogged_unnoted _)
    ((logs_event e _ "quote_decision" (ownFields_of_all rfl) rfl).bind ?_)
  split
  · exact logs_line e _ .info _ (ownFields_of_all rfl)
  · exact logs_pure _ _

/-- Whether the strategy gives complete targets for the quote. -/
def targetsComplete (opts : PricingOptions) (q : Quote) : Bool :=
  match targets opts q with
  | .ok (t, _) => t.valid
  | .error _ => false

/-- What follows the lending stage of a plan that has targets `t`: one adjustment event per
adjustment and the decision event, once the lending stage answered. -/
def decideView {m : Type → Type} (e : Engine m) (opts : PricingOptions) (c : Current) (t : Targets) :
    Outcome Lending.Bounds → List Audit
  | .ok b => ((e.range opts b).apply t c.cross).2.map (fun _ => .event "range_adjust") ++ [.event "quote_decision"]
  | .error _ => []

/-- What the planning stage adds: the targets event once the targets are complete, then, when
it decides, the lending stage's items, one adjustment event per adjustment and the decision
event. -/
def planView (complete : Bool) : Outcome RunReport → List Audit
  | .ok r => .event "target_prices" :: (boundsView (.ok r.bounds) ++
      r.adjustments.map (fun _ => .event "range_adjust") ++ [.event "quote_decision"])
  | .error _ => if complete then [.event "target_prices"] else []

theorem plan_logs (c : Current) (q : Quote) :
    Logs (e.audit.plan opts c q) s (planView (targetsComplete opts q) ((e.audit.plan opts c q).run s).1) := by
  unfold plan targetsComplete
  simp only [run_bind]
  refine (logs_info e s "current prices" (ownFields_of_all rfl)).bind
    (Logs.bind_unlogged (unlogged_unnoted _ : Unlogged (e.audit.metrics.setCurrent _ _ _)) ?_)
  cases ht : targets opts q with
  | error err => exact logs_pure _ _
  | ok tt =>
    obtain ⟨t, tag⟩ := tt
    dsimp only
    by_cases hv : t.valid = true
    · rw [if_neg (by simp [hv])]
      -- the targets event, the lending stage, then the adjustments and the decision
      refine Logs.congr ((logs_event e _ "target_prices" (ownFields_of_all rfl) rfl).bind
        (Logs.bind_of (decideView e.audit opts c t) (lendingBounds_logs e _ opts q) ?_)) ?_
      · generalize (e.audit.lendingBounds opts q).run _ = res
        obtain ⟨bo, s'⟩ := res
        cases bo with
        | error err => exact logs_pure _ _
        | ok b =>
          exact (logAdjustments_logs e s' _).bind (Logs.bind_unlogged (unlogged_unnoted _)
            ((logDecision_logs e _ _).bind (logs_pure _ _)))
      · simp only [run_bind, hv]
        generalize (e.audit.lendingBounds opts q).run _ = res
        obtain ⟨bo, s'⟩ := res
        cases bo with
        | error err => rfl
        | ok b =>
          simp only [decideView, run_bind, List.append_assoc]
          rfl
    · rw [if_pos (by simp [hv])]
      simp only [hv]
      exact logs_pure _ _

theorem readCurrent_unlogged : Unlogged e.audit.readCurrent :=
  readCurrent_stable Unlogged.stable (unlogged_unnoted _) (unlogged_unnoted _) (unlogged_unnoted _)

/-- The quote the planning stage is given: the empty one for explicit prices, else the
fetched one. -/
def planQuote (opts : PricingOptions) (fetched : Outcome Quote) : Outcome Quote :=
  if opts.hasExplicitPair then .ok Quote.empty else fetched

/-- What a run that failed before its decision added, from what its reads answered: the
reference quote event when the quote was fetched, and the targets event when both reads
succeeded and the targets came out complete. -/
def failView (opts : PricingOptions) (read : Outcome Current) (fetched : Outcome Quote) : List Audit :=
  match opts.validate with
  | .error _ => []
  | .ok () =>
    (if opts.hasExplicitPair then [] else quoteView fetched) ++
      match read, planQuote opts fetched with
      | .ok _, .ok q => if targetsComplete opts q then [.event "target_prices"] else []
      | _, _ => []

/-- What the stage before submission adds, from what its reads and it answered. -/
def prepareView (opts : PricingOptions) (read : Outcome Current) (fetched : Outcome Quote) :
    Outcome RunReport → List Audit
  | .ok r => (if opts.hasExplicitPair then [] else [.event "reference_quote"]) ++ planView true (.ok r)
  | .error _ => failView opts read fetched

theorem prepare_logs :
    Logs (e.audit.prepare opts) s (prepareView opts
      (e.audit.readCurrent.run ((e.audit.quoteBranch opts).run s).2).1
      ((e.audit.referenceQuote opts).run s).1 ((e.audit.prepare opts).run s).1) := by
  unfold prepare
  cases hv : opts.validate with
  | error err => exact Logs.congr (logs_pure _ s) (by simp only [run_pure, prepareView, failView, hv])
  | ok u =>
    by_cases hx : opts.hasExplicitPair = true
    · -- explicit prices: nothing is fetched and the plan is given the empty quote
      rw [show e.audit.quoteBranch opts = pure (.ok Quote.empty) by simp [quoteBranch, hx]]
      simp only [run_bind, run_pure, pure_bind]
      refine Logs.bind_unlogged (readCurrent_unlogged e) ?_
      generalize e.audit.readCurrent.run s = rd
      obtain ⟨co, s₁⟩ := rd
      cases co with
      | error err => exact Logs.congr (logs_pure _ _) (by simp [prepareView, failView, hv, hx])
      | ok c =>
        refine Logs.congr (plan_logs e _ opts c Quote.empty) ?_
        generalize ((e.audit.plan opts c Quote.empty).run _).1 = po
        cases po <;> simp [prepareView, failView, planView, planQuote, hv, hx]
    · rw [show e.audit.quoteBranch opts = e.audit.referenceQuote opts by simp [quoteBranch, hx]]
      simp only [run_bind]
      -- the reference quote first, then the contract's prices, which add nothing to the trail
      refine Logs.congr (Logs.bind_dep (fun qo s' => match qo, (e.audit.readCurrent.run s').1 with
          | .ok q, .ok c => planView (targetsComplete opts q) ((e.audit.plan opts c q).run (e.audit.readCurrent.run s').2).1
          | _, _ => []) (referenceQuote_logs e s opts) ?_) ?_
      · intro qo s'
        refine Logs.bind_unlogged (readCurrent_unlogged e) ?_
        generalize e.audit.readCurrent.run s' = rd
        obtain ⟨co, s₁⟩ := rd
        cases qo with
        | error err => exact logs_pure _ _
        | ok q =>
          cases co with
          | error err => exact logs_pure _ _
          | ok c => exact plan_logs e s₁ opts c q
      · generalize (e.audit.referenceQuote opts).run s = fq
        obtain ⟨qo, s₂⟩ := fq
        generalize e.audit.readCurrent.run s₂ = rd
        obtain ⟨co, s₁⟩ := rd
        cases qo with
        | error err => cases co <;> simp [prepareView, failView, planQuote, quoteView, hv, hx]
        | ok q =>
          cases co with
          | error err => simp [prepareView, failView, quoteView, hv, hx]
          | ok c =>
            dsimp only
            generalize ((e.audit.plan opts c q).run s₁).1 = po
            cases po <;> simp [prepareView, failView, planView, planQuote, quoteView, hv, hx]

/-- What submitting decision `d` adds, from the world `w` it starts in: the submission event
and its alert, with the transaction's hash, when the submitter answered a transaction. -/
def sentView (e : Engine (StateM σ)) (d : Decision) (w : σ) : List Audit :=
  match e.submitter with
  | none => []
  | some send =>
    match ((send d.targetBuy d.targetSell).run w).1 with
    | .ok tx => [.event "prices_submitted", .submittedAlert tx.hashText]
    | .error _ => []

theorem submit_logs (d : Decision) (confirm : Bool) : Logs (e.audit.submit d confirm) s (e.sentView d s.1) := by
  unfold submit sentView
  cases hsub : e.submitter with
  | none =>
    have hs : e.audit.submitter = none := by simp [audit, hsub]
    rw [hs]
    exact logs_pure _ s
  | some send =>
    have hs : e.audit.submitter = some fun buy sell => unnoted (send buy sell) := by simp [audit, hsub]
    simp only [hs]
    refine Logs.bind_unlogged (unlogged_unnoted _) ?_
    simp only [run_unnoted]
    generalize (send d.targetBuy d.targetSell).run s.1 = sent
    obtain ⟨so, w'⟩ := sent
    cases so with
    | error err => exact logs_pure _ _
    | ok tx =>
      -- the event and the alert; waiting for the receipt adds nothing
      refine (logs_event e _ "prices_submitted" (ownFields_of_all rfl) rfl).bind
        ((logs_submittedAlert e _ _ _ _ _).bind (Unlogged.logs ?_ _))
      have hw : e.audit.waiter = e.waiter.map fun wait tx => unnoted (wait tx) := rfl
      rw [hw]
      cases e.waiter with
      | none => cases confirm <;> exact fun _ => rfl
      | some wait =>
        cases confirm with
        | false => exact fun _ => rfl
        | true =>
          refine Unlogged.stable.bind (unlogged_unnoted _) fun wo => ?_
          cases wo <;> exact fun _ => rfl

/-- What follows the stage before submission, once it answered: the submission's items when
it decided to submit, else nothing. -/
def afterView (e : Engine (StateM σ)) (po : Outcome RunReport) (w : σ) : List Audit :=
  match po with
  | .ok r => if r.decision.shouldSubmit then e.sentView r.decision w else []
  | .error _ => []

theorem attempt_logs {v : List Audit} (hp : Logs (e.audit.prepare opts) s v) :
    Logs (e.audit.attempt opts) s
      (v ++ e.afterView ((e.audit.prepare opts).run s).1 ((e.audit.prepare opts).run s).2.1) := by
  unfold attempt
  refine hp.bind ?_
  generalize (e.audit.prepare opts).run s = p
  obtain ⟨po, s'⟩ := p
  cases po with
  | error err => exact logs_pure _ _
  | ok r =>
    dsimp only
    by_cases hs : r.decision.shouldSubmit = true
    · rw [if_neg (by simp [hs])]
      refine Logs.congr ((submit_logs e s' r.decision opts.confirm).bind (?_ : Logs _ _ []))
        (by simp [afterView, hs])
      generalize (e.audit.submit r.decision opts.confirm).run s' = q
      obtain ⟨so, s''⟩ := q
      cases so <;> exact logs_pure _ _
    · rw [if_pos (by simp [hs])]
      exact Logs.congr (logs_pure _ _) (by simp [afterView, hs])

/-- Recording the outcome adds no audit item: the failure and the finished run are plain lines. -/
theorem finish_logs (start : Int) (o : Outcome RunReport) : Logs (e.audit.finish start o) s [] := by
  unfold finish
  split
  · exact logs_pure _ s
  · exact Logs.bind_unlogged (unlogged_unnoted _) (Logs.bind_unlogged (unlogged_unnoted _)
      ((logs_line e _ .error _ (ownFields_of_all rfl)).bind (Logs.bind_unlogged (unlogged_unnoted _) (logs_pure _ _))))
  · exact Logs.bind_unlogged (unlogged_unnoted _) (Logs.bind_unlogged (unlogged_unnoted _)
      ((logs_line e _ .info _ (ownFields_of_all rfl)).bind (logs_pure _ _)))

/-- A run adds what its attempt adds, from the world the clock reading leaves. -/
theorem run_logs {v : List Audit} (ha : Logs (e.audit.attempt opts) ((e.clock.run s.1).2, s.2) v) :
    Logs (e.audit.run opts) s v := by
  unfold run
  refine Logs.bind_unlogged (unlogged_unnoted _) ?_
  exact Logs.congr (ha.bind (finish_logs e _ _ _)) (List.append_nil v)

end Stages

/-! ## (3) A whole run -/

section Answers

variable {τ : Type} {x : Engine (StateM τ)} {opts : PricingOptions}

/-- A submission that answers a hash got a transaction from the submitter, and the hash is
that transaction's. -/
theorem submit_ok {d : Decision} {confirm : Bool} {s : τ} {hash : String}
    (h : ((x.submit d confirm).run s).1 = .ok hash) :
    ∃ send, x.submitter = some send ∧
      ∃ tx, ((send d.targetBuy d.targetSell).run s).1 = .ok tx ∧ hash = tx.hashText := by
  unfold submit at h
  cases hsub : x.submitter with
  | none => rw [hsub] at h; cases h
  | some send =>
    rw [hsub, run_bind] at h
    refine ⟨send, rfl, ?_⟩
    generalize (send d.targetBuy d.targetSell).run s = sent at h
    obtain ⟨so, s'⟩ := sent
    cases so with
    | error err => cases h
    | ok tx =>
      refine ⟨tx, rfl, ?_⟩
      -- after the event and the alert, waiting for the receipt answers the hash or a failure
      have ha : Answers _ (Except.ok hash : Outcome String) := ⟨s', h⟩
      dsimp only at ha
      obtain ⟨_, -, ha⟩ := ha.of_bind
      obtain ⟨_, -, ha⟩ := ha.of_bind
      split at ha
      · obtain ⟨wo, -, ha⟩ := ha.of_bind
        cases wo with
        | error err => cases ha.of_pure
        | ok u => exact Except.ok.inj ha.of_pure
      · exact Except.ok.inj ha.of_pure

/-- A successful attempt answers the decision of the stage before submission, with the hash
its submission answered when it decided to submit. -/
theorem attempt_ok_sent {s : τ} {r' : RunReport} (h : ((x.attempt opts).run s).1 = .ok r') :
    ∃ r, ((x.prepare opts).run s).1 = .ok r ∧ r' = { r with txHash := r'.txHash } ∧
      (r.decision.shouldSubmit = true →
        ((x.submit r.decision opts.confirm).run ((x.prepare opts).run s).2).1 = .ok r'.txHash) := by
  unfold attempt at h
  rw [run_bind] at h
  generalize (x.prepare opts).run s = p at h ⊢
  obtain ⟨po, s'⟩ := p
  cases po with
  | error err => cases h
  | ok r =>
    refine ⟨r, rfl, ?_⟩
    dsimp only at h
    by_cases hs : r.decision.shouldSubmit = true
    · rw [if_neg (by simp [hs]), run_bind] at h
      generalize (x.submit r.decision opts.confirm).run s' = q at h ⊢
      obtain ⟨so, s''⟩ := q
      cases so with
      | error err => cases h
      | ok hash =>
        cases h
        exact ⟨rfl, fun _ => rfl⟩
    · rw [if_pos (by simp [hs])] at h
      cases h
      exact ⟨rfl, fun h' => absurd h' hs⟩

end Answers

variable {opts : PricingOptions}

theorem sentView_of_submit_ok {s : σ × List Note} {d : Decision} {confirm : Bool} {hash : String}
    (h : ((e.audit.submit d confirm).run s).1 = .ok hash) :
    e.sentView d s.1 = [.event "prices_submitted", .submittedAlert hash] := by
  obtain ⟨send', hs', tx, htx, rfl⟩ := submit_ok h
  cases hsub : e.submitter with
  | none => simp [audit, hsub] at hs'
  | some send =>
    have hsend : send' = fun buy sell => unnoted (send buy sell) := by
      simp only [audit, hsub, Option.map_some, Option.some.injEq] at hs'
      exact hs'.symm
    subst hsend
    simp only [run_unnoted] at htx
    simp [sentView, hsub, htx]

/-- The lending answers of the trail-keeping engine are the engine's own. -/
theorem LendingAnswer.of_audit {q : Quote} {b : Lending.Bounds} (h : e.audit.LendingAnswer opts q b) :
    e.LendingAnswer opts q b := by
  unfold LendingAnswer at h ⊢
  cases hx : opts.hasExplicitPair <;> cases hl : e.lending
  all_goals simp only [audit, hx, hl, Option.map_none, Option.map_some] at h ⊢
  all_goals first | exact h | (obtain ⟨s, hs⟩ := h; exact ⟨s.1, hs⟩)

/-- Bounds a run can get contradict only when they were derived, when the calculator's do. -/
theorem LendingAnswer.derived_of_contradiction
    (hlend : ∀ lend ∈ e.lending, ∀ inp b, Answers (lend inp) (.ok b) → b.contradiction = true → b.derived = true)
    {q : Quote} {b : Lending.Bounds} (h : e.LendingAnswer opts q b) (hc : b.contradiction = true) :
    b.derived = true := by
  unfold LendingAnswer at h
  cases hx : opts.hasExplicitPair <;> cases hl : e.lending <;> simp only [hx, hl] at h
  case false.some lend => exact hlend lend (Option.mem_def.mpr hl) _ b h hc
  all_goals subst h; cases hc

/-- The items a run that reached decision `r` adds up to it, in order: the reference quote
(unless the prices were explicit), the targets, the lending bounds when they were derived,
the contradiction event and its alert when they contradict, one adjustment event per
adjustment, and the decision. -/
def decisionView (opts : PricingOptions) (r : RunReport) : List Audit :=
  (if opts.hasExplicitPair then [] else [.event "reference_quote"]) ++ [.event "target_prices"] ++
    (if r.bounds.derived then [.event "lending_bounds"] else []) ++
    (if r.bounds.contradiction then [.event "bound_contradiction", .contradictionAlert] else []) ++
    r.adjustments.map (fun _ => .event "range_adjust") ++ [.event "quote_decision"]

theorem prepareView_ok (read : Outcome Current) (fetched : Outcome Quote) (r : RunReport)
    (hb : r.bounds.contradiction = true → r.bounds.derived = true) :
    prepareView opts read fetched (.ok r) = decisionView opts r := by
  unfold prepareView planView boundsView contradictionView decisionView
  rcases hd : r.bounds.derived <;> rcases hc : r.bounds.contradiction
  · simp [hd]
  · simp [hd, hc] at hb
  · simp [hd, hc]
  · simp [hd, hc]

/-- The audit trail of a whole run from world `w`, kept from an empty trail, where the
lending calculator reports a contradiction only for bounds it derived. No entry carries a
schema error. A run whose stage before submission reached decision `r` logs the items of
that decision, then the submission event with its alert exactly when it decided to submit
and the submitter answered a transaction. A run that succeeded logs the submission, with its
transaction hash, exactly when it submitted. A run that failed before its decision logs the
reference quote when it was fetched and the targets when both reads succeeded and the
targets were complete, and nothing else. -/
theorem run_audit_trail (opts : PricingOptions) (w : σ)
    (hlend : ∀ lend ∈ e.lending, ∀ inp b, Answers (lend inp) (.ok b) → b.contradiction = true → b.derived = true) :
    let s₀ : σ × List Note := ((e.clock.run w).2, [])
    let read := e.audit.readCurrent.run ((e.audit.quoteBranch opts).run s₀).2
    let fetched := ((e.audit.referenceQuote opts).run s₀).1
    let po := (e.audit.prepare opts).run s₀
    let out := (e.audit.run opts).run (w, [])
    Note.Clean out.2.2 ∧
      (∀ r, po.1 = .ok r → Note.view out.2.2 = decisionView opts r ++
        (if r.decision.shouldSubmit then e.sentView r.decision po.2.1 else [])) ∧
      (∀ r, out.1 = .ok r → Note.view out.2.2 = decisionView opts r ++
        (if r.decision.shouldSubmit then [.event "prices_submitted", .submittedAlert r.txHash] else [])) ∧
      (∀ err, po.1 = .error err → Note.view out.2.2 = failView opts read.1 fetched) := by
  intro s₀ read fetched po out
  obtain ⟨ns, hns, hview, hclean⟩ := run_logs e (w, []) opts (attempt_logs e s₀ opts (prepare_logs e s₀ opts))
  have htrail : out.2.2 = ns := by simpa using hns
  have hv : Note.view out.2.2 = prepareView opts read.1 fetched po.1 ++ e.afterView po.1 po.2.1 := by
    rw [htrail]
    exact hview
  -- the bounds of a decision contradict only when derived
  have hbounds : ∀ r, po.1 = .ok r → r.bounds.contradiction = true → r.bounds.derived = true := by
    intro r hr hc
    obtain ⟨-, c, q, -, -, hplan⟩ := prepare_ok ⟨s₀, hr⟩
    obtain ⟨t, tag, b, -, -, hb, rfl⟩ := plan_ok hplan
    exact LendingAnswer.derived_of_contradiction e hlend (LendingAnswer.of_audit e hb) hc
  have hdecided : ∀ r, po.1 = .ok r → Note.view out.2.2 = decisionView opts r ++
      (if r.decision.shouldSubmit then e.sentView r.decision po.2.1 else []) := by
    intro r hr
    rw [hv, hr, prepareView_ok _ _ r (hbounds r hr)]
    rfl
  refine ⟨htrail ▸ hclean, hdecided, ?_, ?_⟩
  · intro r hout
    -- recording the outcome keeps the attempt's answer
    have hattempt : ((e.audit.attempt opts).run s₀).1 = .ok r :=
      (finish_yields (e.clock.run w).1 _ ((e.audit.attempt opts).run s₀).2).symm.trans hout
    obtain ⟨r₀, hr₀, hr, hsent⟩ := attempt_ok_sent hattempt
    rw [hdecided r₀ hr₀, hr]
    by_cases hs : r₀.decision.shouldSubmit = true
    · simp only [hs, if_true]
      rw [sentView_of_submit_ok e (hsent hs)]
      rfl
    · simp only [hs]
      rfl
  · intro err herr
    rw [hv, herr]
    simp [prepareView, afterView]

/-- The engine of fixed answers gets bounds that do not contradict, so its run keeps the
audit trail. -/
theorem fixed_run_audit_trail :
    (∀ lend ∈ fixedEngine.lending, ∀ inp b, Answers (lend inp) (.ok b) → b.contradiction = true → b.derived = true) ∧
      Note.Clean ((fixedEngine.audit.run feeOptions).run ((), [])).2.2 ∧
      ∀ r, ((fixedEngine.audit.run feeOptions).run ((), [])).1 = .ok r →
        Note.view ((fixedEngine.audit.run feeOptions).run ((), [])).2.2 = decisionView feeOptions r ++
          (if r.decision.shouldSubmit then [.event "prices_submitted", .submittedAlert r.txHash] else []) := by
  have hlend : ∀ lend ∈ fixedEngine.lending, ∀ inp b, Answers (lend inp) (.ok b) →
      b.contradiction = true → b.derived = true := by
    intro lend hl inp b hb hc
    simp only [fixedEngine, Option.mem_def, Option.some.injEq] at hl
    subst hl
    obtain rfl := Except.ok.inj (Answers.of_pure hb)
    cases hc
  obtain ⟨hclean, -, hok, -⟩ := run_audit_trail fixedEngine feeOptions () hlend
  exact ⟨hlend, hclean, hok⟩

end Engine

/-! ## (4) The calculator's bounds

The run logs a contradiction only with bounds it was told were derived. The lending
calculator keeps to that: it derives the bounds (`derived := true`) before it looks for a
contradiction, and neither later step clears the flag. -/

namespace Lending.Calculator

variable {σ : Type} {c : Calculator (StateM σ)} {inp : Input} {out b : Bounds}

theorem withMin_derived (hd : out.derived = true) (h : Answers (c.withMin inp out) (.ok b)) :
    b.derived = true := by
  unfold withMin at h
  split at h
  · cases h.of_pure
    exact hd
  · obtain ⟨ho, -, h⟩ := h.of_bind
    cases ho with
    | error err => cases h.of_pure
    | ok holding =>
      cases h.of_pure
      exact hd

theorem withMax_derived {market : LendingMarket (StateM σ)} (hd : out.derived = true)
    (h : Answers (c.withMax market inp out) (.ok b)) : b.derived = true := by
  unfold withMax at h
  split at h
  · cases h.of_pure
    exact hd
  · obtain ⟨mo, -, h⟩ := h.of_bind
    simp only [pure_bind] at h
    -- whichever mid price it settles on, each branch ends in a failure, the bounds as they
    -- were, or the bounds with a new maximum and the flag kept; the debug line before the
    -- last changes only the world, not the answer, so `of_pure` reads through it
    cases mo <;> dsimp only at h <;> repeat' split at h
    all_goals first
      | (cases h.of_pure; exact hd)
      | cases h.of_pure

/-- Bounds the calculator answers contradict only when it derived them. -/
theorem bounds_derived_of_contradiction {calculator : Option (Calculator (StateM σ))}
    (h : Answers (bounds calculator inp) (.ok b)) (hc : b.contradiction = true) : b.derived = true := by
  unfold bounds at h
  split at h
  · cases h.of_pure
    cases hc
  · split at h
    · cases h.of_pure
      cases hc
    · split at h
      · cases h.of_pure
        cases hc
      · obtain ⟨ro, -, h⟩ := h.of_bind
        cases ro with
        | error err =>
          dsimp only at h
          split at h
          · obtain ⟨_, -, h⟩ := h.of_bind
            cases h.of_pure
            cases hc
          · cases h.of_pure
        | ok apr =>
          -- from here on the bounds are derived
          obtain ⟨mo, hm, h⟩ := h.of_bind
          cases mo with
          | error err => cases h.of_pure
          | ok out => exact withMax_derived (withMin_derived rfl hm) h

end Lending.Calculator

end QuoteKeeper
