import QuoteKeeper.Engine.Decision
import QuoteKeeper.Lending.Calculator
import QuoteKeeper.Log.Schema
import QuoteKeeper.Chain.Transaction
/-
  QuoteKeeper.Engine.Run — one pricing run for one ARM.

  (1) Reading. The options are validated first. A reference quote (unless the options give
  an explicit buy and sell pair) and the contract's current prices (sell, then buy, then
  cross) are both read to the end, the reference branch completing first; then a failed
  reference fetch is the answer, else a failed contract read. The reference comes from the
  options' mid price when set, else from the configured provider (divided by the exchange
  rate when the options ask for wrapped prices), for the contract's asset pair and the
  options' nominal amount.
  (2) Pricing. Explicit prices are the targets as given; otherwise the strategy the quote
  selects computes them, and both sides must come out set. Buy bounds come from the lending
  calculator unless the prices are explicit, then the range and the cross price adjust the
  targets, and the decision compares them with the current prices.
  (3) Submission. Prices are submitted only when the decision says so, which needs a
  submitter; with `confirm` the run also waits for the receipt when it can.
  (4) Reporting. Each stage writes its audit event, gauge and alert in a fixed order. A
  failed run records the failure's kind, logs it and raises the run-failed alert; a panic
  is passed on untouched.
-/

namespace QuoteKeeper

/-- The quoting contract, read side. -/
structure QuotingContract (m : Type → Type) where
  buyPrice : m (Outcome Price)
  sellPrice : m (Outcome Price)
  crossPrice : m (Outcome Price)
  liquidityAsset : m (Outcome Address)
  baseAsset : m (Outcome Address)

/-- Gauges and counters a run updates. -/
structure Metrics (m : Type → Type) where
  setReference : String → Float → Float → Float → m Unit
  setTargets : String → Float → Float → m Unit
  setCurrent : String → Float → Float → m Unit
  setDiffs : String → Float → Float → m Unit
  setLending : String → Float → Float → m Unit
  recordRun : String → String → m Unit
  recordFailure : String → String → m Unit

def Metrics.nop [Monad m] : Metrics m :=
  ⟨fun _ _ _ _ => pure (), fun _ _ _ => pure (), fun _ _ _ => pure (), fun _ _ _ => pure (),
    fun _ _ _ => pure (), fun _ _ => pure (), fun _ _ => pure ()⟩

/-- Alerts a run raises; what the alert channels answer does not matter to the run. -/
structure Notifier (m : Type → Type) where
  pricesSubmitted : String → String → String → String → m Unit
  runFailed : String → String → Failure → m Unit
  boundContradiction : String → String → String → m Unit

def Notifier.nop [Monad m] : Notifier m :=
  ⟨fun _ _ _ _ => pure (), fun _ _ _ => pure (), fun _ _ _ => pure ()⟩

/-- What an engine is built from; everything but the contract may be missing. -/
structure Components (m : Type → Type) where
  contract : Option (QuotingContract m)
  submitter : Option (Price → Price → m (Outcome Transaction))
  waiter : Option (Transaction → m (Outcome Unit))
  reference : Option (Provider m)
  rates : Option (m (Outcome Price))
  lending : Option (Lending.Input → m (Outcome Lending.Bounds))
  logger : Option (Logger m)
  metrics : Option (Metrics m)
  alerts : Option (Notifier m)
  /-- Nanoseconds since some fixed instant, for the elapsed time of a run. -/
  clock : m Int

/-- A pricing engine for one ARM; runs keep no state between them. -/
structure Engine (m : Type → Type) where
  name : String
  contract : QuotingContract m
  submitter : Option (Price → Price → m (Outcome Transaction))
  waiter : Option (Transaction → m (Outcome Unit))
  reference : Option (Provider m)
  rates : Option (m (Outcome Price))
  lending : Option (Lending.Input → m (Outcome Lending.Bounds))
  logger : Logger m
  metrics : Metrics m
  alerts : Notifier m
  clock : m Int

/-- The outcome of a successful run. -/
structure RunReport where
  decision : Decision
  reference : Quote
  strategy : String
  bounds : Lending.Bounds
  adjustments : List Adjustment
  txHash : String

def RunReport.toJson (r : RunReport) : Json :=
  .obj (r.decision.fields ++
    [("reference", r.reference.toJson), ("strategy", .str r.strategy),
     ("bounds", r.bounds.toJson), ("adjustments", .arr (r.adjustments.map Adjustment.toJson)),
     ("tx_hash", .str r.txHash)])

/-- The outcome label of a finished run. -/
def RunReport.outcome (r : RunReport) : String :=
  if r.decision.shouldSubmit then "submitted"
  else if r.decision.dryRun && r.decision.exceeded then "dry_run"
  else "unchanged"

variable {m : Type → Type} [Monad m]

/-- An engine; the contract is required, and a missing logger, metrics or notifier does
nothing. The logger carries the ARM's name. -/
def Engine.new (name : String) (c : Components m) : Outcome (Engine m) :=
  match c.contract with
  | none => .error (Failure.plain ("engine " ++ name ++ ": quoting contract is required"))
  | some k =>
    .ok ⟨name, k, c.submitter, c.waiter, c.reference, c.rates, c.lending,
      (c.logger.getD Logger.nop).withFields [("arm", .str name)],
      c.metrics.getD Metrics.nop, c.alerts.getD Notifier.nop, c.clock⟩

/-- The options' bounds on the targets, at price scale. -/
def PricingOptions.range (opts : PricingOptions) : Range :=
  ⟨PricingOptions.bound opts.minSellPrice, PricingOptions.bound opts.maxSellPrice,
    PricingOptions.bound opts.minBuyPrice, PricingOptions.bound opts.maxBuyPrice⟩

/-- What a run asks the lending calculator: the options' buy bounds and the reference mid. -/
def PricingOptions.lendingInput (opts : PricingOptions) (quote : Quote) : Lending.Input :=
  ⟨PricingOptions.bound opts.minBuyPrice, PricingOptions.bound opts.maxBuyPrice, quote.mid, opts.holdingPeriod,
    opts.minBuyFloor, opts.maxBuyPremium⟩

namespace Engine

/-- Sell, buy and cross price, in that order. -/
def readCurrent (e : Engine m) : m (Outcome Current) := do
  match ← e.contract.sellPrice with
  | .error err => pure (.error (err.wrap "read sell price"))
  | .ok sell =>
    match ← e.contract.buyPrice with
    | .error err => pure (.error (err.wrap "read buy price"))
    | .ok buy =>
      match ← e.contract.crossPrice with
      | .error err => pure (.error (err.wrap "read cross price"))
      | .ok cross => pure (.ok ⟨buy, sell, cross⟩)

/-- The provider a run asks. -/
def provider (e : Engine m) (opts : PricingOptions) : Outcome (Provider m) :=
  match opts.midPrice, e.reference with
  | some mid, _ => .ok (Provider.mid mid)
  | none, some p =>
    if opts.wrapped then
      match e.rates with
      | none => .error (Failure.because "no exchange rate source" .exchangeRateUnavailable)
      | some r => .ok (p.wrapped r)
    else .ok p
  | none, none =>
    .error (Failure.because "no explicit prices, mid price or reference source" .insufficientInput)

/-- The asset pair; not read when a mid price is given. -/
def pair (e : Engine m) (opts : PricingOptions) : m (Outcome Pair) := do
  if opts.midPrice.isSome then return .ok ⟨Address.zero, Address.zero⟩
  match ← e.contract.liquidityAsset with
  | .error err => pure (.error (err.wrap "read liquidity asset"))
  | .ok liq =>
    match ← e.contract.baseAsset with
    | .error err => pure (.error (err.wrap "read base asset"))
    | .ok base => pure (.ok ⟨base, liq⟩)

def referenceQuote (e : Engine m) (opts : PricingOptions) : m (Outcome Quote) := do
  match e.provider opts with
  | .error err => pure (.error err)
  | .ok p =>
    match ← e.pair opts with
    | .error err => pure (.error err)
    | .ok pr =>
      match ← p.getPrice pr (some opts.amountWei) with
      | .error err => pure (.error (err.wrap ("reference price from " ++ p.name)))
      | .ok q =>
        e.logger.event "reference_quote"
          [("arm", .str e.name), ("source", .str q.source), ("mid", .str q.mid.toString),
           ("buy", .str q.buy.toString), ("sell", .str q.sell.toString)]
        e.metrics.setReference e.name q.mid.toFloat q.buy.toFloat q.sell.toFloat
        pure (.ok q)

/-- The lending audit event and gauge, and the contradiction alert. -/
def logBounds (e : Engine m) (b : Lending.Bounds) (mid : Price) : m Unit := do
  let days := Duration.hours b.holdingPeriod / 24
  e.logger.event "lending_bounds"
    [("arm", .str e.name), ("apr", Json.ofFloat b.apr), ("apy", Json.ofFloat b.apy),
     ("holdingDays", Json.ofFloat days), ("minBuy", .str b.minBuy.toString),
     ("maxBuy", .str b.maxBuy.toString), ("contradiction", .bool b.contradiction)]
  e.metrics.setLending e.name b.apy days
  if b.contradiction then
    e.logger.risk "bound_contradiction"
      [("arm", .str e.name), ("minBuy", .str b.minBuy.toString),
       ("maxBuy", .str b.maxBuy.toString), ("mid", .str mid.toString)]
    e.alerts.boundContradiction e.name b.minBuy.toString mid.toString

def logDecision (e : Engine m) (d : Decision) : m Unit := do
  let diffBuy := bps d.diffBuy
  let diffSell := bps d.diffSell
  e.metrics.setDiffs e.name diffBuy diffSell
  e.logger.event "quote_decision"
    [("arm", .str e.name), ("targetBuy", .str d.targetBuy.toString),
     ("targetSell", .str d.targetSell.toString), ("currentBuy", .str d.currentBuy.toString),
     ("currentSell", .str d.currentSell.toString), ("diffBuyBps", Json.ofFloat diffBuy),
     ("diffSellBps", Json.ofFloat diffSell), ("toleranceBps", Json.ofFloat (bps d.tolerance)),
     ("exceeded", .bool d.exceeded), ("submit", .bool d.shouldSubmit), ("dryRun", .bool d.dryRun)]
  if d.dryRun && d.exceeded then e.logger.info "dry run, not submitting prices" []

/-- Submits the decision's targets and answers the transaction hash. -/
def submit (e : Engine m) (d : Decision) (confirm : Bool) : m (Outcome String) := do
  match e.submitter with
  | none => pure (.error (Failure.of .noSubmitter))
  | some send =>
    match ← send d.targetBuy d.targetSell with
    | .error err => pure (.error (err.wrap "submit prices"))
    | .ok tx =>
      let hash := tx.hashText
      e.logger.event "prices_submitted"
        [("arm", .str e.name), ("buy", .str d.targetBuy.toString),
         ("sell", .str d.targetSell.toString), ("tx", .str hash)]
      e.alerts.pricesSubmitted e.name d.targetBuy.toString d.targetSell.toString hash
      match confirm, e.waiter with
      | true, some wait =>
        match ← wait tx with
        | .error err => pure (.error (err.wrap ("confirm " ++ hash)))
        | .ok () => pure (.ok hash)
      | _, _ => pure (.ok hash)

/-- The targets: explicit ones, or the selected strategy's. -/
def targets (opts : PricingOptions) (quote : Quote) : Outcome (Targets × String) :=
  match opts.buyPrice, opts.sellPrice with
  | some buy, some sell => .ok (Targets.explicit buy sell, "explicit")
  | _, _ =>
    let s := Strategy.select opts.priceOffset quote
    match s.targets quote ⟨opts.fee, opts.offset⟩ with
    | .error err => .error (err.wrap (s.name ++ " strategy"))
    | .ok t => .ok (t, s.name)

/-- The buy bounds of a run: the lending calculator's for derived prices when there is one
(with its audit event, and the alert for contradictory bounds, when it derived them), else
none. -/
def lendingBounds (e : Engine m) (opts : PricingOptions) (quote : Quote) : m (Outcome Lending.Bounds) := do
  match opts.hasExplicitPair, e.lending with
  | false, some lend =>
    match ← lend (opts.lendingInput quote) with
    | .error err => pure (.error err)
    | .ok b =>
      if b.derived then e.logBounds b quote.mid
      pure (.ok b)
  | _, _ => pure (.ok Lending.Bounds.none)

/-- The range a run applies: the options' bounds, the buy bounds replaced by the lending
calculator's when it was asked. -/
def range (e : Engine m) (opts : PricingOptions) (b : Lending.Bounds) : Range :=
  if !opts.hasExplicitPair && e.lending.isSome then { opts.range with minBuy := b.minBuy, maxBuy := b.maxBuy }
  else opts.range

/-- One audit event per adjustment, in order. -/
def logAdjustments (e : Engine m) (adjustments : List Adjustment) : m Unit := do
  for a in adjustments do
    e.logger.event "range_adjust"
      [("arm", .str e.name), ("side", .str a.side), ("reason", .str a.reason),
       ("from", .str a.before.toString), ("to", .str a.after.toString)]

/-- Everything after the reads up to the decision: targets, bounds, adjustments, decision. -/
def plan (e : Engine m) (opts : PricingOptions) (current : Current) (quote : Quote) :
    m (Outcome RunReport) := do
  e.logger.info "current prices"
    [("buy", .str current.buy.toString), ("sell", .str current.sell.toString),
     ("cross", .str current.cross.toString)]
  e.metrics.setCurrent e.name current.buy.toFloat current.sell.toFloat
  match targets opts quote with
  | .error err => pure (.error err)
  | .ok (t, tag) =>
    if !t.valid then
      return .error (Failure.because (tag ++ " targets incomplete") .insufficientInput)
    e.logger.event "target_prices"
      [("arm", .str e.name), ("strategy", .str tag), ("buy", .str t.buy.toString),
       ("sell", .str t.sell.toString), ("fee", .str opts.fee.toString),
       ("offset", .str opts.offset.toString)]
    match ← e.lendingBounds opts quote with
    | .error err => pure (.error err)
    | .ok b =>
      let applied := (e.range opts b).apply t current.cross
      e.logAdjustments applied.2
      e.metrics.setTargets e.name applied.1.buy.toFloat applied.1.sell.toFloat
      let d := Decision.ofTargets applied.1 current opts.tolerance opts.dryRun
      e.logDecision d
      pure (.ok ⟨d, quote, tag, b, applied.2, ""⟩)

/-- The reference branch of a run: the quote, unless the pair is explicit. -/
def quoteBranch (e : Engine m) (opts : PricingOptions) : m (Outcome Quote) :=
  if opts.hasExplicitPair then pure (.ok Quote.empty) else e.referenceQuote opts

/-- The run up to its decision: nothing is submitted yet. -/
def prepare (e : Engine m) (opts : PricingOptions) : m (Outcome RunReport) := do
  match opts.validate with
  | .error err => pure (.error err)
  | .ok () =>
    -- the reference branch completes first, so its failure is the one reported
    let quote ← e.quoteBranch opts
    let current ← e.readCurrent
    match current, quote with
    | _, .error err => pure (.error err)
    | .error err, .ok _ => pure (.error err)
    | .ok c, .ok q => e.plan opts c q

/-- The run without its reporting: the decision, then its submission when it says so. -/
def attempt (e : Engine m) (opts : PricingOptions) : m (Outcome RunReport) := do
  match ← e.prepare opts with
  | .error err => pure (.error err)
  | .ok report =>
    if !report.decision.shouldSubmit then return .ok report
    match ← e.submit report.decision opts.confirm with
    | .error err => pure (.error err)
    | .ok hash => pure (.ok { report with txHash := hash })

/-- The records of an attempt that started at `start` and answered `o`: a failure's kind, log
line and alert, or the outcome and elapsed time of a finished run; a panic is passed on
untouched. -/
def finish (e : Engine m) (start : Int) (o : Outcome RunReport) : m (Outcome RunReport) := do
  match o with
  | .error (.panic msg) => pure (.error (.panic msg))
  | .error err =>
    let kind := err.runKind
    e.metrics.recordRun e.name "failed"
    e.metrics.recordFailure e.name kind
    e.logger.error "pricing run failed" [("kind", .str kind), ("error", .str err.message)]
    e.alerts.runFailed e.name kind err
    pure (.error err)
  | .ok r =>
    e.metrics.recordRun e.name r.outcome
    let stop ← e.clock
    e.logger.info "pricing run finished"
      [("outcome", .str r.outcome), ("elapsed", e.logger.duration (Instant.since stop start))]
    pure (.ok r)

/-- One run, with its outcome recorded. -/
def run (e : Engine m) (opts : PricingOptions) : m (Outcome RunReport) := do
  let start ← e.clock
  e.finish start (← e.attempt opts)

end Engine

end QuoteKeeper
