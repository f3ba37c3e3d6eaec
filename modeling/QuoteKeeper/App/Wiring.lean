import QuoteKeeper.App.Plan
import QuoteKeeper.Engine.Run
import QuoteKeeper.Gateway.Swap
import QuoteKeeper.Gateway.Lending
import QuoteKeeper.Gateway.Squid
import QuoteKeeper.Reference.Swap
import QuoteKeeper.Reference.Fallback
import QuoteKeeper.Lending.Market
import QuoteKeeper.Withdrawal.Source
/-
  QuoteKeeper.App.Wiring — the working parts of an ARM, made from its plan.

  1. Clients. Every HTTP client takes the base address configured for its API (its own
     default when empty) and no retry policy, so it retries rate-limited calls twice, two
     seconds apart; it waits under the service's context and limiter, logs each retry, and
     reports every call to the metrics. 1inch and Morpho use the chain's id; KyberSwap its
     chain, client id and excluded sources; fly.trade its network, swapper, slippage and
     liquidity sources; Silo its network; the withdrawal queue its limit and the ARM's
     validators.
  2. References. Each reference source becomes a swap provider with its fee. One source is
     the reference itself; several are tried in order, the first with a quote winning.
  3. The withdrawal source reads the vault's liquidity and the withdrawal queue, with the
     ARM's maturation when one is set.
  4. The lending market is the ARM's active market (through its wrapper's underlying
     market) or the configured one, rated by the planned provider, priced by the planned
     source. With a market, bounds come from a calculator with the default floor and premium
     and the withdrawal estimate as holding period.
  5. The engine reads prices from the ARM's contract, converts through the wrapper's
     exchange rate when there is one, and submits and confirms only with a signer.
-/

namespace QuoteKeeper

namespace App

/-- What an ARM's parts run against, in the monad they run in. -/
structure Services (n : Type → Type) where
  backend : Backend n
  transport : Transport n
  log : Logger n
  observe : String → Outcome Unit → n Unit
  waits : ClientWaits n
  metrics : Metrics n
  alerts : Notifier n
  /-- Nanoseconds since the epoch. -/
  now : n Int

variable {n : Type → Type} [Monad n]

/-- The settings of a client: the configured base address, and no retry policy. -/
def clientSettings (h : Config.HttpSettings) : ClientSettings := ⟨h.baseUrl, RetryPolicy.unset⟩

/-- The quoter of a swap source. -/
def quoter (s : Services n) (c : Config.AppSettings) : SwapSource → SwapQuoter n
  | .curve pool coins =>
    let p : CurvePool n := ⟨⟨pool, s.backend.call⟩, coins⟩
    ⟨"curve", fun i o a => do pure ((← p.quoteSwap i o a).map some)⟩
  | .oneInch =>
    let p := c.providers.oneInch
    match Gateway.oneInch ⟨clientSettings p.http, p.apiKey, c.chain.chainId⟩ s.transport s.observe s.waits with
    | .ok (client, chain) =>
      ⟨"1inch", fun i o a => do
        pure ((← Gateway.oneInchQuoteSwap (client.withLogger s.log) chain i o a).map some)⟩
    | .error e => ⟨"1inch", fun _ _ _ => pure (.error e)⟩
  | .kyber =>
    let p := c.providers.kyber
    let (client, ks) := Gateway.kyber ⟨clientSettings p.http, p.chain, p.clientId, p.excludedSources.getD []⟩
      s.transport s.observe s.waits
    ⟨"kyber", fun i o a => do pure ((← Gateway.kyberQuoteSwap (client.withLogger s.log) ks i o a).map some)⟩
  | .fly =>
    let p := c.providers.flyTrade
    let (client, fs) := Gateway.flyTrade ⟨clientSettings p.http, p.network, Address.ofText p.swapper,
      p.slippage, p.liquiditySources.getD [], 0⟩ s.transport s.observe s.waits
    ⟨"fly", fun i o a => do pure ((← Gateway.flyQuoteSwap (client.withLogger s.log) fs i o a).map some)⟩

/-- The reference provider of a planned source. -/
def provider (s : Services n) (c : Config.AppSettings) (p : SwapPlan) : Provider n :=
  (quoter s c p.source).provider p.fee

/-- The reference of an ARM: none, its one provider, or the first of several with a quote. -/
def reference (log : Logger n) : List (Provider n) → Option (Provider n)
  | [] => none
  | [p] => some p
  | ps => some (Fallback.provider log ps)

/-- An open withdrawal request as the estimator reads it. -/
def pendingRequest (p : Gateway.PendingWithdrawal) : Withdrawal.Request :=
  ⟨p.id, p.validatorId, some p.amount, p.createdAt⟩

/-- The withdrawal source of an ARM's contract. -/
def withdrawalSource (s : Services n) (c : Config.AppSettings) (arm : Contract n) (log : Logger n)
    (w : WithdrawalPlan) : Withdrawal.Source n :=
  let p := c.providers.squid
  let (client, qs) := Gateway.squid ⟨clientSettings p.http, c.chain.chainId, w.validatorIds, p.limit⟩
    s.transport s.observe s.waits
  let call := s.backend.call
  let liquidity : VaultLiquidity n := ⟨arm, ⟨w.vault, call⟩, ⟨w.liquidityToken, call⟩, ⟨w.baseToken, call⟩⟩
  let maturation := if w.maturationDays > 0 then w.maturationDays * Duration.day
    else Withdrawal.defaultMaturation
  ⟨liquidity.read, do pure ((← Gateway.squidRequests (client.withLogger s.log) qs).map (·.map pendingRequest)),
    ⟨maturation, Withdrawal.defaultMinPeriod⟩, s.now, log⟩

/-- The supply rate of a market from the planned provider. -/
def supplyRate (s : Services n) (c : Config.AppSettings) : RateProvider → Address → n (Outcome Float)
  | .silo =>
    let p := c.providers.silo
    let (client, ss) := Gateway.silo ⟨clientSettings p.http, p.network⟩ s.transport s.observe s.waits
    Gateway.siloSupplyRate (client.withLogger s.log) ss
  | .morpho =>
    let (client, ms) := Gateway.morpho ⟨clientSettings c.providers.morpho, c.chain.chainId⟩ s.transport s.observe s.waits
    Gateway.morphoSupplyRate (client.withLogger s.log) ms

/-- The lending market of an ARM's contract. -/
def market (s : Services n) (c : Config.AppSettings) (arm : Contract n) (mp : MarketPlan) : Lending.Market n :=
  let call := s.backend.call
  ⟨some (ArmContract.activeMarket arm), some fun w => TokenContract.market ⟨w, call⟩,
    supplyRate s c mp.provider,
    mp.prices.map fun (sp, amount) =>
      Lending.quoteMidPrice (provider s c sp) (ArmContract.liquidityAsset arm) (ArmContract.baseAsset arm)
        (some amount),
    mp.override⟩

/-- The contract of a planned ARM. -/
def contract (s : Services n) (plan : ArmPlan) : Contract n := ⟨plan.address, s.backend.call⟩

/-- The exchange rate of the ARM's wrapper, if it has one. -/
def rates (s : Services n) (plan : ArmPlan) : Option (n (Outcome Price)) :=
  plan.wrapper.map fun w => TokenContract.exchangeRate ⟨w, s.backend.call⟩

/-- The logger of an ARM's parts. -/
def armLogger (s : Services n) (plan : ArmPlan) : Logger n := s.log.withFields [("arm", .str plan.name)]

/-- The pricing engine of a planned ARM, signing with `signer` when there is one. -/
def engine (s : Services n) (c : Config.AppSettings) (signer : Option Transactor) (plan : ArmPlan) :
    Outcome (Engine n) :=
  let log := armLogger s plan
  let arm := contract s plan
  let quoting : QuotingContract n := ⟨ArmContract.buyPrice arm, ArmContract.sellPrice arm,
    ArmContract.crossPrice arm, ArmContract.liquidityAsset arm, ArmContract.baseAsset arm⟩
  let node := s.backend.node
  let submitter := signer.map fun t buy sell => ArmContract.submitPrices node t plan.address buy sell
  let waiter := signer.map fun _ tx => do pure (← node.waitMined log .deadlineExceeded tx).2
  let holding := plan.withdrawal.map fun w => (withdrawalSource s c arm log w).holdingPeriod
  let lending := plan.market.map fun mp =>
    Lending.Calculator.bounds (some (Lending.Calculator.new (some (market s c arm mp).toLending) holding
      ⟨0, Lending.defaultFloor, Lending.defaultPremium⟩ log))
  Engine.new plan.name ⟨some quoting, submitter, waiter, reference log (plan.providers.map (provider s c)),
    rates s plan, lending, some log, some s.metrics, some s.alerts, s.now⟩

end App

end QuoteKeeper
