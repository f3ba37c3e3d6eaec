import QuoteKeeper.App.Backend
import QuoteKeeper.Config.Validate
/-
  QuoteKeeper.App.Plan — what each ARM of a service is built from, decided once from the
  configuration.

  1. An ARM must be configured (`arm "<name>" not configured`) and its pricing options must
     read. Its reference sources are its primary source and fallbacks without the mid price,
     in order: Curve (the ARM's pool and coins), 1inch (which needs an API key: `1inch api
     key required`), KyberSwap and fly.trade; any other name is `unknown source "<name>"`.
     Each source's fee is the ARM's `feeBps` entry for it, zero when there is none
     (`feeBps.<source>: <reason>` when it is not a decimal).
  2. A withdrawal estimate reads the ARM's liquidity and base assets from the contract when
     the ARM is built (`liquidity asset: ...`, `base asset: ...`).
  3. A lending market is planned for the Silo or Morpho provider only; its price source, when
     one is named, is a reference source with its fee and the market-price amount.
  4. The first problem, in this order, is the answer.
-/

namespace QuoteKeeper

namespace App

/-- A source of swap quotes. -/
inductive SwapSource where
  | curve (pool : Address) (coins : List (Address × Int))
  | oneInch
  | kyber
  | fly
  deriving Repr

/-- The name a source quotes under. -/
def SwapSource.name : SwapSource → String
  | .curve .. => "curve"
  | .oneInch => "1inch"
  | .kyber => "kyber"
  | .fly => "fly"

/-- A reference source and the fee taken off its quotes, in basis points. -/
structure SwapPlan where
  source : SwapSource
  fee : Decimal
  deriving Repr

inductive RateProvider where
  | silo
  | morpho
  deriving DecidableEq, Repr

def RateProvider.ofName? : String → Option RateProvider
  | "silo" => some .silo
  | "morpho" => some .morpho
  | _ => none

structure WithdrawalPlan where
  vault : Address
  liquidityToken : Address
  baseToken : Address
  validatorIds : List String
  /-- Days before a request can be claimed; the estimator's default when not positive. -/
  maturationDays : Int
  deriving Repr

structure MarketPlan where
  provider : RateProvider
  /-- The market to use instead of the ARM's active one; zero for none. -/
  override : Address
  /-- The source of the market's mid price and the amount it is quoted for. -/
  prices : Option (SwapPlan × Int)
  deriving Repr

/-- One ARM as built. -/
structure ArmPlan where
  name : String
  address : Address
  options : PricingOptions
  providers : List SwapPlan
  wrapper : Option Address
  withdrawal : Option WithdrawalPlan
  market : Option MarketPlan
  deriving Repr

/-- The source a configured name stands for. -/
def swapSource (c : Config.AppSettings) (a : Config.ArmSettings) : String → Outcome SwapSource
  | "curve" => .ok (.curve (Address.ofText a.curve.pool)
      ((a.curve.coins.getD []).map fun (coin, i) => (Address.ofText coin, i)))
  | "inch" =>
    if c.providers.oneInch.apiKey.isEmpty then .error (.plain "1inch api key required") else .ok .oneInch
  | "kyber" => .ok .kyber
  | "fly" => .ok .fly
  | other => .error (.plain ("unknown source " ++ Text.quoted other))

/-- The fee configured for a source, zero when there is none. -/
def sourceFee (a : Config.ArmSettings) (src : String) : Outcome Decimal :=
  match (a.feeBps.getD []).lookup src with
  | none => .ok Decimal.zero
  | some raw =>
    match Decimal.ofString? raw with
    | .ok d => .ok d
    | .error e => .error (.plain ("feeBps." ++ src ++ ": " ++ e.message))

def swapPlan (c : Config.AppSettings) (a : Config.ArmSettings) (src : String) : Outcome SwapPlan := do
  pure ⟨← swapSource c a src, ← sourceFee a src⟩

/-- The lending market of an ARM, if its provider has one. -/
def marketPlan (c : Config.AppSettings) (a : Config.ArmSettings) : Outcome (Option MarketPlan) :=
  match RateProvider.ofName? a.lending.provider with
  | none => .ok none
  | some p => do
    let prices ← if a.lending.priceSource.isEmpty then pure none else do
      let sp ← swapPlan c a a.lending.priceSource
      let amount ← a.lending.marketPriceAmount.mapError Failure.plain
      pure (some (sp, amount))
    pure (some ⟨p, Address.ofText a.lending.market, prices⟩)

variable {m : Type → Type} [Monad m]

/-- The withdrawal estimate of an ARM, if it is enabled: the assets are read now. -/
def withdrawalPlan (call : CallEndpoint m) (a : Config.ArmSettings) (contract : Address) :
    m (Outcome (Option WithdrawalPlan)) := do
  if !a.withdrawal.enabled then return .ok none
  let arm : Contract m := ⟨contract, call⟩
  match ← ArmContract.liquidityAsset arm with
  | .error e => pure (.error (e.wrap "liquidity asset"))
  | .ok liquidity =>
    match ← ArmContract.baseAsset arm with
    | .error e => pure (.error (e.wrap "base asset"))
    | .ok base =>
      pure (.ok (some ⟨Address.ofText a.vault, liquidity, base, a.withdrawal.validatorIds.getD [],
        a.withdrawal.maturationDays⟩))

/-- The plan of the ARM named `name`. -/
def planArm (c : Config.AppSettings) (call : CallEndpoint m) (name : String) : m (Outcome ArmPlan) := do
  let first : Outcome (Config.ArmSettings × PricingOptions × List SwapPlan) := do
    let a ← c.arm name
    let opts ← a.pricingOptions
    let providers ← (a.sources.filter (· != "mid")).mapM (swapPlan c a)
    pure (a, opts, providers)
  match first with
  | .error e => pure (.error e)
  | .ok (a, opts, providers) =>
    let address := Address.ofText a.address
    match ← withdrawalPlan call a address with
    | .error e => pure (.error e)
    | .ok withdrawal =>
      let wrapper := if a.wrapper.isEmpty then none else some (Address.ofText a.wrapper)
      pure ((marketPlan c a).map fun market =>
        ⟨name, address, opts, providers, wrapper, withdrawal, market⟩)

end App

end QuoteKeeper
