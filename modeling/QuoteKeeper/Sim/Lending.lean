import QuoteKeeper.Sim.Pricing
import QuoteKeeper.Lending.Market
import QuoteKeeper.Withdrawal.Source
/-
  QuoteKeeper.Sim.Lending — lending bounds, market rates and withdrawal estimates over stubbed sources.

  A calculator's market and holding period answer fixed values or errors and count how often
  they are asked; a market's locator, wrapper, rate source and price provider record what they
  are asked for; a withdrawal source counts its queue reads and logs its audit events.
-/

namespace QuoteKeeper

namespace Sim

def readCalculator (cj : Json) : Decoded (Option (Lending.Calculator Scripted)) := do
  match cj with
  | .null => pure none
  | _ =>
    let mj := cj.getD "market"
    let market : Option (Lending.LendingMarket Scripted) ← match mj with
      | .null => pure none
      | _ => do
        let rate : Outcome Float ← match ← readErr mj "apr_error" with
          | some e => pure (.error e)
          | none => pure (.ok (← readFloat mj "apr"))
        let mid : Outcome Price ← match ← readErr mj "mid_error" with
          | some e => pure (.error e)
          | none => pure (.ok (← readPrice mj "mid"))
        pure (some ⟨do record "rate" .null; pure rate, do record "mid" .null; pure mid⟩)
    let hj := cj.getD "holding"
    let holding : Option (Scripted (Outcome Int)) ← match hj with
      | .null => pure none
      | _ => do
        let h ← readStub hj "period" (fun j k => readInt j k 0)
        pure (some (do record "holding" .null; pure h))
    let cfg := cj.getD "config"
    pure (some (Lending.Calculator.new market holding
      ⟨← readInt cfg "holding_period" 0, ← readDec cfg "min_buy_floor", ← readDec cfg "max_buy_premium"⟩ Logger.nop))

def readInput (ij : Json) : Decoded Lending.Input := do
  pure ⟨← readPrice ij "min_buy", ← readPrice ij "max_buy", ← readPrice ij "reference_mid",
    ← readInt ij "holding_period" 0, ← readOptDec ij "floor", ← readOptDec ij "premium"⟩

/-- Call counts of the calculator's stubs that exist. -/
def callCounts (cj : Json) (calls : Array (String × Json)) : List (String × Json) :=
  let n (t : String) := Json.ofNat (recorded calls t).length
  (if (cj.getD "market").isNull then [] else [("rate_calls", n "rate"), ("mid_calls", n "mid")]) ++
  (if (cj.getD "holding").isNull then [] else [("holding_calls", n "holding")])

def readLiquidity (j : Json) : Decoded Withdrawal.Liquidity := do
  pure ⟨← readBig j "available", ← readBig j "required", ← readBig j "pending_claims"⟩

def readRequests (j : Json) (k : String) : Decoded (List Withdrawal.Request) := do
  (← readList j k).mapM fun r => do
    pure ⟨← readStr r "id", ← readStr r "validator_id", ← readBig r "amount", ← readInt r "created_at" 0⟩

def readEstimator (j : Json) : Decoded Withdrawal.Estimator := do
  pure ⟨← readInt j "maturation" Withdrawal.defaultMaturation, ← readInt j "min_period" Withdrawal.defaultMinPeriod⟩

/-- A logger that records audit events. -/
def eventLogger : Logger Scripted :=
  Logger.ofSink fun e => if e.isEvent then record "event" e.toJson else pure ()

/-- The bounds a calculator gives for an input, with its stubs' call counts. -/
def lendingBounds (j : Json) : Decoded Json := do
  let cj := j.getD "calculator"
  let c ← readCalculator cj
  let inp ← readInput (j.getD "input")
  let (o, (_, calls)) := (Lending.Calculator.bounds c inp).run ([], #[])
  pure (.obj ([("bounds", match o with | .ok b => b.toJson | .error _ => .null), ("err", Outcome.errorJson o)] ++
    callCounts cj calls))

/-- A lending market's annual rate and mid price, with what its stubs were asked. -/
def lendingMarket (j : Json) : Decoded Json := do
  let addrStub (k : String) : Decoded (Option (Outcome Address)) := do
    match j.getD k with
    | .null => pure none
    | sj => pure (some (← readStub sj "address" readAddr))
  let loc ← addrStub "locator"
  let und ← addrStub "underlying"
  let rj := j.getD "rates"
  let rate ← readStub rj "apr" readFloat
  let pj := j.getD "prices"
  let prices : Option (Scripted (Outcome Price)) ← match pj with
    | .null => pure none
    | _ => do
      let aj := pj.getD "assets"
      let asset (k : String) : Decoded (Outcome Address) := do
        match ← readErr aj (k ++ "_error") with
        | some e => pure (.error e)
        | none => pure (.ok (← readAddr aj k))
      let liq ← asset "liquidity"
      let base ← asset "base"
      let prov := pj.getD "provider"
      let ans ← readAnswer prov
      let p : Provider Scripted := ⟨← readStr prov "name", fun pair amt => do
        record "price" (.obj [("base", .str pair.base.toText), ("liquidity", .str pair.liquidity.toText),
          ("amount", bigJson amt)])
        pure ans⟩
      pure (some (Lending.quoteMidPrice p (pure liq) (pure base) (← readBig pj "amount")))
  let mk : Lending.Market Scripted := ⟨loc.map pure, und.map fun o w => do
      record "wrapper" (.str w.toText); pure o,
    fun a => do record "market" (.str a.toText); pure rate, prices, Address.ofText (← readStr j "override")⟩
  let ((r, p), (_, calls)) := (do pure (← mk.annualRate, ← mk.midPrice)).run ([], #[])
  pure (.obj ([("apr", match r with | .ok a => Json.ofFloat a | .error _ => .null), ("apr_err", Outcome.errorJson r),
    ("mid", match p with | .ok a => a.toJson | .error _ => .null), ("mid_err", Outcome.errorJson p),
    ("rate_markets", .arr (recorded calls "market")), ("underlying_wrappers", .arr (recorded calls "wrapper"))] ++
    (if pj.isNull then [] else [("price_calls", .arr (recorded calls "price"))])))

/-- A withdrawal source's estimate and holding period. -/
def withdrawalSource (j : Json) : Decoded Json := do
  let liq ← match ← readErr j "liquidity_error" with
    | some e => pure (Except.error e)
    | none => pure (.ok (← readLiquidity (j.getD "liquidity")))
  let q ← match ← readErr j "queue_error" with
    | some e => pure (Except.error e)
    | none => pure (.ok (← readRequests j "queue"))
  let src : Withdrawal.Source Scripted := ⟨pure liq, do record "queue" .null; pure q,
    ← readEstimator j, pure (← readInt j "now" 0), eventLogger⟩
  let ((e, h), (_, calls)) := (do pure (← src.estimate, ← src.holdingPeriod)).run ([], #[])
  pure (.obj [("estimate", match e with | .ok e => e.toJson | .error _ => .null), ("err", Outcome.errorJson e),
    ("holding_period", match h with | .ok p => Json.ofInt p | .error _ => .null), ("holding_err", Outcome.errorJson h),
    ("queue_reads", Json.ofNat (recorded calls "queue").length), ("events", .arr (recorded calls "event"))])

end Sim

end QuoteKeeper
