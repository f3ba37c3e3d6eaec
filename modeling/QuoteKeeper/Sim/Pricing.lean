import QuoteKeeper.Sim.Script
import QuoteKeeper.Reference.Swap
import QuoteKeeper.Reference.Fallback
import QuoteKeeper.Engine.Decision
/-
  QuoteKeeper.Sim.Pricing — reference quotes and pricing options from requests, and runs of quoting providers.

  A quote is `{source, mid, buy, sell}`; a provider's answer is `{quote}` or `{error}`. A
  swap quoter's legs answer from the script in order (`{out}` or `{error}`, none left being no
  quote) and every leg asked is recorded; a wrapped provider converts its quote by a rate; a
  fallback chain reports every provider's answer and the one it settles on.
-/

namespace QuoteKeeper

namespace Sim

def readQuote (j : Json) : Decoded Quote := do
  pure ⟨← readStr j "source", ← readPrice j "mid", ← readPrice j "buy", ← readPrice j "sell"⟩

/-- `{quote}` or `{error}` as an outcome. -/
def readAnswer (j : Json) : Decoded (Outcome Quote) := do
  match ← readErr j "error" with
  | some e => pure (.error e)
  | none => pure (.ok (← readQuote (j.getD "quote")))

def quoteMembers (o : Outcome Quote) : List (String × Json) :=
  match o with
  | .ok q => [("quote", q.toJson), ("err", .null)]
  | .error e => [("quote", .null), ("err", Failure.toJson e)]

def readOptions (j : Json) : Decoded PricingOptions := do
  pure ⟨← readDec j "fee", ← readDec j "tolerance", ← readDec j "offset", ← readOptDec j "buy_price",
    ← readOptDec j "sell_price", ← readOptDec j "mid_price", ← readOptDec j "min_sell_price",
    ← readOptDec j "max_sell_price", ← readOptDec j "min_buy_price", ← readOptDec j "max_buy_price",
    ← readBool j "price_offset", ← readBool j "wrapped", ← readBool j "dry_run", ← readBool j "confirm",
    ← readDec j "amount", ← readInt j "holding_period" 0, ← readOptDec j "min_buy_floor", ← readOptDec j "max_buy_premium"⟩

def adjustmentsJson (as : List Adjustment) : Json := .arr (as.map Adjustment.toJson)

def fixedProvider (name : String) (a : Outcome Quote) : Provider Scripted := ⟨name, fun _ _ => pure a⟩

/-- A swap quoter over scripted legs: its calls and its quote. -/
def swapProvider (j : Json) : Decoded Json := do
  let legs ← readList j "legs"
  let name ← readStr j "name"
  let q : SwapQuoter Scripted := ⟨name, fun i o a => do
    record "call" (.obj [("in", .str i.toText), ("out", .str o.toText), ("amount", bigJson a)])
    match ← nextAnswer with
    | none => pure (.ok none)
    | some l => match l.getD "error" with
      | .str e => pure (.error (stubFailure e))
      | _ => pure (.ok ((readBig l "out").toOption.join))⟩
  let (o, (_, calls)) := (q.quote (← readDec j "fee_bps") ⟨← readAddr j "base", ← readAddr j "liquidity"⟩
    (← readBig j "amount")).run (legs, #[])
  pure (.obj ([("name", .str name), ("calls", .arr (recorded calls "call"))] ++ quoteMembers o))

/-- A fixed provider seen through a rate. -/
def wrapped (j : Json) : Decoded Json := do
  let pj := j.getD "provider"
  let rj := j.getD "rates"
  let rate : Outcome Price ← match ← readErr rj "error" with
    | some e => pure (.error e)
    | none => pure (.ok (← readPrice rj "rate"))
  let p := (fixedProvider (← readStr pj "name") (← readAnswer pj)).wrapped (pure rate)
  let (o, _) := (p.getPrice ⟨Address.zero, Address.zero⟩ none).run ([], #[])
  pure (.obj ([("name", .str p.name)] ++ quoteMembers o))

/-- A fallback chain of fixed providers: every answer, and the chosen one. -/
def fallback (j : Json) : Decoded Json := do
  let ps ← (← readList j "providers").mapM fun pj => do pure (fixedProvider (← readStr pj "name") (← readAnswer pj))
  let pair : Pair := ⟨Address.zero, Address.zero⟩
  let ((all, o), _) := (do
    let all ← Fallback.fetchAll ps pair none
    let o ← Fallback.getPrice Logger.nop ps pair none
    pure (all, o)).run ([], #[])
  pure (.obj ([("name", .str (Fallback.name ps)), ("all", .arr (all.map fun r =>
    .obj ([("provider", .str r.provider)] ++ quoteMembers r.outcome)))] ++ quoteMembers o))

end Sim

end QuoteKeeper
