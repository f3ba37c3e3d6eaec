import QuoteKeeper.Price.Basic
import QuoteKeeper.Chain.Address
import QuoteKeeper.Log.Entry
/-
  QuoteKeeper.Reference.Quote — reference quotes and the providers that fetch them.

  A quote names its source and carries a mid price and, optionally, a buy and a sell price
  (at token scale, 18 places). A provider has a name and fetches a quote for a pair of assets
  and a nominal amount, in some effect `m`; the amount may be missing.

  The mid-price provider (`Provider.mid`) answers a fixed mid, truncated to 18 places, and
  fails with `quoteUnavailable` when that is not positive. `adjust` divides every price of a
  quote by an exchange rate (at the quote's own scales, rounding toward zero), and fails with
  `exchangeRateUnavailable` when the rate is missing or not positive.
-/

namespace QuoteKeeper

/-- The assets of a market: the base asset is quoted against the liquidity asset. -/
structure Pair where
  base : Address
  liquidity : Address
  deriving DecidableEq, Repr, Inhabited

/-- A reference quote. -/
structure Quote where
  source : String
  mid : Price
  buy : Price
  sell : Price
  deriving DecidableEq, Repr, Inhabited

namespace Quote

def empty : Quote := ⟨"", .unset, .unset, .unset⟩

/-- Whether both sides are present. -/
def hasSides (q : Quote) : Bool := q.buy.valid && q.sell.valid

/-- Each present price divided by `rate`; the source kept. -/
def adjust (q : Quote) (rate : Price) : Outcome Quote :=
  if rate.sign ≤ 0 then .error (Failure.of .exchangeRateUnavailable)
  else
    let one (p : Price) : Outcome Price :=
      if p.valid then
        match p.div rate with
        | .ok v => .ok v
        | .error e => .error (Failure.under .exchangeRateUnavailable e)
      else .ok .unset
    do
      let mid ← one q.mid
      let buy ← one q.buy
      let sell ← one q.sell
      pure ⟨q.source, mid, buy, sell⟩

def toJson (q : Quote) : Json :=
  .obj [("source", .str q.source), ("mid", q.mid.toJson), ("buy", q.buy.toJson),
    ("sell", q.sell.toJson), ("has_sides", .bool q.hasSides)]

end Quote

/-- A source of reference quotes. -/
structure Provider (m : Type → Type) where
  name : String
  getPrice : Pair → Option Int → m (Outcome Quote)

namespace Provider

variable {m : Type → Type} [Monad m]

/-- A fixed mid price, truncated to token scale. -/
def mid (d : Decimal) : Provider m :=
  let p := Price.ofDecimal d tokenScale
  ⟨"mid", fun _ _ => pure (if p.sign ≤ 0 then .error (Failure.of .quoteUnavailable)
    else .ok ⟨"mid", p, .unset, .unset⟩)⟩

/-- The quote divided by the exchange rate that `rates` reads. A failing rate read becomes
`exchangeRateUnavailable`, its text kept after a colon. -/
def wrapped (p : Provider m) (rates : m (Outcome Price)) : Provider m :=
  ⟨p.name ++ "/wrapped", fun pair amount => do
    match ← p.getPrice pair amount with
    | .error e => pure (.error e)
    | .ok q =>
      match ← rates with
      | .error e => pure (.error (Failure.under .exchangeRateUnavailable e))
      | .ok r => pure (q.adjust r)⟩

end Provider

end QuoteKeeper
