import QuoteKeeper.Engine.Options
import QuoteKeeper.Range
/-
  QuoteKeeper.Engine.Decision — whether new prices should be submitted.

  The tolerance, in basis points, becomes a fraction at price scale. Each side's distance is
  the absolute difference between target and current price; the tolerance is exceeded when
  either distance is strictly greater. Submission follows exactly when it is exceeded and the
  run is not a dry run. Distances are reported in basis points as floats (`bps`).
-/

namespace QuoteKeeper

/-- The prices the contract holds now. -/
structure Current where
  buy : Price
  sell : Price
  cross : Price
  deriving DecidableEq, Repr, Inhabited

structure Decision where
  targetBuy : Price
  targetSell : Price
  currentBuy : Price
  currentSell : Price
  diffBuy : Price
  diffSell : Price
  tolerance : Price
  exceeded : Bool
  shouldSubmit : Bool
  dryRun : Bool
  deriving DecidableEq, Repr, Inhabited

def Decision.ofTargets (target : Targets) (current : Current) (tolerance : Decimal) (dryRun : Bool) : Decision :=
  let tol := Price.ofBps tolerance priceScale
  let diffBuy := target.buy.absDiff current.buy
  let diffSell := target.sell.absDiff current.sell
  let exceeded := diffBuy.cmp tol == .gt || diffSell.cmp tol == .gt
  ⟨target.buy, target.sell, current.buy, current.sell, diffBuy, diffSell, tol, exceeded,
    exceeded && !dryRun, dryRun⟩

/-- A fraction in basis points, as a float. -/
def bps (p : Price) : Float := (p.toDecimal.shift bpsScale).toFloat

namespace Decision

def fields (d : Decision) : List (String × Json) :=
  [("target_buy", d.targetBuy.toJson), ("target_sell", d.targetSell.toJson),
   ("current_buy", d.currentBuy.toJson), ("current_sell", d.currentSell.toJson),
   ("diff_buy", d.diffBuy.toJson), ("diff_sell", d.diffSell.toJson),
   ("tolerance", d.tolerance.toJson), ("exceeded", .bool d.exceeded),
   ("should_submit", .bool d.shouldSubmit), ("dry_run", .bool d.dryRun)]

def toJson (d : Decision) : Json := .obj d.fields

end Decision

end QuoteKeeper
