import QuoteKeeper.Strategy
/-
  QuoteKeeper.Range — bounds on target prices and the cross rule.

  `clamp` brings a price under a present upper bound and then over a present lower bound,
  recording each move; when the bounds cross, the lower bound wins. The cross rule keeps the
  sell target at or above the cross price and the buy target strictly below it (one unit at
  price scale below). `Range.apply` clamps the sell target, then the buy target, then applies
  the cross rule, and returns both targets at price scale with every move in that order.
-/

namespace QuoteKeeper

/-- One move of a target price. -/
structure Adjustment where
  side : String
  reason : String
  before : Price
  after : Price
  deriving DecidableEq, Repr

namespace Adjustment

def toJson (a : Adjustment) : Json :=
  .obj [("side", .str a.side), ("reason", .str a.reason), ("from", a.before.toJson),
    ("to", a.after.toJson)]

end Adjustment

/-- A price kept within present bounds: first under `hi`, then over `lo`. -/
def clamp (price lo hi : Price) : Price × List Adjustment :=
  let (price, above) :=
    if hi.valid && price.cmp hi == .gt then (hi, [⟨"", "above_max", price, hi⟩]) else (price, [])
  let (price, below) :=
    if lo.valid && price.cmp lo == .lt then (lo, [⟨"", "below_min", price, lo⟩]) else (price, [])
  (price, above ++ below)

/-- Sell at or above the cross price, buy strictly below it. -/
def enforceCross (buy sell cross : Price) : Price × Price × List Adjustment :=
  if !cross.valid then (buy, sell, [])
  else
    let (sell, s) :=
      if sell.cmp cross == .lt then (cross, [⟨"sell", "below_cross", sell, cross⟩]) else (sell, [])
    let (buy, b) :=
      if buy.cmp cross != .lt then
        let below : Price := .set ((cross.rescale priceScale).intD - 1) priceScale
        (below, [⟨"buy", "at_or_above_cross", buy, below⟩])
      else (buy, [])
    (buy, sell, s ++ b)

/-- Optional bounds on each target. -/
structure Range where
  minSell : Price
  maxSell : Price
  minBuy : Price
  maxBuy : Price
  deriving DecidableEq, Repr

namespace Range

def apply (r : Range) (t : Targets) (cross : Price) : Targets × List Adjustment :=
  let (sell, a1) := clamp t.sell r.minSell r.maxSell
  let (buy, a2) := clamp t.buy r.minBuy r.maxBuy
  let (buy, sell, a3) := enforceCross buy sell cross
  (⟨buy.rescale priceScale, sell.rescale priceScale⟩,
    a1.map (fun a => { a with side := "sell" }) ++ a2.map (fun a => { a with side := "buy" }) ++ a3)

end Range

end QuoteKeeper
