import QuoteKeeper.Reference.Quote
/-
  QuoteKeeper.Strategy — target buy and sell prices from a reference quote.

  Targets are at price scale (36 places). Fees and offsets are in basis points.

  * Fee strategy: the mid, truncated to 18 places, less the offset, is the offset mid m; with
    the fee rate f = trunc(10^6 − 100 · fee), the buy target is m · f / 10^6 and the sell
    target m · 10^6 / f, rounding toward zero. It needs a positive mid, and a fee rate that is
    positive (`fee <fee> bps too large`).
  * Offset strategy: the buy target is the reference sell price, truncated to 18 places, plus
    the offset; the sell target adds twice the fee to it. It needs a positive reference sell.
  * Explicit targets: the given prices truncated to 18 places.

  `select` takes the offset strategy when asked and the quote has a sell price, else the fee
  strategy; `ofKind?` reads a strategy name (`fee` or empty, `offset`).
-/

namespace QuoteKeeper

/-- Target prices; both must be present before they are used. -/
structure Targets where
  buy : Price
  sell : Price
  deriving DecidableEq, Repr, Inhabited

namespace Targets

def valid (t : Targets) : Bool := t.buy.valid && t.sell.valid

def toJson (t : Targets) : Json :=
  .obj [("buy", t.buy.toJson), ("sell", t.sell.toJson), ("valid", .bool t.valid)]

/-- Explicit prices, truncated to 18 places and written at price scale. -/
def explicit (buy sell : Decimal) : Targets :=
  ⟨(Price.ofDecimal buy tokenScale).rescale priceScale,
   (Price.ofDecimal sell tokenScale).rescale priceScale⟩

end Targets

/-- Fee and offset, in basis points. -/
structure Params where
  fee : Decimal
  offset : Decimal

inductive Strategy where
  | fee
  | offset
  deriving DecidableEq, Repr

namespace Strategy

def name : Strategy → String
  | .fee => "fee"
  | .offset => "offset"

/-- Reads a strategy name. -/
def ofKind? (kind : String) : Outcome Strategy :=
  if kind = "fee" ∨ kind = "" then .ok .fee
  else if kind = "offset" then .ok .offset
  else .error (.plain ("unknown strategy type: " ++ kind))

/-- The offset strategy when asked for and the quote has a sell price. -/
def select (priceOffset : Bool) (ref : Quote) : Strategy :=
  if priceOffset && ref.sell.valid then .offset else .fee

/-- `10^6`: fee rates are in millionths. -/
def feeScale : Int := pow10 6

/-- The fee rate in millionths: `trunc(10^6 − 100 · fee)`. -/
def feeRate (fee : Decimal) : Int := (Decimal.ofInt feeScale - fee * Decimal.ofInt 100).trunc

/-- The mid truncated to 18 places, less the offset, at price scale. -/
def offsetMid (mid : Price) (offset : Decimal) : Price :=
  ((mid.rescale tokenScale).sub (Price.ofBps offset tokenScale)).rescale priceScale

def targets (s : Strategy) (ref : Quote) (p : Params) : Outcome Targets :=
  match s with
  | .fee =>
    if !ref.mid.valid || ref.mid.sign ≤ 0 then
      .error (Failure.because "fee strategy needs a mid price" .insufficientInput)
    else
      let f := feeRate p.fee
      if f ≤ 0 then .error (.plain ("fee " ++ p.fee.toString ++ " bps too large"))
      else
        let m := offsetMid ref.mid p.offset
        .ok ⟨.set ((m.intD * f).tdiv feeScale) priceScale, .set ((m.intD * feeScale).tdiv f) priceScale⟩
  | .offset =>
    if !ref.sell.valid || ref.sell.sign ≤ 0 then
      .error (Failure.because "offset strategy needs a reference sell price" .insufficientInput)
    else
      let buy := ((ref.sell.rescale tokenScale).add (Price.ofBps p.offset tokenScale)).rescale priceScale
      .ok ⟨buy, buy.add (Price.ofBps (p.fee * Decimal.ofInt 2) priceScale)⟩

end Strategy

end QuoteKeeper
