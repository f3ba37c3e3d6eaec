import QuoteKeeper.Number.Elementary
import QuoteKeeper.Price.Basic
import QuoteKeeper.Time
/-
  QuoteKeeper.Lending.Bounds — buy-price bounds from a lending market.

  A lending market pays an annual rate (APR, a fraction) compounded daily, which is the yield
  `(1 + apr/365)^365 − 1` (APY). Holding the base asset for a period forgoes that yield, so
  the highest fair buy price is what one unit is worth discounted over the holding period:
  `1 / (1 + apy)^(days/365)`, written at price scale from its shortest decimal text. A floor
  below which the bound never goes is applied when present; a result that is not a number
  gives the floor itself.

  The maximum buy price is the mid plus a premium share of it (truncated at each step). When
  it reaches the minimum buy price the bounds contradict each other and the minimum is used.
-/

namespace QuoteKeeper

namespace Lending

def daysPerYear : Float := 365.0

/-- The yearly yield of an annual rate compounded daily. -/
def apy (apr : Float) : Float := Elementary.pow (1 + apr / daysPerYear) daysPerYear - 1

/-- The discount over `holding` nanoseconds at yield `apy`, at price scale, never below a
present floor. -/
def minBuyPrice (apy : Float) (holding : Int) (floor : Price) : Price :=
  let days := Duration.hours holding / 24
  let v := 1 / Elementary.pow (1 + apy) (days / daysPerYear)
  if v.isInf || v.isNaN then floor.rescale priceScale
  else
    let p := Price.ofDecimal (Float.shortest v) priceScale
    if floor.valid && p.cmp floor == .lt then floor.rescale priceScale else p

/-- The mid at price scale plus `premium` of it; the minimum buy price instead when that is
not above it, with the contradiction flag. An unset mid cannot be raised. -/
def maxBuyPrice (mid minBuy : Price) (premium : Decimal) : Outcome (Price × Bool) := do
  let mid36 := mid.rescale priceScale
  let prem := (Price.ofDecimal premium tokenScale).int?
  let bump ← mid36.mulDiv prem (some (pow10 tokenScale))
  let maxBuy := mid36.add bump
  if minBuy.valid && maxBuy.cmp minBuy != .lt then pure (minBuy.rescale priceScale, true)
  else pure (maxBuy, false)

end Lending

end QuoteKeeper
