import QuoteKeeper.Strategy
/-
  QuoteKeeper.Engine.Options — what one pricing run is asked to do, and when that is sound.

  Fees, tolerance and offset are in basis points; optional prices are decimals that may be
  absent. `validate` checks, in this order, that explicit buy and sell prices come together,
  that they are positive, that the fee is in [0, 10000), that tolerance and amount are not
  negative, that a mid price is positive, and that the holding period is not negative; the
  first failed check is the answer. `amountWei` is the nominal amount (100 when zero) at 18
  places.
-/

namespace QuoteKeeper

structure PricingOptions where
  fee : Decimal
  tolerance : Decimal
  offset : Decimal
  buyPrice : Option Decimal
  sellPrice : Option Decimal
  midPrice : Option Decimal
  minSellPrice : Option Decimal
  maxSellPrice : Option Decimal
  minBuyPrice : Option Decimal
  maxBuyPrice : Option Decimal
  priceOffset : Bool
  wrapped : Bool
  dryRun : Bool
  confirm : Bool
  amount : Decimal
  /-- Nanoseconds; zero asks for an estimate. -/
  holdingPeriod : Int
  minBuyFloor : Option Decimal
  maxBuyPremium : Option Decimal
  deriving Repr, Inhabited

namespace PricingOptions

def default : PricingOptions :=
  ⟨Decimal.zero, Decimal.zero, Decimal.zero, none, none, none, none, none, none, none,
    false, false, false, false, Decimal.zero, 0, none, none⟩

def hasExplicitPair (o : PricingOptions) : Bool := o.buyPrice.isSome && o.sellPrice.isSome

def invalid (why : String) : Failure :=
  .error (Condition.invalidOptions.text ++ ": " ++ why) [.invalidOptions]

def validate (o : PricingOptions) : Outcome Unit :=
  if o.buyPrice.isSome != o.sellPrice.isSome then
    .error (Failure.because "buy and sell prices must be supplied together" .insufficientInput)
  else if o.hasExplicitPair &&
      ((o.buyPrice.map Decimal.isNonPos).getD false || (o.sellPrice.map Decimal.isNonPos).getD false) then
    .error (invalid "explicit prices must be positive")
  else if o.fee.isNeg || o.fee.cmp (Decimal.ofInt 10000) != .lt then
    .error (invalid ("fee " ++ o.fee.toString ++ " bps out of range [0, 10000)"))
  else if o.tolerance.isNeg then
    .error (invalid ("tolerance " ++ o.tolerance.toString ++ " bps is negative"))
  else if o.amount.isNeg then
    .error (invalid ("amount " ++ o.amount.toString ++ " is negative"))
  else if (o.midPrice.map Decimal.isNonPos).getD false then
    .error (invalid "mid price must be positive")
  else if o.holdingPeriod < 0 then
    .error (invalid "holding period is negative")
  else .ok ()

/-- The nominal amount at 18 places; 100 when zero. -/
def amountWei (o : PricingOptions) : Int :=
  let a := if o.amount.isZero then Decimal.ofInt 100 else o.amount
  (Price.ofDecimal a tokenScale).intD

/-- An optional bound at price scale. -/
def bound (d : Option Decimal) : Price :=
  match d with
  | none => .unset
  | some d => Price.ofDecimal d priceScale

def optDecimalJson (d : Option Decimal) : Json := Json.opt (fun d => .str d.toString) d

/-- The options as decimal strings, `null` for absent ones. -/
def toJson (o : PricingOptions) : Json :=
  .obj [("fee", .str o.fee.toString), ("tolerance", .str o.tolerance.toString),
    ("offset", .str o.offset.toString), ("buy_price", optDecimalJson o.buyPrice),
    ("sell_price", optDecimalJson o.sellPrice), ("mid_price", optDecimalJson o.midPrice),
    ("min_sell_price", optDecimalJson o.minSellPrice), ("max_sell_price", optDecimalJson o.maxSellPrice),
    ("min_buy_price", optDecimalJson o.minBuyPrice), ("max_buy_price", optDecimalJson o.maxBuyPrice),
    ("price_offset", .bool o.priceOffset), ("wrapped", .bool o.wrapped), ("dry_run", .bool o.dryRun),
    ("confirm", .bool o.confirm), ("amount", .str o.amount.toString),
    ("holding_period", Json.ofInt o.holdingPeriod), ("min_buy_floor", optDecimalJson o.minBuyFloor),
    ("max_buy_premium", optDecimalJson o.maxBuyPremium)]

end PricingOptions

end QuoteKeeper
