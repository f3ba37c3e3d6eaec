import QuoteKeeper.Lending.Bounds
import QuoteKeeper.Log.Entry
/-
  QuoteKeeper.Lending.Calculator — buy bounds for one run, from the market when needed.

  Explicit bounds always win: a bound given in the input is returned as it is, and when both
  are given no collaborator is asked. Otherwise the market's rate is read (no market, or no
  active market, leaves the input bounds and derives nothing); then a missing minimum comes
  from `minBuyPrice` over the holding period (the input's if positive, else the configured
  one if positive, else the holding-period source's, else fifteen days) and the floor (the
  input's, else the configured 0.99), and a missing maximum from `maxBuyPrice` over the
  market's mid (the reference mid when the market has none) and the premium (the input's,
  else the configured 0.00001).
-/

namespace QuoteKeeper

namespace Lending

/-- Fifteen days. -/
def defaultHoldingPeriod : Int := 15 * Duration.day

def defaultFloor : Decimal := ⟨99, -2⟩
def defaultPremium : Decimal := ⟨1, -5⟩

/-- A lending market as the calculator sees it. -/
structure LendingMarket (m : Type → Type) where
  annualRate : m (Outcome Float)
  midPrice : m (Outcome Price)

structure Config where
  holdingPeriod : Int
  minBuyFloor : Decimal
  maxBuyPremium : Decimal
  deriving Repr

structure Input where
  minBuy : Price
  maxBuy : Price
  referenceMid : Price
  holdingPeriod : Int
  floor : Option Decimal
  premium : Option Decimal
  deriving Repr

structure Bounds where
  minBuy : Price
  maxBuy : Price
  apr : Float
  apy : Float
  holdingPeriod : Int
  derived : Bool
  contradiction : Bool
  deriving Inhabited

def Bounds.none : Bounds := ⟨.unset, .unset, 0, 0, 0, false, false⟩

def Bounds.toJson (b : Bounds) : Json :=
  .obj [("min_buy", b.minBuy.toJson), ("max_buy", b.maxBuy.toJson), ("apr", Json.ofFloat b.apr),
    ("apy", Json.ofFloat b.apy), ("holding_period", Json.ofInt b.holdingPeriod),
    ("derived", .bool b.derived), ("contradiction", .bool b.contradiction)]

structure Calculator (m : Type → Type) where
  market : Option (LendingMarket m)
  holding : Option (m (Outcome Int))
  config : Config
  logger : Logger m

namespace Calculator

variable {m : Type → Type} [Monad m]

/-- A calculator; a zero floor or premium in the configuration takes the default. -/
def new (market : Option (LendingMarket m)) (holding : Option (m (Outcome Int))) (cfg : Config)
    (logger : Logger m) : Calculator m :=
  ⟨market, holding,
    { cfg with
      minBuyFloor := if cfg.minBuyFloor.isZero then defaultFloor else cfg.minBuyFloor
      maxBuyPremium := if cfg.maxBuyPremium.isZero then defaultPremium else cfg.maxBuyPremium },
    logger⟩

def holdingPeriod (c : Calculator m) (override : Int) : m (Outcome Int) :=
  if override > 0 then pure (.ok override)
  else if c.config.holdingPeriod > 0 then pure (.ok c.config.holdingPeriod)
  else match c.holding with
    | none => pure (.ok defaultHoldingPeriod)
    | some h => do
      match ← h with
      | .ok d => pure (.ok d)
      | .error e => pure (.error (e.wrap "holding period"))

/-- The minimum once the rate is known. -/
def withMin (c : Calculator m) (inp : Input) (out : Bounds) : m (Outcome Bounds) := do
  if out.minBuy.valid then return .ok out
  match ← c.holdingPeriod inp.holdingPeriod with
  | .error e => pure (.error e)
  | .ok holding =>
    let floor := Price.ofDecimal (inp.floor.getD c.config.minBuyFloor) priceScale
    pure (.ok { out with holdingPeriod := holding, minBuy := minBuyPrice out.apy holding floor })

/-- The maximum once the minimum is known. -/
def withMax (c : Calculator m) (market : LendingMarket m) (inp : Input) (out : Bounds) :
    m (Outcome Bounds) := do
  if out.maxBuy.valid then return .ok out
  let mid ← match ← market.midPrice with
    | .ok p => pure (Except.ok p)
    | .error e =>
      if e.has .noMidPrice then pure (.ok inp.referenceMid)
      else pure (.error (e.wrap "lending mid price"))
  match mid with
  | .error e => pure (.error e)
  | .ok mid =>
    if !mid.valid then return .ok out
    match maxBuyPrice mid out.minBuy (inp.premium.getD c.config.maxBuyPremium) with
    | .error e => pure (.error e)
    | .ok (maxBuy, contra) =>
      if contra then
        c.logger.debug "max buy price not below min buy price, using min"
          [("mid", .str mid.toString), ("minBuy", .str out.minBuy.toString)]
      pure (.ok { out with maxBuy := maxBuy, contradiction := contra })

def bounds (calculator : Option (Calculator m)) (inp : Input) : m (Outcome Bounds) := do
  let out : Bounds := { Bounds.none with minBuy := inp.minBuy, maxBuy := inp.maxBuy }
  if inp.minBuy.valid && inp.maxBuy.valid then return .ok out
  match calculator with
  | none => pure (.ok out)
  | some c =>
    match c.market with
    | none => pure (.ok out)
    | some market =>
      match ← market.annualRate with
      | .error e =>
        if e.has .noActiveMarket then do
          c.logger.info "no active lending market, skipping lending bounds" []
          pure (.ok out)
        else pure (.error (e.wrap "lending rate"))
      | .ok apr =>
        let out := { out with apr := apr, apy := apy apr, derived := true }
        match ← c.withMin inp out with
        | .error e => pure (.error e)
        | .ok out => c.withMax market inp out

end Calculator

end Lending

end QuoteKeeper
