import QuoteKeeper.Lending.Calculator
import QuoteKeeper.Reference.Quote
/-
  QuoteKeeper.Lending.Market — the lending market an ARM lends into.

  The market address is the override when one is set; otherwise the locator names the ARM's
  active market wrapper (the zero address, or no locator, meaning none is active), and the
  wrapper's underlying market is looked up when a lookup is given. The annual rate is the rate
  source's supply APR for that address. The market's mid price comes from its price source,
  when there is one.

  A quote-based price source reads the ARM's two assets, asks a reference provider for a
  quote of the configured amount, and answers its mid, which must be positive.
-/

namespace QuoteKeeper

namespace Lending

structure Market (m : Type → Type) where
  locator : Option (m (Outcome Address))
  underlying : Option (Address → m (Outcome Address))
  rates : Address → m (Outcome Float)
  prices : Option (m (Outcome Price))
  override : Address

namespace Market

variable {m : Type → Type} [Monad m]

def resolve (mk : Market m) : m (Outcome Address) := do
  if !mk.override.isZero then return .ok mk.override
  match mk.locator with
  | none => pure (.error (Failure.of .noActiveMarket))
  | some loc =>
    match ← loc with
    | .error e => pure (.error (e.wrap "active market"))
    | .ok wrapper =>
      if wrapper.isZero then pure (.error (Failure.of .noActiveMarket))
      else match mk.underlying with
        | none => pure (.ok wrapper)
        | some f => do
          match ← f wrapper with
          | .ok u => pure (.ok u)
          | .error e => pure (.error (e.wrap ("underlying market of " ++ wrapper.toText)))

def annualRate (mk : Market m) : m (Outcome Float) := do
  match ← mk.resolve with
  | .error e => pure (.error e)
  | .ok addr =>
    match ← mk.rates addr with
    | .ok apr => pure (.ok apr)
    | .error e => pure (.error (e.wrap ("supply apr of " ++ addr.toText)))

def midPrice (mk : Market m) : m (Outcome Price) :=
  match mk.prices with
  | none => pure (.error (Failure.of .noMidPrice))
  | some p => p

def toLending (mk : Market m) : LendingMarket m := ⟨mk.annualRate, mk.midPrice⟩

end Market

/-- The mid of a reference quote for the ARM's assets. -/
def quoteMidPrice (provider : Provider m) (liquidityAsset baseAsset : m (Outcome Address))
    (amount : Option Int) [Monad m] : m (Outcome Price) := do
  match ← liquidityAsset with
  | .error e => pure (.error (e.wrap "liquidity asset"))
  | .ok liq =>
    match ← baseAsset with
    | .error e => pure (.error (e.wrap "base asset"))
    | .ok base =>
      match ← provider.getPrice ⟨base, liq⟩ amount with
      | .error e => pure (.error (e.wrap (provider.name ++ " market price")))
      | .ok q =>
        if !q.mid.valid || q.mid.sign ≤ 0 then
          pure (.error (Failure.because (provider.name ++ " market price") .quoteUnavailable))
        else pure (.ok q.mid)

end Lending

end QuoteKeeper
