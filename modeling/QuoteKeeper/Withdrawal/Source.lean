import QuoteKeeper.Withdrawal.Estimate
import QuoteKeeper.Log.Schema
/-
  QuoteKeeper.Withdrawal.Source — the estimate from live readings.

  The source reads the liquidity snapshot, then the withdrawal queue only when the estimate
  can use it (something required and something needed), estimates at the current time, and
  logs a `withdraw_estimate` audit event with the amounts as decimal text, the requests used
  and queued, and the period in days. The holding period it offers is the estimate's period.
-/

namespace QuoteKeeper

namespace Withdrawal

structure Source (m : Type → Type) where
  liquidity : m (Outcome Liquidity)
  queue : m (Outcome (List Request))
  estimator : Estimator
  now : m Int
  logger : Logger m

namespace Source

variable {m : Type → Type} [Monad m]

def estimate (s : Source m) : m (Outcome Estimate) := do
  match ← s.liquidity with
  | .error e => pure (.error (e.wrap "read liquidity"))
  | .ok liq =>
    let queue ← if liq.wantsQueue then s.queue else pure (.ok [])
    match queue with
    | .error e => pure (.error (e.wrap "read withdrawal queue"))
    | .ok queue =>
      let est := s.estimator.estimate (← s.now) liq queue
      s.logger.event "withdraw_estimate"
        [("needed", .str (intText est.needed)), ("covered", .str (intText est.covered)),
         ("shortfall", .str (intText est.shortfall)), ("used", Json.ofNat est.used),
         ("queued", Json.ofNat queue.length), ("days", Json.ofFloat est.days)]
      pure (.ok est)

def holdingPeriod (s : Source m) : m (Outcome Int) := do
  return (← s.estimate).map (·.period)

end Source

end Withdrawal

end QuoteKeeper
