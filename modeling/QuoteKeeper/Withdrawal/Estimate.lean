import QuoteKeeper.Time
import QuoteKeeper.Text.Json
import QuoteKeeper.Failure
/-
  QuoteKeeper.Withdrawal.Estimate — how long until the liquidity an ARM needs is back.

  The ARM needs `required + pendingClaims − available` (a missing amount counting as zero).
  Pending withdrawal requests mature a fixed time after they were made; taking them oldest
  first (a stable order by creation time), each covers up to what is still needed and is
  weighted by its whole seconds left to maturity (none once matured). What the queue cannot
  cover is the shortfall, weighted by the full maturation time. The holding period is the
  weighted average in whole seconds, truncated, kept within `[minPeriod, maturation]`.

  Nothing is needed when `required` is missing or zero or the need is not positive
  (`Liquidity.nothingNeeded`); the estimate is then `minPeriod` with nothing covered. A source
  reads the queue only when a required amount is set and not zero and something is needed
  (`Liquidity.wantsQueue`), a test written on its own. Requests with a missing or non-positive
  amount are skipped. Averaging and the seconds-to-nanoseconds step use 64-bit integers, whose
  overflow wraps.
-/

namespace QuoteKeeper

namespace Withdrawal

def defaultMaturation : Int := 14 * Duration.day
def defaultMinPeriod : Int := Duration.day

structure Request where
  id : String
  validatorId : String
  amount : Option Int
  createdAt : Int
  deriving DecidableEq, Repr

structure Liquidity where
  available : Option Int
  required : Option Int
  pendingClaims : Option Int
  deriving DecidableEq, Repr

/-- What must come back: `required + pendingClaims − available`. -/
def Liquidity.needed (l : Liquidity) : Int :=
  l.required.getD 0 + l.pendingClaims.getD 0 - l.available.getD 0

/-- The source's test for reading the queue: a required amount that is set and not zero, and
something needed. -/
def Liquidity.wantsQueue (l : Liquidity) : Bool :=
  l.required.isSome && l.required != some 0 && decide (0 < l.needed)

/-- The estimator's test for answering at once: no required amount, a required amount of
zero, or nothing needed. -/
def Liquidity.nothingNeeded (l : Liquidity) : Bool :=
  l.required.isNone || l.required == some 0 || decide (l.needed ≤ 0)

structure Estimate where
  period : Int
  needed : Int
  covered : Int
  shortfall : Int
  used : Nat
  deriving DecidableEq, Repr

def Estimate.days (e : Estimate) : Float := Duration.hours e.period / 24

def Estimate.toJson (e : Estimate) : Json :=
  .obj [("period", Json.ofInt e.period), ("needed", .str (intText e.needed)),
    ("covered", .str (intText e.covered)), ("shortfall", .str (intText e.shortfall)),
    ("used", Json.ofNat e.used), ("days", Json.ofFloat e.days)]

structure Estimator where
  maturation : Int
  minPeriod : Int
  deriving Repr

def Estimator.default : Estimator := ⟨defaultMaturation, defaultMinPeriod⟩

/-- Requests oldest first; requests made at one time keep their order. -/
def oldestFirst (queue : List Request) : List Request :=
  queue.mergeSort fun a b => decide (a.createdAt ≤ b.createdAt)

/-- The walk over the queue: weighted seconds, amount covered, amount still needed, requests
used. -/
structure Walk where
  weighted : Int
  covered : Int
  remaining : Int
  used : Nat

/-- One request's contribution at time `now`. -/
def Walk.step (e : Estimator) (now : Int) (w : Walk) (r : Request) : Walk :=
  if w.remaining ≤ 0 then w
  else match r.amount with
    | none => w
    | some a =>
      if a ≤ 0 then w
      else
        let take := min a w.remaining
        let left := max 0 (Instant.since (r.createdAt + e.maturation) now)
        ⟨w.weighted + take * left.tdiv Duration.second, w.covered + take, w.remaining - take,
          w.used + 1⟩

def Estimator.estimate (e : Estimator) (now : Int) (liq : Liquidity) (queue : List Request) :
    Estimate :=
  let needed := liq.needed
  if liq.nothingNeeded then ⟨e.minPeriod, needed, 0, 0, 0⟩
  else
    let w := (oldestFirst queue).foldl (Walk.step e now) ⟨0, 0, needed, 0⟩
    let shortfall := max 0 w.remaining
    let weighted := w.weighted + shortfall * Duration.wrap (e.maturation.tdiv Duration.second)
    let secs := weighted.tdiv needed
    let period := Duration.wrap (Duration.wrap secs * Duration.second)
    let period := if period < e.minPeriod then e.minPeriod else period
    let period := if period > e.maturation then e.maturation else period
    ⟨period, needed, w.covered, shortfall, w.used⟩

end Withdrawal

end QuoteKeeper
