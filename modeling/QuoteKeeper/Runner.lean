import QuoteKeeper.Engine.Options
import QuoteKeeper.Breaker
import QuoteKeeper.Alert
import QuoteKeeper.Chain.Head
/-
  QuoteKeeper.Runner — pricing runs one after another, one per trigger.

  1. Options. A runner holds the pricing options of its next run; new options replace them
     for the runs after. A runner forced to dry runs turns every run into one, whatever the
     options say.
  2. One run. The pricer is asked with the options; the after-run hook is told, whatever the
     result (it feeds a watchdog). A failed run is the answer; a finished one is logged as
     `pricing run done` with whether it submitted, whether the tolerance was exceeded and the
     transaction hash (empty without one).
  3. One step. With a breaker, the run goes through it: refused while it is open, and its
     result counted. Each change of the breaker's state is reported as it happens, so a
     half-opening is reported before the run and an opening or closing after it. A step
     that was cancelled says nothing more; a refused step tells the after-run hook too and
     logs `pricing run skipped` at debug level; any other failure is a warning, `pricing run
     failed, waiting for next trigger`. A failure never ends the runner.
  4. The loop takes trigger after trigger, one step each, until the triggers end (no
     failure) or it is cancelled (`context canceled`).
  5. A change of the breaker's state is a warning with the states and the consecutive
     failures, the new state on a gauge (0 closed, 1 open, 2 half open), and an alert when
     runs are suspended (with the failures and the cooldown) or resumed.
  6. Triggers come from a ticker, at once and then every interval, or from new heads of the
     chain, every `every`-th head seen (each one when `every` is not positive), each logged
     as `block trigger` at debug level. A trigger that comes while one is waiting is dropped.
-/

namespace QuoteKeeper

/-- What a finished pricing run reports. -/
structure RunSummary where
  submitted : Bool
  exceeded : Bool
  /-- The submitted transaction's hash, empty when none was sent. -/
  txHash : String
  deriving Repr, Inhabited

/-- The world a runner acts in. -/
structure RunnerEnv (m : Type → Type) where
  price : PricingOptions → m (Outcome RunSummary)
  log : Logger m
  /-- Told after every run and every refused step. -/
  afterRun : m Unit
  /-- Told of every change of the breaker's state, as it happens. -/
  onChange : BreakerChange → m Unit
  now : m Int
  cancelled : m Bool

/-- What ends a wait: the time passing, a request to stop, or nothing ever (the process is
left waiting until it is killed). -/
inductive Wakeup where
  | elapsed
  | stopped
  | never
  deriving DecidableEq, Repr

/-- How a loop that waits for triggers ends: asked to stop, or left waiting. -/
inductive LoopEnd where
  | cancelled
  | waiting
  deriving DecidableEq, Repr

/-- What the loop is told next. -/
inductive LoopEvent where
  | trigger
  | closed
  | cancelled
  deriving DecidableEq, Repr

structure Runner where
  options : PricingOptions
  forceDryRun : Bool
  breaker : Option Breaker

namespace BreakerState

/-- The state as a gauge reading. -/
def code : BreakerState → Nat
  | .closed => 0
  | .opened => 1
  | .halfOpen => 2

end BreakerState

namespace Runner

variable {m : Type → Type} [Monad m]

/-- The options the next run is asked with. -/
def effectiveOptions (r : Runner) : PricingOptions :=
  if r.forceDryRun then { r.options with dryRun := true } else r.options

def setOptions (r : Runner) (o : PricingOptions) : Runner := { r with options := o }

/-- One run, without the breaker. -/
def runOnce (r : Runner) (env : RunnerEnv m) : m (Outcome Unit) := do
  let result ← env.price r.effectiveOptions
  env.afterRun
  match result with
  | .error e => pure (.error e)
  | .ok s =>
    env.log.info "pricing run done"
      [("submitted", .bool s.submitted), ("exceeded", .bool s.exceeded), ("tx", .str s.txHash)]
    pure (.ok ())

def reportAll (env : RunnerEnv m) : List BreakerChange → m Unit
  | [] => pure ()
  | c :: cs => do env.onChange c; reportAll env cs

/-- One run through the breaker, if there is one. -/
def guardedRun (r : Runner) (env : RunnerEnv m) : m (Outcome Unit × Runner) := do
  match r.breaker with
  | none => pure (← r.runOnce env, r)
  | some b =>
    match b.permit (← env.now) with
    | .error e => pure (.error e, r)
    | .ok (b1, opened) =>
      reportAll env opened
      let result ← r.runOnce env
      let failure := match result with
        | .ok _ => none
        | .error e => some e
      let (b2, changes) := b1.record (← env.now) failure
      reportAll env changes
      pure (result, { r with breaker := some b2 })

/-- One trigger's step: a failure is logged and the runner goes on. -/
def step (r : Runner) (env : RunnerEnv m) : m Runner := do
  let (result, r) ← r.guardedRun env
  match result with
  | .ok _ => pure r
  | .error e =>
    if ← env.cancelled then pure r
    else if e.has .breakerOpen then
      env.afterRun
      env.log.debug "pricing run skipped" [("error", .str e.message)]
      pure r
    else
      env.log.warn "pricing run failed, waiting for next trigger" [("error", .str e.message)]
      pure r

/-- Steps on each trigger until the triggers end or the loop is cancelled. -/
def loop (r : Runner) (env : RunnerEnv m) : List LoopEvent → m (Runner × Outcome Unit)
  | [] => pure (r, .ok ())
  | .closed :: _ => pure (r, .ok ())
  | .cancelled :: _ => pure (r, .error (Failure.of .cancelled))
  | .trigger :: rest => do
    let r ← r.step env
    r.loop env rest

/-- The cooldown of a runner's breaker: whole seconds, five minutes when not positive. -/
def cooldownOf (seconds : Int) : Int :=
  let d := Duration.wrap (seconds * Duration.second)
  if d ≤ 0 then 5 * Duration.minute else d

/-- How a change of the breaker's state is reported: a warning, the gauge, and an alert when
runs stop or start again. -/
def reportChange (log : Logger m) (gauge : Nat → m Unit) (alert : Alert → m Unit) (arm : String)
    (cooldown : Int) (c : BreakerChange) : m Unit := do
  log.warn "circuit breaker state changed"
    [("from", .str c.before.name), ("to", .str c.after.name), ("consecutiveFailures", Json.ofNat c.failures)]
  gauge c.after.code
  match c.after with
  | .opened => alert (AlertManager.runsSuspended arm c.failures cooldown)
  | .closed => alert (AlertManager.runsResumed arm)
  | .halfOpen => pure ()

/-- The heads that trigger a run: every `every`-th one seen, each one when `every` is not
positive. -/
def headTriggers (every : Int) (heads : List Head) : List Head :=
  let every := if every ≤ 0 then 1 else every
  ((heads.zipIdx).filter fun (_, i) => ((i + 1 : Nat) : Int) % every == 0).map (·.1)

/-- The heads that trigger a run, each logged. -/
def announceHeads (log : Logger m) (every : Int) (heads : List Head) : m (List Head) := do
  let fired := headTriggers every heads
  for h in fired do
    log.debug "block trigger" [("block", Json.ofNat h.number)]
  pure fired

end Runner

end QuoteKeeper
