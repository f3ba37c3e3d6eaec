import QuoteKeeper.Runner
import QuoteKeeper.Chain.Subscription
/-
  QuoteKeeper.Runner.Drive — a runner driven by a ticker or by the chain's new heads, until it
  is asked to stop.

  1. Ticker. A step at once, then a wait of the interval, then the next step, and so on. A
     stop asked for during a wait ends the loop as cancelled; a wait that nothing ends leaves
     it waiting.
  2. Heads. The subscriber takes its connections in turn. The heads a connection delivers
     arrive together: every `every`-th head seen since the start (each one when `every` is not
     positive) is a trigger, logged as `block trigger` at debug level, and the triggers of one
     arrival make at most two steps, since one trigger is taken at once and one more waits
     while the step runs. Then the connection ends: a connection that stays open and silent
     ends only after its quiet time, unless a stop comes first. Its end is logged with the wait
     before the next attempt (`head subscription dropped, reconnecting`), and the wait follows,
     doubled after each attempt up to the ceiling. With no connection left the subscriber
     waits for good.
  3. Fuel. The ticker takes at most as many steps as its fuel; with none left it is waiting.
-/

namespace QuoteKeeper

namespace Runner

variable {m : Type → Type} [Monad m]

/-- Steps on a ticker: one at once, then one after each interval, at most `fuel` in all. -/
def everyTick (env : RunnerEnv m) (wait : Int → m Wakeup) (interval : Int) :
    Nat → Runner → m (Runner × LoopEnd)
  | 0, r => pure (r, .waiting)
  | fuel + 1, r => do
    let r ← r.step env
    match ← wait interval with
    | .stopped => pure (r, .cancelled)
    | .never => pure (r, .waiting)
    | .elapsed => everyTick env wait interval fuel r

/-- `n` steps, one after another. -/
def steps (env : RunnerEnv m) : Nat → Runner → m Runner
  | 0, r => pure r
  | n + 1, r => do steps env n (← r.step env)

/-- The heads of a connection that trigger a step, `seen` heads having come before them. -/
def triggering (every : Int) (seen : Nat) (heads : List Head) : List Head :=
  let period := if every ≤ 0 then 1 else every
  ((heads.zipIdx).filter fun (_, i) => ((seen + i + 1 : Nat) : Int) % period == 0).map (·.1)

/-- A session over a connection, the heads it delivers kept in order: the reason it ended and
the heads. -/
def sessionHeads (log : Logger m) (c : Except String Connection) : m (String × List Head) :=
  let log' : Logger (StateT (List Head) m) := log.mapSink fun e => StateT.lift (log.sink e)
  (Subscription.session log' (fun _ => pure ()) (fun h => do modify (· ++ [h]); pure true) c).run []

/-- Steps on the new heads of each connection in turn, as the subscriber with settings `s`
and log `sublog` receives them. -/
def onHeads (env : RunnerEnv m) (sublog : Logger m) (wait : Int → m Wakeup) (s : SubscriberSettings)
    (every : Int) : Nat → Int → List (Except String Connection) → Runner → m (Runner × LoopEnd)
  | _, _, [], r => pure (r, .waiting)
  | seen, backoff, c :: rest, r => do
    let (ending, heads) ← sessionHeads sublog c
    let fired := triggering every seen heads
    for h in fired do
      env.log.debug "block trigger" [("block", Json.ofNat h.number)]
    let r ← steps env (min fired.length 2) r
    let quiet := match c with
      | .ok conn => conn.quietFor
      | .error _ => 0
    let held ← if quiet > 0 then wait quiet else pure .elapsed
    match held with
    | .stopped => pure (r, .cancelled)
    | .never => pure (r, .waiting)
    | .elapsed =>
      sublog.warn "head subscription dropped, reconnecting"
        [("error", .str ending), ("backoff", sublog.duration backoff)]
      match ← wait backoff with
      | .stopped => pure (r, .cancelled)
      | .never => pure (r, .waiting)
      | .elapsed =>
        onHeads env sublog wait s every (seen + heads.length) (Subscription.nextBackoff s backoff) rest r

end Runner

end QuoteKeeper
