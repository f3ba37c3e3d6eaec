import QuoteKeeper.Failure
import QuoteKeeper.Number.Binary
/-
  QuoteKeeper.Retry — calling again after a failure, with a growing pause between calls.

  A policy allows `maxRetries` calls after the first. The first pause is `initialBackoff`
  (10 ms when not positive); each later pause is the previous one times `factor` (1 when not
  positive), truncated to whole nanoseconds and capped at `maxBackoff` (never below the first
  pause). The wait before a repeated call is its pause; with `jitter` it is the pause plus a
  random draw below it, the sum wrapping at 64 bits, and a pause that is not positive has no
  draw below it: the draw panics (`invalid argument to Int63n`), which ends the calls. Before
  each repeated call the observer is told the attempt number (from 1), the failure being
  retried and the wait.

  The calls stop at the first success, at the first failure the predicate does not retry (that
  failure is the result), or when the calls run out: then the result is `retries exhausted after
  N attempts: <last failure>`, carrying the exhausted condition and the last failure's. A
  negative budget makes no call at all, and the text has no last failure to show. A panic ends
  the calls at once.

  The calls run under a context (`retryWithin`): each wait may be ended by the context instead,
  and the calls then stop with `retry cancelled: <the context's error>`, carrying its
  conditions, and no further call is made. `retry` is the same under a context that never ends.
-/

namespace QuoteKeeper

structure RetryPolicy where
  maxRetries : Int
  /-- Nanoseconds. -/
  initialBackoff : Int
  maxBackoff : Int
  factor : Float
  /-- Whether each wait adds a random draw below its pause. -/
  jitter : Bool
  deriving Inhabited

namespace RetryPolicy

/-- Defaults in place of unusable values. -/
def normalize (p : RetryPolicy) : RetryPolicy :=
  let factor := if p.factor ≤ 0 then 1 else p.factor
  let initial := if p.initialBackoff ≤ 0 then 10 * 1000000 else p.initialBackoff
  { p with factor, initialBackoff := initial, maxBackoff := max p.maxBackoff initial }

/-- The pause after `b`. -/
def grow (p : RetryPolicy) (b : Int) : Int :=
  min p.maxBackoff (Binary.toInt64 (Float.ofInt b * p.factor))

/-- How many calls the policy allows. -/
def calls (p : RetryPolicy) : Nat := (p.maxRetries + 1).toNat

/-- The failure once every call has failed. -/
def exhausted (p : RetryPolicy) (last : Option Failure) : Failure :=
  let tail := match last with
    | some f => f.message
    | none => "%!w(<nil>)"
  let conds := match last with
    | some f => f.conditions
    | none => []
  .error ("retries exhausted after " ++ intText (p.maxRetries + 1) ++ " attempts: " ++ tail)
    (.retriesExhausted :: conds)

/-- What a draw below a bound that is not positive does. -/
def badDraw : Failure := .panic "invalid argument to Int63n"

/-- The wait before a repeated call whose pause is `backoff`: the pause itself, or with jitter
the pause plus `draw backoff`, a random number below it, the sum wrapping at 64 bits. -/
def wait {m : Type → Type} [Monad m] (p : RetryPolicy) (draw : Int → m Int) (backoff : Int) : m (Outcome Int) :=
  if p.jitter then
    if backoff ≤ 0 then pure (.error badDraw)
    else do
      let d ← draw backoff
      pure (.ok (Int64.ofInt (backoff + d)).toInt)
  else pure (.ok backoff)

end RetryPolicy

namespace Retry

variable {m : Type → Type} [Monad m] {α : Type}

/-- What comes before call number `attempt` when `last` is to be retried: the wait is told to
the observer and waited, `pause w` answering the context's error when the context ended the
wait first; then the pause grows. With nothing to retry the call follows at once. -/
def before (p : RetryPolicy) (onRetry : Nat → Failure → Int → m Unit) (pause : Int → m (Option Failure))
    (draw : Int → m Int) (attempt : Nat) (backoff : Int) : Option Failure → m (Outcome Int)
  | none => pure (.ok backoff)
  | some f => do
    match ← p.wait draw backoff with
    | .error e => pure (.error e)
    | .ok w =>
      onRetry attempt f w
      match ← pause w with
      | some done => pure (.error (done.wrap "retry cancelled"))
      | none => pure (.ok (p.grow backoff))

/-- The remaining `left` calls, the next being number `attempt`, the pause being `backoff`. -/
def loop (p : RetryPolicy) (retryable : Failure → Bool) (onRetry : Nat → Failure → Int → m Unit)
    (pause : Int → m (Option Failure)) (draw : Int → m Int) (call : m (Outcome α)) :
    Nat → Nat → Int → Option Failure → m (Outcome α)
  | 0, _, _, last => pure (.error (p.exhausted last))
  | left + 1, attempt, backoff, last => do
    match ← before p onRetry pause draw attempt backoff last with
    | .error e => pure (.error e)
    | .ok backoff =>
      match ← call with
      | .ok v => pure (.ok v)
      | .error e =>
        if e.isPanic || !retryable e then pure (.error e)
        else loop p retryable onRetry pause draw call left (attempt + 1) backoff (some e)

end Retry

/-- Calls until success, a failure not retried, the end of the policy's budget, or a wait that
the context ends, which `pause` reports; `draw n` is a random number below `n`. -/
def retryWithin {m : Type → Type} [Monad m] {α : Type} (pause : Int → m (Option Failure)) (draw : Int → m Int)
    (policy : RetryPolicy) (retryable : Failure → Bool) (onRetry : Nat → Failure → Int → m Unit)
    (call : m (Outcome α)) : m (Outcome α) :=
  let p := policy.normalize
  Retry.loop p retryable onRetry pause draw call p.calls 0 p.initialBackoff none

/-- `retryWithin` under a context that never ends. -/
def retry {m : Type → Type} [Monad m] {α : Type} (draw : Int → m Int) (policy : RetryPolicy)
    (retryable : Failure → Bool) (onRetry : Nat → Failure → Int → m Unit) (call : m (Outcome α)) : m (Outcome α) :=
  retryWithin (fun _ => pure none) draw policy retryable onRetry call

end QuoteKeeper
