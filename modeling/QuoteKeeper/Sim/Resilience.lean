import QuoteKeeper.Sim.Script
import QuoteKeeper.Breaker
import QuoteKeeper.Retry
/-
  QuoteKeeper.Sim.Resilience — a circuit breaker through timed steps, and retries over scripted results.
-/

namespace QuoteKeeper

namespace Sim

def breaker (j : Json) : Decoded Json := do
  let c := j.getD "config"
  let mut b := Breaker.new ⟨← readInt c "threshold" 0, ← readInt c "cooldown" 0, ← readInt c "half_open_max_try" 0⟩
  let mut now ← readInt j "start" 0
  let mut out : Array Json := #[]
  for s in ← readList j "steps" do
    now ← advanceClock s now
    let (extra, b', cs) ← match ← readStr s "op" with
      | "call" =>
        let failText ← readStr s "fail"
        let r : Outcome Unit := if (s.getD "fail").isNull then .ok () else .error (.plain failText)
        let (r, called, b', cs) := Id.run (b.call now (pure r))
        pure ([("err", Outcome.errorJson r), ("called", .bool called)], b', cs)
      | "reset" => let (b', cs) := b.reset now; pure ([], b', cs)
      | "state" => pure ([], b, [])
      | op => malformed ("unknown breaker op " ++ Text.quoted op)
    b := b'
    out := out.push (.obj (extra ++ [("state", .str b.state.name), ("fails", Json.ofNat b.failures),
      ("opened_at", Json.opt Json.ofInt b.openedAt), ("last_err", Json.opt (fun e => .str e.message) b.lastError),
      ("changes", .arr (cs.map fun c => .arr [.str c.before.name, .str c.after.name, Json.ofNat c.failures]))]))
  pure (.arr out.toList)

def retries (j : Json) : Decoded Json := do
  let p : RetryPolicy := ⟨← readInt j "max_retries" 0, ← readInt j "initial_backoff" 0, ← readInt j "max_backoff" 0,
    ← readFloat j "factor", false⟩
  if p.maxRetries > 20 || p.initialBackoff > 20000000 || p.maxBackoff > 20000000 then
    malformed "retry: keep retries <= 20 and backoffs <= 20ms"
  let all ← readBool j "default_retryable"
  let call : Scripted (Outcome String) := do
    record "call" .null
    match ← nextAnswer with
    | none => pure (.error (.plain "script exhausted"))
    | some r => match r.getD "error" with
      | .str e => pure (.error (.plain e))
      | _ => pure (.ok (match r.getD "ok" with | .str v => v | _ => ""))
  let onRetry (n : Nat) (e : Failure) (w : Int) : Scripted Unit :=
    record "retry" (.arr [Json.ofNat n, .str e.message, Json.ofInt w])
  let retryable (e : Failure) : Bool := all || !e.message.startsWith "fatal"
  let (r, (_, calls)) := (retry (fun _ => pure 0) p retryable onRetry call).run (← readList j "results", #[])
  let void ← readBool j "void"
  pure (.obj [("value", .str (match r with | .ok v => if void then "" else v | .error _ => "")),
    ("err", Outcome.errorJson r), ("calls", Json.ofNat (recorded calls "call").length), ("retries", .arr (recorded calls "retry"))])

end Sim

end QuoteKeeper
