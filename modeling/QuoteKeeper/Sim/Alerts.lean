import QuoteKeeper.Sim.Script
import QuoteKeeper.Alert
/-
  QuoteKeeper.Sim.Alerts — an alert manager over recording channels, step by step.
-/

namespace QuoteKeeper

namespace Sim

def readAlertFields (j : Json) : Option (List (String × AlertValue)) :=
  match j with
  | .obj kvs => some (kvs.map fun (k, v) => (k, .value v))
  | _ => none

def readAlert (s : Json) : Decoded (Option Alert) := do
  match ← readStr s "op" with
  | "send" =>
    let x := s.getD "alert"
    let ts ← if (x.getD "timestamp").isNull then pure none else some <$> readInt x "timestamp" 0
    pure (some ⟨← readStr x "level", ← readStr x "event", ← readStr x "arm", ← readStr x "message", ts, readAlertFields (x.getD "fields")⟩)
  | "prices_submitted" => pure (AlertManager.pricesSubmitted (← readStr s "arm") (← readStr s "buy") (← readStr s "sell") (← readStr s "tx"))
  | "run_failed" => pure (AlertManager.runFailed (← readStr s "arm") (← readStr s "kind") (.plain (← readStr s "error")))
  | "bound_contradiction" => pure (AlertManager.boundContradiction (← readStr s "arm") (← readStr s "min_buy") (← readStr s "mid"))
  | "runs_suspended" => pure (AlertManager.runsSuspended (← readStr s "arm") (← readInt s "failures" 0) (← readInt s "cooldown" 0))
  | "runs_resumed" => pure (AlertManager.runsResumed (← readStr s "arm"))
  | _ => pure none

def alerts (j : Json) : Decoded Json := do
  let specs ← readList j "channels"
  let mut fails : Array Bool := #[]
  for c in specs do
    if (← readStr c "kind") != "log" then fails := fails.push (← readBool c "fail")
  let mut mgr := AlertManager.new (← readInt j "throttle" 0)
  let mut now ← readInt j "start" 0
  let mut out : Array Json := #[]
  let logRec : Logger Scripted := Logger.ofSink fun e => record "log" (.obj (("logger", .str e.logger) :: match e.toJson with
    | .obj kvs => kvs
    | _ => []))
  for s in ← readList j "steps" do
    now ← advanceClock s now
    let mut chans : List (AlertChannel Scripted) := []
    let mut k := 0
    for c in specs do
      let name ← readStr c "name"
      if (← readStr c "kind") == "log" then chans := chans ++ [AlertChannel.ofLogger name logRec]
      else
        let tag := "mock" ++ toString k
        let failing := fails.getD k false
        chans := chans ++ [⟨name, fun a => if failing then pure (.error (.plain "mock error"))
          else do record tag a.toJson; pure (.ok ())⟩]
        k := k + 1
    let mut err : Json := .null
    let mut calls : Array (String × Json) := #[]
    match ← readStr s "op" with
    | "reset_throttle" => mgr := mgr.resetThrottle
    | "set_fail" =>
      let i := (← readInt s "channel" 0).toNat
      if i < fails.size then fails := fails.set! i (← readBool s "fail")
    | _ =>
      match ← readAlert s with
      | none => malformed ("unknown alert op " ++ Text.quoted (← readStr s "op"))
      | some a =>
        let ((r, m'), (_, cs)) := (mgr.send chans now a).run ([], #[])
        mgr := m'
        err := Outcome.errorJson r
        calls := cs
    out := out.push (.obj [("err", err),
      ("delivered", .arr ((List.range k).map fun i => .arr (recorded calls ("mock" ++ toString i)))),
      ("logged", .arr (recorded calls "log"))])
  pure (.obj [("channels", .arr (← specs.mapM fun c => (Json.str ·) <$> readStr c "name")), ("steps", .arr out.toList)])

end Sim

end QuoteKeeper
