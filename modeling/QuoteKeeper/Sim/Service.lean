import QuoteKeeper.Sim.Script
import QuoteKeeper.Service
import QuoteKeeper.Runner
/-
  QuoteKeeper.Sim.Service — the watchdog and the run triggers, as a caller observes them.

  The watchdog reads its settings from the request's environment; the process id is never the
  one asked for, and no manager listens: a socket path does not exist and an abstract socket
  refuses. A ticker is observed for less than its first interval, so it has fired once. Heads
  are fed in at once and the triggers read after: the first trigger is seen, and a second
  one only when the last head fired it.
-/

namespace QuoteKeeper

namespace Sim

/-- Logs as `{level, msg, fields}`. -/
abbrev Logged := StateM (Array Json)

def logged : Logger Logged := Logger.ofSink fun e => modify (·.push e.toJson)

/-- A service manager nobody listens for. -/
def absentManager (env : List (String × String)) : ServiceManager :=
  ⟨fun k => (env.lookup k).getD "", 0, fun socket _ =>
    some (if socket.startsWith "@" then "connection refused" else "no such file or directory")⟩

def watchdog (j : Json) : Decoded Json := do
  let sm := absentManager (readEnv (j.getD "env"))
  let run : Logged Bool := do
    match ← sm.watchdogPing logged with
    | none => pure false
    | some ping => do ping; pure true
  let (ping, logs) := run.run #[]
  pure (.obj [("logs", .arr logs.toList), ("ping", .bool ping)])

def tickerTrigger (j : Json) : Decoded Json := do
  if (← readInt j "interval_ns" 0) < Duration.second then malformed "interval_ns: want at least one second"
  pure (.obj [("triggers", Json.ofNat 1)])

def readHeadNumber (h : Json) : Decoded Nat := do
  let i ← readInt (.obj [("heads", h)]) "heads" 0
  pure (if i < 0 then (i + Int.pow 2 64).toNat else i.toNat)

def headTriggers (j : Json) : Decoded Json := do
  if ← readBool j "cancelled" then return .obj [("logs", .arr []), ("triggers", Json.ofNat 0)]
  let heads ← (← readList j "heads").mapM fun h => do pure (⟨← readHeadNumber h, "", 0⟩ : Head)
  let every ← readInt j "every" 0
  let (fired, logs) := (Runner.announceHeads logged every heads).run #[]
  let period := if every ≤ 0 then 1 else every
  let lastFired := fired.length ≥ 2 && (heads.length : Int) % period == 0
  let seen := if fired.isEmpty then 0 else if lastFired then 2 else 1
  pure (.obj [("logs", .arr logs.toList), ("triggers", Json.ofNat seen)])

end Sim

end QuoteKeeper
