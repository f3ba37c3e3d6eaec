import QuoteKeeper.Sim.Pricing
import QuoteKeeper.Sim.Monitor
import QuoteKeeper.Runner
/-
  QuoteKeeper.Sim.Runner — a runner over scripted pricing results, driven step by step or by a
  number of triggers.

  The pricer answers the scripted results in order and repeats the last one; with none it
  fails (`no scripted result`). Every question it is asked is recorded with its dry-run flag
  and fee. Log entries are kept as `{level, msg, fields}`, an alert's time left out. The
  optional parts are the after-run counter, the alerts (a log channel throttled for five
  minutes), the gauge of the breaker's state, and the breaker itself; all share one clock,
  which only the steps move.
-/

namespace QuoteKeeper

namespace Sim

/-- Everything a scripted runner touches. -/
structure RunWorld where
  results : List (Outcome RunSummary)
  clock : Int
  cancelled : Bool
  alerts : AlertManager
  monitor : PricerMonitor
  logs : Array Json
  pricerCalls : Array Json
  afterRuns : Nat

abbrev RunM := StateM RunWorld

def readResult (j : Json) : Decoded (Outcome RunSummary) := do
  match ← readErr j "error" with
  | some e => pure (.error e)
  | none => pure (.ok ⟨← readBool j "submit", ← readBool j "exceeded", ← readStr j "tx"⟩)

/-- The next scripted result; the last one stays. -/
def scriptedPrice (o : PricingOptions) : RunM (Outcome RunSummary) := do
  let call := Json.obj [("dry_run", .bool o.dryRun), ("fee", .str o.fee.toString)]
  modify fun w => { w with pricerCalls := w.pricerCalls.push call }
  let w ← get
  match w.results with
  | [] => pure (.error (.plain "no scripted result"))
  | [r] => pure r
  | r :: rest => do set { w with results := rest }; pure r

def runLogger : Logger RunM :=
  Logger.ofSink fun e =>
    modify fun w => { w with logs := w.logs.push { e with fields := e.fields.filter (·.1 != "alertTime") }.toJson }

def sendAlert (a : Alert) : RunM Unit := do
  let w ← get
  let (_, mgr) ← w.alerts.send [AlertChannel.ofLogger "log" (runLogger.named "alert")] w.clock a
  modify fun w => { w with alerts := mgr }

/-- The runner, its world and its environment as a request describes them. -/
def readRunner (j : Json) : Decoded (Runner × RunnerEnv RunM × RunWorld) := do
  let arm ← readStr j "arm"
  let results ← (← readList j "results").mapM readResult
  let opts ← readOptions (j.getD "options")
  let bj := j.getD "breaker"
  let cooldown := Runner.cooldownOf (← readInt bj "cooldown_seconds" 0)
  let threshold ← readInt bj "threshold" 0
  let breaker := if bj.isNull then none else some (Breaker.new ⟨threshold, cooldown, 0⟩)
  let afterRun : RunM Unit :=
    if ← readBool j "after_run" then modify fun w => { w with afterRuns := w.afterRuns + 1 } else pure ()
  let gauge (code : Nat) : RunM Unit :=
    modify fun w => { w with monitor := w.monitor.setBreakerState arm code }
  let alert : Alert → RunM Unit := if ← readBool j "alerts" then sendAlert else fun _ => pure ()
  let gauge := if ← readBool j "monitor" then gauge else fun _ => pure ()
  let env : RunnerEnv RunM := ⟨scriptedPrice, runLogger, afterRun,
    Runner.reportChange runLogger gauge alert arm cooldown, do pure (← get).clock, do pure (← get).cancelled⟩
  pure (⟨opts, ← readBool j "force_dry_run", breaker⟩, env,
    ⟨results, 0, false, AlertManager.new (5 * Duration.minute), PricerMonitor.new, #[], #[], 0⟩)

/-- The parts of the answer every runner request has. -/
def runnerTail (j : Json) (w : RunWorld) : Decoded (List (String × Json)) := do
  pure ([("pricer_calls", .arr w.pricerCalls.toList)] ++
    (if ← readBool j "after_run" then [("after_run_calls", Json.ofNat w.afterRuns)] else []) ++
    (if ← readBool j "monitor" then [("metrics", familiesJson w.monitor)] else []))

/-- One step of a stepped runner: what it answers, the runner and the world after. -/
def runnerStep (env : RunnerEnv RunM) (s : Json) (r : Runner) (w : RunWorld) :
    Decoded (List (String × Json) × Runner × RunWorld) := do
  match ← readStr s "do" with
  | "run_once" =>
    let (o, w) := (r.runOnce env).run w
    pure ([("err", Outcome.errorJson o)], r, w)
  | "step" =>
    let (r, w) := (r.step env).run w
    pure ([], r, w)
  | "cancelled_step" =>
    let (r, w) := (r.step env).run { w with cancelled := true }
    pure ([], r, { w with cancelled := false })
  | "options" =>
    let o := r.effectiveOptions
    let members := match o.toJson with
      | .obj kvs => kvs
      | _ => []
    pure ([("options", .obj (members ++ [("amount_wei", .str (intText o.amountWei))]))], r, w)
  | "set_options" => pure ([], r.setOptions (← readOptions (s.getD "options")), w)
  | "advance" => pure ([], r, { w with clock := w.clock + (← readInt s "ns" 0) })
  | _ => malformed "unknown runner step"

/-- A runner through a list of steps, each answering with the logs it wrote. -/
def runner (j : Json) : Decoded Json := do
  let (r, env, w) ← readRunner j
  let mut r := r
  let mut w := w
  let mut steps : Array Json := #[]
  for s in ← readList j "steps" do
    let before := w.logs.size
    let (extra, r', w') ← runnerStep env s r w
    r := r'
    w := w'
    steps := steps.push (.obj ([("do", .str (← readStr s "do")), ("logs", .arr (w.logs.toList.drop before))] ++ extra))
  pure (.obj ([("steps", .arr steps.toList)] ++ (← runnerTail j w)))

/-- A runner's loop over a number of triggers, or cancelled before any. -/
def runnerLoop (j : Json) : Decoded Json := do
  let n ← readInt j "triggers" 0
  if n < 0 ∨ n > 50 then malformed "triggers: want 0..50"
  let cancelled ← readBool j "cancelled"
  if cancelled ∧ n > 0 then malformed "a cancelled loop takes no triggers"
  let (r, env, w) ← readRunner j
  let events := if cancelled then [LoopEvent.cancelled] else List.replicate n.toNat .trigger ++ [.closed]
  let ((_, o), w) := (r.loop env events).run w
  pure (.obj ([("err", Outcome.errorJson o), ("logs", .arr w.logs.toList)] ++ (← runnerTail j w)))

end Sim

end QuoteKeeper
