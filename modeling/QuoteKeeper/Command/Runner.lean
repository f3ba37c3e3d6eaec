import QuoteKeeper.Cli.Process
import QuoteKeeper.Runner.Drive
/-
  QuoteKeeper.Command.Runner — the `runner` command: prices one ARM once, or on a ticker, or
  on new blocks.

  1. Flags: `-config` (the settings file, `configs/config.yaml` by default), `-arm`,
     `-dryRun`, `-interval`, `-blocks` and `-metricsAddr`.
  2. Settings are loaded (`加载配置失败: ...`). Without `-arm` the one configured ARM is
     taken; with several, `-arm is required when more than one arm is configured`. The runner
     loops when the interval or the block count is positive; a metrics address given on the
     command line replaces the configured one, and a single run serves no metrics.
  3. The log is set up from the settings (`create logger: ...`); the runner's own entries
     carry the ARM's name. The service is built with that ARM alone; from then on, whatever
     happens, the service is stopped before the command ends, unless it is left waiting.
  4. A single run is the answer: its failure is the command's, a finished run is logged.
  5. A loop pings the watchdog after each run when one is asked for, guards its runs with a
     breaker from the settings (alerts and the breaker gauge going to the service), registers
     the configuration hook, and starts the service. Blocks need a websocket address
     (`-blocks needs chain.wsURL`, after the start). The service manager is told the runner
     is ready, `runner started` is logged with the interval, the block count and whether runs
     are dry, and the loop runs. When it ends because a stop was asked, the manager is told
     the runner is stopping and `runner stopped` is logged.
  6. A failure is written as `runner: <reason>` with exit code 1; otherwise the exit code is 0.
-/

namespace QuoteKeeper

/-- What a finished pricing run tells the runner. -/
def RunReport.summary (r : RunReport) : RunSummary :=
  ⟨r.decision.shouldSubmit, r.decision.exceeded, r.txHash⟩

namespace Command

open Cli

def runnerFlags : List FlagSpec :=
  [⟨"config", "配置文件路径", .text "configs/config.yaml"⟩,
   ⟨"arm", "ARM 名称（配置 arms 下的键）", .text ""⟩,
   ⟨"dryRun", "只计算和记录，不提交价格", .switch false⟩,
   ⟨"interval", "循环模式的运行间隔，0 表示只运行一次", .duration 0⟩,
   ⟨"blocks", "每 N 个新区块运行一次（需要 chain.wsURL），0 表示关闭", .integer 0⟩,
   ⟨"metricsAddr", "Prometheus metrics 监听地址，覆盖配置", .text ""⟩]

/-- A service whose only registered part is the configuration hook. -/
abbrev Service (m : Type → Type) := App.AppM Unit m

variable {m : Type → Type} [Monad m]

/-- The configuration hook: nothing to start or stop while the file does not change. -/
def configHook : Unit → Component m := fun _ => Component.idle

/-- How the runner loops, when it does. -/
structure LoopPlan where
  interval : Int
  blocks : Int

/-- The runner's work on a built service: the exit, or the failure. -/
def runBuilt (s : Surroundings m) (h : App.Host m) (armName : String) (loop : Option LoopPlan)
    (dryRun : Bool) (zl : Logger (Service m)) : Service m (Outcome Exit) := do
  match ← App.arm armName with
  | .error e => pure (.error e)
  | .ok plan =>
    match ← App.engineOf h plan with
    | .error e => pure (.error e)
    | .ok engine =>
      let price (o : PricingOptions) : Service m (Outcome RunSummary) := do
        pure ((← engine.run o).map RunReport.summary)
      let now : Service m Int := StateT.lift s.now
      let asked : Service m Bool := StateT.lift s.stopAsked
      match loop with
      | none =>
        let env : RunnerEnv (Service m) := ⟨price, zl, pure (), fun _ => pure (), now, asked⟩
        pure ((← (⟨plan.options, dryRun, none⟩ : Runner).runOnce env).map fun _ => .code 0)
      | some lp =>
        let afterRun ← s.manager.watchdogPing zl
        let cfg := (← get).settings
        let cooldown := Runner.cooldownOf cfg.breaker.cooldownSeconds
        let gauge (code : Nat) : Service m Unit := App.updateMonitor (·.setBreakerState armName code)
        let onChange := Runner.reportChange zl gauge (App.sendAlert h) armName cooldown
        let env : RunnerEnv (Service m) := ⟨price, zl, afterRun.getD (pure ()), onChange, now, asked⟩
        let runner : Runner := ⟨plan.options, dryRun, some (Breaker.new ⟨cfg.breaker.threshold, cooldown, 0⟩)⟩
        App.register "config_reload" ()
        match ← App.start h configHook with
        | .error e => pure (.error e)
        | .ok _ =>
          let ws := cfg.chain.wsUrl
          if lp.blocks > 0 && ws.isEmpty then return .error (.plain "-blocks needs chain.wsURL")
          let sub := (Subscription.settings ⟨ws, 0, 0, 0, 0⟩).toOption.getD ⟨ws, 0, 0, 0, 0⟩
          s.manager.notifyLogged zl ServiceManager.ready
          zl.info "runner started"
            [("interval", zl.duration lp.interval), ("blocks", Json.ofInt lp.blocks), ("dryRun", .bool dryRun)]
          let wait (d : Int) : Service m Wakeup := StateT.lift (s.wait d)
          let (_, ended) ← if lp.blocks > 0 then
              Runner.onHeads env (zl.withFields [("component", .str "head-subscriber")]) wait sub lp.blocks
                0 sub.initialBackoff (s.connections ws sub) runner
            else Runner.everyTick env wait lp.interval s.maxTriggers runner
          match ended with
          | .waiting => pure (.ok .waiting)
          | .cancelled =>
            s.manager.notifyLogged zl ServiceManager.stopping
            zl.info "runner stopped" []
            pure (.ok (.code 0))

/-- The runner with its settings and log ready. -/
def runService (s : Surroundings m) (lg : Logger m) (armName : String) (loop : Option LoopPlan)
    (dryRun : Bool) : Service m (Outcome Exit) := do
  let h := s.host none lg (← get).settings.chain.rpcUrl
  let zl := (h.logger : Logger (Service m)).withFields [("arm", .str armName)]
  match ← App.build h [armName] with
  | .error e => pure (.error e)
  | .ok _ =>
    let result ← runBuilt s h armName loop dryRun zl
    match result with
    | .ok .waiting => pure result
    | _ =>
      let _ ← App.stop h configHook
      pure result

/-- The runner once its flags are read. -/
def runWith (s : Surroundings m) (f : Flags) : m (Outcome Exit) := do
  match ← s.loadSettings (f.text "config") with
  | .error e => pure (.error (e.wrap "加载配置失败"))
  | .ok cfg =>
    let named := f.text "arm"
    let armName? := if !named.isEmpty then some named
      else match cfg.arms.getD [] with
        | [(only, _)] => some only
        | _ => none
    match armName? with
    | none => pure (.error (.plain "-arm is required when more than one arm is configured"))
    | some armName =>
      let interval := f.duration "interval"
      let blocks := f.integer "blocks"
      let dryRun := f.switch "dryRun"
      let loop := if interval > 0 || blocks > 0 then some ⟨interval, blocks⟩ else none
      let addr := f.text "metricsAddr"
      let cfg := if addr.isEmpty then cfg else { cfg with metricsAddr := addr }
      let cfg := if loop.isSome then cfg else { cfg with metricsAddr := "" }
      match s.openLogger (LogSetup.ofSettings cfg.log) with
      | .error e => pure (.error (.plain ("create logger: " ++ e)))
      | .ok lg => (runService s lg armName loop dryRun).run' (App.AppState.new cfg PricerMonitor.new)

/-- The `runner` command. -/
def runner (s : Surroundings m) (args : List String) : m Exit := do
  match parse runnerFlags args with
  | .error e => s.refuseFlags "runner" runnerFlags e
  | .ok f =>
    match ← runWith s f with
    | .ok exit => pure exit
    | .error e => s.fatal ("runner: " ++ e.message)

end Command

end QuoteKeeper
