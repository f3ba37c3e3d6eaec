import QuoteKeeper.Cli.Process
/-
  QuoteKeeper.Command.MetricsProbe — the `metrics_probe` command: the pricer's metrics served
  with made-up values, to try dashboards without a chain.

  1. Flags: `-metricsAddr` (`:9100`), `-arm` (`probe`), `-mid` (0.9998), `-fee` (10 bps),
     `-apy` (0.035) and `-breakerOpen`.
  2. The breaker gauge reads open or closed as asked. The values are published at once and
     then every five seconds, the mid price a hundred-thousandth higher each time: the
     reference at the mid on all three sides, targets and current prices `mid · (1 - f)` and
     `mid / (1 - f)` with `f` the fee as a fraction, no differences, the APY with a fifteen-day
     holding period, an unchanged run, and a 120 ms call of the `probe` provider.
  3. `metrics_probe started at <address>` is printed, then the address is bound; a failure to
     bind is printed as `metrics_probe: <reason>` and the command ends. Otherwise it serves
     until asked to stop. Either way the exit code is 0.
-/

namespace QuoteKeeper

namespace Command

open Cli

def probeFlags : List FlagSpec :=
  [⟨"metricsAddr", "Prometheus 指标监听地址", .text ":9100"⟩,
   ⟨"arm", "arm 标签", .text "probe"⟩,
   ⟨"mid", "模拟参考中间价", .real 0.9998⟩,
   ⟨"fee", "模拟费率（bp）", .real 10⟩,
   ⟨"apy", "模拟借贷 APY", .real 0.035⟩,
   ⟨"breakerOpen", "是否模拟熔断", .switch false⟩]

/-- The made-up values of one publication, at `now` nanoseconds. -/
def publish (mon : PricerMonitor) (arm : String) (mid fee apy : Float) (now : Int) : PricerMonitor :=
  let f := fee / 10000
  let buy := mid * (1 - f)
  let sell := mid / (1 - f)
  ((((((mon.setReference arm mid mid mid).setTargets arm buy sell).setCurrent arm buy sell).setDiffs arm 0 0).setLending
    arm apy 15).recordRun arm "unchanged" (now.tdiv Duration.second)).observeProvider "probe"
    (120 * Duration.millisecond) false

variable {m : Type → Type} [Monad m]

/-- Publishes every five seconds until asked to stop, at most `fuel` times more. -/
def serveProbe (s : Surroundings m) (arm : String) (mid fee apy : Float) :
    Nat → Float → PricerMonitor → m (Exit × PricerMonitor)
  | 0, _, mon => pure (.waiting, mon)
  | fuel + 1, drift, mon => do
    match ← s.wait (5 * Duration.second) with
    | .stopped => pure (.code 0, mon)
    | .never => pure (.waiting, mon)
    | .elapsed =>
      let drift := drift + 0.00001
      serveProbe s arm mid fee apy fuel drift (publish mon arm (mid + drift) fee apy (← s.now))

/-- The `metrics_probe` command once its flags are read. -/
def probeWith (s : Surroundings m) (f : Flags) : m Exit := do
  let arm := f.text "arm"
  let (mid, fee, apy) := (f.real "mid", f.real "fee", f.real "apy")
  let mon := PricerMonitor.new.setBreakerState arm (if f.switch "breakerOpen" then 1 else 0)
  let mon := publish mon arm mid fee apy (← s.now)
  let addr := f.text "metricsAddr"
  s.print .stdout ("metrics_probe started at " ++ addr)
  match ← (s.network none).listen addr with
  | .error e =>
    s.print .stdout ("metrics_probe: " ++ e)
    pure (.code 0)
  | .ok _ => pure (← serveProbe s arm mid fee apy s.maxTriggers 0 mon).1

/-- The `metrics_probe` command. -/
def metricsProbe (s : Surroundings m) (args : List String) : m Exit := do
  match parse probeFlags args with
  | .error e => s.refuseFlags "metrics_probe" probeFlags e
  | .ok f => probeWith s f

end Command

end QuoteKeeper
