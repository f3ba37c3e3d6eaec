import QuoteKeeper.Monitor.Registry
import QuoteKeeper.Time
/-
  QuoteKeeper.Monitor.Pricer — the pricer's metrics, named under a namespace and a subsystem
  (`arm` and `pricer` unless given, so `arm_pricer_<metric>`).

  Per ARM: reference, target and current prices and their differences in basis points by side,
  the lending APY and expected holding days, runs by outcome, failures by kind, the time of
  the last run and the breaker state (0 closed, 1 open, 2 half open). Per provider: requests,
  errors, and latency in seconds in buckets of 0.05, 0.1, 0.25, 0.5, 1, 2, 5 and 10.
-/

namespace QuoteKeeper

/-- The pricer's metrics registry and the prefix of its metric names. -/
structure PricerMonitor where
  registry : Registry
  namePrefix : String
  deriving Inhabited

namespace PricerMonitor

/-- The prefix of names under a namespace and a subsystem: the non-empty ones, each followed
by `_`. -/
def prefixOf (space subsystem : String) : String :=
  String.join (([space, subsystem].filter (!·.isEmpty)).map (· ++ "_"))

def prefixed (m : PricerMonitor) (name : String) : String := m.namePrefix ++ name

def families (pfx : String) : List MetricFamily :=
  let gauge (n h : String) (ls : List String) : MetricFamily := ⟨pfx ++ n, h, .gauge, ls, []⟩
  let counter (n h : String) (ls : List String) : MetricFamily := ⟨pfx ++ n, h, .counter, ls, []⟩
  [gauge "reference_price" "参考价格" ["arm", "side"],
   gauge "target_price" "目标报价" ["arm", "side"],
   gauge "current_price" "合约当前报价" ["arm", "side"],
   gauge "price_diff_bps" "目标价与当前价差（bp）" ["arm", "side"],
   gauge "lending_apy" "借贷市场 APY" ["arm"],
   gauge "holding_period_days" "预计持有天数" ["arm"],
   counter "runs_total" "定价运行次数" ["arm", "outcome"],
   counter "failures_total" "定价失败次数" ["arm", "kind"],
   gauge "last_run_timestamp_seconds" "最近一次运行时间" ["arm"],
   gauge "breaker_state" "熔断状态：0 关闭 1 打开 2 半开" ["arm"],
   counter "provider_requests_total" "外部接口请求总数" ["provider"],
   counter "provider_errors_total" "外部接口错误总数" ["provider"],
   ⟨pfx ++ "provider_latency_seconds", "外部接口延迟（秒）", .histogram, ["provider"],
     [0.05, 0.1, 0.25, 0.5, 1, 2, 5, 10]⟩]

/-- An empty registry of the pricer's metrics under a namespace and a subsystem. -/
def named (space subsystem : String) : PricerMonitor :=
  let pfx := prefixOf space subsystem
  ⟨⟨families pfx, []⟩, pfx⟩

def new : PricerMonitor := named "arm" "pricer"

def set (m : PricerMonitor) (n : String) (ls : List String) (v : Float) : PricerMonitor :=
  { m with registry := m.registry.set (m.prefixed n) ls v }

def inc (m : PricerMonitor) (n : String) (ls : List String) : PricerMonitor :=
  { m with registry := m.registry.inc (m.prefixed n) ls }

def setReference (m : PricerMonitor) (arm : String) (mid buy sell : Float) : PricerMonitor :=
  ((m.set "reference_price" [arm, "mid"] mid).set "reference_price" [arm, "buy"] buy).set "reference_price" [arm, "sell"] sell

def setTargets (m : PricerMonitor) (arm : String) (buy sell : Float) : PricerMonitor :=
  (m.set "target_price" [arm, "buy"] buy).set "target_price" [arm, "sell"] sell

def setCurrent (m : PricerMonitor) (arm : String) (buy sell : Float) : PricerMonitor :=
  (m.set "current_price" [arm, "buy"] buy).set "current_price" [arm, "sell"] sell

def setDiffs (m : PricerMonitor) (arm : String) (buy sell : Float) : PricerMonitor :=
  (m.set "price_diff_bps" [arm, "buy"] buy).set "price_diff_bps" [arm, "sell"] sell

def setLending (m : PricerMonitor) (arm : String) (apy days : Float) : PricerMonitor :=
  (m.set "lending_apy" [arm] apy).set "holding_period_days" [arm] days

/-- A run by outcome, at `now` seconds since the epoch. -/
def recordRun (m : PricerMonitor) (arm outcome : String) (now : Int) : PricerMonitor :=
  (m.inc "runs_total" [arm, outcome]).set "last_run_timestamp_seconds" [arm] (Float.ofInt now)

def recordFailure (m : PricerMonitor) (arm kind : String) : PricerMonitor := m.inc "failures_total" [arm, kind]

def setBreakerState (m : PricerMonitor) (arm : String) (state : Int) : PricerMonitor :=
  m.set "breaker_state" [arm] (Float.ofInt state)

/-- A provider call that took `elapsed` nanoseconds, failed or not. -/
def observeProvider (m : PricerMonitor) (provider : String) (elapsed : Int) (failed : Bool) : PricerMonitor :=
  let m := m.inc "provider_requests_total" [provider]
  let latency := m.prefixed "provider_latency_seconds"
  let m : PricerMonitor := { m with registry := m.registry.observe latency [provider] (Duration.seconds elapsed) }
  if failed then m.inc "provider_errors_total" [provider] else m

end PricerMonitor

end QuoteKeeper
