import QuoteKeeper.Sim.Script
import QuoteKeeper.Monitor.Pricer
/-
  QuoteKeeper.Sim.Monitor — the pricer's metrics after a list of calls, and what a scrape of
  them returns.

  Each call is `[method, label, args...]`. The gathered families are listed with their samples;
  a histogram sample shows its count, and the time of the last run shows as `<time>`. The
  scrape body leaves out the samples of the last-run time and the buckets and sums of
  histograms, which depend on the clock.
-/

namespace QuoteKeeper

namespace Sim

def metricValueJson (x : Float) : Json :=
  if x.isNaN then .str "NaN" else if x.isInf then .str (if x > 0 then "+Inf" else "-Inf") else Json.ofFloat x

def lastRunFamily (m : PricerMonitor) : String := m.prefixed "last_run_timestamp_seconds"

/-- The gathered families as `{name, help, type, metrics}`. -/
def familiesJson (m : PricerMonitor) : Json :=
  .arr (m.registry.gather.map fun (f, ss) =>
    .obj [("name", .str f.name), ("help", .str f.help), ("type", .str f.kind.name.toUpper),
      ("metrics", .arr (ss.map fun s =>
        let labels := Json.obj ((Registry.labelPairs f s).map fun (k, v) => (k, .str v))
        match s.value with
        | .scalar v => .obj [("labels", labels),
            ("value", if f.name == lastRunFamily m then .str "<time>" else metricValueJson v)]
        | .histogram _ _ n => .obj [("labels", labels), ("count", Json.ofNat n)]))])

/-- The scrape body without clock-dependent lines. -/
def scrapeBody (m : PricerMonitor) : String :=
  let r := m.registry
  let histograms := (r.families.filter (·.kind == .histogram)).map (·.name)
  let keep (line : String) : Bool :=
    "#".isPrefixOf line ||
      !((lastRunFamily m ++ "\x7b").isPrefixOf line ||
        histograms.any fun h => (h ++ "_bucket").isPrefixOf line || (h ++ "_sum").isPrefixOf line)
  String.join (((r.exposition.splitOn "\n").filter fun l => !l.isEmpty && keep l).map (· ++ "\n"))

def monitorCall (m : PricerMonitor) (call : Json) : Decoded PricerMonitor := do
  match call with
  | .arr (.str meth :: .str label :: args) =>
    let arg (i : Nat) : Json := args.getD i .null
    let num (i : Nat) : Decoded Float := floatOf "monitor call" (arg i)
    let text (i : Nat) : String := match arg i with | .str s => s | _ => ""
    let int (i : Nat) : Int := ((arg i).asInt?).getD 0
    match meth with
    | "SetReference" => pure (m.setReference label (← num 0) (← num 1) (← num 2))
    | "SetTargets" => pure (m.setTargets label (← num 0) (← num 1))
    | "SetCurrent" => pure (m.setCurrent label (← num 0) (← num 1))
    | "SetDiffs" => pure (m.setDiffs label (← num 0) (← num 1))
    | "SetLending" => pure (m.setLending label (← num 0) (← num 1))
    | "RecordRun" => pure (m.recordRun label (text 0) 0)
    | "RecordFailure" => pure (m.recordFailure label (text 0))
    | "SetBreakerState" => pure (m.setBreakerState label (int 0))
    | "ObserveProvider" => pure (m.observeProvider label (int 0) (!(arg 1).isNull))
    | _ => malformed "unknown monitor call"
  | _ => malformed "monitor call: want [method, label, ...]"

/-- The metrics after `calls`, gathered and scraped. -/
def monitor (j : Json) : Decoded Json := do
  let m ← (← readList j "calls").foldlM monitorCall PricerMonitor.new
  pure (.obj [("metrics", familiesJson m),
    ("scrape", .obj [("status", Json.ofNat 200), ("content_type", .str "text/plain; version=0.0.4; charset=utf-8"),
      ("body", .str (scrapeBody m))])])

end Sim

end QuoteKeeper
