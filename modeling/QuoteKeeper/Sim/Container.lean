import QuoteKeeper.Sim.Node
import QuoteKeeper.Sim.Chain
import QuoteKeeper.Sim.Monitor
import QuoteKeeper.Sim.Logging
import QuoteKeeper.App.Container
import QuoteKeeper.Web.Listen
/-
  QuoteKeeper.Sim.Container — a whole service built from a configuration, against a scripted
  node and scripted web APIs, driven by a list of actions and stopped at the end.

  The node answers contract calls from `rpc.calls` (by method, or `<method>@<address>`), the
  other calls as a scripted node does, and its chain id from `rpc.chain_id` (1 when absent).
  Only `http` and `https` node addresses can be reached: a websocket finds no network, and a
  local socket does not exist. A web request is answered by the first of `http` whose `match`
  is part of its address (status 200 unless given); with none, it fails (`no matching
  http rule`). A listening
  server is bound on the address asked for, its port shown as `PORT`; nothing can connect to
  it. Log entries (their alert time and elapsed time left out), node calls and web requests are listed in the
  order of their JSON text.
-/

namespace QuoteKeeper

namespace Sim

/-- A part registered from outside, failing as told. -/
structure ScriptedPart where
  startError : Option String
  stopError : Option String
  healthError : Option String

def ScriptedPart.component (p : ScriptedPart) : Component Scripted :=
  let answer (e : Option String) : Scripted (Outcome Unit) :=
    pure (match e with | some t => .error (.plain t) | none => .ok ())
  ⟨answer p.startError, answer p.stopError, answer p.healthError⟩

/-- What a service can do, asked in turn. -/
inductive ContainerAction where
  | describe (arm : String)
  | run (arm : String) (dryRun : Bool)
  | estimate (arm : String)
  | market (arm : String)
  | quotes (arm : String) (base liquidity : Address)
  | accessors
  | health
  | scrape
  | start
  | stop
  | register (name : String) (part : ScriptedPart)

def readContainerAction (a : Json) : Decoded ContainerAction := do
  let arm ← readStr a "arm"
  let opt (k : String) : Decoded (Option String) := do
    if (a.getD k).isNull then pure none else some <$> readStr a k
  match ← readStr a "do" with
  | "describe" => pure (.describe arm)
  | "run" => pure (.run arm (← readBool a "dry_run"))
  | "estimate" => pure (.estimate arm)
  | "market" => pure (.market arm)
  | "quotes" => pure (.quotes arm (← readAddr a "base") (← readAddr a "liquidity"))
  | "accessors" => pure .accessors
  | "health" => pure .health
  | "scrape" => pure .scrape
  | "start" => pure .start
  | "stop" => pure .stop
  | "register" => pure (.register (← readStr a "name") ⟨← opt "start_error", ← opt "stop_error", ← opt "health_error"⟩)
  | "register_hook" => pure (.register (← readStr a "name") ⟨none, none, none⟩)
  | other => malformed ("unknown container action " ++ Text.quoted other)

/-- Whether `pat` occurs in `s`. -/
def occursIn (pat s : String) : Bool := pat.isEmpty || (s.splitOn pat).length > 1

/-- A web transport answering from `http` entries and recording each request. -/
def matchTransport (entries : List Json) : Transport Scripted := fun r => do
  record "http" (.obj [("method", .str r.method), ("url", .str r.url),
    ("headers", .obj (r.headers.map fun (k, v) => (k, .str v))), ("body", .str r.body)])
  let hit := entries.find? fun e => occursIn ((e.getD "match").asStr?.getD "") r.url
  match hit with
  | none => pure (.failure "no matching http rule")
  | some e =>
    let status := match (e.getD "status").asInt? with
      | some s => s.toNat
      | none => 200
    pure (.response status ((e.getD "body").asStr?.getD ""))

/-- How the scripted surroundings let a node be reached. -/
def reach : NodeTransport → Except String Unit
  | .http _ => .ok ()
  | .stdio => .ok ()
  | .websocket hostPort => .error ("dial tcp " ++ hostPort ++ ": connect: network is unreachable")
  | .ipc path =>
    if path.isEmpty then .error "dial unix: missing address"
    else .error ("dial unix " ++ path ++ ": connect: no such file or directory")

/-- Binds a listening address, its port shown as `PORT`. -/
def bindShown (addr : String) : Except String String :=
  (Listen.resolve addr).map fun (host, _) => host ++ ":PORT"

/-- The instant a scripted service runs at: 2026-01-01T00:00:00Z. -/
def containerNow : Int := 1767225600 * Duration.second

/-- The scripted node of `rpc`: contract calls answered from its `calls`, its chain id from
`chain_id` (1 when absent), each call recorded. -/
def scriptedBackend (rpc : Json) : Decoded (Backend Scripted) := do
  let node ← scriptedNode rpc
  let calls := rpc.getD "calls"
  let chainId := ((← readBig rpc "chain_id").getD 1).toNat
  let call : CallEndpoint Scripted := fun target data => do
    record "rpc" (.obj [("method", .str "eth_call"), ("to", .str target.toText), ("data", .str (Hex.encode0x data))])
    pure (callAnswer calls target data)
  pure ⟨call, node, do record "rpc" (.obj [("method", .str "eth_chainId")]); pure (.ok chainId)⟩

/-- The surroundings of a scripted service. -/
def containerHost (j : Json) : Decoded (App.Host Scripted) := do
  let log : Logger Scripted := if ← readBool j "nil_logger" then Logger.nop
    else Logger.ofSink fun e => record "log" { e with fields := e.fields.filter fun (k, _) => k != "alertTime" && k != "elapsed" }.toJson
  pure ⟨reach, ← scriptedBackend (j.getD "rpc"), matchTransport (← readList j "http"), .free,
    fun addr => pure (bindShown addr), log, fun line => record "stderr" (.str line), pure containerNow⟩

abbrev ContainerM := App.AppM ScriptedPart Scripted

/-- Pricing options as shown, with the nominal amount in wei. -/
def optionsJson (o : PricingOptions) : Json :=
  let members := match o.toJson with
    | .obj kvs => kvs
    | _ => []
  .obj (members ++ [("amount_wei", .str (intText o.amountWei))])

/-- An answer carrying its outcome: the value under `key`, or the failure under `err`. -/
def outcomeMembers (key : String) (f : α → Json) : Outcome α → List (String × Json)
  | .ok v => [(key, f v)]
  | .error e => [("err", e.toJson)]

/-- What an action answers, besides its name. -/
def containerAction (h : App.Host Scripted) (dialed : Bool) : ContainerAction → ContainerM (List (String × Json))
  | .describe name => do
    match ← App.arm name with
    | .error e => pure [("err", e.toJson)]
    | .ok plan =>
      pure [("address", .str plan.address.toText), ("engine", .str plan.name), ("name", .str plan.name),
        ("market", .bool plan.market.isSome),
        ("market_prices", .bool ((plan.market.bind (·.prices)).isSome)),
        ("options", optionsJson plan.options),
        ("providers", Json.ofStrings (plan.providers.map (·.source.name))),
        ("rates", .bool plan.wrapper.isSome), ("withdrawal", .bool plan.withdrawal.isSome)]
  | .run name dryRun => do
    match ← App.arm name with
    | .error e => pure [("err", e.toJson)]
    | .ok plan =>
      match ← App.engineOf h plan with
      | .error e => pure [("err", e.toJson)]
      | .ok engine =>
        pure (outcomeMembers "decision" RunReport.toJson (← engine.run { plan.options with dryRun }))
  | .estimate name => do
    match ← App.arm name with
    | .error e => pure [("err", e.toJson)]
    | .ok plan =>
      match plan.withdrawal with
      | none => pure [("err", (Failure.plain ("arm " ++ Text.quoted name ++ " has no withdrawal estimate")).toJson)]
      | some w =>
        let s := App.services h
        let src := App.withdrawalSource s (← get).settings (App.contract s plan) (App.armLogger s plan) w
        pure (outcomeMembers "estimate" Withdrawal.Estimate.toJson (← src.estimate))
  | .market name => do
    match ← App.arm name with
    | .error e => pure [("err", e.toJson)]
    | .ok plan =>
      match plan.market with
      | none => pure [("err", (Failure.plain ("arm " ++ Text.quoted name ++ " has no lending market")).toJson)]
      | some mp =>
        let s := App.services h
        let mk := App.market s (← get).settings (App.contract s plan) mp
        let apr ← mk.annualRate
        let aprMembers := [("apr", match apr with | .ok a => Json.ofFloat a | .error _ => Json.ofInt 0),
          ("apr_err", apr.errorJson)]
        if mp.prices.isNone then return aprMembers
        let mid ← mk.midPrice
        pure (aprMembers ++ [("mid", match mid with | .ok p => p.toJson | .error _ => .null),
          ("mid_err", mid.errorJson)])
  | .quotes name base liquidity => do
    match ← App.arm name with
    | .error e => pure [("err", e.toJson)]
    | .ok plan =>
      let s := App.services h
      let c := (← get).settings
      let quotes ← plan.providers.mapM fun sp => do
        let p := App.provider s c sp
        let q ← p.getPrice ⟨base, liquidity⟩ (some plan.options.amountWei)
        pure (Json.obj [("provider", .str p.name), ("quote", match q with | .ok v => v.toJson | .error _ => .null),
          ("err", q.errorJson)])
      match App.rates s plan with
      | none => pure [("quotes", .arr quotes)]
      | some rate =>
        let r ← rate
        pure [("quotes", .arr quotes), ("rate", match r with | .ok p => p.toJson | .error _ => .null),
          ("rate_err", r.errorJson)]
  | .accessors => do
    let st ← get
    pure [("alerts", .bool true), ("backend", .bool dialed), ("env", .str st.settings.env),
      ("logger", .bool true), ("serving", .bool st.serving.isSome)]
  | .health => do
    pure [("err", (← App.health h ScriptedPart.component).errorJson)]
  | .scrape => do
    match (← get).serving with
    | none => pure [("err", .str "not serving")]
    | some addr =>
      let unreachable (path : String) : Json :=
        .obj [("err", .str ("Get \"http://" ++ addr ++ path ++ "\": dial tcp " ++ addr ++
          ": connect: network is unreachable"))]
      pure [("/healthz", unreachable "/healthz"), ("/metrics", unreachable "/metrics")]
  | .start => do
    let r ← App.start h ScriptedPart.component
    pure [("err", r.errorJson), ("serving", .bool (← get).serving.isSome)]
  | .stop => do
    pure [("err", (← App.stop h ScriptedPart.component).errorJson)]
  | .register name part => do
    App.register name part
    pure []

/-- The actions in turn, each answer carrying its name. -/
def containerActions (h : App.Host Scripted) (dialed : Bool) :
    List (String × ContainerAction) → ContainerM (List Json)
  | [] => pure []
  | (name, a) :: rest => do
    let here ← containerAction h dialed a
    let later ← containerActions h dialed rest
    pure (.obj (here ++ [("do", .str name)]) :: later)

/-- Records in the order of their JSON text. -/
def byText (xs : List Json) : List Json :=
  xs.mergeSort fun a b => decide ((sortKeys a).render ≤ (sortKeys b).render)

def appContainer (j : Json) : Decoded Json := do
  let (settings, problem) := Config.parse (← readStr j "yaml")
  if let some e := problem then malformed e
  let key ← readStr j "private_key"
  let settings := if (j.getD "private_key").isNull then settings else { settings with privateKey := key }
  let withMonitor ← readBool j "with_monitor"
  let monitor := if withMonitor then PricerMonitor.named "oracle" "" else PricerMonitor.new
  let h ← containerHost j
  let names ← readStrs j "arms"
  let actions ← (← readList j "actions").mapM fun a => do pure (← readStr a "do", ← readContainerAction a)
  let dialed := match NodeTransport.ofUrl settings.chain.rpcUrl with
    | .ok t => (reach t).toBool
    | .error _ => false
  let program : ContainerM (Outcome Unit × List Json × Outcome Unit) := do
    let built ← App.build h names
    let answers ← containerActions h dialed actions
    let stopped ← App.stop h ScriptedPart.component
    pure (built, answers, stopped)
  let (((built, answers, stopped), st), (_, calls)) :=
    (program.run (App.AppState.new settings monitor)).run ([], #[])
  pure (.obj [("actions", .arr answers), ("build_err", built.errorJson),
    ("http", .arr (byText (recorded calls "http"))), ("logs", .arr (byText (recorded calls "log"))),
    ("metrics", familiesJson st.monitor), ("metrics_addr_after_stop", .str st.metricsAddr),
    ("rpc", .arr (byText (recorded calls "rpc"))), ("same_monitor", .bool withMonitor),
    ("stderr", .arr (recorded calls "stderr")), ("stop_err", stopped.errorJson)])

end Sim

end QuoteKeeper
