import QuoteKeeper.App.Wiring
import QuoteKeeper.App.Lifecycle
import QuoteKeeper.Alert
import QuoteKeeper.Monitor.Pricer
import QuoteKeeper.Chain.Key
/-
  QuoteKeeper.App.Container — a whole service: its ARMs, metrics, alerts and running parts.

  1. Building. The alert manager sends to the log (and to the console when configured),
     letting each alert through once per throttle interval (five minutes unless configured).
     The node is dialled (`dial <address>: <reason>`); with a private key (an optional `0x`
     before its hex) a signer is made for the configured chain, or the node's when none is
     configured (`parse private key: ...`, `chain id: ...`). Those failures read `build
     backend failed: ...`. Then the ARMs named, or all of them in name order, are planned in
     turn (`build arm <name> failed: ...`, keeping what failed). A metrics address registers
     the metrics server as the first running part. `container built` logs the ARM names and
     whether there is a signer.
  2. Running parts are started and stopped in order (App.Lifecycle): `starting container...`,
     then `container started` or `start failed: ...`; `stopping container...`, with a failure
     to stop logged as an error event. Health joins every part's problem.
  3. The metrics server listens when started (once, however often it is started), logging
     the address it is bound to; it is healthy only while listening, and stopping it frees the
     address.
  4. An ARM is looked up by name among those built (`arm "<name>" not built`). Its parts run
     against the service's backend, web transport and log; their metrics and alerts go to the
     service's registry and alert manager.
-/

namespace QuoteKeeper

namespace App

/-- A running part: the metrics server, or one registered from outside. -/
inductive Part (κ : Type) where
  | metricsServer
  | extra (part : κ)

/-- Everything a service keeps between calls. -/
structure AppState (κ : Type) where
  settings : Config.AppSettings
  monitor : PricerMonitor
  alerts : AlertManager
  signer : Option Transactor
  arms : List ArmPlan
  parts : List (String × Part κ)
  /-- How many parts, from the first, are started. -/
  started : Nat
  /-- The address the metrics server is bound to, while it listens. -/
  serving : Option String

/-- A service's computations, over the monad of its surroundings. -/
abbrev AppM (κ : Type) (m : Type → Type) := StateT (AppState κ) m

/-- What a service runs against. -/
structure Host (m : Type → Type) where
  /-- Whether a node can be reached this way, or why not. -/
  dial : NodeTransport → Except String Unit
  backend : Backend m
  transport : Transport m
  waits : ClientWaits m
  /-- Binds a listening address: the address bound, or why it cannot be. -/
  listen : String → m (Except String String)
  log : Logger m
  console : String → m Unit
  /-- Nanoseconds since the epoch. -/
  now : m Int

namespace AppState

/-- The alert throttle interval a configuration asks for. -/
def throttleOf (c : Config.AppSettings) : Int :=
  if c.alert.throttleSeconds > 0 then c.alert.throttleSeconds * Duration.second else 5 * Duration.minute

/-- A service with nothing built yet. -/
def new (c : Config.AppSettings) (monitor : PricerMonitor) : AppState κ :=
  ⟨c, monitor, AlertManager.new (throttleOf c), none, [], [], 0, none⟩

/-- The address the metrics server is bound to, empty while it does not listen. -/
def metricsAddr (st : AppState κ) : String := st.serving.getD ""

end AppState

variable {κ : Type} {m : Type → Type} [Monad m]

/-- The host's logger, seen from the service. -/
def Host.logger (h : Host m) : Logger (AppM κ m) :=
  h.log.mapSink fun e => StateT.lift (h.log.sink e)

/-- The channels alerts go to. -/
def alertChannels (h : Host m) (c : Config.AppSettings) : List (AlertChannel m) :=
  [AlertChannel.ofLogger "log" (h.log.named "alert")] ++
    (if c.alert.console then [⟨"console", fun a => do h.console a.consoleLine; pure (.ok ())⟩] else [])

def sendAlert (h : Host m) (a : Alert) : AppM κ m Unit := do
  let st ← get
  let now ← StateT.lift h.now
  let (_, mgr) ← StateT.lift (st.alerts.send (alertChannels h st.settings) now a)
  modify fun st => { st with alerts := mgr }

def updateMonitor (f : PricerMonitor → PricerMonitor) : AppM κ m Unit :=
  modify fun st => { st with monitor := f st.monitor }

/-- The service's metrics. -/
def metrics (h : Host m) : Metrics (AppM κ m) :=
  ⟨fun a x y z => updateMonitor (·.setReference a x y z), fun a x y => updateMonitor (·.setTargets a x y),
    fun a x y => updateMonitor (·.setCurrent a x y), fun a x y => updateMonitor (·.setDiffs a x y),
    fun a x y => updateMonitor (·.setLending a x y),
    fun a o => do
      let now ← StateT.lift h.now
      updateMonitor (·.recordRun a o (now.tdiv Duration.second)),
    fun a k => updateMonitor (·.recordFailure a k)⟩

/-- The service's alerts. -/
def notifier (h : Host m) : Notifier (AppM κ m) :=
  ⟨fun arm buy sell tx => sendAlert h (AlertManager.pricesSubmitted arm buy sell tx),
    fun arm kind e => sendAlert h (AlertManager.runFailed arm kind e),
    fun arm minBuy mid => sendAlert h (AlertManager.boundContradiction arm minBuy mid)⟩

/-- What the parts of the service's ARMs run against. -/
def services (h : Host m) : Services (AppM κ m) :=
  ⟨h.backend.hoist StateT.lift, fun r => StateT.lift (h.transport r), h.logger,
    fun name o => updateMonitor (·.observeProvider name 0 (match o with | .error _ => true | .ok _ => false)),
    ⟨StateT.lift h.waits.turn, fun b => StateT.lift (h.waits.pause b), fun b => StateT.lift (h.waits.draw b)⟩,
    metrics h, notifier h, StateT.lift h.now⟩

/-! ## Building -/

/-- Dials the node and makes the signer. -/
def buildBackend (h : Host m) : AppM κ m (Outcome Unit) := do
  let st ← get
  let url := st.settings.chain.rpcUrl
  let dialed : Except String Unit := match NodeTransport.ofUrl url with
    | .error e => .error e
    | .ok t => h.dial t
  match dialed with
  | .error e => pure (.error (.plain ("dial " ++ url ++ ": " ++ e)))
  | .ok _ =>
    let key := st.settings.privateKey
    if key.isEmpty then return .ok ()
    let hex := if "0x".isPrefixOf key then String.ofList (key.toList.drop 2) else key
    match PrivateKey.ofHex hex with
    | .error e => pure (.error (.plain ("parse private key: " ++ e)))
    | .ok k =>
      let chainId : Outcome Nat ← if st.settings.chain.chainId != 0 then pure (.ok st.settings.chain.chainId.toNat)
        else StateT.lift h.backend.chainId
      match chainId with
      | .error e => pure (.error (e.wrap "chain id"))
      | .ok id =>
        set { st with signer := some ⟨k, id, 0⟩ }
        pure (.ok ())

/-- Plans the ARMs named, in turn; a later plan of a name replaces an earlier one. -/
def buildArms (h : Host m) : List String → AppM κ m (Outcome Unit)
  | [] => pure (.ok ())
  | name :: rest => do
    let st ← get
    match ← StateT.lift (planArm st.settings h.backend.call name) with
    | .error e => pure (.error (e.wrap ("build arm " ++ name ++ " failed")))
    | .ok plan =>
      modify fun st => { st with arms := st.arms.filter (·.name != name) ++ [plan] }
      buildArms h rest

/-- Builds the service from its configuration, with the ARMs named (all when none are). -/
def build (h : Host m) (names : List String) : AppM κ m (Outcome Unit) := do
  match ← buildBackend h with
  | .error e => pure (.error (e.wrap "build backend failed"))
  | .ok _ =>
    let st ← get
    let names := if names.isEmpty then Config.sortedNames (st.settings.arms.getD []) else names
    match ← buildArms h names with
    | .error e => pure (.error e)
    | .ok _ =>
      if !(← get).settings.metricsAddr.isEmpty then
        modify fun st => { st with parts := st.parts ++ [("metrics_server", .metricsServer)] }
      h.logger.info "container built"
        [("arms", Json.ofStrings names), ("signer", .bool (← get).signer.isSome)]
      pure (.ok ())

/-- Registers a part, started after those registered before it. -/
def register (name : String) (part : κ) : AppM κ m Unit :=
  modify fun st => { st with parts := st.parts ++ [(name, .extra part)] }

/-! ## Running parts -/

/-- The metrics server. -/
def metricsServer (h : Host m) : Component (AppM κ m) where
  start := do
    let st ← get
    if st.serving.isSome then return .ok ()
    match ← StateT.lift (h.listen st.settings.metricsAddr) with
    | .error e => pure (.error (.plain e))
    | .ok addr =>
      set { st with serving := some addr }
      h.logger.info "metrics server listening" [("addr", .str addr)]
      pure (.ok ())
  stop := do
    modify fun st => { st with serving := none }
    pure (.ok ())
  health := do
    pure (if (← get).serving.isSome then .ok () else .error (.plain "not serving"))

/-- The component of a registered part. -/
def component (h : Host m) (extra : κ → Component m) : Part κ → Component (AppM κ m)
  | .metricsServer => metricsServer h
  | .extra k =>
    let c := extra k
    ⟨StateT.lift c.start, StateT.lift c.stop, StateT.lift c.health⟩

def components (h : Host m) (extra : κ → Component m) : AppM κ m (List (String × Component (AppM κ m))) := do
  pure ((← get).parts.map fun (name, p) => (name, component h extra p))

/-- Starts the parts not yet started. -/
def start (h : Host m) (extra : κ → Component m) : AppM κ m (Outcome Unit) := do
  let log := h.logger
  log.info "starting container..." []
  let parts ← components h extra
  let (started, r) ← Lifecycle.startAll log parts (← get).started
  modify fun st => { st with started }
  match r with
  | .error e => pure (.error (e.wrap "start failed"))
  | .ok _ =>
    log.info "container started" []
    pure (.ok ())

/-- Stops the started parts. -/
def stop (h : Host m) (extra : κ → Component m) : AppM κ m (Outcome Unit) := do
  let log := h.logger
  log.info "stopping container..." []
  let parts ← components h extra
  let r ← Lifecycle.stopStarted parts (← get).started
  modify fun st => { st with started := 0 }
  match r with
  | .error e =>
    log.error "error_event" [("action", .str "stop"), ("error", .str e.message)]
    pure (.error e)
  | .ok _ => pure (.ok ())

def health (h : Host m) (extra : κ → Component m) : AppM κ m (Outcome Unit) := do
  Lifecycle.checkHealth (← components h extra)

/-! ## ARMs -/

/-- A built ARM by name. -/
def arm (name : String) : AppM κ m (Outcome ArmPlan) := do
  match (← get).arms.find? (·.name == name) with
  | some a => pure (.ok a)
  | none => pure (.error (.plain ("arm " ++ Text.quoted name ++ " not built")))

/-- The pricing engine of a built ARM. -/
def engineOf (h : Host m) (plan : ArmPlan) : AppM κ m (Outcome (Engine (AppM κ m))) := do
  let st ← get
  pure (engine (services h) st.settings st.signer plan)

end App

end QuoteKeeper
