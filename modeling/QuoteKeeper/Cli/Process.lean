import QuoteKeeper.Cli.Flags
import QuoteKeeper.App.Container
import QuoteKeeper.Log.Output
import QuoteKeeper.Log.Setup
import QuoteKeeper.Chain.Subscription
import QuoteKeeper.Service
import QuoteKeeper.Runner
/-
  QuoteKeeper.Cli.Process — what a command sees of the process it runs in, and the steps
  every command shares.

  1. Surroundings. A command reads its environment and files, writes lines of text to
     standard output and standard error, writes log entries through the cores of its log,
     reaches the node, the web and listening sockets (each call within a deadline when one is
     set), talks to the service manager, opens websocket subscriptions, waits, and can ask
     whether it was asked to stop. A loop takes a bounded number of triggers.
  2. Endings. A command ends with an exit code, or is left waiting for something that never
     comes; a process left waiting ends only when it is killed. A fatal problem is one line on
     standard error and exit code 1, with nothing else run after it.
  3. Flags that do not read are reported on standard error with the usage after them, exit
     code 2; asking for the usage prints it with exit code 0.
  4. Settings are read from the configuration file (`read config: <reason>` when it cannot
     be read), then the environment's node addresses, 1inch key and private key are applied,
     then they are checked.
  5. A command's log writes each entry to every core whose threshold it reaches, durations as
     float seconds.
-/

namespace QuoteKeeper

namespace Cli

/-- The two text streams of a process. -/
inductive Stream where
  | stdout
  | stderr
  deriving DecidableEq, Repr

/-- How a process ends. -/
inductive Exit where
  | code (n : Nat)
  /-- Still waiting when nothing more can happen: it ends only when killed. -/
  | waiting
  deriving DecidableEq, Repr

/-- The node, the web and listening sockets as a command reaches them. -/
structure Network (m : Type → Type) where
  dial : NodeTransport → Except String Unit
  /-- The node at an address. -/
  backend : String → Backend m
  transport : Transport m
  /-- What web calls wait on: the limiter, retry waits and their draws. -/
  waits : ClientWaits m
  /-- Binds a listening address: the address bound, or why it cannot be. -/
  listen : String → m (Except String String)

/-- What a command sees of its surroundings. -/
structure Surroundings (m : Type → Type) where
  /-- An environment variable, empty when unset. -/
  env : String → String
  /-- A file's text, or why it cannot be read. -/
  readFile : String → m (Except String String)
  /-- Why a log file cannot be opened for appending, if it cannot. -/
  openLog : String → Option String
  print : Stream → String → m Unit
  /-- Writes a log entry through one core of the log. -/
  write : LogCore → Entry → m Unit
  /-- The network, every call made within a deadline this many nanoseconds ahead, if any. -/
  network : Option Int → Network m
  manager : ServiceManager
  /-- The attempts at a websocket subscription to an address, one connection each, in order. -/
  connections : String → SubscriberSettings → List (Except String Connection)
  /-- Waits this many nanoseconds, or less when asked to stop. -/
  wait : Int → m Wakeup
  /-- Whether the process was asked to stop. -/
  stopAsked : m Bool
  /-- The most triggers a loop takes; a loop that would take more is left waiting. -/
  maxTriggers : Nat
  /-- Nanoseconds since the epoch. -/
  now : m Int

variable {m : Type → Type} [Monad m]

namespace Surroundings

/-- One line on standard error and exit code 1. -/
def fatal (s : Surroundings m) (msg : String) : m Exit := do
  s.print .stderr msg
  pure (.code 1)

/-- Lines on a stream, in order. -/
def printAll (s : Surroundings m) (stream : Stream) : List String → m Unit
  | [] => pure ()
  | l :: ls => do s.print stream l; s.printAll stream ls

/-- The answer to flags that do not read: the problem and the usage on standard error. -/
def refuseFlags (s : Surroundings m) (command : String) (specs : List FlagSpec) (e : FlagError) :
    m Exit := do
  if let some msg := e.message? then s.print .stderr msg
  s.printAll .stderr (usage command specs)
  pure (.code (match e with
    | .help => 0
    | _ => 2))

/-- The environment's values that settings take. -/
def settingsEnv (s : Surroundings m) : List (String × String) :=
  ["ARM_RPC_URL", "ARM_WS_URL", "ARM_ONEINCH_API_KEY", "ARM_PRIVATE_KEY"].map fun k => (k, s.env k)

/-- The settings of the configuration file at `path`, with the environment applied, checked. -/
def loadSettings (s : Surroundings m) (path : String) : m (Outcome Config.AppSettings) := do
  match ← s.readFile path with
  | .error e => pure (.error (.plain ("read config: " ++ e)))
  | .ok text =>
    let (cfg, checked) := Config.loadWithEnv text s.settingsEnv
    pure (checked.map fun _ => cfg)

/-- The log writing to `cores`, durations as float seconds. -/
def logger (s : Surroundings m) (cores : List LogCore) : Logger m :=
  Logger.ofSinkWith (fun e => cores.forM fun c => if e.level.atLeast c.threshold then s.write c e else pure ())
    Field.seconds

/-- The log a setup asks for, or why it cannot be made. -/
def openLogger (s : Surroundings m) (setup : LogSetup) : Except String (Logger m) :=
  (setup.build s.openLog).2.map s.logger

/-- What a service with the node at `node` runs against, with calls within `deadline` and
alerts on standard error. -/
def host (s : Surroundings m) (deadline : Option Int) (log : Logger m) (node : String) : App.Host m :=
  let n := s.network deadline
  ⟨n.dial, n.backend node, n.transport, n.waits, n.listen, log, fun line => s.print .stderr line, s.now⟩

end Surroundings

end Cli

end QuoteKeeper
