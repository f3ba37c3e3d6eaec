import QuoteKeeper.Command.Catalog
import Std.Time.DateTime.Timestamp
/-
  QuoteKeeper.Main — the commands as a process: `<command> [flags]`, the command being
  `runner`, `reference_prices`, `withdraw_estimate` or `metrics_probe`.

  The process reads its environment and files, writes to its standard streams, appends log
  files, and takes the time from the system clock. It has no network access: a node or web
  call fails, an address cannot be bound, and no websocket or service-manager socket is
  reached. It is never asked to stop; a command left waiting sleeps until it is killed.
-/

namespace QuoteKeeper

namespace Main

/-- The environment variables the commands read. -/
def envNames : List String :=
  ["ARM_RPC_URL", "ARM_WS_URL", "ARM_ONEINCH_API_KEY", "ARM_PRIVATE_KEY", "NOTIFY_SOCKET",
    "WATCHDOG_USEC", "WATCHDOG_PID"]

/-- Why the network cannot be used. -/
def offline : String := "network access is not available"

/-- The node at an address, every call failing. -/
def offlineBackend (url : String) : Backend IO :=
  let e : Failure := .plain ("Post " ++ Text.quoted url ++ ": " ++ offline)
  ⟨fun _ _ => pure (.error e),
    ⟨pure (.error e), pure (.error e), pure (.error e), fun _ => pure (.error e), fun _ _ _ => pure (.error e),
      fun _ => pure (.error e), fun _ => pure (.error e), fun _ => pure (.error e)⟩,
    pure (.error e)⟩

/-- The network of a process without network access. -/
def offlineNetwork : Cli.Network IO :=
  ⟨fun t => match t with
      | .http _ => .ok ()
      | _ => .error offline,
    offlineBackend, fun _ => pure (.failure offline), .free,
    fun addr => pure (.error ("listen tcp " ++ addr ++ ": " ++ offline))⟩

/-- Nanoseconds since the epoch, from the system clock. -/
def clock : IO Int := do
  pure (← Std.Time.Timestamp.now).toNanosecondsSinceUnixEpoch.val

/-- The clock as ISO 8601 text, to the millisecond. -/
def timeText : IO String := do
  pure (Instant.civil (← clock)).isoText

/-- Reads a file, or says why it cannot be read. -/
def readText (path : String) : IO (Except String String) := do
  try pure (.ok (← IO.FS.readFile path))
  catch e =>
    match e with
    | .noFileOrDirectory .. => pure (.error ("open " ++ path ++ ": no such file or directory"))
    | other => pure (.error ("open " ++ path ++ ": " ++ toString other))

/-- Writes a log entry through a core: streams get JSON or console lines, files JSON lines. -/
def writeEntry (c : LogCore) (e : Entry) : IO Unit := do
  let time ← timeText
  let line := if c.console then e.consoleLine time
    else match e.flat with
      | .obj (lv :: rest) => (Json.obj (lv :: ("ts", .str time) :: rest)).render
      | j => j.render
  match c.target with
  | .stdout => IO.println line
  | .stderr => IO.eprintln line
  | .file path =>
    let h ← IO.FS.Handle.mk path .append
    h.putStrLn line

/-- Sleeps for a duration in nanoseconds, a day at most at a time. -/
def sleepFor (ns : Int) : IO Wakeup := do
  let ms := (min (max ns 0) Duration.day) / Duration.millisecond
  IO.sleep ms.toNat.toUInt32
  pure .elapsed

/-- The surroundings of this process. -/
def surroundings : IO (Cli.Surroundings IO) := do
  let env ← envNames.mapM fun k => do pure (k, (← IO.getEnv k).getD "")
  pure {
    env := fun k => (env.lookup k).getD ""
    readFile := readText
    openLog := fun _ => none
    print := fun s line => match s with
      | .stdout => IO.println line
      | .stderr => IO.eprintln line
    write := writeEntry
    network := fun _ => offlineNetwork
    manager := ⟨fun k => (env.lookup k).getD "", 0, fun _ _ => some offline⟩
    connections := fun _ _ => []
    wait := sleepFor
    stopAsked := pure false
    maxTriggers := 4294967296
    now := clock }

/-- Sleeps until the process is killed. -/
partial def idle : IO Unit := do
  IO.sleep 60000
  idle

end Main

end QuoteKeeper

open QuoteKeeper in
def main (args : List String) : IO UInt32 := do
  match args with
  | [] =>
    IO.eprintln "usage: <command> [flags]; commands: runner, reference_prices, withdraw_estimate, metrics_probe"
    pure 2
  | name :: rest =>
    match Command.byName name with
    | none =>
      IO.eprintln ("unknown command " ++ Text.quoted name)
      pure 2
    | some command =>
      match ← command (← Main.surroundings) rest with
      | .code n => pure n.toUInt32
      | .waiting =>
        Main.idle
        pure 0
