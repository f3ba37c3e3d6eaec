import QuoteKeeper.Sim.Container
import QuoteKeeper.Sim.Subscription
import QuoteKeeper.Sim.Service
import QuoteKeeper.Command.Catalog
/-
  QuoteKeeper.Sim.Cli — a command run as a process in a scripted world, as an observer of its
  output sees it.

  1. The world. Files are those of `files`, by name or under `$DIR/`; any other is missing.
     The environment is `env`. The node and the web answer as for a scripted service; a call
     made within a deadline of a millisecond or less has already missed it (`context deadline
     exceeded`). Websocket connections are those of `ws`, in turn; after them no connection
     ever comes. No service manager listens.
  2. Time. The process starts at the service's instant and waits without limit up to ten
     seconds in all; a wait that would go past that never ends.
  3. Stopping. A line written that contains one of `stop_on` asks the process to stop; it
     sees the request when it next waits. A process left waiting is killed.
  4. Output. Log entries written to standard output or standard error as JSON are shown as
     flat objects (level, logger, message and fields; the alert time and elapsed time left
     out), ordered by their JSON text; other lines are shown per stream, in order, a loopback
     port as `PORT`. The answer has the exit code (-9 for a killed process), whether a stop
     was asked, and whether the process was killed.
-/

namespace QuoteKeeper

namespace Sim

/-- A line a process wrote. -/
inductive Written where
  | log (entry : Json)
  | text (stream : Cli.Stream) (line : String)

/-- A scripted process between its steps. -/
structure ProcessState where
  written : Array Written
  stopOn : List String
  stopAsked : Bool
  /-- Nanoseconds since the start. -/
  clock : Int

abbrev ProcessM := StateT ProcessState Scripted

/-- How long a scripted process may wait in all. -/
def waitLimit : Int := 10 * Duration.second

/-- Loopback ports shown as `PORT`. -/
def loopbackPorts (line : String) : String :=
  let host := "127.0.0.1:"
  match line.splitOn host with
  | [] => line
  | first :: pieces =>
    host.intercalate (first :: pieces.map fun p =>
      let cs := p.toList
      let digits := cs.takeWhile Char.isDigit
      if digits.isEmpty then p else "PORT" ++ String.ofList (cs.drop digits.length))

/-- A log entry as an observer shows it: flat, without the alert time and elapsed time. -/
def shownEntry (e : Entry) : Json :=
  match e.flat with
  | .obj ms => .obj (ms.filter fun (k, _) => k != "alertTime" && k != "elapsed")
  | j => j

/-- Records a line and whether it asks the process to stop. -/
def writeLine (w : Written) (text : String) : ProcessM Unit := do
  let st ← get
  let asks := st.stopOn.any fun pat => occursIn pat text
  set { st with written := st.written.push w, stopAsked := st.stopAsked || asks }

def processWait (d : Int) : ProcessM Wakeup := do
  let st ← get
  if st.stopAsked then pure .stopped
  else if st.clock + max d 0 > waitLimit then pure .never
  else
    set { st with clock := st.clock + max d 0 }
    pure .elapsed

/-- A node whose every call has missed its deadline. -/
def lateNode (e : Failure) : NodeClient ProcessM :=
  ⟨pure (.error e), pure (.error e), pure (.error e), fun _ => pure (.error e), fun _ _ _ => pure (.error e),
    fun _ => pure (.error e), fun _ => pure (.error e), fun _ => pure (.error e)⟩

/-- The network of the scripted world, calls within `deadline` when there is one. -/
def processNetwork (backend : Backend Scripted) (http : List Json) (deadline : Option Int) :
    Cli.Network ProcessM :=
  let late := match deadline with
    | some d => decide (d ≤ Duration.millisecond)
    | none => false
  let listen (addr : String) : ProcessM (Except String String) := pure (bindShown addr)
  if late then
    let missed (url : String) : Failure := .plain ("Post " ++ Text.quoted url ++ ": context deadline exceeded")
    ⟨reach, fun url => ⟨fun _ _ => pure (.error (missed url)), lateNode (missed url), pure (.error (missed url))⟩,
      fun _ => pure (.failure "context deadline exceeded"), .free, listen⟩
  else
    ⟨reach, fun _ => backend.hoist StateT.lift, fun r => StateT.lift (matchTransport http r), .free, listen⟩

/-- The text of a file of the world. -/
def worldFile (files : Json) (path : String) : Except String String :=
  match (files.getD (fileName path)).asStr? with
  | some text => .ok text
  | none => .error ("open " ++ path ++ ": no such file or directory")

/-- The surroundings of a scripted process. -/
def processSurroundings (j : Json) : Decoded (Cli.Surroundings ProcessM) := do
  let env := readEnv (j.getD "env")
  let files := j.getD "files"
  let backend ← scriptedBackend (j.getD "rpc")
  let http ← readList j "http"
  let sub ← ofOutcome (Subscription.settings ⟨"ws://node/ws", 0, 0, 0, 0⟩)
  let conns ← (← readList j "ws").mapM (readConnection sub)
  let write (c : LogCore) (e : Entry) : ProcessM Unit :=
    let stream : Option Cli.Stream := match c.target with
      | .stdout => some .stdout
      | .stderr => some .stderr
      | .file _ => none
    match stream with
    | none => pure ()
    | some s =>
      if c.console then
        let line := e.consoleLine "2026-01-01T00:00:00.000Z"
        writeLine (.text s line) line
      else
        let flat := shownEntry e
        writeLine (.log flat) flat.render
  pure {
    env := fun k => (env.lookup k).getD ""
    readFile := fun p => pure (worldFile files p)
    openLog := openProblem
    print := fun s line => let line := loopbackPorts line; writeLine (.text s line) line
    write := write
    network := processNetwork backend http
    manager := absentManager env
    connections := fun _ _ => conns
    wait := processWait
    stopAsked := do pure (← get).stopAsked
    maxTriggers := 1000
    now := do pure (containerNow + (← get).clock) }

/-- The lines of one stream. -/
def streamLines (written : Array Written) (s : Cli.Stream) : List Json :=
  written.toList.filterMap fun
    | .text t line => if t == s then some (.str line) else none
    | .log _ => none

def cli (j : Json) : Decoded Json := do
  let tool ← readStr j "tool"
  let command : Cli.Surroundings ProcessM → List String → ProcessM Cli.Exit ← match Command.byName tool with
    | some c => pure c
    | none => malformed ("unknown tool " ++ Text.quoted tool)
  let s ← processSurroundings j
  let args ← readStrs j "args"
  let stopOn ← readStrs j "stop_on"
  let ((exit, st), _) := ((command s args).run ⟨#[], stopOn, false, 0⟩).run ([], #[])
  let logs := st.written.toList.filterMap fun
    | .log e => some e
    | .text _ _ => none
  pure (.obj [("exit", match exit with
      | .code n => Json.ofNat n
      | .waiting => Json.ofInt (-9)),
    ("logs", .arr (byText logs)), ("stderr", .arr (streamLines st.written .stderr)),
    ("stdout", .arr (streamLines st.written .stdout)), ("stopped", .bool st.stopAsked),
    ("timed_out", .bool (exit == .waiting))])

end Sim

end QuoteKeeper
