import QuoteKeeper.Sim.Script
import QuoteKeeper.Config.Reload
/-
  QuoteKeeper.Sim.Reload — a configuration file changed step by step under a watcher or a
  poller.

  The file is `$DIR/config.yaml`, present with the request's `initial` text or absent. A step
  writes a new text by renaming it over the file, writes it in place, changes the file's mode,
  removes it, or renames it away; the watcher then sees that step's events and the poller
  ticks once. A configuration handed on is shown by its ARM names, environment, RPC address
  and whether a private key is set.
-/

namespace QuoteKeeper

namespace Sim

def configPath : String := "$DIR/config.yaml"

/-- Log entries and the configurations handed on. -/
abbrev Watched := StateM (Array Json × Array Json)

def watchedLogger : Logger Watched := Logger.ofSink fun e => modify fun (ls, cs) => (ls.push e.toJson, cs)

def settingsJson (c : Config.AppSettings) : Json :=
  .obj [("arms", .arr ((Config.sortedNames (c.arms.getD [])).map Json.str)), ("env", .str c.env),
    ("private_key_set", .bool !c.privateKey.isEmpty), ("rpc", .str c.chain.rpcUrl)]

def handOn (c : Config.AppSettings) : Watched Unit := modify fun (ls, cs) => (ls, cs.push (settingsJson c))

/-- The file as read: its text, or why it cannot be read. -/
def readConfigFile (file : Option String) : Except String String :=
  match file with
  | some t => .ok t
  | none => .error ("open " ++ configPath ++ ": no such file or directory")

/-- A step's change to the file and the events the directory reports. -/
def fileChange (s : Json) (file : Option String) : Decoded (Option String × List Config.FileEvent) := do
  if !(s.getD "write").isNull then pure (some (← readStr s "write"), [.create])
  else if !(s.getD "write_in_place").isNull then pure (some (← readStr s "write_in_place"), [.write])
  else if ← readBool s "chmod" then pure (file, [.chmod])
  else if ← readBool s "remove" then pure (none, [.remove])
  else if ← readBool s "rename_away" then pure (none, [.rename])
  else malformed "unknown file step"

def initialFile (j : Json) : Decoded (Option String) := do
  if (j.getD "initial").isNull then pure none else some <$> readStr j "initial"

def readCheck (initial : Config.AppSettings) (v : Json) : Decoded Config.ReloadCheck := do
  let name ← readStr v "name"
  match ← readStr v "kind" with
  | "same_chain" => pure (.sameChainAs name initial.chain)
  | "same_wiring" =>
    let arm ← readStr v "arm"
    pure (.sameWiringAs name arm (((initial.arms.getD []).lookup arm).getD Config.ArmSettings.zero))
  | k => malformed ("unknown validator kind " ++ Text.quoted k)

def hotReload (j : Json) : Decoded Json := do
  let mut file ← initialFile j
  let env := readEnv (j.getD "env")
  let initial := (Config.loadWithEnv (file.getD "") env).1
  let mut r := Config.Reloader.new configPath file
  for v in ← readList j "validators" do
    r := r.register (← readCheck initial v)
  let hj := j.getD "handler"
  let handler : Option (Config.AppSettings → Watched (Outcome Unit)) :=
    if hj.isNull then none
    else some fun c => do
      handOn c
      pure (match hj.getD "error" with
        | .str e => .error (.plain e)
        | _ => .ok ())
  let log : Logger Watched :=
    if ← readBool j "nil_logger" then Logger.nop else watchedLogger.withFields [("component", .str "hot-reload")]
  let disabled ← readBool j "disabled"
  let done (startErr : Json) (steps : List Json) (applied : List Json) : Json :=
    .obj [("applied", .arr applied), ("start_err", startErr), ("steps", .arr steps), ("stop_err", .null)]
  if !disabled && (← readBool j "missing_dir") then
    return done (Failure.toJson (.plain "watch config dir: no such file or directory")) [] []
  let mut steps : Array Json := #[]
  let mut applied : Array Json := #[]
  for s in ← readList j "steps" do
    let (next, events) ← fileChange s file
    file := next
    let events := if disabled then [] else events
    let (r', (logs, cs)) := (r.onEvents events (readConfigFile file) env handler log).run (#[], #[])
    r := r'
    applied := applied ++ cs
    steps := steps.push (.obj [("logs", .arr logs.toList), ("reloaded_once", .bool r.reloaded)])
  pure (done .null steps.toList applied.toList)

def watcher (j : Json) : Decoded Json := do
  let cancelled ← readBool j "cancelled"
  if !(j.getD "interval_ms").isNull then
    let ms ← readInt j "interval_ms" 0
    if ms ≤ 0 ∧ !cancelled then malformed ("interval_ms " ++ intText ms ++ " needs cancelled")
  let err := Failure.toJson (Failure.of .cancelled)
  if cancelled then
    return .obj [("err", err), ("steps", .arr []), ("updates", .arr [])]
  let mut file ← initialFile j
  let env := readEnv (j.getD "env")
  let log : Logger Watched := if ← readBool j "nil_logger" then Logger.nop else watchedLogger
  let mut p := Config.Poller.new configPath file
  let mut steps : Array Json := #[]
  let mut updates : Array Json := #[]
  for s in ← readList j "steps" do
    let (next, _) ← fileChange s file
    file := next
    let tick : Watched Config.Poller := do
      let (p', cfg) ← p.tick (readConfigFile file) env log
      match cfg with
      | some c => handOn c
      | none => pure ()
      pure p'
    let (p', (logs, cs)) := tick.run (#[], #[])
    p := p'
    updates := updates ++ cs
    steps := steps.push (.obj [("entry", logs.toList.headD .null), ("updates", .arr cs.toList)])
  pure (.obj [("err", err), ("steps", .arr steps.toList), ("updates", .arr updates.toList)])

end Sim

end QuoteKeeper
