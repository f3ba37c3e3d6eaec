import QuoteKeeper.Sim.Script
import QuoteKeeper.Chain.Subscription
/-
  QuoteKeeper.Sim.Subscription — a head subscriber against scripted connections.

  Each connection is refused with a status (the handshake fails) or accepted; an accepted one
  sends its messages (text, binary, or pings and pongs, which never reach the reader) and then
  ends: closed with a code and text (a normal close by default), dropped, held until the read
  deadline passes, or held for a while and then closed. A connection held past the read
  deadline times out unless pings, sent more often than the deadline, keep it alive; a held
  connection stays silent until it ends. The server shows each request line and each message
  it read. Heads go to a receiver of the given room (sixteen by default) that is not read
  while the subscriber runs; waits between sessions start at a millisecond.
-/

namespace QuoteKeeper

namespace Sim

/-- What the server saw, the heads received, and the log. -/
abbrev Served := StateM (Array Json × Array Head × Array Json)

def servedLogger : Logger Served :=
  Logger.ofSink fun e => modify fun (srv, hs, ls) => (srv, hs, ls.push e.toJson)

/-- The request target of a websocket address: its path and query, `/` when it has none. -/
def requestTarget (url : String) : String :=
  let rest := match url.splitOn "://" with
    | _ :: r :: more => "://".intercalate (r :: more)
    | _ => url
  let cs := rest.toList.dropWhile fun c => c != '/' && c != '?'
  match cs with
  | '/' :: _ => String.ofList cs
  | [] => "/"
  | _ => "/" ++ String.ofList cs

/-- A scripted connection: refused with a reason, or what it sends and how it ends. -/
def readConnection (s : SubscriberSettings) (c : Json) : Decoded (Except String Connection) := do
  if !(c.getD "reject_status").isNull then return .error "websocket: bad handshake"
  let mut messages : Array String := #[]
  for msg in ← readList c "messages" do
    match msg with
    | .str t => messages := messages.push t
    | _ => if !(msg.getD "binary").isNull then messages := messages.push (← readStr msg "binary")
  let closed : Decoded String := do
    pure (Subscription.closeError (← readInt c "close_code" 1000).toNat (← readStr c "close_text"))
  let timeout := "read pipe: i/o timeout"
  let (ending, quiet) ← match ← readStr c "end" with
    | "drop" => pure (Subscription.lostError, 0)
    | "hold" => pure (timeout, s.readTimeout)
    | "hold_then_close" =>
      let held := (← readInt c "hold_ms" 0) * Duration.millisecond
      if held ≥ s.readTimeout ∧ s.pingInterval ≥ s.readTimeout then pure (timeout, s.readTimeout)
      else pure (← closed, held)
    | _ => pure (← closed, 0)
  pure (.ok ⟨messages.toList, ending, quiet⟩)

def headSubscribe (j : Json) : Decoded Json := do
  let url ← readStr j "url"
  if ← readBool j "new_only" then
    let r := Subscription.settings ⟨url, 0, 0, 0, 0⟩
    return .obj [("new_err", match r with
      | .ok _ => .null
      | .error e => e.toJson)]
  let s ← ofOutcome (Subscription.settings ⟨if url.isEmpty then "ws://node/ws" else url,
    (← readInt j "read_timeout_ms" 0) * Duration.millisecond,
    (← readInt j "ping_interval_ms" 0) * Duration.millisecond, Duration.millisecond, 0⟩)
  let room := (← readInt j "buffer" 16).toNat
  let conns ← (← readList j "connections").mapM (readConnection s)
  let target := if url.isEmpty then "/ws" else requestTarget url
  let log := servedLogger.withFields [("component", .str "head-subscriber")]
  let send (text : String) : Served Unit := modify fun (srv, hs, ls) => (srv.push (.str text), hs, ls)
  let deliver (h : Head) : Served Bool := do
    let (srv, hs, ls) ← get
    if hs.size < room then set (srv, hs.push h, ls); pure true else pure false
  let dial (c : Except String Connection) : Served (Except String Connection) := do
    modify fun (srv, hs, ls) => (srv.push (.str ("GET " ++ target)), hs, ls)
    pure c
  let (r, (srv, hs, ls)) := (Subscription.run s log dial send deliver s.initialBackoff conns).run (#[], #[], #[])
  pure (.obj [("heads", .arr (hs.toList.map Head.toJson)), ("logs", .arr ls.toList),
    ("run_err", Outcome.errorJson r), ("server", .arr srv.toList)])

end Sim

end QuoteKeeper
