import QuoteKeeper.Chain.Head
import QuoteKeeper.Log.Entry
import QuoteKeeper.Time
/-
  QuoteKeeper.Chain.Subscription — following new blocks over a websocket subscription.

  1. Settings. A subscriber needs an address (`websocket url required`). A read waits at most
     a minute, the connection is pinged every thirty seconds, and a lost subscription is
     tried again after a second, doubling each time up to thirty seconds (also when the
     ceiling asked for is below the start).
  2. A session dials the node (`dial: <reason>`), asks for new heads with one JSON-RPC
     request, and reads the first message as the answer (`read subscribe ack: <reason>`); an
     answer carrying an error refuses it (`subscribe rejected: <message>`). Subscribed, it
     reads message after message: a message that is not a notification is passed over, a
     notification with a bad block is logged and passed over, and a block is handed on, or
     logged and dropped when the receiver has no room, so reading never waits. The first
     message that cannot be read ends the session with its reason. A frame is read for its
     first JSON value only.
  3. The subscriber runs session after session, logging each end with the wait before the
     next, until it is cancelled.
  4. A connection closed by the node ends with `websocket: close <code> (<meaning>)`, then
     `: <text>` if the node gave one; a lost connection is an abnormal closure.
-/

namespace QuoteKeeper

structure SubscriberSettings where
  url : String
  /-- Nanoseconds, as the other durations. -/
  readTimeout : Int
  pingInterval : Int
  initialBackoff : Int
  maxBackoff : Int
  deriving Repr, Inhabited

/-- What a session reads from an open connection: its messages in order, then the reason the
connection ended, and how long it stays open and silent after its messages before it ends. -/
structure Connection where
  messages : List String
  ending : String
  /-- Nanoseconds. -/
  quietFor : Int
  deriving Repr, Inhabited

namespace Subscription

/-- The settings with defaults for what was not asked. -/
def settings (s : SubscriberSettings) : Outcome SubscriberSettings :=
  if s.url.isEmpty then .error (.plain "websocket url required")
  else
    let readTimeout := if s.readTimeout ≤ 0 then 60 * Duration.second else s.readTimeout
    let pingInterval := if s.pingInterval ≤ 0 then 30 * Duration.second else s.pingInterval
    let initialBackoff := if s.initialBackoff ≤ 0 then Duration.second else s.initialBackoff
    let maxBackoff := if s.maxBackoff < initialBackoff then 30 * Duration.second else s.maxBackoff
    .ok ⟨s.url, readTimeout, pingInterval, initialBackoff, maxBackoff⟩

/-- The request for new heads, one line. -/
def request : String :=
  (Json.obj [("jsonrpc", .str "2.0"), ("id", Json.ofNat 1), ("method", .str "eth_subscribe"),
    ("params", .arr [.str "newHeads"])]).render ++ "\n"

/-- The meaning of a close code, where the protocol names one. -/
def closeMeaning? (code : Nat) : Option String :=
  [(1000, "normal"), (1001, "going away"), (1002, "protocol error"), (1003, "unsupported data"),
    (1005, "no status"), (1006, "abnormal closure"), (1007, "invalid payload data"),
    (1008, "policy violation"), (1009, "message too big"), (1010, "mandatory extension missing"),
    (1011, "internal server error"), (1015, "TLS handshake error")].lookup code

/-- The end of a connection the node closed with `code` and `text`. -/
def closeError (code : Nat) (text : String) : String :=
  "websocket: close " ++ natText code ++ ((closeMeaning? code).map (" (" ++ · ++ ")")).getD "" ++
    (if text.isEmpty then "" else ": " ++ text)

/-- The end of a connection that was lost. -/
def lostError : String := closeError 1006 "unexpected EOF"

/-- The next wait: doubled, at most the ceiling. -/
def nextBackoff (s : SubscriberSettings) (b : Int) : Int := min (2 * b) s.maxBackoff

variable {m : Type → Type} [Monad m]

/-- Reads notifications until a message cannot be read; the reason the session ended. -/
def listen (log : Logger m) (deliver : Head → m Bool) : List String → String → m String
  | [], ending => pure ending
  | t :: ts, ending => do
    match Head.readFrame t with
    | .error e => pure e
    | .ok msg =>
      match Head.ofMessage? msg with
      | none => listen log deliver ts ending
      | some (.error e) =>
        log.warn "bad head notification" [("error", .str e.message)]
        listen log deliver ts ending
      | some (.ok h) =>
        if !(← deliver h) then
          log.warn "head channel full, dropping" [("block", Json.ofNat h.number)]
        listen log deliver ts ending

/-- One session over a dialled connection (or the reason dialling failed); the reason it
ended. -/
def session (log : Logger m) (send : String → m Unit) (deliver : Head → m Bool) :
    Except String Connection → m String
  | .error e => pure ("dial: " ++ e)
  | .ok c => do
    send request
    match c.messages with
    | [] => pure ("read subscribe ack: " ++ c.ending)
    | first :: rest =>
      match Head.readFrame first with
      | .error e => pure ("read subscribe ack: " ++ e)
      | .ok ack =>
        match ack.error with
        | some msg => pure ("subscribe rejected: " ++ msg)
        | none =>
          log.info "subscribed to new heads" []
          listen log deliver rest c.ending

/-- A session for each attempt in turn, dialled by `dial`, each end logged with the wait
before the next; the run ends only when cancelled, after the last attempt. -/
def run {α : Type} (s : SubscriberSettings) (log : Logger m) (dial : α → m (Except String Connection))
    (send : String → m Unit) (deliver : Head → m Bool) : Int → List α → m (Outcome Unit)
  | _, [] => pure (.error (Failure.of .cancelled))
  | backoff, a :: rest => do
    let e ← session log send deliver (← dial a)
    log.warn "head subscription dropped, reconnecting" [("error", .str e), ("backoff", log.duration backoff)]
    run s log dial send deliver (nextBackoff s backoff) rest

end Subscription

end QuoteKeeper
