import QuoteKeeper.Failure
import QuoteKeeper.Log.Entry
import QuoteKeeper.Time.Calendar
/-
  QuoteKeeper.Alert — telling people about pricing events, without flooding them.

  An alert has a level (`INFO`, `WARNING`, `ERROR`, `CRITICAL`), an event, an ARM, a message,
  a time and fields. The manager stamps an unset time with the clock, adds the ARM to the
  fields when there is one, and sends the alert to every channel. Each level, ARM, event and
  message is sent at most once per throttle interval; submissions are never throttled, since
  every transaction must be seen. Sending fails only when every channel fails, with all their
  failures (`channel <name>: <failure>`).

  A log channel writes the alert to the log under the name `alert` (critical and error alerts
  at error level, warnings at warn, the rest at info), with the event and the time before the
  fields. The console line is `[LEVEL] 2006-01-02 15:04:05 arm - message | k=v ...` with the
  level coloured, the fields in key order and the ARM not repeated among them.

  Field values are counts, or values as decoded from JSON; a decoded number keeps its literal
  and is logged as text.
-/

namespace QuoteKeeper

/-- A field of an alert. -/
inductive AlertValue where
  | count (n : Int)
  | value (j : Json)
  deriving Repr, Inhabited

namespace AlertValue

def text (s : String) : AlertValue := .value (.str s)

mutual
/-- The default written form of a decoded value: maps as `map[k:v ...]` in key order, lists
as `[a b]`, nothing as `<nil>`. -/
def plainJson : Json → String
  | .null => "<nil>"
  | .bool b => if b then "true" else "false"
  | .num l => l
  | .str s => s
  | .arr xs => "[" ++ " ".intercalate (plainItems xs) ++ "]"
  | .obj kvs =>
    let sorted := (plainMembers kvs).mergeSort fun a b => decide (a.1 ≤ b.1)
    "map[" ++ " ".intercalate (sorted.map fun (k, v) => k ++ ":" ++ v) ++ "]"

def plainItems : List Json → List String
  | [] => []
  | x :: xs => plainJson x :: plainItems xs

def plainMembers : List (String × Json) → List (String × String)
  | [] => []
  | (k, v) :: kvs => (k, plainJson v) :: plainMembers kvs
end

def plain : AlertValue → String
  | .count n => intText n
  | .value j => plainJson j

def toJson : AlertValue → Json
  | .count n => Json.ofInt n
  | .value j => j

/-- As a log field: a decoded number is written as its text. -/
def logJson : AlertValue → Json
  | .count n => Json.ofInt n
  | .value (.num l) => .str l
  | .value j => j

end AlertValue

structure Alert where
  level : String
  event : String
  arm : String
  message : String
  /-- Nanoseconds since the epoch; `none` until stamped. -/
  timestamp : Option Int
  /-- `none` when the alert carries no field map at all. -/
  fields : Option (List (String × AlertValue))
  deriving Repr, Inhabited

namespace Alert

/-- What throttling groups by. -/
def key (a : Alert) : String := "|".intercalate [a.level, a.arm, a.event, a.message]

/-- The alert as sent at `now`: an unset time becomes `now`, and a named ARM joins the fields,
in a copy of them. -/
def stamped (a : Alert) (now : Int) : Alert :=
  let a := { a with timestamp := some (a.timestamp.getD now) }
  if a.arm == "" then a
  else { a with fields := some ((a.fields.getD []).filter (·.1 != "arm") ++ [("arm", AlertValue.text a.arm)]) }

def sortedFields (a : Alert) : List (String × AlertValue) :=
  (a.fields.getD []).mergeSort fun x y => decide (x.1 ≤ y.1)

def levelColour : String → String
  | "INFO" => "\x1b[32m"
  | "WARNING" => "\x1b[33m"
  | "ERROR" => "\x1b[31m"
  | "CRITICAL" => "\x1b[35m"
  | _ => "\x1b[0m"

/-- The console line. -/
def consoleLine (a : Alert) : String :=
  let head := levelColour a.level ++ "[" ++ a.level ++ "]\x1b[0m " ++
    (Instant.civil (a.timestamp.getD 0)).plainText
  let withArm := if a.arm != "" then head ++ " " ++ a.arm else head
  let line := withArm ++ " - " ++ a.message
  let fs := a.sortedFields
  if fs.isEmpty then line
  else line ++ " |" ++ String.join ((fs.filter (·.1 != "arm")).map fun (k, v) => " " ++ k ++ "=" ++ v.plain)

def toJson (a : Alert) : Json :=
  .obj [("level", .str a.level), ("event", .str a.event), ("arm", .str a.arm),
    ("message", .str a.message), ("timestamp", Json.ofInt (a.timestamp.getD 0)),
    ("fields", match a.fields with
      | none => .null
      | some fs => .obj (fs.map fun (k, v) => (k, v.toJson))),
    ("console", .str a.consoleLine)]

/-- The log level an alert is written at. -/
def logLevel (a : Alert) : Level :=
  if a.level == "CRITICAL" || a.level == "ERROR" then .error
  else if a.level == "WARNING" then .warn
  else .info

/-- The alert as a log entry of the `alert` logger. -/
def logEntry (a : Alert) : Entry :=
  ⟨a.logLevel, a.message,
    [("alertEvent", .str a.event), ("alertTime", Json.ofInt (a.timestamp.getD 0))] ++
      a.sortedFields.map fun (k, v) => (k, v.logJson), "alert"⟩

end Alert

/-- Somewhere alerts go. -/
structure AlertChannel (m : Type → Type) where
  name : String
  send : Alert → m (Outcome Unit)

/-- A channel writing to a log; it never fails. -/
def AlertChannel.ofLogger [Monad m] (name : String) (log : Logger m) : AlertChannel m :=
  ⟨name, fun a => do log.sink a.logEntry; pure (.ok ())⟩

/-- When each throttling key was last let through. -/
structure Throttle where
  interval : Int
  lastSent : List (String × Int)
  deriving Repr, Inhabited

namespace Throttle

/-- Notes that `key` went through at `now`. -/
def note (t : Throttle) (key : String) (now : Int) : Throttle :=
  { t with lastSent := (key, now) :: t.lastSent.filter (·.1 != key) }

/-- Lets `key` through at `now` unless it went through less than an interval ago. -/
def allow (t : Throttle) (key : String) (now : Int) : Bool × Throttle :=
  match t.lastSent.lookup key with
  | some last => if Instant.since now last < t.interval then (false, t) else (true, t.note key now)
  | none => (true, t.note key now)

def clear (t : Throttle) : Throttle := { t with lastSent := [] }

end Throttle

def eventSubmitted : String := "prices_submitted"

/-- Alerts on pricing events, sent to every channel. -/
structure AlertManager where
  throttle : Throttle
  deriving Repr, Inhabited

namespace AlertManager

def new (interval : Int) : AlertManager := ⟨⟨interval, []⟩⟩

def resetThrottle (mgr : AlertManager) : AlertManager := ⟨mgr.throttle.clear⟩

variable {m : Type → Type} [Monad m]

/-- Whether an alert goes out at `now`, and the manager after: a submission always, any other
alert when the throttle lets its key through. -/
def letThrough (mgr : AlertManager) (now : Int) (a : Alert) : Bool × AlertManager :=
  if a.event == eventSubmitted then (true, mgr)
  else ((mgr.throttle.allow a.key now).1, ⟨(mgr.throttle.allow a.key now).2⟩)

/-- Offers the alert to each channel in turn; the failures, in channel order, each named after
its channel. -/
def offer (a : Alert) : List (AlertChannel m) → m (List Failure)
  | [] => pure []
  | ch :: chs => do
    let r ← ch.send a
    let rest ← offer a chs
    match r with
    | .ok _ => pure rest
    | .error e => pure (e.wrap ("channel " ++ ch.name) :: rest)

/-- Sends at `now`; fails only when every channel does. -/
def send (mgr : AlertManager) (channels : List (AlertChannel m)) (now : Int) (a : Alert) :
    m (Outcome Unit × AlertManager) := do
  let a := a.stamped now
  let (allowed, mgr) := mgr.letThrough now a
  if !allowed then return (.ok (), mgr)
  let errs ← offer a channels
  if !errs.isEmpty && errs.length == channels.length then return (.error (Failure.join errs), mgr)
  return (.ok (), mgr)

def alert (level event arm message : String) (fields : List (String × AlertValue)) : Alert :=
  ⟨level, event, arm, message, none, some fields⟩

def pricesSubmitted (arm buy sell tx : String) : Alert :=
  alert "INFO" eventSubmitted arm "prices submitted"
    [("buy", .text buy), ("sell", .text sell), ("tx", .text tx)]

def runFailed (arm kind : String) (err : Failure) : Alert :=
  alert "ERROR" "run_failed" arm ("pricing run failed: " ++ kind)
    [("kind", .text kind), ("error", .text err.message)]

def boundContradiction (arm minBuy mid : String) : Alert :=
  alert "WARNING" "bound_contradiction" arm "max buy price not below min buy price"
    [("minBuy", .text minBuy), ("mid", .text mid)]

def runsSuspended (arm : String) (failures : Int) (cooldown : Int) : Alert :=
  alert "CRITICAL" "runs_suspended" arm "pricing runs suspended"
    [("consecutiveFailures", .count failures), ("cooldown", .text (Duration.text cooldown))]

def runsResumed (arm : String) : Alert :=
  ⟨"INFO", "runs_resumed", arm, "pricing runs resumed", none, none⟩

end AlertManager

end QuoteKeeper
