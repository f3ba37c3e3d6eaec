import QuoteKeeper.Text.Json
/-
  QuoteKeeper.Log.Entry — structured log entries and the loggers that emit them.

  An entry has a level, a message and fields in order. A logger is a sink for entries in some
  effect `m`, plus context fields that go before each entry's own (`withFields`), and a name.
  Field values are JSON values as the log encoder writes them, errors as their text. A
  duration is written the way its logger's sink asks: whole nanoseconds unless the sink says
  otherwise (the stream encoder writes float seconds).
-/

namespace QuoteKeeper

/-- Severity of a log entry, in increasing order. -/
inductive Level where
  | debug
  | info
  | warn
  | error
  | dpanic
  | panic
  | fatal
  deriving DecidableEq, Repr, Inhabited

namespace Level

def rank : Level → Nat
  | .debug => 0
  | .info => 1
  | .warn => 2
  | .error => 3
  | .dpanic => 4
  | .panic => 5
  | .fatal => 6

def name : Level → String
  | .debug => "debug"
  | .info => "info"
  | .warn => "warn"
  | .error => "error"
  | .dpanic => "dpanic"
  | .panic => "panic"
  | .fatal => "fatal"

/-- Reads a level name as written, in lower or upper case; the empty name is `info`. -/
def spelled? : String → Option Level
  | "debug" | "DEBUG" => some .debug
  | "info" | "INFO" | "" => some .info
  | "warn" | "WARN" => some .warn
  | "error" | "ERROR" => some .error
  | "dpanic" | "DPANIC" => some .dpanic
  | "panic" | "PANIC" => some .panic
  | "fatal" | "FATAL" => some .fatal
  | _ => none

/-- Reads a level name, trying it as written and then in lower case. -/
def ofName? (s : String) : Option Level := spelled? s <|> spelled? s.toLower

/-- Whether an entry at `l` passes a threshold `t`. -/
def atLeast (l t : Level) : Bool := t.rank ≤ l.rank

end Level

/-- One log entry. -/
structure Entry where
  level : Level
  msg : String
  fields : List (String × Json)
  /-- The name of the logger that wrote it (empty for the root). -/
  logger : String
  deriving Repr, Inhabited

namespace Entry

/-- The fields as an encoder writes a map: one value per key, the last one given, keys in
order. -/
def fieldMap (e : Entry) : List (String × Json) :=
  let last := e.fields.foldl (fun acc kv => kv :: acc.filter (·.1 != kv.1)) []
  last.mergeSort fun a b => decide (a.1 ≤ b.1)

/-- `{level, msg, fields}`. -/
def toJson (e : Entry) : Json :=
  .obj [("level", .str e.level.name), ("msg", .str e.msg), ("fields", .obj e.fieldMap)]

/-- The entry as one flat object, the way a stream encoder writes it: `level`, the logger's
name when it has one, `msg`, then the fields; a key given twice keeps its last value, in the
place it first had. -/
def flat (e : Entry) : Json :=
  let members := [("level", Json.str e.level.name)] ++
    (if e.logger.isEmpty then [] else [("logger", .str e.logger)]) ++ [("msg", .str e.msg)] ++ e.fields
  let keys := members.foldl (fun ks kv => if ks.contains kv.1 then ks else ks ++ [kv.1]) []
  .obj (keys.filterMap fun k => (members.reverse.lookup k).map (k, ·))

/-- The entry as a console line at `time`: the time, the level in capitals, the logger's name
when it has one, the message, and the fields as one JSON object when there are any, split by
tabs. -/
def consoleLine (e : Entry) (time : String) : String :=
  let name := if e.logger.isEmpty then "" else e.logger ++ "\t"
  let fields := if e.fields.isEmpty then "" else "\t" ++ (Json.obj e.fields).render
  time ++ "\t" ++ e.level.name.toUpper ++ "\t" ++ name ++ e.msg ++ fields

/-- Whether the entry is an audit event (it carries an `event` field). -/
def isEvent (e : Entry) : Bool := e.fields.any (·.1 == "event")

end Entry

/-- A sink for entries, with context fields, a name, and how its sink writes a duration. -/
structure Logger (m : Type → Type) where
  sink : Entry → m Unit
  context : List (String × Json)
  name : String
  /-- A duration in nanoseconds as the sink writes it. -/
  durationJson : Int → Json

namespace Logger

variable {m : Type → Type} [Monad m]

/-- The logger that drops every entry. -/
def nop : Logger m := ⟨fun _ => pure (), [], "", Json.ofInt⟩

/-- A logger writing durations as whole nanoseconds. -/
def ofSink (sink : Entry → m Unit) : Logger m := ⟨sink, [], "", Json.ofInt⟩

/-- A logger writing durations as `duration` says. -/
def ofSinkWith (sink : Entry → m Unit) (duration : Int → Json) : Logger m := ⟨sink, [], "", duration⟩

/-- The same logger writing to another sink, in another monad. -/
def mapSink {n : Type → Type} (l : Logger m) (sink : Entry → n Unit) : Logger n :=
  ⟨sink, l.context, l.name, l.durationJson⟩

/-- A duration field, written as the sink writes durations. -/
def duration (l : Logger m) (ns : Int) : Json := l.durationJson ns

/-- More context fields, after those already there. -/
def withFields (l : Logger m) (fs : List (String × Json)) : Logger m :=
  { l with context := l.context ++ fs }

def named (l : Logger m) (n : String) : Logger m := { l with name := n }

def log (l : Logger m) (level : Level) (msg : String) (fs : List (String × Json)) : m Unit :=
  l.sink ⟨level, msg, l.context ++ fs, l.name⟩

def debug (l : Logger m) := l.log .debug
def info (l : Logger m) := l.log .info
def warn (l : Logger m) := l.log .warn
def error (l : Logger m) := l.log .error

end Logger

namespace Field

/-- A duration as float seconds, the way the stream encoder writes it. -/
def seconds (ns : Int) : Json := Json.ofDecimal ⟨ns, -9⟩

end Field

end QuoteKeeper
