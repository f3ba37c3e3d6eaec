import QuoteKeeper.Log.Entry
import QuoteKeeper.Time
/-
  QuoteKeeper.Log.Encoder — how a log record is written, as a JSON object or a console line.

  A field value is text (plain, an error's, or a value's own description), a number, a flag, a duration, or a nested value written by the
  general JSON writer (lists, maps and `null`; maps with their keys in order). Numbers are
  written positionally with the fewest digits that read back to the same float, never with an
  exponent. Durations are float seconds in JSON and their `1.5s` text on the console.

  (1) The JSON form is the object `{level, msg, fields...}`, a later key replacing an earlier
  one; as a document it is written with its keys in order.
  (2) The console form is the level in capitals and colour, a tab, the message, and, when there
  are fields, a tab and the fields as `{"key": value, ...}` in their order. Text in it is
  escaped as JSON strings are, except that the line and paragraph separators stand as they are.
-/

namespace QuoteKeeper

/-- A field value as the log encoders see it. -/
inductive LogValue where
  | text (s : String)
  /-- An error, written as its text. -/
  | failure (message : String)
  /-- A value that describes itself, written as that text. -/
  | shown (s : String)
  | float (x : Float)
  | flag (b : Bool)
  | duration (ns : Int)
  /-- A nested value, written by the general JSON writer. -/
  | nested (j : Json)
  deriving Inhabited

/-- One record: a level, a message and fields in order. -/
structure LogRecord where
  level : Level
  msg : String
  fields : List (String × LogValue)
  deriving Inhabited

/-- Floats with every digit before the exponent written out. -/
def FloatLayout.positional : FloatLayout := ⟨-400, 400, 1⟩

namespace LogValue

/-- A float's positional text; `NaN` and the infinities as quoted words. -/
def floatText (x : Float) : String :=
  if x.isNaN then "\"NaN\""
  else if x.isInf then (if x > 0 then "\"+Inf\"" else "\"-Inf\"")
  else if x == 0 && (x.toBits >>> 63) == 1 then "-0"
  else Float.layoutText FloatLayout.positional x

/-- Seconds of a duration, as a float: the count as a float, then divided. -/
def seconds (ns : Int) : Float := Binary.ofRatio (ns < 0) ns.natAbs 1 / 1000000000.0

/-- Whether the value is plain text. -/
def isText : LogValue → Bool
  | text _ => true
  | _ => false

/-- The value inside a JSON record. -/
def toJson : LogValue → Json
  | text s => .str s
  | failure s => .str s
  | shown s => .str s
  | float x =>
    if x.isNaN ∨ x.isInf then .str (if x.isNaN then "NaN" else if x > 0 then "+Inf" else "-Inf")
    else .num (floatText x)
  | flag b => .bool b
  | duration ns => .num (floatText (seconds ns))
  | nested j => j

/-- One character of console text. -/
def escapeChar (c : Char) : List Char :=
  if c = '"' then ['\\', '"']
  else if c = '\\' then ['\\', '\\']
  else if c = '\n' then ['\\', 'n']
  else if c = '\r' then ['\\', 'r']
  else if c = '\t' then ['\\', 't']
  else if c.toNat < 0x20 then '\\' :: 'u' :: Json.hex4 c.toNat
  else [c]

def quote (s : String) : String := String.ofList ('"' :: s.toList.flatMap escapeChar ++ ['"'])

/-- The value on a console line. -/
def consoleText : LogValue → String
  | text s => quote s
  | failure s => quote s
  | shown s => quote s
  | float x => floatText x
  | flag b => if b then "true" else "false"
  | duration ns => quote (Duration.text ns)
  | nested j => j.render

end LogValue

namespace LogRecord

/-- Members with one value per key, the last one given. -/
def lastWins (ms : List (String × Json)) : List (String × Json) :=
  (ms.foldl (fun acc kv => kv :: acc.filter (·.1 != kv.1)) []).reverse

/-- The record as the JSON encoder writes it. -/
def toJson (r : LogRecord) : Json :=
  .obj (lastWins ([("level", .str r.level.name), ("msg", .str r.msg)] ++
    r.fields.map fun (k, v) => (k, v.toJson)))

def colour : Level → Nat
  | .debug => 35
  | .info => 34
  | .warn => 33
  | _ => 31

def capital (l : Level) : String := l.name.toUpper

/-- The record as the console encoder writes it. -/
def consoleLine (r : LogRecord) : String :=
  let level := "\x1b[" ++ toString (colour r.level) ++ "m" ++ capital r.level ++ "\x1b[0m"
  let fields := if r.fields.isEmpty then ""
    else "\t\x7b" ++ ", ".intercalate (r.fields.map fun (k, v) => LogValue.quote k ++ ": " ++ v.consoleText) ++ "\x7d"
  level ++ "\t" ++ r.msg ++ fields

end LogRecord

end QuoteKeeper
