import QuoteKeeper.Log.Setup
import QuoteKeeper.Log.Encoder
import QuoteKeeper.Log.Schema
import QuoteKeeper.Text.Quoted
/-
  QuoteKeeper.Log.Output — the process log: cores built from a setup, and the records that
  reach each of them.

  (1) Building. The level is read first (`invalid log level <l>: unrecognized level: "<l>"`);
  an empty level is `info` and no outputs means standard output. Each output in order becomes
  a core at that level: `stdout` and `stderr` in the stream format (`console`, or JSON for any
  other word), `file` in JSON to the output file, which must be named (`log output file
  requires outputFile`) and is opened for appending (`open log file <path>: <reason>`); any
  other output is refused (`unknown log output "<o>"`). A named error file adds a last JSON core
  that takes errors and worse only. Files opened before a failure stay created.
  (2) Writing. A record goes to every core whose threshold it reaches, in core order.
  (3) Records. A plain record carries the logger's context fields and then its own, sorted by
  key. An audit event is an `info` record named by the event, a risk event a `warn` record
  named `risk_event`; both add `schemaError` when the fields break the event's schema, and then
  `event`. An error record is `error_event` with the error last, under `error`.
-/

namespace QuoteKeeper

/-- Where a core writes. -/
inductive LogTarget where
  | stdout
  | stderr
  | file (path : String)
  deriving DecidableEq, Repr, Inhabited

/-- A written line: a JSON record or a console line. -/
inductive LogLine where
  | json (j : Json)
  | console (s : String)
  deriving Inhabited

/-- One destination of the log with its encoder and threshold. -/
structure LogCore where
  console : Bool
  target : LogTarget
  threshold : Level
  deriving Inhabited

namespace LogCore

/-- The line a record becomes in this core, if it reaches the threshold. -/
def line? (c : LogCore) (r : LogRecord) : Option LogLine :=
  if r.level.atLeast c.threshold then
    some (if c.console then .console r.consoleLine else .json r.toJson)
  else none

end LogCore

namespace LogSetup

/-- The cores for `outputs`, each opened file named in order, or the first failure. -/
def outputCores (s : LogSetup) (level : Level) (openFile : String → Option String) :
    List String → List String × Except String (List LogCore)
  | [] => ([], .ok [])
  | out :: rest =>
    let stream (t : LogTarget) : List String × Except String (List LogCore) :=
      let (opened, r) := outputCores s level openFile rest
      (opened, r.map (⟨s.format == "console", t, level⟩ :: ·))
    if out == "stdout" then stream .stdout
    else if out == "stderr" then stream .stderr
    else if out == "file" then
      if s.outputFile.isEmpty then ([], .error "log output file requires outputFile")
      else
        match openFile s.outputFile with
        | some e => ([], .error ("open log file " ++ s.outputFile ++ ": " ++ e))
        | none =>
          let (opened, r) := outputCores s level openFile rest
          (s.outputFile :: opened, r.map (⟨false, .file s.outputFile, level⟩ :: ·))
    else ([], .error ("unknown log output " ++ Text.quoted out))

/-- The cores of the log a setup asks for, with the files opened on the way; `openFile` gives
the reason a path cannot be opened, if it cannot. -/
def build (s : LogSetup) (openFile : String → Option String) : List String × Except String (List LogCore) :=
  match Level.ofName? s.level with
  | none => ([], .error ("invalid log level " ++ s.level ++ ": unrecognized level: " ++ Text.quoted s.level))
  | some level =>
    let outputs := if s.outputs.isEmpty then ["stdout"] else s.outputs
    let (opened, r) := outputCores s level openFile outputs
    match r with
    | .error e => (opened, .error e)
    | .ok cores =>
      if s.errorFile.isEmpty then (opened, .ok cores)
      else
        match openFile s.errorFile with
        | some e => (opened, .error ("open log file " ++ s.errorFile ++ ": " ++ e))
        | none => (opened ++ [s.errorFile], .ok (cores ++ [⟨false, .file s.errorFile, .error⟩]))

end LogSetup

/-- Every line a record becomes, with its target, in core order. -/
def LogCore.writeAll (cores : List LogCore) (r : LogRecord) : List (LogTarget × LogLine) :=
  cores.filterMap fun c => (c.line? r).map (c.target, ·)

namespace LogRecord

/-- Fields of a map: one per key, the last given, sorted by key. -/
def sortedFields (fs : List (String × LogValue)) : List (String × LogValue) :=
  let last := fs.foldl (fun acc kv => kv :: acc.filter (·.1 != kv.1)) []
  last.mergeSort fun a b => decide (a.1 ≤ b.1)

/-- `schemaError`, when the fields break the event's schema. -/
def schemaNote (event : String) (fs : List (String × LogValue)) : List (String × LogValue) :=
  match Schema.check event (fs.map fun (k, v) => (k, if v.isText then .str "" else .null)) with
  | some e => [("schemaError", .text e)]
  | none => []

def plain (context : List (String × LogValue)) (level : Level) (msg : String)
    (fs : List (String × LogValue)) : LogRecord :=
  ⟨level, msg, context ++ sortedFields fs⟩

def event (context : List (String × LogValue)) (event : String) (fs : List (String × LogValue)) : LogRecord :=
  ⟨.info, event, context ++ sortedFields fs ++ schemaNote event (sortedFields fs) ++ [("event", .text event)]⟩

def risk (context : List (String × LogValue)) (event : String) (fs : List (String × LogValue)) : LogRecord :=
  ⟨.warn, "risk_event", context ++ sortedFields fs ++ schemaNote event (sortedFields fs) ++ [("event", .text event)]⟩

def failure (context : List (String × LogValue)) (error : String) (fs : List (String × LogValue)) : LogRecord :=
  ⟨.error, "error_event", context ++ sortedFields fs ++ [("error", .failure error)]⟩

end LogRecord

end QuoteKeeper
