import QuoteKeeper.Sim.Script
import QuoteKeeper.Log.Output
import QuoteKeeper.Web.Client
/-
  QuoteKeeper.Sim.Logging — a process log built from a setup, fed a list of entries.

  Files live in one fresh directory written `$DIR`: a file directly in it can always be
  opened, and a path through a missing directory cannot. Field values are JSON, except that
  `{"$duration": n}`, `{"$error": text}` and `{"$stringer": text}` stand for a duration, an
  error and a self-describing value. Numbers are floats. The answer lists what each of
  standard output, standard error and every file created received, JSON records written with
  their keys in order.
-/

namespace QuoteKeeper

namespace Sim

mutual
/-- A JSON value as a float-and-map value: numbers as floats, keys in order, the last one of a
key kept. -/
def generic : Json → Json
  | .num l => match Decimal.ofString? l with
    | .ok d => Json.ofFloat d.toFloat
    | .error _ => .num l
  | .arr xs => .arr (genericItems xs)
  | .obj ms => .obj ((LogRecord.lastWins (genericMembers ms)).mergeSort fun a b => decide (a.1 ≤ b.1))
  | j => j

def genericItems : List Json → List Json
  | [] => []
  | x :: xs => generic x :: genericItems xs

def genericMembers : List (String × Json) → List (String × Json)
  | [] => []
  | (k, v) :: ms => (k, generic v) :: genericMembers ms
end

def readLogValue : Json → LogValue
  | .obj [("$duration", v)] => .duration (((Json.asDecimal? v).map Decimal.trunc).getD 0)
  | .obj [("$error", .str s)] => .failure s
  | .obj [("$stringer", .str s)] => .shown s
  | .str s => .text s
  | .num l => .float (match Decimal.ofString? l with | .ok d => d.toFloat | .error _ => 0)
  | .bool b => .flag b
  | j => .nested (generic j)

def readLogFields (j : Json) : List (String × LogValue) :=
  match j with
  | .obj ms => ms.map fun (k, v) => (k, readLogValue v)
  | _ => []

/-- The record an entry asks for, if any. -/
def readRecord (context : List (String × LogValue)) (e : Json) : Decoded (Option LogRecord) := do
  let fs := readLogFields (e.getD "fields")
  let msg ← readStr e "msg"
  match ← readStr e "kind" with
  | "debug" => pure (some (LogRecord.plain context .debug msg fs))
  | "info" => pure (some (LogRecord.plain context .info msg fs))
  | "warn" => pure (some (LogRecord.plain context .warn msg fs))
  | "error" => pure (some (LogRecord.plain context .error msg fs))
  | "event" => pure (some (LogRecord.event context (← readStr e "event") fs))
  | "risk" => pure (some (LogRecord.risk context (← readStr e "event") fs))
  | "log_error" => pure (some (LogRecord.failure context (← readStr e "error") fs))
  | "event_nil" | "risk_nil" => pure none
  | _ => malformed "unknown entry kind"

/-- The name of a file under `$DIR`. -/
def fileName (path : String) : String :=
  if "$DIR/".isPrefixOf path then String.ofList ((path.toList).drop 5) else path

/-- Why a path cannot be opened, if it cannot. -/
def openProblem (path : String) : Option String :=
  let name := fileName path
  if name.isEmpty then some ("open " ++ path ++ ": is a directory")
  else if name.toList.contains '/' then some ("open " ++ path ++ ": no such file or directory")
  else none

mutual
/-- A JSON value with the keys of every object in order. -/
def sortKeys : Json → Json
  | .arr xs => .arr (sortKeysItems xs)
  | .obj ms => .obj ((sortKeysMembers ms).mergeSort fun a b => decide (a.1 ≤ b.1))
  | j => j

def sortKeysItems : List Json → List Json
  | [] => []
  | x :: xs => sortKeys x :: sortKeysItems xs

def sortKeysMembers : List (String × Json) → List (String × Json)
  | [] => []
  | (k, v) :: ms => (k, sortKeys v) :: sortKeysMembers ms
end

def lineText : LogLine → String
  | .json j => (sortKeys j).renderSafe
  | .console s => s

/-- A log set up from `config`, given `entries` through a logger with `with_fields`. -/
def logging (j : Json) : Decoded Json := do
  let c := j.getD "config"
  let setup : LogSetup := ⟨← readStr c "level", ← readStrs c "outputs", ← readStr c "output_file",
    ← readStr c "error_file", ← readStr c "format"⟩
  let context := LogRecord.sortedFields (readLogFields (j.getD "with_fields"))
  let records ← (← readList j "entries").filterMapM (readRecord context)
  let (opened, built) := setup.build openProblem
  let names := opened.foldl (fun acc p => if acc.contains (fileName p) then acc else acc ++ [fileName p]) []
  let writes := match built with
    | .ok cores => records.flatMap (LogCore.writeAll cores)
    | .error _ => []
  let linesTo (t : LogTarget → Bool) : Json :=
    .arr ((writes.filter (t ·.1)).map fun (_, l) => .str (lineText l))
  let files := [("stdout", linesTo (· == .stdout)), ("stderr", linesTo (· == .stderr))] ++
    names.map fun n => (n, linesTo fun t => match t with
      | .file p => fileName p == n
      | _ => false)
  match built with
  | .ok _ => pure (.obj [("close_err", .null), ("err", .null), ("files", .obj files)])
  | .error e => pure (.obj [("err", (Failure.plain e).toJson), ("files", .obj files)])

end Sim

end QuoteKeeper
