import QuoteKeeper.Price.Basic
import QuoteKeeper.Chain.Address
/-
  QuoteKeeper.Sim.Fields — reading the fields of a JSON request.

  A simulated run is described by a JSON object. Its fields are read with defaults for
  absent ones; a field of the wrong shape rejects the request with
  `{"error": "bad_input", "message": ...}`, and a failure of the component being run ends it
  with that failure's `{error, message}`. Integers must fit 64 bits; big integers, decimals
  and prices are written as strings; a stubbed collaborator's error is written as a
  condition name, `name: text`, or plain text.
-/

namespace QuoteKeeper

namespace Sim

/-- A value read from a request, or the answer that ends it. -/
abbrev Decoded := Except Json

/-- The request is not well formed. -/
def malformed (m : String) : Decoded α := throw (.obj [("error", .str "bad_input"), ("message", .str m)])

/-- The component failed. -/
def failWith (f : Failure) : Decoded α := throw f.toJson

def ofOutcome : Outcome α → Decoded α
  | .ok a => pure a
  | .error f => failWith f

def readInt (j : Json) (k : String) (dflt : Int) : Decoded Int :=
  match j.getD k with
  | .null => pure dflt
  | v => match v.asInt? with
    | some i => if -9223372036854775808 ≤ i ∧ i ≤ 9223372036854775807 then pure i
      else malformed ("field " ++ k ++ ": want int64")
    | none => malformed ("field " ++ k ++ ": want int64")

def readBig (j : Json) (k : String) : Decoded (Option Int) :=
  match j.getD k with
  | .null => pure none
  | .str s => match intOfText? s.toList with
    | some i => pure (some i)
    | none => malformed ("field " ++ k ++ ": want integer string")
  | _ => malformed ("field " ++ k ++ ": want integer string")

def readStr (j : Json) (k : String) : Decoded String :=
  match j.getD k with
  | .null => pure ""
  | .str s => pure s
  | _ => malformed ("field " ++ k ++ ": want string")

def readBool (j : Json) (k : String) : Decoded Bool :=
  match j.getD k with
  | .null => pure false
  | .bool b => pure b
  | _ => malformed ("field " ++ k ++ ": want bool")

def readDec (j : Json) (k : String) : Decoded Decimal :=
  match j.getD k with
  | .null => pure Decimal.zero
  | .str s => match Decimal.ofString? s with
    | .ok d => pure d
    | .error e => failWith (.plain e.message)
  | _ => malformed ("field " ++ k ++ ": want decimal string")

def readPrice (j : Json) (k : String) : Decoded Price :=
  match j.getD k with
  | .null => pure .unset
  | v => do
    match ← readBig v "v" with
    | none => pure .unset
    | some i => pure (.set i (← readInt v "s" 0))

def bigJson : Option Int → Json
  | none => .null
  | some i => .str (intText i)

def orderingJson : Ordering → Json
  | .lt => Json.ofInt (-1)
  | .eq => Json.ofInt 0
  | .gt => Json.ofInt 1

def priceJson (o : Outcome Price) : Json :=
  match o with
  | .ok p => p.toJson
  | .error e => Failure.toJson e

def readAddr (j : Json) (k : String) : Decoded Address := do pure (Address.ofText (← readStr j k))

def readOptDec (j : Json) (k : String) : Decoded (Option Decimal) :=
  match j.getD k with
  | .null => pure none
  | _ => some <$> readDec j k

def readList (j : Json) (k : String) : Decoded (List Json) :=
  match j.getD k with
  | .null => pure []
  | .arr xs => pure xs
  | _ => malformed ("field " ++ k ++ ": want array")

def trimBlank (s : String) : String :=
  let b (c : Char) := c == ' ' || c == '\t' || c == '\n' || c == '\r'
  String.ofList ((s.toList.dropWhile b).reverse.dropWhile b).reverse

/-- A stubbed collaborator's error: a condition name, `name:text`, or plain text. -/
def stubFailure (s : String) : Failure :=
  let named : List (String × Condition) := [("quote_unavailable", .quoteUnavailable),
    ("rate_limited", .rateLimited), ("exchange_rate_unavailable", .exchangeRateUnavailable),
    ("insufficient_input", .insufficientInput), ("divide_by_zero", .divideByZero),
    ("invalid_options", .invalidOptions), ("no_submitter", .noSubmitter),
    ("no_active_market", .noActiveMarket), ("no_mid_price", .noMidPrice), ("cancelled", .cancelled)]
  match named.find? (·.1 == s) with
  | some (_, c) => Failure.of c
  | none =>
    match s.splitOn ":" with
    | k :: rest => match named.find? (·.1 == k) with
      | some (_, c) => Failure.because (trimBlank (":".intercalate rest)) c
      | none => .plain s
    | [] => .plain s

def readErr (j : Json) (k : String) : Decoded (Option Failure) := do
  match j.getD k with
  | .null => pure none
  | _ => pure (some (stubFailure (← readStr j k)))

/-- A float written as a number or as `NaN`, `+Inf`, `-Inf`; `null` is zero. -/
def floatOf (what : String) : Json → Decoded Float
  | .null => pure 0
  | .str "NaN" => pure (0.0 / 0.0)
  | .str "+Inf" => pure (1.0 / 0.0)
  | .str "-Inf" => pure (-1.0 / 0.0)
  | v => match v.asDecimal? with
    | some d => pure d.toFloat
    | none => malformed (what ++ ": want float")

def readFloat (j : Json) (k : String) : Decoded Float := floatOf ("field " ++ k) (j.getD k)

/-- `{key}` or `{error}` read by `g` as a stub answer. -/
def readStub (j : Json) (key : String) (g : Json → String → Decoded α) : Decoded (Outcome α) := do
  match ← readErr j "error" with
  | some e => pure (.error e)
  | none => pure (.ok (← g j key))

def readStrs (j : Json) (k : String) : Decoded (List String) := do
  (← readList j k).mapM fun x => match x with
    | .str s => pure s
    | _ => malformed ("field " ++ k ++ ": want strings")

def readEnv (j : Json) : List (String × String) :=
  match j with
  | .obj kvs => kvs.filterMap fun (k, v) => match v with
    | .str s => some (k, s)
    | _ => none
  | _ => []

end Sim

end QuoteKeeper
