import QuoteKeeper.Text.Json
/-
  QuoteKeeper.Failure — why an operation did not produce its result.

  A failure is either an error or a panic. An error is the text a reader sees plus the named
  conditions it carries: wrapping an error in context prefixes its text and keeps its
  conditions, and joining errors joins their texts with newlines and collects all their
  conditions. Asking "is this a quote-unavailable failure?" is asking whether the condition is
  among them, however deeply it was wrapped. A panic is an operation applied to a missing
  value; it passes through every wrapping unchanged and no caller handles it.

  `Failure.runKind` classifies an error for metrics and alerts by the first condition it
  carries in a fixed order of precedence; `Failure.kind` refines `other` further.
-/

namespace QuoteKeeper

/-- The named conditions an error may carry. -/
inductive Condition where
  | quoteUnavailable
  | rateLimited
  | exchangeRateUnavailable
  | insufficientInput
  | divideByZero
  | invalidOptions
  | noSubmitter
  | cancelled
  | deadlineExceeded
  | noActiveMarket
  | noMidPrice
  | retriesExhausted
  | breakerOpen
  | invalidConfig
  /-- A response outside the success range, with its status code. -/
  | httpStatus (code : Nat)
  deriving DecidableEq, Repr

namespace Condition

/-- The text of the condition when it stands alone. -/
def text : Condition → String
  | .quoteUnavailable => "quote unavailable"
  | .rateLimited => "rate limited"
  | .exchangeRateUnavailable => "exchange rate unavailable"
  | .insufficientInput => "insufficient pricing input"
  | .divideByZero => "divide by zero"
  | .invalidOptions => "invalid pricing options"
  | .noSubmitter => "no price submitter configured"
  | .cancelled => "context canceled"
  | .deadlineExceeded => "context deadline exceeded"
  | .noActiveMarket => "no active lending market"
  | .noMidPrice => "lending market has no mid price"
  | .retriesExhausted => "retries exhausted"
  | .breakerOpen => "circuit breaker is open"
  | .invalidConfig => "invalid config"
  | .httpStatus code => "HTTP " ++ toString code

end Condition

/-- Why an operation produced no result. -/
inductive Failure where
  | error (message : String) (conditions : List Condition)
  | panic (message : String)
  deriving DecidableEq, Repr, Inhabited

namespace Failure

/-- The error that is just `c`. -/
def of (c : Condition) : Failure := .error c.text [c]

/-- An error with a text of its own and no condition. -/
def plain (message : String) : Failure := .error message []

/-- `text: <condition>`, carrying the condition. -/
def because (text : String) (c : Condition) : Failure := .error (text ++ ": " ++ c.text) [c]

/-- A nil value dereferenced. -/
def nilDeref : Failure := .panic "runtime error: invalid memory address or nil pointer dereference"

def message : Failure → String
  | .error m _ => m
  | .panic m => m

def conditions : Failure → List Condition
  | .error _ cs => cs
  | .panic _ => []

def isPanic : Failure → Bool
  | .panic _ => true
  | .error _ _ => false

/-- Context before the text, conditions kept; a panic passes unchanged. -/
def wrap (context : String) : Failure → Failure
  | .error m cs => .error (context ++ ": " ++ m) cs
  | .panic m => .panic m

/-- Context around the text, conditions kept: `pre ++ text ++ post`. -/
def frame (pre post : String) : Failure → Failure
  | .error m cs => .error (pre ++ m ++ post) cs
  | .panic m => .panic m

/-- `c`, then the text of another error after a colon: the error is quoted, not wrapped, so
only `c` is carried. A panic passes unchanged. -/
def under (c : Condition) : Failure → Failure
  | .error m _ => .error (c.text ++ ": " ++ m) [c]
  | .panic m => .panic m

/-- Whether the failure carries `c`. -/
def has (f : Failure) (c : Condition) : Bool := f.conditions.contains c

/-- Several errors as one: texts on separate lines, all conditions. A panic among them wins. -/
def join (fs : List Failure) : Failure :=
  match fs.find? Failure.isPanic with
  | some p => p
  | none => .error ("\n".intercalate (fs.map message)) (fs.flatMap conditions)

/-- The class of an error for metrics and alerts: the first condition carried, in order of
precedence. -/
def runKind (f : Failure) : String :=
  if f.has .rateLimited then "rate_limited"
  else if f.has .quoteUnavailable then "quote_unavailable"
  else if f.has .exchangeRateUnavailable then "exchange_rate_unavailable"
  else if f.has .insufficientInput then "insufficient_input"
  else if f.has .divideByZero then "divide_by_zero"
  else if f.has .invalidOptions then "invalid_options"
  else if f.has .noSubmitter then "no_submitter"
  else if f.has .cancelled ∨ f.has .deadlineExceeded then "cancelled"
  else "other"

/-- A status code that means "no route" rather than a server problem. -/
def noRouteStatus (code : Nat) : Bool := code = 400 ∨ code = 404 ∨ code = 422

/-- `runKind`, with `other` split further by the remaining conditions. -/
def kind (f : Failure) : String :=
  let k := f.runKind
  if k != "other" then k
  else if f.has .noActiveMarket then "no_active_market"
  else if f.has .noMidPrice then "no_mid_price"
  else if f.has .retriesExhausted then "retries_exhausted"
  else if f.has .breakerOpen then "breaker_open"
  else if f.has .invalidConfig then "invalid_config"
  else if f.conditions.any (fun | .httpStatus c => !noRouteStatus c | _ => false) then "http_status"
  else "other"

end Failure

/-- A computation that may fail. -/
abbrev Outcome (α : Type) := Except Failure α

/-- A failure as `{error, message}`: its kind (or `panic`) and its text. -/
def Failure.toJson (f : Failure) : Json :=
  .obj [("error", .str (if f.isPanic then "panic" else f.kind)), ("message", .str f.message)]

/-- `null` for success, the failure otherwise. -/
def Outcome.errorJson : Outcome α → Json
  | .ok _ => .null
  | .error f => f.toJson

end QuoteKeeper
