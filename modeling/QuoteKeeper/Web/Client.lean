import QuoteKeeper.Web.Url
import QuoteKeeper.Web.Binding
import QuoteKeeper.Retry
import QuoteKeeper.Text.Utf8
import QuoteKeeper.Log.Entry
/-
  QuoteKeeper.Web.Client — JSON over HTTP, retried only when the server asks to slow down.

  A request asks for JSON (`Accept: application/json`), says so when it sends a body
  (`Content-Type`), and carries the client's own headers; an address with a user part adds
  `Authorization: Basic ...` unless the client sets that header itself. Its address is the base
  address without trailing slashes, the path, and the encoded query, read and written back as
  `Url` does, a port left empty dropped. The steps fail in order, each prefixed with the
  client's name: an address that cannot be a request (`build request`), a transport failure
  (`request: Get "<url>": ...`, a password in the address written `***`), a status outside
  200–299 (`HTTP <code>: <body>`, the body cut to 256 bytes and `...`), and a body that does not
  bind (`decode response`). Only the first 4 MiB of a body are read. Statuses 400, 404 and 422
  mean there is no route, which is an unavailable quote.

  Each try first waits for the client's turn at its rate limiter; a context that ends first
  fails the try (`<name>: limiter: <the context's error>`). Only status 429 is tried again,
  under the client's retry policy, each try logged as a warning (`rate limited, retrying`) with
  the provider, the attempt, the wait and the failure; when the tries run out the failure is
  `<name>: rate limited: retries exhausted ...`. A client given neither a retry count nor a
  first pause makes two more tries, two seconds apart. Every call, however it ends, is
  reported once to the observer.

  Request bodies are written compactly, with `<`, `>`, `&` and the line and paragraph
  separators escaped as `\u` codes so that the text can sit inside HTML.
-/

namespace QuoteKeeper

structure HttpRequest where
  method : String
  url : String
  headers : List (String × String)
  body : String
  deriving Repr, Inhabited

inductive HttpReply where
  | response (status : Nat) (body : String)
  | failure (message : String)
  deriving Repr, Inhabited

/-- Where requests go. -/
abbrev Transport (m : Type → Type) := HttpRequest → m HttpReply

/-- What a client's calls wait on under their context: the client's turn at its rate limiter
and the wait before a retry, each answering the context's error when the context ends first,
and the random source of jitter, `draw n` being a number below `n`. -/
structure ClientWaits (m : Type → Type) where
  turn : m (Option Failure)
  pause : Int → m (Option Failure)
  draw : Int → m Int

/-- Waits under a context that never ends, at a limiter that never holds a call back. -/
def ClientWaits.free {m : Type → Type} [Monad m] : ClientWaits m :=
  ⟨pure none, fun _ => pure none, fun _ => pure 0⟩

namespace Json

def hex4Lower (n : Nat) : List Char := Text.hexWidth 4 n

/-- A string between quotes, escaped for HTML as well as JSON. -/
def quoteSafe (s : String) : String :=
  let esc (c : Char) : List Char :=
    if c = '"' then ['\\', '"'] else if c = '\\' then ['\\', '\\']
    else if c = '\n' then ['\\', 'n'] else if c = '\r' then ['\\', 'r'] else if c = '\t' then ['\\', 't']
    else if c.toNat < 0x20 ∨ c = '<' ∨ c = '>' ∨ c = '&' ∨ c.toNat = 0x2028 ∨ c.toNat = 0x2029 then
      '\\' :: 'u' :: hex4Lower c.toNat
    else [c]
  String.ofList ('"' :: s.toList.flatMap esc ++ ['"'])

mutual
def renderSafe : Json → String
  | .null => "null"
  | .bool b => if b then "true" else "false"
  | .num l => l
  | .str s => quoteSafe s
  | .arr xs => "[" ++ ",".intercalate (renderSafeItems xs) ++ "]"
  | .obj kvs => "\x7b" ++ ",".intercalate (renderSafeMembers kvs) ++ "\x7d"

def renderSafeItems : List Json → List String
  | [] => []
  | x :: xs => renderSafe x :: renderSafeItems xs

def renderSafeMembers : List (String × Json) → List String
  | [] => []
  | (k, v) :: kvs => (quoteSafe k ++ ":" ++ renderSafe v) :: renderSafeMembers kvs
end

end Json

namespace Http

/-- A response outside the success range. -/
def statusFailure (name : String) (code : Nat) (body : String) : Failure :=
  let bytes := body.toUTF8.toList
  let shown := if bytes.length > 256 then Utf8.lossy (bytes.take 256) ++ "..." else body
  .error (name ++ ": HTTP " ++ natText code ++ ": " ++ shown)
    (.httpStatus code :: if Failure.noRouteStatus code then [.quoteUnavailable] else [])

/-- `Get`, `Post`: the method as an operation name. -/
def operation (method : String) : String :=
  match method.toList with
  | c :: cs => String.ofList (c :: cs.map Char.toLower)
  | [] => ""

def tooManyRequests (f : Failure) : Bool := f.has (.httpStatus 429)

/-- The most of a response body a client reads: 4 MiB. -/
def maxBodyBytes : Nat := 4 * 1024 * 1024

/-- The part of a body a client reads: its first `maxBodyBytes` bytes, a character cut there
read as U+FFFD. -/
def readBody (body : String) : String :=
  if body.utf8ByteSize ≤ maxBodyBytes then body else Utf8.lossy (body.toUTF8.toList.take maxBodyBytes)

end Http

/-- Settings shared by every JSON client. -/
structure ClientSettings where
  baseUrl : String
  retry : RetryPolicy
  deriving Inhabited

/-- Two more tries after the first, two seconds apart. -/
def RetryPolicy.standard : RetryPolicy := ⟨2, 2000000000, 2000000000, 1, false⟩

/-- A policy with nothing set. -/
def RetryPolicy.unset : RetryPolicy := ⟨0, 0, 0, 0, false⟩

/-- The policy a client runs with: the standard one when neither a retry count nor a first
pause is set. -/
def RetryPolicy.orStandard (p : RetryPolicy) : RetryPolicy :=
  if p.initialBackoff = 0 ∧ p.maxRetries = 0 then .standard else p

/-- The settings a client runs with: the API's own base address `base` when none is set, and
the policy `orStandard` gives. -/
def ClientSettings.withDefaults (s : ClientSettings) (base : String) : ClientSettings :=
  ⟨if s.baseUrl.isEmpty then base else s.baseUrl, s.retry.orStandard⟩

structure JsonClient (m : Type → Type) where
  name : String
  baseUrl : String
  headers : List (String × String)
  transport : Transport m
  retry : RetryPolicy
  observe : String → Outcome Unit → m Unit
  waits : ClientWaits m
  log : Logger m

namespace JsonClient

variable {m : Type → Type} [Monad m]

/-- A client that logs nothing. -/
def new (name : String) (settings : ClientSettings) (headers : List (String × String))
    (transport : Transport m) (observe : String → Outcome Unit → m Unit) (waits : ClientWaits m) : JsonClient m :=
  ⟨name, String.ofList (settings.baseUrl.toList.reverse.dropWhile (· == '/')).reverse, headers,
    transport, settings.retry, observe, waits, Logger.nop⟩

/-- The client logging to `log`, each entry naming the provider. -/
def withLogger (c : JsonClient m) (log : Logger m) : JsonClient m :=
  { c with log := log.withFields [("provider", .str c.name)] }

/-- One request; the body of a successful response. -/
def once (c : JsonClient m) (method url : String) (body : Option String) : m (Outcome String) := do
  match Url.parse url with
  | .error e => pure (.error (.plain (c.name ++ ": build request: " ++ e)))
  | .ok address =>
    let address := address.withoutEmptyPort
    let base := [("Accept", "application/json")] ++
      (if body.isSome then [("Content-Type", "application/json")] else [])
    let headers := base.filter (fun (k, _) => !c.headers.any (·.1 == k)) ++ c.headers
    let headers := match address.basicAuth? with
      | some auth =>
        if headers.any fun (k, v) => k == "Authorization" && !v.isEmpty then headers
        else headers.filter (·.1 != "Authorization") ++ [("Authorization", auth)]
      | none => headers
    match ← c.transport ⟨method, address.text, headers, body.getD ""⟩ with
    | .failure msg =>
      pure (.error (.plain (c.name ++ ": request: " ++ Http.operation method ++ " " ++
        Utf8.quotedBytes address.shown ++ ": " ++ msg)))
    | .response code text =>
      let text := Http.readBody text
      if code < 200 ∨ code ≥ 300 then pure (.error (Http.statusFailure c.name code text))
      else pure (.ok text)

/-- A request, retried on 429, its body bound by `decode`; reported to the observer. -/
def send (c : JsonClient m) (method url : String) (body : Option String)
    (decode : String → Except String α) : m (Outcome α) := do
  let attempt : m (Outcome α) := do
    match ← c.waits.turn with
    | some e => pure (.error (e.wrap (c.name ++ ": limiter")))
    | none =>
      match ← c.once method url body with
      | .error e => pure (.error e)
      | .ok text =>
        match decode text with
        | .ok v => pure (.ok v)
        | .error e => pure (.error (.plain (c.name ++ ": decode response: " ++ e)))
  let onRetry (attempt : Nat) (e : Failure) (backoff : Int) : m Unit :=
    c.log.warn "rate limited, retrying"
      [("attempt", Json.ofNat attempt), ("backoff", c.log.duration backoff), ("error", .str e.message)]
  let r ← retryWithin c.waits.pause c.waits.draw c.retry Http.tooManyRequests onRetry attempt
  let r := match r with
    | .error e =>
      if e.has .retriesExhausted then
        .error (.error (c.name ++ ": " ++ Condition.rateLimited.text ++ ": " ++ e.message) (.rateLimited :: e.conditions))
      else .error e
    | .ok v => .ok v
  c.observe c.name (r.map fun _ => ())
  pure r

def get (c : JsonClient m) (path : String) (params : List (String × List String))
    (decode : String → Except String α) : m (Outcome α) :=
  let url := c.baseUrl ++ path ++ (if params.isEmpty then "" else "?" ++ Url.encodeQuery params)
  c.send "GET" url none decode

def post (c : JsonClient m) (path : String) (body : Json) (decode : String → Except String α) :
    m (Outcome α) :=
  c.send "POST" (c.baseUrl ++ path) (some body.renderSafe) decode

end JsonClient

/-- A decimal integer amount: empty or not positive is no quote. -/
def parseAmount (provider text : String) : Outcome Int :=
  if text.isEmpty then .error (.error (provider ++ ": empty amount: " ++ Condition.quoteUnavailable.text) [.quoteUnavailable])
  else
    let digits := match text.toList with
      | '+' :: ds => some (ds, false)
      | '-' :: ds => some (ds, true)
      | ds => some (ds, false)
    match digits with
    | some (ds, neg) =>
      if ds.isEmpty || !ds.all Char.isDigit then .error (.plain (provider ++ ": invalid amount " ++ Text.quoted text))
      else
        let v : Int := Binding.digitsValue ds
        let v := if neg then -v else v
        if v ≤ 0 then .error (.error (provider ++ ": zero amount: " ++ Condition.quoteUnavailable.text) [.quoteUnavailable])
        else .ok v
    | none => .error (.plain (provider ++ ": invalid amount " ++ Text.quoted text))

end QuoteKeeper
