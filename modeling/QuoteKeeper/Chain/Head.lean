import QuoteKeeper.Chain.Quantity
import QuoteKeeper.Web.Binding
import QuoteKeeper.Failure
/-
  QuoteKeeper.Chain.Head — new-block notifications from a node subscription.

  A message is bound to the shape of a JSON-RPC message: an optional integer `id`, a
  `method`, any `result`, optional `params` (the subscription id and a `result` block with
  `number`, `hash` and `timestamp` strings) and an optional `error` (`code`, `message`). Only a
  message whose method is `eth_subscription` and which has `params` announces a block. The
  block number must be a 64-bit quantity (`block number "<text>": <reason>` otherwise); a
  timestamp that is absent or not a quantity is taken as zero.
-/

namespace QuoteKeeper

/-- A block, as much of it as pricing needs. -/
structure Head where
  number : Nat
  hash : String
  timestamp : Nat
  deriving DecidableEq, Repr, Inhabited

/-- The fields of a notification's block, as written. -/
structure HeadFields where
  number : String
  hash : String
  timestamp : String
  deriving Inhabited

/-- A JSON-RPC message, as far as a subscriber reads it. -/
structure RpcMessage where
  method : String
  /-- The block of a notification, when there are `params`. -/
  params : Option HeadFields
  /-- The message of an error reply, when there is one. -/
  error : Option String
  deriving Inhabited

namespace Head

def fieldsType : String :=
  "struct \x7b Number string \"json:\\\"number\\\"\"; Hash string \"json:\\\"hash\\\"\"; " ++
  "Timestamp string \"json:\\\"timestamp\\\"\" \x7d"

def paramsType : String :=
  "struct \x7b Subscription string \"json:\\\"subscription\\\"\"; Result " ++ fieldsType ++
  " \"json:\\\"result\\\"\" \x7d"

def errorType : String :=
  "struct \x7b Code int \"json:\\\"code\\\"\"; Message string \"json:\\\"message\\\"\" \x7d"

def fields : Binder HeadFields :=
  Binding.record fieldsType
    [Binding.Field.of "number" (·.number) (fun h v => { h with number := v }) Binding.string,
     Binding.Field.of "hash" (·.hash) (fun h v => { h with hash := v }) Binding.string,
     Binding.Field.of "timestamp" (·.timestamp) (fun h v => { h with timestamp := v }) Binding.string]

def message : Binder RpcMessage :=
  let params : Binder HeadFields :=
    Binding.record paramsType
      [Binding.Field.of "subscription" (fun _ => "") (fun h _ => h) Binding.string,
       Binding.Field.of "result" id (fun _ v => v) fields]
  let error : Binder String :=
    Binding.record errorType
      [Binding.Field.of "code" (fun _ => 0) (fun e _ => e) (Binding.int64 "int"),
       Binding.Field.of "message" id (fun _ v => v) Binding.string]
  Binding.record "gateway.rpcMessage"
    [Binding.Field.of "id" (fun _ => (none : Option Int)) (fun m _ => m) (Binding.optional 0 (Binding.int64 "int")),
     Binding.Field.of "method" (·.method) (fun m v => { m with method := v }) Binding.string,
     Binding.Field.of "result" (fun _ => ()) (fun m _ => m) (fun _ _ cur => pure cur),
     Binding.Field.of "params" (·.params) (fun m v => { m with params := v }) (Binding.optional default params),
     Binding.Field.of "error" (·.error) (fun m v => { m with error := v }) (Binding.optional "" error)]

/-- Reads a message. -/
def readMessage (text : String) : Except String RpcMessage :=
  Binding.document "rpcMessage" message ⟨"", none, none⟩ text

/-- Reads the first message of a frame; what follows it in the frame is ignored. -/
def readFrame (text : String) : Except String RpcMessage := do
  Binding.value "rpcMessage" message ⟨"", none, none⟩ (← Json.readFirst text)

/-- The block a notification's fields describe. -/
def ofFields (f : HeadFields) : Outcome Head :=
  match Quantity.decode64 f.number with
  | .error e => .error (.plain ("block number " ++ Text.quoted f.number ++ ": " ++ e.message))
  | .ok n =>
    let ts := if f.timestamp.isEmpty then 0 else
      match Quantity.decode64 f.timestamp with
      | .ok t => t
      | .error _ => 0
    .ok ⟨n, f.hash, ts⟩

/-- The block a message announces, if it is a notification. -/
def ofMessage? (m : RpcMessage) : Option (Outcome Head) :=
  match m.params with
  | some f => if m.method == "eth_subscription" then some (ofFields f) else none
  | none => none

/-- The block a message text announces. -/
def parse (text : String) : Outcome Head :=
  match readMessage text with
  | .error e => .error (.plain e)
  | .ok m =>
    match ofMessage? m with
    | some h => h
    | none => .error (.plain "not a subscription notification")

def toJson (h : Head) : Json :=
  .obj [("number", Json.ofNat h.number), ("hash", .str h.hash), ("timestamp", Json.ofNat h.timestamp)]

end Head

end QuoteKeeper
