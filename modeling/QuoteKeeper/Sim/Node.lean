import QuoteKeeper.Sim.Script
import QuoteKeeper.Chain.Node
/-
  QuoteKeeper.Sim.Node — a node whose answers are set in advance, for sending prices and
  waiting for transactions.

  The node's `rpc` settings give its answers: `base_fee` (none: a header without one),
  `gas_price` (1 gwei), `tip` (0.001 gwei), `code` (one byte), `estimate_gas` (60000),
  `nonce` (0), and for a receipt `receipt_status` (1), `gas_used` (50000),
  `effective_gas_price` (none) and `block` (17); `<call>_error` makes a call fail with that
  text, and `receipt_missing` leaves the transaction unmined. Every call is recorded by its
  method name, a sent transaction with its fields.
-/

namespace QuoteKeeper

namespace Sim

/-- A transaction's fields. -/
def transactionJson (tx : Transaction) : Json :=
  let fees := match tx.fee with
    | .legacy _ => []
    | .dynamic tip cap => [("fee_cap", .str (natText cap)), ("tip_cap", .str (natText tip))]
  .obj ([("type", Json.ofNat tx.kind), ("chain_id", .str (natText tx.chainId)), ("nonce", Json.ofNat tx.nonce),
    ("gas", Json.ofNat tx.gas), ("gas_price", .str (natText tx.gasPrice)),
    ("to", match tx.recipient with | some a => .str a.toText | none => .null),
    ("data", .str (Hex.encode0x tx.data)), ("hash", .str tx.hashText)] ++ fees)

/-- A recorded call answering `v`, or failing with `err`. -/
def answerCall (method : String) (err : Option Failure) (v : α) : Scripted (Outcome α) := do
  record "rpc" (.obj [("method", .str method)])
  pure (match err with | some e => .error e | none => .ok v)

/-- A node answering from `rpc` settings, recording each call. -/
def scriptedNode (r : Json) : Decoded (NodeClient Scripted) := do
  let nat (k : String) (d : Nat) : Decoded Nat := do pure (((← readBig r k).map Int.toNat).getD d)
  let failing (k : String) : Decoded (Option Failure) := do
    match r.getD k with
    | .str e => pure (some (.plain e))
    | _ => pure none
  let baseFee ← match r.getD "base_fee" with
    | .null => pure none
    | _ => some <$> nat "base_fee" 0
  let code := Hex.decodePrefix (Hex.strip0x (match r.getD "code" with | .str s => s | _ => "0x01").toList)
  let gasPrice ← nat "gas_price" 1000000000
  let tip ← nat "tip" 1000000
  let gas ← nat "estimate_gas" 60000
  let nonce ← nat "nonce" 0
  let headerErr ← failing "header_error"
  let priceErr ← failing "gas_price_error"
  let tipErr ← failing "tip_error"
  let codeErr ← failing "code_error"
  let estimateErr ← failing "estimate_error"
  let nonceErr ← failing "nonce_error"
  let sendErr ← failing "send_error"
  let receiptErr ← failing "receipt_error"
  let missing ← readBool r "receipt_missing"
  let receipt : Receipt := ⟨← nat "receipt_status" 1, ← nat "gas_used" 50000,
    ← match r.getD "effective_gas_price" with
      | .null => pure none
      | _ => some <$> nat "effective_gas_price" 0,
    ← nat "block" 17⟩
  pure {
    baseFee := answerCall "eth_getBlockByNumber" headerErr baseFee
    gasPrice := answerCall "eth_gasPrice" priceErr gasPrice
    tipCap := answerCall "eth_maxPriorityFeePerGas" tipErr tip
    pendingCode := fun _ => answerCall "eth_getCode" codeErr code
    estimateGas := fun _ _ _ => answerCall "eth_estimateGas" estimateErr gas
    pendingNonce := fun _ => answerCall "eth_getTransactionCount" nonceErr nonce
    sendTransaction := fun tx => do
      record "rpc" (.obj [("method", .str "eth_sendRawTransaction"), ("tx", transactionJson tx)])
      pure (match sendErr with | some e => .error e | none => .ok ())
    receipt := fun h => do
      record "rpc" (.obj [("method", .str "eth_getTransactionReceipt"), ("hash", .str (Hex.encode0x h))])
      pure (match receiptErr with
        | some e => .error e
        | none => .ok (if missing then none else some receipt)) }

/-- Calls recorded under `rpc`, ordered by method name. -/
def rpcCalls (calls : Array (String × Json)) : Json :=
  let method (j : Json) : String := match j.getD "method" with | .str s => s | _ => ""
  .arr ((recorded calls "rpc").mergeSort fun a b => decide (method a ≤ method b))

/-- Prices sent to an ARM through a scripted node. -/
def armSubmit (j : Json) : Decoded Json := do
  let node ← scriptedNode (j.getD "rpc")
  let buy ← readPrice j "buy"
  let sell ← readPrice j "sell"
  let arm ← readAddr j "address"
  let program : Scripted (Outcome Transaction) ← match j.getD "private_key" with
    | .null => pure (pure (.error ArmContract.noSigner))
    | _ => do
      let text ← readStr j "private_key"
      let key ← ofOutcome ((PrivateKey.ofHex (if "0x".isPrefixOf text then String.ofList (text.toList.drop 2) else text)).mapError Failure.plain)
      let t : Transactor := ⟨key, (← readInt j "chain_id" 1).toNat, (← readInt j "gas_limit" 0).toNat⟩
      pure (ArmContract.submitPrices node t arm buy sell)
  let (o, (_, calls)) := program.run ([], #[])
  pure (.obj [("err", o.errorJson), ("rpc", rpcCalls calls),
    ("tx", match o with | .ok tx => transactionJson tx | .error _ => .null)])

/-- Waiting for the fixed transaction through a scripted node. -/
def waitMined (j : Json) : Decoded Json := do
  let node ← scriptedNode (j.getD "rpc")
  let logger : Logger Scripted :=
    if ← readBool j "nil_logger" then Logger.nop else Logger.ofSink fun e => record "log" e.toJson
  let ended : Condition := if ← readBool j "cancelled" then .cancelled else .deadlineExceeded
  let ((receipt, o), (_, calls)) := (node.waitMined logger ended stubTransaction).run ([], #[])
  let receiptJson := match receipt with
    | some r => .obj [("block", .str (natText r.block)), ("gas_used", Json.ofNat r.gasUsed),
      ("status", Json.ofNat r.status)]
    | none => .null
  pure (.obj ([("err", o.errorJson), ("logs", .arr (recorded calls "log")), ("receipt", receiptJson)] ++
    (if receipt.isSome then [("rpc", rpcCalls calls)] else [])))

end Sim

end QuoteKeeper
