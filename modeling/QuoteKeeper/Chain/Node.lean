import QuoteKeeper.Chain.Key
import QuoteKeeper.Chain.Contracts
import QuoteKeeper.Log.Entry
/-
  QuoteKeeper.Chain.Node — sending transactions through a node, and waiting for them.

  (1) A transaction to a contract is built the way a bound contract builds it. Without a fixed
  gas price the latest header decides the kind: with a base fee it is a dynamic-fee
  transaction whose tip is the node's suggestion and whose fee cap is the tip plus twice the
  base fee; without one it is a legacy transaction at the node's suggested gas price. The gas
  limit, unless fixed, is the node's estimate, asked only after checking that the contract
  has code (`no contract code at given address`). The nonce is the sender's pending count.
  The transaction is signed for the chain and sent; the first failing step is the answer.
  (2) Submitting prices sends `setPrices(buy, sell)` with both prices at 36 places; its
  failures read `setPrices: <reason>`.
  (3) Waiting for a transaction asks for its receipt; a receipt that is missing or fails to
  come waits until the caller's context ends. A mined transaction is logged (`transaction
  mined`, with its hash, status, gas used, cost in wei and block), and one whose status is not
  1 failed: `transaction <hash> reverted`.
-/

namespace QuoteKeeper

/-- A transaction's receipt, as far as waiting reads it. -/
structure Receipt where
  status : Nat
  gasUsed : Nat
  effectiveGasPrice : Option Nat
  block : Nat
  deriving DecidableEq, Repr, Inhabited

/-- The calls a node answers. -/
structure NodeClient (m : Type → Type) where
  /-- The latest header's base fee, if it has one. -/
  baseFee : m (Outcome (Option Nat))
  gasPrice : m (Outcome Nat)
  tipCap : m (Outcome Nat)
  /-- The code at an address, pending state included. -/
  pendingCode : Address → m (Outcome (List UInt8))
  /-- The gas a call from an account to an address with data would use. -/
  estimateGas : Address → Address → List UInt8 → m (Outcome Nat)
  pendingNonce : Address → m (Outcome Nat)
  sendTransaction : Transaction → m (Outcome Unit)
  /-- The receipt of a transaction by hash, if it is mined. -/
  receipt : List UInt8 → m (Outcome (Option Receipt))

/-- Who signs, on which chain, with which fixed gas limit (0 to estimate). -/
structure Transactor where
  key : PrivateKey
  chainId : Nat
  gasLimit : Nat
  deriving Repr, Inhabited

namespace NodeClient

variable {m : Type → Type} [Monad m]

/-- The multiple of the base fee a fee cap allows for. -/
def baseFeeWiggle : Nat := 2

def noCode : Failure := .plain "no contract code at given address"

/-- The gas limit: fixed, or estimated after checking that the contract has code. -/
def gasLimit (node : NodeClient m) (t : Transactor) (target : Address) (data : List UInt8) : m (Outcome Nat) := do
  if t.gasLimit != 0 then return .ok t.gasLimit
  match ← node.pendingCode target with
  | .error e => pure (.error e)
  | .ok code =>
    if code.isEmpty then pure (.error noCode)
    else node.estimateGas t.key.address target data

/-- The unsigned transaction, fee, gas and nonce filled in. -/
def build (node : NodeClient m) (t : Transactor) (target : Address) (data : List UInt8) : m (Outcome Transaction) := do
  let fee ← match ← node.baseFee with
    | .error e => pure (Except.error e)
    | .ok (some base) => do
      match ← node.tipCap with
      | .error e => pure (.error e)
      | .ok tip => pure (.ok (GasFee.dynamic tip (tip + baseFeeWiggle * base)))
    | .ok none => do
      match ← node.gasPrice with
      | .error e => pure (.error e)
      | .ok price => pure (.ok (GasFee.legacy price))
  match fee with
  | .error e => pure (.error e)
  | .ok fee =>
    match ← node.gasLimit t target data with
    | .error e => pure (.error e)
    | .ok gas =>
      match ← node.pendingNonce t.key.address with
      | .error e => pure (.error e)
      | .ok nonce => pure (.ok ⟨t.chainId, nonce, fee, gas, some target, 0, data, 0, 0, 0⟩)

/-- Builds, signs and sends a transaction to a contract. -/
def transact (node : NodeClient m) (t : Transactor) (target : Address) (data : List UInt8) : m (Outcome Transaction) := do
  match ← node.build t target data with
  | .error e => pure (.error e)
  | .ok tx =>
    let signed := tx.signWith t.key
    match ← node.sendTransaction signed with
    | .error e => pure (.error e)
    | .ok () => pure (.ok signed)

/-- `tx mined` log fields and the outcome of a receipt. -/
def minedFields (tx : Transaction) (r : Receipt) : List (String × Json) :=
  [("tx", .str tx.hashText), ("status", Json.ofNat r.status), ("gasUsed", Json.ofNat r.gasUsed),
   ("costWei", .str (natText (r.effectiveGasPrice.getD 0 * r.gasUsed))), ("block", .str (natText r.block))]

/-- Waits for a transaction: its receipt, if one came, and the outcome. `ended` is how the
caller's context ends when no receipt comes. -/
def waitMined (node : NodeClient m) (logger : Logger m) (ended : Condition) (tx : Transaction) :
    m (Option Receipt × Outcome Unit) := do
  let fetched ← node.receipt tx.hash
  match fetched with
  | .ok (some r) =>
    logger.info "transaction mined" (minedFields tx r)
    if r.status == 1 then pure (some r, .ok ())
    else pure (some r, .error (.plain ("transaction " ++ tx.hashText ++ " reverted")))
  | _ => pure (none, .error (Failure.because ("wait mined " ++ tx.hashText) ended))

end NodeClient

namespace ArmContract

variable {m : Type → Type} [Monad m]

/-- Sends `setPrices(buy, sell)`, both at 36 places, to the ARM. -/
def submitPrices (node : NodeClient m) (t : Transactor) (arm : Address) (buy sell : Price) :
    m (Outcome Transaction) := do
  match (buy.rescale priceScale).int?, (sell.rescale priceScale).int? with
  | some b, some s =>
    let data := Abi.setPrices.pack [.num b, .num s]
    pure ((← node.transact t arm data).mapError (·.wrap "setPrices"))
  | _, _ => pure (.error Failure.nilDeref)

end ArmContract

end QuoteKeeper
