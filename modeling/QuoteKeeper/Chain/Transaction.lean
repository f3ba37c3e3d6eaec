import QuoteKeeper.Chain.Rlp
import QuoteKeeper.Chain.Address
/-
  QuoteKeeper.Chain.Transaction — transactions, their signing payloads and their hashes.

  (1) A legacy transaction pays a gas price; a dynamic-fee transaction (type 2) pays a tip
  cap and a fee cap. Both carry a nonce, a gas limit, an optional recipient (none creates a
  contract), a value, call data and a signature `(v, r, s)`, zero while unsigned.
  (2) The hash of a legacy transaction is the Keccak-256 digest of the list
  `[nonce, gasPrice, gas, to, value, data, v, r, s]`; a type-2 transaction's is the digest of
  the byte `2` and `[chainId, nonce, tip, feeCap, gas, to, value, data, accessList, v, r, s]`,
  the access list always empty here.
  (3) What a signer signs: for a legacy transaction the replay-protected list with
  `[chainId, 0, 0]` in place of the signature, for type 2 the list without the signature.
  A legacy signature's `v` is the recovery bit plus `35 + 2 · chainId`; a type-2 one's is the
  bit itself.
-/

namespace QuoteKeeper

/-- How a transaction pays for gas. -/
inductive GasFee where
  | legacy (gasPrice : Nat)
  | dynamic (tip feeCap : Nat)
  deriving DecidableEq, Repr, Inhabited

structure Transaction where
  chainId : Nat
  nonce : Nat
  fee : GasFee
  gas : Nat
  recipient : Option Address
  value : Nat
  data : List UInt8
  v : Nat
  r : Nat
  s : Nat
  deriving DecidableEq, Repr, Inhabited

namespace Transaction

/-- The type byte: 0 for legacy, 2 for dynamic fee. -/
def kind (tx : Transaction) : Nat :=
  match tx.fee with
  | .legacy _ => 0
  | .dynamic _ _ => 2

/-- The price per gas the transaction offers at most. -/
def gasPrice (tx : Transaction) : Nat :=
  match tx.fee with
  | .legacy p => p
  | .dynamic _ cap => cap

def toItem (tx : Transaction) : Rlp.Item :=
  .bytes (match tx.recipient with | some a => a.bytes | none => [])

/-- The fields before the signature. -/
def body (tx : Transaction) : List Rlp.Item :=
  let common := [Rlp.nat tx.gas, tx.toItem, Rlp.nat tx.value, .bytes tx.data]
  match tx.fee with
  | .legacy p => [Rlp.nat tx.nonce, Rlp.nat p] ++ common
  | .dynamic tip cap =>
    [Rlp.nat tx.chainId, Rlp.nat tx.nonce, Rlp.nat tip, Rlp.nat cap] ++ common ++ [.list []]

def signature (tx : Transaction) : List Rlp.Item := [Rlp.nat tx.v, Rlp.nat tx.r, Rlp.nat tx.s]

/-- The typed envelope: the type byte before the list, none for legacy. -/
def envelope (tx : Transaction) (items : List Rlp.Item) : List UInt8 :=
  match tx.fee with
  | .legacy _ => Rlp.encode (.list items)
  | .dynamic _ _ => 2 :: Rlp.encode (.list items)

/-- The encoded transaction, as sent. -/
def encode (tx : Transaction) : List UInt8 := tx.envelope (tx.body ++ tx.signature)

def hash (tx : Transaction) : List UInt8 := keccak256 tx.encode

def hashText (tx : Transaction) : String := Hex.encode0x tx.hash

/-- The digest a signer signs. -/
def signingHash (tx : Transaction) : List UInt8 :=
  match tx.fee with
  | .legacy _ => keccak256 (tx.envelope (tx.body ++ [Rlp.nat tx.chainId, Rlp.nat 0, Rlp.nat 0]))
  | .dynamic _ _ => keccak256 (tx.envelope tx.body)

/-- The transaction with a signature of recovery bit `recId`. -/
def withSignature (tx : Transaction) (recId r s : Nat) : Transaction :=
  match tx.fee with
  | .legacy _ => { tx with v := recId + 35 + 2 * tx.chainId, r := r, s := s }
  | .dynamic _ _ => { tx with v := recId, r := r, s := s }

end Transaction

end QuoteKeeper
