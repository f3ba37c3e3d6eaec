import QuoteKeeper.Chain.Secp256k1
import QuoteKeeper.Chain.Transaction
import QuoteKeeper.Text.Quoted
/-
  QuoteKeeper.Chain.Key — signing keys and signed transactions.

  A key is read from hex text (without `0x`) byte pair by byte pair: the first byte that is not
  a hex digit is reported (`invalid hex character 'g' in private key`), an odd count of digits
  otherwise (`invalid hex data for private key`); then it must be 32 bytes (`invalid length,
  need 256 bits`), below the group order (`invalid private key, >=N`) and not zero (`invalid
  private key, zero or negative`). Its address is the last 20 bytes of the Keccak-256 digest
  of the public point's coordinates.
-/

namespace QuoteKeeper

/-- A secp256k1 signing key: a scalar in `1 … n-1`. -/
structure PrivateKey where
  secret : Nat
  deriving DecidableEq, Repr, Inhabited

namespace PrivateKey

def hexValue? (b : UInt8) : Option Nat := Hex.value? (Char.ofNat b.toNat)

/-- Bytes of hex text, or the problem with it. -/
def decodeHex : List UInt8 → Except String (List UInt8)
  | [] => .ok []
  | [a] =>
    match hexValue? a with
    | none => .error ("invalid hex character " ++ Text.quotedRune (Char.ofNat a.toNat) ++ " in private key")
    | some _ => .error "invalid hex data for private key"
  | a :: b :: rest =>
    match hexValue? a, hexValue? b with
    | none, _ => .error ("invalid hex character " ++ Text.quotedRune (Char.ofNat a.toNat) ++ " in private key")
    | _, none => .error ("invalid hex character " ++ Text.quotedRune (Char.ofNat b.toNat) ++ " in private key")
    | some x, some y => (decodeHex rest).map (((x * 16 + y).toUInt8) :: ·)

/-- A key from its hex text. -/
def ofHex (text : String) : Except String PrivateKey := do
  let bytes ← decodeHex text.toUTF8.toList
  if bytes.length != 32 then throw "invalid length, need 256 bits"
  let d := Hex.natOfBytes bytes
  if d ≥ Secp256k1.n then throw "invalid private key, >=N"
  if d = 0 then throw "invalid private key, zero or negative"
  pure ⟨d⟩

/-- The account the key controls. -/
def address (k : PrivateKey) : Address :=
  match Secp256k1.publicPoint k.secret with
  | some (x, y) => Address.ofBytes (keccak256 (Hex.bytesOfNat 32 x ++ Hex.bytesOfNat 32 y))
  | none => Address.zero

end PrivateKey

/-- The transaction signed with a key. -/
def Transaction.signWith (tx : Transaction) (k : PrivateKey) : Transaction :=
  match Secp256k1.sign tx.signingHash k.secret with
  | some s => tx.withSignature s.recId s.r s.s
  | none => tx

end QuoteKeeper
