import QuoteKeeper.Hash.Keccak
import QuoteKeeper.Text.Hex
/-
  QuoteKeeper.Chain.Address — 20-byte account addresses and their text.

  Reading is lenient (`ofText`): an optional `0x`/`0X` is dropped, an odd number of bytes gets
  a leading `0`, hex pairs are read up to the first pair that is not hex, and of the bytes read
  the last 20 are kept, shorter runs being padded on the left with zero bytes.

  Writing (`toText`) is the mixed-case checksum form: `0x` and 40 hex digits, a letter in
  upper case exactly when the matching half-byte of the Keccak-256 digest of the lowercase
  digits is 8 or more.
-/

namespace QuoteKeeper

/-- An account address: a number below `2^160`. -/
structure Address where
  val : Nat
  deriving DecidableEq, Repr, Inhabited, Hashable

namespace Address

def zero : Address := ⟨0⟩

def isZero (a : Address) : Bool := a.val == 0

/-- The 20 bytes, big-endian. -/
def bytes (a : Address) : List UInt8 := Hex.bytesOfNat 20 a.val

/-- The last 20 of the bytes, left-padded with zeros. -/
def ofBytes (bs : List UInt8) : Address := ⟨Hex.natOfBytes (bs.drop (bs.length - 20)) % Nat.pow 2 160⟩

/-- Lenient reading: the hex bytes up to the first bad pair, the last 20 of them. -/
def ofText (s : String) : Address :=
  let cs := Hex.strip0x s.toList
  let bytes := (String.ofList cs).toUTF8.toList
  -- the digits are counted in bytes: an odd count gets a leading zero digit
  let cs := if bytes.length % 2 = 1 then '0' :: cs else cs
  ofBytes (Hex.decodePrefix cs)

/-- The checksum text. -/
def toText (a : Address) : String :=
  let lower := (Hex.encode a.bytes).toList
  let digest := keccak256 (lower.map fun c => c.toNat.toUInt8)
  let nibble (i : Nat) : Nat :=
    let b := (digest.getD (i / 2) 0).toNat
    if i % 2 = 0 then b / 16 else b % 16
  let mixed := (lower.zip (List.range 40)).map fun (c, i) =>
    if 'a' ≤ c ∧ c ≤ 'f' ∧ nibble i ≥ 8 then c.toUpper else c
  "0x" ++ String.ofList mixed

/-- Lowercase text with `0x`. -/
def toLower (a : Address) : String := Hex.encode0x a.bytes

instance : ToString Address := ⟨toText⟩

end Address

end QuoteKeeper
