/-
  QuoteKeeper.Text.Hex — bytes as hexadecimal text and back.

  Writing gives two lowercase digits per byte. Reading takes pairs of digits of either case
  from the start and stops at the first pair with a non-hex character, keeping the bytes read
  before it (`decodePrefix`); `decode?` asks for all of the text.
-/

namespace QuoteKeeper

namespace Hex

def digit (n : Nat) : Char := "0123456789abcdef".toList.getD n '0'

def value? (c : Char) : Option Nat :=
  if '0' ≤ c ∧ c ≤ '9' then some (c.toNat - 48)
  else if 'a' ≤ c ∧ c ≤ 'f' then some (c.toNat - 87)
  else if 'A' ≤ c ∧ c ≤ 'F' then some (c.toNat - 55)
  else none

def byteText (b : UInt8) : List Char := [digit (b.toNat / 16), digit (b.toNat % 16)]

/-- Two lowercase digits per byte. -/
def encode (bs : List UInt8) : String := String.ofList (bs.flatMap byteText)

/-- `0x` and the digits. -/
def encode0x (bs : List UInt8) : String := "0x" ++ encode bs

/-- Bytes from pairs of digits, stopping at the first pair that is not hex. -/
def decodePrefix : List Char → List UInt8
  | a :: b :: rest =>
    match value? a, value? b with
    | some x, some y => (x * 16 + y).toUInt8 :: decodePrefix rest
    | _, _ => []
  | _ => []

/-- Bytes from an even number of hex digits, all of them. -/
def decode? : List Char → Option (List UInt8)
  | [] => some []
  | a :: b :: rest =>
    match value? a, value? b with
    | some x, some y => (decode? rest).map ((x * 16 + y).toUInt8 :: ·)
    | _, _ => none
  | [_] => none

/-- The text without a leading `0x` or `0X`. -/
def strip0x : List Char → List Char
  | '0' :: 'x' :: r => r
  | '0' :: 'X' :: r => r
  | r => r

/-- A natural number from big-endian bytes. -/
def natOfBytes (bs : List UInt8) : Nat := bs.foldl (fun acc b => acc * 256 + b.toNat) 0

/-- The `n` low bytes of a natural number, big-endian. -/
def bytesOfNat (n v : Nat) : List UInt8 :=
  (List.range n).reverse.map fun i => (v / Nat.pow 256 i % 256).toUInt8

end Hex

end QuoteKeeper
