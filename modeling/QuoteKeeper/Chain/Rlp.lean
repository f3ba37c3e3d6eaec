import QuoteKeeper.Text.Hex
/-
  QuoteKeeper.Chain.Rlp — the recursive length prefix encoding of byte strings and lists.

  (1) A single byte below `0x80` is itself. Any other byte string of at most 55 bytes is
  `0x80 + length` and the bytes; a longer one is `0xb7 + n`, the length in `n` big-endian
  bytes, and the bytes.
  (2) A list is the concatenation of its items' encodings behind the same kind of header,
  with offsets `0xc0` and `0xf7`.
  (3) A number is the byte string of its big-endian bytes without leading zeros: zero is the
  empty string.
-/

namespace QuoteKeeper

namespace Rlp

/-- An item: a byte string or a list of items. -/
inductive Item where
  | bytes (b : List UInt8)
  | list (items : List Item)
  deriving Repr, Inhabited

/-- Big-endian bytes of `n` with no leading zero byte; `[]` for zero. -/
def minimalBytes (n : Nat) : List UInt8 :=
  if _h : n = 0 then [] else minimalBytes (n / 256) ++ [(n % 256).toUInt8]
termination_by n
decreasing_by omega

/-- The header of a payload of `len` bytes: short form up to 55 bytes, else long form. -/
def header (offset len : Nat) : List UInt8 :=
  if len ≤ 55 then [(offset + len).toUInt8]
  else
    let lb := minimalBytes len
    (offset + 55 + lb.length).toUInt8 :: lb

mutual

def encode : Item → List UInt8
  | .bytes [b] => if b < 0x80 then [b] else [0x81, b]
  | .bytes bs => header 0x80 bs.length ++ bs
  | .list items =>
    let payload := encodeAll items
    header 0xc0 payload.length ++ payload

def encodeAll : List Item → List UInt8
  | [] => []
  | i :: is => encode i ++ encodeAll is

end

/-- A number as an item. -/
def nat (n : Nat) : Item := .bytes (minimalBytes n)

end Rlp

end QuoteKeeper
