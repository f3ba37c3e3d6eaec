/-
  QuoteKeeper.Text.Base64 — the standard base64 alphabet (`A–Z a–z 0–9 + /`), padded with `=`.

  Encoding writes every three bytes as four characters, padding the last group to four.

  Decoding skips line breaks (CR and LF) wherever they stand, then reads groups of four: a full
  group is three bytes, a group ending `x=` or `==` is the last one, and anything else — a
  character outside the alphabet, a pad too early, text after the pads, or a group cut short
  without them — is not base64. Bits a short group leaves over are ignored.
-/

namespace QuoteKeeper

namespace Base64

def alphabet : List Char := "ABCDEFGHIJKLMNOPQRSTUVWXYZabcdefghijklmnopqrstuvwxyz0123456789+/".toList

def digit (n : Nat) : Char := alphabet.getD n '='

/-- The value of a character of the alphabet. -/
def value? (b : UInt8) : Option Nat :=
  let n := b.toNat
  if 65 ≤ n ∧ n ≤ 90 then some (n - 65)
  else if 97 ≤ n ∧ n ≤ 122 then some (n - 71)
  else if 48 ≤ n ∧ n ≤ 57 then some (n + 4)
  else if n = 43 then some 62
  else if n = 47 then some 63
  else none

/-- Three bytes (fewer at the end) as four characters. -/
def encodeBytes : List UInt8 → List Char
  | a :: b :: c :: rest =>
    let v := a.toNat * 65536 + b.toNat * 256 + c.toNat
    digit (v / 262144) :: digit (v / 4096 % 64) :: digit (v / 64 % 64) :: digit (v % 64) ::
      encodeBytes rest
  | [a, b] =>
    let v := a.toNat * 65536 + b.toNat * 256
    [digit (v / 262144), digit (v / 4096 % 64), digit (v / 64 % 64), '=']
  | [a] =>
    let v := a.toNat * 65536
    [digit (v / 262144), digit (v / 4096 % 64), '=', '=']
  | [] => []

def encode (bs : List UInt8) : String := String.ofList (encodeBytes bs)

def pad : UInt8 := 61

/-- Groups of four characters, line breaks already gone. -/
def decodeGroups : List UInt8 → Option (List UInt8)
  | [] => some []
  | a :: b :: c :: d :: rest =>
    match value? a, value? b with
    | some va, some vb =>
      match value? c, value? d with
      | some vc, some vd =>
        let v := va * 262144 + vb * 4096 + vc * 64 + vd
        (fun tail => UInt8.ofNat (v / 65536) :: UInt8.ofNat (v / 256 % 256) :: UInt8.ofNat (v % 256) ::
          tail) <$> decodeGroups rest
      | some vc, none =>
        if d = pad ∧ rest.isEmpty then
          let v := va * 262144 + vb * 4096 + vc * 64
          some [UInt8.ofNat (v / 65536), UInt8.ofNat (v / 256 % 256)]
        else none
      | none, _ =>
        if c = pad ∧ d = pad ∧ rest.isEmpty then some [UInt8.ofNat ((va * 262144 + vb * 4096) / 65536)]
        else none
    | _, _ => none
  | _ => none

/-- The bytes a base64 text stands for, or `none` when it is not base64. -/
def decode (text : List UInt8) : Option (List UInt8) :=
  decodeGroups (text.filter fun b => b ≠ 10 ∧ b ≠ 13)

end Base64

end QuoteKeeper
