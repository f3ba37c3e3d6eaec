import QuoteKeeper.Text.Quoted
/-
  QuoteKeeper.Text.Utf8 — reading characters from raw bytes, and quoting raw bytes.

  A character is read from its shortest UTF-8 encoding only: the second byte's range depends
  on the first so that overlong forms, surrogates and code points above U+10FFFF are refused.
  A byte that does not start a well-formed encoding is read alone as an error.

  Reading bytes as text takes each error byte as U+FFFD. Quoting bytes writes each well-formed
  character as `Text.quoted` does and each error byte as `\xNN`, so any byte string reads back
  exactly.
-/

namespace QuoteKeeper

namespace Utf8

def isCont (b : UInt8) : Bool := 0x80 ≤ b.toNat ∧ b.toNat ≤ 0xBF

/-- The range the second byte must fall in after a leading byte `b`. -/
def secondRange (b : Nat) : Nat × Nat :=
  if b = 0xE0 then (0xA0, 0xBF) else if b = 0xED then (0x80, 0x9F)
  else if b = 0xF0 then (0x90, 0xBF) else if b = 0xF4 then (0x80, 0x8F) else (0x80, 0xBF)

/-- The first character and the bytes after it, or `none` when the first byte is an error. -/
def decodeOne : List UInt8 → Option (Char × List UInt8)
  | [] => none
  | b0 :: rest =>
    let c0 := b0.toNat
    let inRange (b : UInt8) : Bool := let (lo, hi) := secondRange c0; lo ≤ b.toNat ∧ b.toNat ≤ hi
    if c0 < 0x80 then some (Char.ofNat c0, rest)
    else if 0xC2 ≤ c0 ∧ c0 ≤ 0xDF then
      match rest with
      | b1 :: r => if isCont b1 then some (Char.ofNat ((c0 % 32) * 64 + b1.toNat % 64), r) else none
      | _ => none
    else if 0xE0 ≤ c0 ∧ c0 ≤ 0xEF then
      match rest with
      | b1 :: b2 :: r =>
        if inRange b1 && isCont b2 then
          some (Char.ofNat ((c0 % 16) * 4096 + (b1.toNat % 64) * 64 + b2.toNat % 64), r)
        else none
      | _ => none
    else if 0xF0 ≤ c0 ∧ c0 ≤ 0xF4 then
      match rest with
      | b1 :: b2 :: b3 :: r =>
        if inRange b1 && isCont b2 && isCont b3 then
          some (Char.ofNat ((c0 % 8) * 262144 + (b1.toNat % 64) * 4096 + (b2.toNat % 64) * 64 +
            b3.toNat % 64), r)
        else none
      | _ => none
    else none

/-- The text of bytes, each byte that is not part of a character read as U+FFFD. -/
def lossy (bs : List UInt8) : String :=
  let rec go : Nat → List UInt8 → List Char
    | 0, _ => []
    | _, [] => []
    | fuel + 1, b :: rest =>
      match decodeOne (b :: rest) with
      | some (c, r) => c :: go fuel r
      | none => '\uFFFD' :: go fuel rest
  String.ofList (go bs.length bs)

/-- The quoted text of each character, or `\xNN` for each error byte. -/
def quotedParts : Nat → List UInt8 → List Char
  | 0, _ => []
  | _, [] => []
  | fuel + 1, b :: rest =>
    match decodeOne (b :: rest) with
    | some (c, r) => Text.quotedChar c ++ quotedParts fuel r
    | none => '\\' :: 'x' :: Text.hexWidth 2 b.toNat ++ quotedParts fuel rest

/-- The bytes between double quotes, escaped. -/
def quotedBytes (bs : List UInt8) : String :=
  String.ofList ('"' :: quotedParts bs.length bs ++ ['"'])

end Utf8

end QuoteKeeper
