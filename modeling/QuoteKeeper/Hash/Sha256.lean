/-
  QuoteKeeper.Hash.Sha256 — the SHA-256 hash and HMAC over it.

  The message is padded with the byte 0x80, zeros up to 56 bytes modulo 64, and its length in
  bits as a 64-bit big-endian number. Each 64-byte block is read as sixteen big-endian words,
  extended to a schedule of sixty-four by the σ₀/σ₁ recurrence, and compressed into the eight
  chaining words by sixty-four rounds of Σ₁, Ch, Σ₀ and Maj with the round constants. The digest
  is the chaining words, big-endian.

  HMAC pads a key of at most 64 bytes (a longer one is hashed first) with zeros to 64 bytes and
  hashes `(key ⊕ 0x5c…) ++ H((key ⊕ 0x36…) ++ message)`.
-/

namespace QuoteKeeper

namespace Sha256

def roundConstants : List UInt32 :=
  [0x428a2f98, 0x71374491, 0xb5c0fbcf, 0xe9b5dba5, 0x3956c25b, 0x59f111f1, 0x923f82a4, 0xab1c5ed5,
   0xd807aa98, 0x12835b01, 0x243185be, 0x550c7dc3, 0x72be5d74, 0x80deb1fe, 0x9bdc06a7, 0xc19bf174,
   0xe49b69c1, 0xefbe4786, 0x0fc19dc6, 0x240ca1cc, 0x2de92c6f, 0x4a7484aa, 0x5cb0a9dc, 0x76f988da,
   0x983e5152, 0xa831c66d, 0xb00327c8, 0xbf597fc7, 0xc6e00bf3, 0xd5a79147, 0x06ca6351, 0x14292967,
   0x27b70a85, 0x2e1b2138, 0x4d2c6dfc, 0x53380d13, 0x650a7354, 0x766a0abb, 0x81c2c92e, 0x92722c85,
   0xa2bfe8a1, 0xa81a664b, 0xc24b8b70, 0xc76c51a3, 0xd192e819, 0xd6990624, 0xf40e3585, 0x106aa070,
   0x19a4c116, 0x1e376c08, 0x2748774c, 0x34b0bcb5, 0x391c0cb3, 0x4ed8aa4a, 0x5b9cca4f, 0x682e6ff3,
   0x748f82ee, 0x78a5636f, 0x84c87814, 0x8cc70208, 0x90befffa, 0xa4506ceb, 0xbef9a3f7, 0xc67178f2]

def initial : List UInt32 :=
  [0x6a09e667, 0xbb67ae85, 0x3c6ef372, 0xa54ff53a, 0x510e527f, 0x9b05688c, 0x1f83d9ab, 0x5be0cd19]

def rotr (x : UInt32) (n : UInt32) : UInt32 := (x >>> n) ||| (x <<< (32 - n))

def bigSigma0 (x : UInt32) : UInt32 := rotr x 2 ^^^ rotr x 13 ^^^ rotr x 22
def bigSigma1 (x : UInt32) : UInt32 := rotr x 6 ^^^ rotr x 11 ^^^ rotr x 25
def smallSigma0 (x : UInt32) : UInt32 := rotr x 7 ^^^ rotr x 18 ^^^ (x >>> 3)
def smallSigma1 (x : UInt32) : UInt32 := rotr x 17 ^^^ rotr x 19 ^^^ (x >>> 10)

/-- Big-endian words of a block. -/
def words : List UInt8 → List UInt32
  | a :: b :: c :: d :: rest =>
    ((a.toUInt32 <<< 24) ||| (b.toUInt32 <<< 16) ||| (c.toUInt32 <<< 8) ||| d.toUInt32) :: words rest
  | _ => []

def wordBytes (w : UInt32) : List UInt8 :=
  [(w >>> 24).toUInt8, (w >>> 16).toUInt8, (w >>> 8).toUInt8, w.toUInt8]

/-- The schedule: sixteen words extended to sixty-four. -/
def schedule (ws : Array UInt32) : Array UInt32 :=
  (List.range 48).foldl (fun (w : Array UInt32) i =>
    let t := i + 16
    w.push (smallSigma1 (w.getD (t - 2) 0) + w.getD (t - 7) 0 + smallSigma0 (w.getD (t - 15) 0) +
      w.getD (t - 16) 0)) ws

/-- One round on the working words `a … h`. -/
def round (s : List UInt32) (kw : UInt32 × UInt32) : List UInt32 :=
  match s with
  | [a, b, c, d, e, f, g, h] =>
    let t1 := h + bigSigma1 e + ((e &&& f) ^^^ ((~~~ e) &&& g)) + kw.1 + kw.2
    let t2 := bigSigma0 a + ((a &&& b) ^^^ (a &&& c) ^^^ (b &&& c))
    [t1 + t2, a, b, c, d + t1, e, f, g]
  | other => other

def compress (state : List UInt32) (block : List UInt8) : List UInt32 :=
  let w := schedule (words block).toArray
  let out := (roundConstants.zip w.toList).foldl round state
  (state.zip out).map fun (x, y) => x + y

def pad (msg : List UInt8) : List UInt8 :=
  let len := msg.length
  let zeros := (119 - len % 64) % 64
  let bits := len * 8
  msg ++ [0x80] ++ List.replicate zeros 0 ++ (List.range 8).reverse.map fun i => (bits / Nat.pow 2 (8 * i)).toUInt8

/-- Compresses the blocks of a padded message. -/
def absorb (state : List UInt32) : Nat → List UInt8 → List UInt32
  | 0, _ => state
  | n + 1, bs => if bs.isEmpty then state else absorb (compress state (bs.take 64)) n (bs.drop 64)

end Sha256

/-- The SHA-256 digest of a byte string. -/
def sha256 (msg : List UInt8) : List UInt8 :=
  let padded := Sha256.pad msg
  (Sha256.absorb Sha256.initial (padded.length / 64) padded).flatMap Sha256.wordBytes

/-- HMAC-SHA-256 of a message under a key. -/
def hmacSha256 (key msg : List UInt8) : List UInt8 :=
  let k := if key.length > 64 then sha256 key else key
  let k := k ++ List.replicate (64 - k.length) 0
  sha256 (k.map (· ^^^ 0x5c) ++ sha256 (k.map (· ^^^ 0x36) ++ msg))

end QuoteKeeper
