import QuoteKeeper.Hash.Sha256
import QuoteKeeper.Text.Hex
/-
  QuoteKeeper.Chain.Secp256k1 — signatures on the curve y² = x³ + 7 over the prime field of
  order `p`, with the base point `G` of prime order `n`.

  (1) Points are kept in Jacobian coordinates `(X, Y, Z)`, standing for `(X/Z², Y/Z³)`, with
  `Z = 0` the point at infinity; a multiple `k·P` is found by doubling and adding along the bits
  of `k`, most significant first.
  (2) Nonces are deterministic (RFC 6979 with HMAC-SHA-256): a generator is seeded with the key
  and the digest reduced modulo `n`, each 32 bytes, and its outputs are tried in turn until one
  is a scalar in `1 … n-1` that gives a signature.
  (3) A signature of a digest `z` with key `d` and nonce `k` is `r = x(k·G) mod n` and
  `s = k⁻¹ (z + r d) mod n`, both non-zero. Of `s` and `n - s` the lower is kept; the recovery
  bit is the parity of `y(k·G)`, flipped when `s` was, plus two when `x(k·G) ≥ n`.
-/

namespace QuoteKeeper

namespace Secp256k1

def p : Nat := 0xFFFFFFFFFFFFFFFFFFFFFFFFFFFFFFFFFFFFFFFFFFFFFFFFFFFFFFFEFFFFFC2F

def n : Nat := 0xFFFFFFFFFFFFFFFFFFFFFFFFFFFFFFFEBAAEDCE6AF48A03BBFD25E8CD0364141

def gx : Nat := 0x79BE667EF9DCBBAC55A06295CE870B07029BFCDB2DCE28D959F2815B16F81798

def gy : Nat := 0x483ADA7726A3C4655DA4FBFC0E1108A8FD17B448A68554199C47D08FFB10D4B8

/-- `b ^ e mod m`, by squaring along the bits of `e`. -/
def powMod (b e m : Nat) : Nat :=
  (Nat.toDigits 2 e).foldl (fun acc d => let sq := acc * acc % m; if d = '1' then sq * b % m else sq) (1 % m)

/-- The inverse modulo a prime, by Fermat's little theorem. -/
def inv (a m : Nat) : Nat := powMod a (m - 2) m

def sub (a b : Nat) : Nat := (a + p - b % p) % p

/-- A point in Jacobian coordinates. -/
structure Point where
  x : Nat
  y : Nat
  z : Nat
  deriving DecidableEq, Repr, Inhabited

namespace Point

def infinity : Point := ⟨1, 1, 0⟩

def base : Point := ⟨gx, gy, 1⟩

def double (P : Point) : Point :=
  if P.z = 0 ∨ P.y = 0 then infinity
  else
    let yy := P.y * P.y % p
    let s := 4 * P.x * yy % p
    let m := 3 * P.x * P.x % p
    let x' := sub (m * m % p) (2 * s % p)
    let y' := sub (m * sub s x' % p) (8 * yy * yy % p)
    ⟨x', y', 2 * P.y * P.z % p⟩

def add (P Q : Point) : Point :=
  if P.z = 0 then Q
  else if Q.z = 0 then P
  else
    let z1z1 := P.z * P.z % p
    let z2z2 := Q.z * Q.z % p
    let u1 := P.x * z2z2 % p
    let u2 := Q.x * z1z1 % p
    let s1 := P.y * Q.z % p * z2z2 % p
    let s2 := Q.y * P.z % p * z1z1 % p
    if u1 = u2 then (if s1 = s2 then double P else infinity)
    else
      let h := sub u2 u1
      let r := sub s2 s1
      let hh := h * h % p
      let hhh := h * hh % p
      let v := u1 * hh % p
      let x3 := sub (sub (r * r % p) hhh) (2 * v % p)
      let y3 := sub (r * sub v x3 % p) (s1 * hhh % p)
      ⟨x3, y3, P.z * Q.z % p * h % p⟩

/-- `k·P`, doubling and adding along the bits of `k`. -/
def mul (k : Nat) (P : Point) : Point :=
  (Nat.toDigits 2 k).foldl (fun acc d => let d2 := double acc; if d = '1' then add d2 P else d2) infinity

/-- Affine coordinates, unless the point is at infinity. -/
def affine (P : Point) : Option (Nat × Nat) :=
  if P.z = 0 then none
  else
    let zi := inv P.z p
    let zi2 := zi * zi % p
    some (P.x * zi2 % p, P.y * zi2 % p * zi % p)

end Point

/-! ## Deterministic nonces -/

/-- The generator's state: its key and value. -/
structure Drbg where
  k : List UInt8
  v : List UInt8

def Drbg.seed (material : List UInt8) : Drbg :=
  let v0 := List.replicate 32 (0x01 : UInt8)
  let k0 := List.replicate 32 (0x00 : UInt8)
  let k1 := hmacSha256 k0 (v0 ++ [0x00] ++ material)
  let v1 := hmacSha256 k1 v0
  let k2 := hmacSha256 k1 (v1 ++ [0x01] ++ material)
  ⟨k2, hmacSha256 k2 v1⟩

/-- The next 32 bytes; after the first, the state is stirred before each. -/
def Drbg.next (g : Drbg) (first : Bool) : List UInt8 × Drbg :=
  let g := if first then g else
    let k := hmacSha256 g.k (g.v ++ [0x00])
    ⟨k, hmacSha256 k g.v⟩
  let v := hmacSha256 g.k g.v
  (v, ⟨g.k, v⟩)

/-- The first `count` nonce candidates for a key and a digest. -/
def nonces (key digest : Nat) (count : Nat) : List Nat :=
  let material := Hex.bytesOfNat 32 key ++ Hex.bytesOfNat 32 (digest % n)
  let rec go : Nat → Bool → Drbg → List Nat
    | 0, _, _ => []
    | c + 1, first, g =>
      let (out, g') := g.next first
      Hex.natOfBytes out :: go c false g'
  go count true (Drbg.seed material)

/-! ## Signing -/

/-- A signature: recovery bit, `r` and `s`. -/
structure Signature where
  recId : Nat
  r : Nat
  s : Nat
  deriving DecidableEq, Repr, Inhabited

/-- The signature with nonce `k`, if it gives one. -/
def signWith (digest key k : Nat) : Option Signature :=
  if k = 0 ∨ k ≥ n then none
  else
    match (Point.mul k Point.base).affine with
    | none => none
    | some (x, y) =>
      let r := x % n
      let s := inv k n * ((digest % n + r * key) % n) % n
      if r = 0 ∨ s = 0 then none
      else
        let rec0 := y % 2 + (if x ≥ n then 2 else 0)
        if s > n / 2 then some ⟨Nat.xor rec0 1, r, n - s⟩ else some ⟨rec0, r, s⟩

/-- The signature of a 32-byte digest under a key, with the first nonce that gives one. -/
def sign (digest : List UInt8) (key : Nat) : Option Signature :=
  let z := Hex.natOfBytes digest
  (nonces key z 4).findSome? (signWith z key)

/-- The public point of a key, in affine coordinates. -/
def publicPoint (key : Nat) : Option (Nat × Nat) := (Point.mul key Point.base).affine

end Secp256k1

end QuoteKeeper
