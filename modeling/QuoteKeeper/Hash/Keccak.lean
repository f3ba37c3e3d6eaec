/-
  QuoteKeeper.Hash.Keccak — the Keccak-256 hash (the permutation Keccak-f[1600] in a sponge
  of rate 1088 bits, with the original pad10*1 padding that starts with the byte 0x01).

  The state is 25 lanes of 64 bits, lane `x + 5y` for column `x` and row `y`. A round is
  θ (each lane takes the parity of two neighbouring columns), ρ and π (each lane rotates by its
  offset and moves to row `2x + 3y`), χ (each bit mixes with the next two lanes of its row)
  and ι (a round constant enters lane 0). Bytes enter and leave lanes little-endian.
-/

namespace QuoteKeeper

namespace Keccak

/-- Rotation offsets, by lane `x + 5y`. -/
def rotations : Array UInt64 :=
  #[0, 1, 62, 28, 27, 36, 44, 6, 55, 20, 3, 10, 43, 25, 39, 41, 45, 15, 21, 8, 18, 2, 61, 56, 14]

def roundConstants : List UInt64 :=
  [0x0000000000000001, 0x0000000000008082, 0x800000000000808A, 0x8000000080008000,
   0x000000000000808B, 0x0000000080000001, 0x8000000080008081, 0x8000000000008009,
   0x000000000000008A, 0x0000000000000088, 0x0000000080008009, 0x000000008000000A,
   0x000000008000808B, 0x800000000000008B, 0x8000000000008089, 0x8000000000008003,
   0x8000000000008002, 0x8000000000000080, 0x000000000000800A, 0x800000008000000A,
   0x8000000080008081, 0x8000000000008080, 0x0000000080000001, 0x8000000080008008]

def rotl (v : UInt64) (n : UInt64) : UInt64 :=
  if n = 0 then v else (v <<< n) ||| (v >>> (64 - n))

abbrev State := Array UInt64

def lane (a : State) (x y : Nat) : UInt64 := a.getD (x % 5 + 5 * (y % 5)) 0

def theta (a : State) : State :=
  let c : Array UInt64 := (Array.range 5).map fun x =>
    lane a x 0 ^^^ lane a x 1 ^^^ lane a x 2 ^^^ lane a x 3 ^^^ lane a x 4
  let d : Array UInt64 := (Array.range 5).map fun x =>
    c.getD ((x + 4) % 5) 0 ^^^ rotl (c.getD ((x + 1) % 5) 0) 1
  (Array.range 25).map fun i => a.getD i 0 ^^^ d.getD (i % 5) 0

/-- ρ and π: lane `(x, y)` rotated lands at `(y, 2x + 3y)`. -/
def rhoPi (a : State) : State :=
  (Array.range 25).map fun i =>
    -- the lane at (X, Y) came from (x, y) with X = y and Y = 2x + 3y
    let X := i % 5
    let Y := i / 5
    let y := X
    let x := (Y + 5 * 5 - 3 * y) * 3 % 5
    rotl (lane a x y) (rotations.getD (x + 5 * y) 0)

def chi (b : State) : State :=
  (Array.range 25).map fun i =>
    let x := i % 5
    let y := i / 5
    lane b x y ^^^ ((~~~ lane b (x + 1) y) &&& lane b (x + 2) y)

def round (a : State) (rc : UInt64) : State :=
  let b := chi (rhoPi (theta a))
  b.set! 0 (b.getD 0 0 ^^^ rc)

def permute (a : State) : State := roundConstants.foldl round a

/-- Eight little-endian bytes as a lane. -/
def laneOfBytes (bs : List UInt8) : UInt64 :=
  (bs.zip (List.range 8)).foldl (fun acc (b, i) => acc ||| (b.toUInt64 <<< (8 * i).toUInt64)) 0

def bytesOfLane (v : UInt64) : List UInt8 :=
  (List.range 8).map fun i => (v >>> (8 * i).toUInt64).toUInt8

/-- Bytes per block. -/
def rate : Nat := 136

/-- The message padded to whole blocks: `0x01`, zeros, and a final `0x80` bit. -/
def pad (msg : List UInt8) : List UInt8 :=
  let k := rate - msg.length % rate
  if k = 1 then msg ++ [0x81]
  else msg ++ [0x01] ++ List.replicate (k - 2) 0 ++ [0x80]

def absorbBlock (s : State) (block : List UInt8) : State :=
  let lanes := (List.range 17).map fun i => laneOfBytes ((block.drop (8 * i)).take 8)
  permute ((Array.range 25).map fun i => s.getD i 0 ^^^ lanes.getD i 0)

/-- Absorbs `n` blocks of `msg`. -/
def absorb (s : State) : Nat → List UInt8 → State
  | 0, _ => s
  | n + 1, msg => absorb (absorbBlock s (msg.take rate)) n (msg.drop rate)

end Keccak

/-- The 32-byte Keccak-256 digest. -/
def keccak256 (msg : List UInt8) : List UInt8 :=
  let padded := Keccak.pad msg
  let s := Keccak.absorb (Array.replicate 25 0) (padded.length / Keccak.rate) padded
  (List.range 4).flatMap fun i => Keccak.bytesOfLane (s.getD i 0)

end QuoteKeeper
