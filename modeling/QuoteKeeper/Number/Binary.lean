import QuoteKeeper.Number.Decimal
/-
  QuoteKeeper.Number.Binary — binary64 floats to and from exact decimals.

  A finite float is `m · 2^e` with `m < 2^53`. Reading a fraction rounds to the nearest such
  value, a tie going to the even `m` (`ofRatio`); values past the largest finite float become
  infinite and values below half the least subnormal become zero. Writing a float picks, among
  the decimals with the fewest significant digits that read back to it, the nearest one
  (`shortest`): every decimal strictly inside the float's rounding interval reads back to it,
  and the interval's ends do exactly when `m` is even.

  Decimal texts of floats follow one layout (`FloatLayout`): positional notation, except
  below `1e-6` or from `1e21` on, where one digit, a point if more follow, and a signed
  exponent are written.
-/

namespace QuoteKeeper

namespace Binary

/-- Least subnormal exponent and the mantissa width of binary64. -/
def minExp : Int := -1074
def mantBits : Nat := 52

/-- `2^k` for an integer `k ≥ 0` read as a natural number. -/
def pow2 (k : Int) : Nat := Nat.pow 2 k.toNat

/-- The float with sign, a mantissa `q < 2^53` and exponent `e` (value `q · 2^e`), where
`q ≥ 2^52` or `e = minExp`. Exponents past the top give infinity. -/
def assemble (neg : Bool) (q : Nat) (e : Int) : Float :=
  let sign : UInt64 := if neg then 0x8000000000000000 else 0
  if q = 0 then Float.ofBits sign
  else if e > 971 then Float.ofBits (sign ||| 0x7FF0000000000000)
  else if q < Nat.pow 2 mantBits then Float.ofBits (sign ||| q.toUInt64)
  else
    let field := (e + 1075).toNat
    Float.ofBits (sign ||| (field.toUInt64 <<< 52) ||| (q - Nat.pow 2 mantBits).toUInt64)

/-- The quotient and remainder of `n / (d · 2^e)`. -/
def scaledDiv (n d : Nat) (e : Int) : Nat × Nat × Nat :=
  if 0 ≤ e then
    let den := d * pow2 e
    (n / den, n % den, den)
  else
    let num := n * pow2 (-e)
    (num / d, num % d, d)

/-- The exponent `e` with `2^52 ≤ n / (d · 2^e) < 2^53`, or `minExp` when that is larger. -/
def normalExp (n d : Nat) : Int :=
  let guess : Int := (Nat.log2 n : Int) - (Nat.log2 d : Int) - 52
  let q := (scaledDiv n d guess).1
  let e := if q ≥ Nat.pow 2 53 then guess + 1 else if q < Nat.pow 2 52 then guess - 1 else guess
  max e minExp

/-- The nearest float to `n / d` (`d > 0`), a tie going to the even mantissa. -/
def ofRatio (neg : Bool) (n d : Nat) : Float :=
  if n = 0 ∨ d = 0 then assemble neg 0 0
  else
    let e := normalExp n d
    let (q, r, den) := scaledDiv n d e
    let up := 2 * r > den ∨ (2 * r = den ∧ q % 2 = 1)
    let q := if up then q + 1 else q
    if q = Nat.pow 2 53 then assemble neg (Nat.pow 2 52) (e + 1) else assemble neg q e

/-- The finite float `x` as a sign, mantissa and exponent: `x = ±m · 2^e`. -/
def decompose (x : Float) : Bool × Nat × Int :=
  let b := x.toBits
  let neg := b >>> 63 == 1
  let field := ((b >>> 52) &&& 0x7FF).toNat
  let frac := (b &&& 0xFFFFFFFFFFFFF).toNat
  if field = 0 then (neg, frac, minExp) else (neg, frac + Nat.pow 2 mantBits, (field : Int) - 1075)

/-- Whether `x` is neither infinite nor NaN. -/
def isFinite (x : Float) : Bool := ((x.toBits >>> 52) &&& 0x7FF) != 0x7FF

/-- The integer part of a finite float, rounding toward zero. -/
def truncInt (x : Float) : Int :=
  let (neg, m, e) := decompose x
  let v : Nat := if 0 ≤ e then m * pow2 e else m / pow2 (-e)
  if neg then -(v : Int) else v

/-- A float converted to a 64-bit integer by truncation; NaN, infinities and values out of
range give the least 64-bit integer, as the x86-64 conversion does. -/
def toInt64 (x : Float) : Int :=
  if !isFinite x then -(Int.pow 2 63)
  else
    let i := truncInt x
    if -(Int.pow 2 63) ≤ i ∧ i < Int.pow 2 63 then i else -(Int.pow 2 63)

/-- `a · b + c` rounded once, to the nearest float with a tie going to the even mantissa.
Finite operands are summed exactly as integers scaled by the smaller of the two exponents;
an exact zero is negative only when both terms are negative zeros. With an infinite or NaN
operand the result is that of `a * b + c`, which rounds the same way then. -/
def fusedMulAdd (a b c : Float) : Float :=
  if !(isFinite a && isFinite b && isFinite c) then a * b + c
  else
    let (na, ma, ea) := decompose a
    let (nb, mb, eb) := decompose b
    let (nc, mc, ec) := decompose c
    let ep := ea + eb
    let e := min ep ec
    let prod : Int := ((ma * mb * pow2 (ep - e) : Nat) : Int)
    let prod := if na != nb then -prod else prod
    let add : Int := ((mc * pow2 (ec - e) : Nat) : Int)
    let add := if nc then -add else add
    let s := prod + add
    if s = 0 then
      assemble (ma * mb = 0 && mc = 0 && na != nb && nc) 0 0
    else if 0 ≤ e then ofRatio (s < 0) (s.natAbs * pow2 e) 1
    else ofRatio (s < 0) s.natAbs (pow2 (-e))

/-- Compares `a · 2^p` with `c · 10^k`. -/
def cmpScaled (a : Nat) (p : Int) (c : Nat) (k : Int) : Ordering :=
  compare (a * pow2 p * Nat.pow 10 (-k).toNat) (c * Nat.pow 10 k.toNat * pow2 (-p))

/-- The exponent `t` with `10^t ≤ m · 2^e < 10^(t+1)`, for `m > 0`. -/
def decimalExp (m : Nat) (e : Int) : Int :=
  let guess : Int := (((Nat.log2 m : Int) + e) * 30103).fdiv 100000
  let fix (t : Int) : Int :=
    if cmpScaled m e 1 t == .lt then t - 1
    else if cmpScaled m e 1 (t + 1) != .lt then t + 1 else t
  fix (fix (fix guess))

/-- Among decimals with `n` significant digits, those next to `m · 2^e` that read back to it
(scaled interval `[lo, hi]` in units of `2^(e-2)`, ends included when `incl`); the nearer of
two, a tie going to the even one. -/
def candidate (m : Nat) (e : Int) (lo hi : Nat) (incl : Bool) (t : Int) (n : Nat) :
    Option (Nat × Int) :=
  let k := t - n + 1
  let num := m * pow2 e * Nat.pow 10 (-k).toNat
  let den := pow2 (-e) * Nat.pow 10 k.toNat
  let c := num / den
  let r := num % den
  let inside (c : Nat) : Bool :=
    let a := cmpScaled lo (e - 2) c k
    let b := cmpScaled hi (e - 2) c k
    (if incl then a != .gt else a == .lt) && (if incl then b != .lt else b == .gt)
  match inside c, inside (c + 1) with
  | true, true =>
    if 2 * r < den then some (c, k)
    else if 2 * r > den then some (c + 1, k)
    else if c % 2 = 0 then some (c, k) else some (c + 1, k)
  | true, false => some (c, k)
  | false, true => some (c + 1, k)
  | false, false => none

/-- The first digit count from 1 to 17 that has a candidate. -/
def firstCandidate (m : Nat) (e : Int) (lo hi : Nat) (incl : Bool) (t : Int) :
    List Nat → Nat × Int
  | [] => (m, e)
  | n :: ns =>
    match candidate m e lo hi incl t n with
    | some r => r
    | none => firstCandidate m e lo hi incl t ns

end Binary

open Binary in
/-- The decimal with the fewest significant digits that reads back to the finite float `x`;
of two such, the nearer. Zero gives zero. -/
def Float.shortest (x : Float) : Decimal :=
  let (neg, m, e) := decompose x
  if m = 0 then Decimal.zero
  else
    let lowerHalf := m = Nat.pow 2 mantBits ∧ e > minExp
    let lo := if lowerHalf then 4 * m - 1 else 4 * m - 2
    let hi := 4 * m + 2
    let (c, k) := firstCandidate m e lo hi (m % 2 == 0) (decimalExp m e) (List.range' 1 17)
    ⟨if neg then -(c : Int) else c, k⟩

/-- The nearest float to a decimal, a tie going to the even mantissa. -/
def Decimal.toFloat (d : Decimal) : Float :=
  let neg := d.coef < 0
  let c := d.coef.natAbs
  if c = 0 then 0.0
  else if d.exp > 400 then Binary.assemble neg (Nat.pow 2 52) 1000
  else if d.exp + (digitCount c : Int) < -400 then Binary.assemble neg 0 0
  else if 0 ≤ d.exp then Binary.ofRatio neg (c * Nat.pow 10 d.exp.toNat) 1
  else Binary.ofRatio neg c (Nat.pow 10 (-d.exp).toNat)

/-- Which floats are written positionally, and how the exponent is marked otherwise. -/
structure FloatLayout where
  /-- Smallest magnitude written positionally, as a power of ten. -/
  lowPow : Int
  /-- First magnitude written with an exponent, as a power of ten. -/
  highPow : Int
  /-- Least number of exponent digits. -/
  expDigits : Nat

/-- Floats in JSON documents: positional from `1e-6` up to `1e21`, exponents as `e-7`,
`e+21`. -/
def FloatLayout.json : FloatLayout := ⟨-6, 21, 1⟩

/-- The text of a decimal in a layout: the significant digits with the point placed by the
exponent, or one digit, the rest after a point, and `e` with a signed exponent. -/
def Decimal.layoutText (L : FloatLayout) (d : Decimal) : String :=
  if d.coef = 0 then "0"
  else
    let ds := (Nat.toDigits 10 d.coef.natAbs)
    let zeros := (ds.reverse.takeWhile (· == '0')).length
    let ds := ds.take (ds.length - zeros)
    let k := d.exp + zeros
    let lead := k + ds.length - 1
    let sign := if d.coef < 0 then "-" else ""
    if lead < L.lowPow ∨ lead ≥ L.highPow then
      let rest := ds.drop 1
      let mant := String.ofList (ds.take 1 ++ (if rest.isEmpty then [] else '.' :: rest))
      let ed := Nat.toDigits 10 lead.natAbs
      let ed := List.replicate (L.expDigits - ed.length) '0' ++ ed
      sign ++ mant ++ "e" ++ (if lead < 0 then "-" else "+") ++ String.ofList ed
    else sign ++ (Decimal.mk d.coef.natAbs d.exp).toString

/-- A finite float's shortest text in a layout. -/
def Float.layoutText (L : FloatLayout) (x : Float) : String :=
  (Float.shortest x).layoutText L

end QuoteKeeper
