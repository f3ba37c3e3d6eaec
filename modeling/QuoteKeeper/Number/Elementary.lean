import QuoteKeeper.Number.Binary
/-
  QuoteKeeper.Number.Elementary — the exponential, the logarithm and powers of binary64
  floats, each a fixed sequence of rounded float operations, so that every result is
  determined to the last bit.

  * `exp` reduces `x` by `k` multiples of `ln 2`, `k` the integer nearest to `x · log2 e`
    (ties to even), subtracting the upper and lower parts of `ln 2` with one rounding each.
    The remainder `r` (`|r| ≤ ln 2 / 2`) is divided by 16; the Taylor series of `e^s − 1`
    to degree 8 is summed by Horner's rule with fused steps; `e^(2s) − 1 = (q + 2) · q` takes
    it back up three times, and the fourth doubling is fused with the final `+ 1`. The result
    is scaled by `2^k`: zero when `k < −1075`, infinite when `k ≥ 1024` or `x` is past
    `709.782712893384`. Being close to `e^x` but not always nearest, its last bit is fixed by
    these steps alone.
  * `log` splits `x` into `f · 2^k` with `f` in `[√2/2, √2)` and evaluates the usual
    polynomial in `s = (f − 1) / (f + 1)`.
  * `pow x y` handles the special values first; otherwise it splits `|y|` into whole and
    fractional parts, takes `exp(yf · log x)` for the fractional part (moved into
    `(−1/2, 1/2]`), multiplies by `x` raised to the whole part by repeated squaring of the
    binary fraction of `x` (its exponent kept apart), and inverts for negative `y`.
-/

namespace QuoteKeeper

namespace Elementary


def nan : Float := 0.0 / 0.0
def inf : Float := 1.0 / 0.0

def signbit (x : Float) : Bool := x.toBits >>> 63 == 1

/-- The whole and fractional parts of a non-negative float. -/
def modf (y : Float) : Float × Float :=
  if y < 1.0 then (0.0, y) else (y.floor, y - y.floor)

def ln2Hi : Float := 6.93147180369123816490e-01
def ln2Lo : Float := 1.90821492927058770002e-10

/-- `log2 e`, and `ln 2` split in an upper part whose products with the reduction's `k` are
exact and the lower part left over. -/
def log2e : Float := 1.4426950408889634073599246810018920
def ln2Upper : Float := 0.69314718055966295651160180568695068359375
def ln2Lower : Float := 0.28235290563031577122588448175013436025525412068e-12
/-- Past this argument the exponential is taken as infinite. -/
def expOverflow : Float := 7.09782712893384e+02

/-- The Taylor coefficients `1/n!` of `e^s − 1` from `n = 8` down to `n = 1`. -/
def taylor : List Float :=
  [2.4801587301587301587e-5, 1.9841269841269841270e-4, 1.3888888888888888889e-3,
    8.3333333333333333333e-3, 4.1666666666666666667e-2, 1.6666666666666666667e-1, 0.5, 1.0]

/-- The integer nearest to a float, a tie going to the even one; below `-2^31` it is `-2^31`,
as the 32-bit conversion gives for values it cannot hold. -/
def nearestInt (t : Float) : Int :=
  if t < -2147483648.0 then -2147483648
  else
    let f := t.floor
    let i := Binary.truncInt f
    let d := t - f
    if d > 0.5 then i + 1 else if d < 0.5 then i else if i % 2 == 0 then i else i + 1

/-- `e^s − 1` for `|s| ≤ ln 2 / 32`: the Taylor polynomial by Horner's rule, one rounding a
step, and a last product by `s`. -/
def expm1Small (s : Float) : Float :=
  (taylor.foldl (fun acc c => Binary.fusedMulAdd acc s c) 0.0) * s

/-- `e^(2s) − 1` from `q = e^s − 1`, as `(q + 2) · q`. -/
def doubled (q : Float) : Float := (q + 2.0) * q

def exp (x : Float) : Float :=
  if x.isNaN || (x.isInf && x > 0) then x
  else if x.isInf then 0.0
  else if x > expOverflow then inf
  else
    let k := nearestInt (log2e * x)
    if k < -1075 then 0.0
    else if k ≥ 1024 then inf
    else
      let kf := Float.ofInt k
      let r := Binary.fusedMulAdd (-kf) ln2Upper x
      let r := Binary.fusedMulAdd (-kf) ln2Lower r
      let q := doubled (doubled (doubled (expm1Small (r * 0.0625))))
      (Binary.fusedMulAdd q (q + 2.0) 1.0).scaleB k

def sqrt2Half : Float := 7.07106781186547524401e-01
def l1 : Float := 6.666666666666735130e-01
def l2 : Float := 3.999999999940941908e-01
def l3 : Float := 2.857142874366239149e-01
def l4 : Float := 2.222219843214978396e-01
def l5 : Float := 1.818357216161805012e-01
def l6 : Float := 1.531383769920937332e-01
def l7 : Float := 1.479819860511658591e-01

def log (x : Float) : Float :=
  if x == 0 then -inf
  else if x < 0 || x.isNaN then nan
  else if x.isInf then x
  else
    let (f1, ki) := x.frExp
    let (f1, ki) := if f1 < sqrt2Half then (f1 * 2.0, ki - 1) else (f1, ki)
    let f := f1 - 1.0
    let k := Float.ofInt ki
    let s := f / (2.0 + f)
    let s2 := s * s
    let s4 := s2 * s2
    let t1 := s2 * (l1 + s4 * (l3 + s4 * (l5 + s4 * l7)))
    let t2 := s4 * (l2 + s4 * (l4 + s4 * l6))
    let r := t1 + t2
    let hfsq := 0.5 * f * f
    k * ln2Hi - ((hfsq - (s * (hfsq + r) + k * ln2Lo)) - f)

/-- Whether `y` is an odd integer. -/
def isOddInt (y : Float) : Bool :=
  let (yi, yf) := modf y.abs
  yf == 0 && yi < 9007199254740992.0 && yi.toUInt64 % 2 == 1

/-- `(a1, ae, x1, xe)` after squaring through the bits of `i`: `a1 · 2^ae` accumulates
`x1 · 2^xe` raised to those bits. -/
def squareLoop : Nat → UInt64 → Float → Int → Float → Int → Float × Int
  | 0, _, a1, ae, _, _ => (a1, ae)
  | fuel + 1, i, a1, ae, x1, xe =>
    if i == 0 then (a1, ae)
    else if xe < -4096 ∨ 4096 < xe then (a1, ae + xe)
    else
      let (a1, ae) := if i % 2 == 1 then (a1 * x1, ae + xe) else (a1, ae)
      let x1' := x1 * x1
      let xe' := 2 * xe
      let (x1', xe') := if x1' < 0.5 then (x1' + x1', xe' - 1) else (x1', xe')
      squareLoop fuel (i >>> 1) a1 ae x1' xe'

def pow (x y : Float) : Float :=
  if y == 0 || x == 1 then 1.0
  else if y == 1 then x
  else if x.isNaN || y.isNaN then nan
  else if x == 0 then
    if y < 0 then (if signbit x && isOddInt y then -inf else inf)
    else (if signbit x && isOddInt y then x else 0.0)
  else if y.isInf then
    if x == -1 then 1.0 else if (x.abs < 1) == (y > 0) then 0.0 else inf
  else if x.isInf then
    if x < 0 then
      -- the reciprocal is a signed zero; its power follows the zero case above
      let z : Float := -0.0
      if -y < 0 then (if isOddInt (-y) then -inf else inf)
      else (if isOddInt (-y) then z else 0.0)
    else if y < 0 then 0.0 else inf
  else if y == 0.5 then x.sqrt
  else if y == -0.5 then 1.0 / x.sqrt
  else
    let (yi, yf) := modf y.abs
    if yf != 0 && x < 0 then nan
    else if yi ≥ 9223372036854775808.0 then
      if x == -1 then 1.0 else if (x.abs < 1) == (y > 0) then 0.0 else inf
    else
      let (yi, yf) := if yf > 0.5 then (yi + 1.0, yf - 1.0) else (yi, yf)
      let a1 := if yf != 0 then exp (yf * log x) else 1.0
      let (x1, xe) := x.frExp
      let (a1, ae) := squareLoop 64 yi.toUInt64 a1 0 x1 xe
      let (a1, ae) := if y < 0 then (1.0 / a1, -ae) else (a1, ae)
      a1.scaleB ae

end Elementary

end QuoteKeeper
