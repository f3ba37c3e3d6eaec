import QuoteKeeper.Text.Json
import QuoteKeeper.Failure
import QuoteKeeper.Text.Quoted
/-
  QuoteKeeper.Price.Basic — fixed-point prices: an integer at a decimal scale.

  A set price `set v s` stands for `v · 10^-s`. The unset price stands for "no value"; in
  sums and comparisons it counts as zero at scale 0. Moving to a larger scale multiplies
  exactly; moving to a smaller one divides by a power of ten, rounding toward zero. Sums and
  comparisons first move both sides to the larger of the two scales, so they are exact as long
  as scales lie within 2^63 of each other: scales are 64-bit integers and so is the difference
  taken between two of them, which wraps past that range, and a power of ten of a difference
  that is not positive is 1.
  `mulDiv` multiplies then divides, rounding toward zero, and keeps the scale. A price's
  decimal form, which its text is written from, carries the exponent `-scale` in 32 bits, and
  reading a decimal at a scale shifts it by that scale in 32 bits: both wrap outside that range.

  The integer operations underneath (`scaleInt`, `invertInt`, `mulDivInt`) take missing
  integers as `none`: dividing by a missing or zero divisor is the `divideByZero` error, and
  multiplying a missing integer is a panic.
-/

namespace QuoteKeeper

/-- Decimal places of token amounts, of prices, and of basis points. -/
def tokenScale : Int := 18
def priceScale : Int := 36
def bpsScale : Int := 4

/-- `10^n` for `n > 0`, and `1` otherwise. -/
def pow10 (n : Int) : Int := if n ≤ 0 then 1 else Int.pow 10 n.toNat

/-- `b - a` as scales subtract: in 64 bits, so a difference past the signed 64-bit range
wraps. -/
def scaleGap (a b : Int) : Int := (Int64.ofInt (b - a)).toInt

/-- An integer moved from scale `a` to scale `b`: multiplied up by `10^(b - a)`, or divided down
by `10^(a - b)` rounding toward zero, the difference taken in 64 bits. A difference that wraps
to a number that is not positive moves by `10^0`. -/
def scaleInt (v : Int) (a b : Int) : Int :=
  if b > a then v * pow10 (scaleGap a b) else if b < a then v.tdiv (pow10 (scaleGap b a)) else v

/-- `10^digits / rate`, rounding toward zero. -/
def invertInt (rate : Option Int) (digits : Int) : Outcome Int :=
  match rate with
  | some r => if r = 0 then .error (Failure.of .divideByZero) else .ok ((pow10 digits).tdiv r)
  | none => .error (Failure.of .divideByZero)

/-- `a · b / c`, rounding toward zero. -/
def mulDivInt (a b c : Option Int) : Outcome Int :=
  match c with
  | none => .error (Failure.of .divideByZero)
  | some c =>
    if c = 0 then .error (Failure.of .divideByZero)
    else match a, b with
      | some a, some b => .ok ((a * b).tdiv c)
      | _, _ => .error Failure.nilDeref

/-- A fixed-point price: `set v s` is `v · 10^-s`. -/
inductive Price where
  | unset
  | set (v : Int) (scale : Int)
  deriving DecidableEq, Repr, Inhabited

namespace Price

def valid : Price → Bool
  | .unset => false
  | .set _ _ => true

def scale : Price → Int
  | .unset => 0
  | .set _ s => s

/-- The integer, or `none` when unset. -/
def int? : Price → Option Int
  | .unset => none
  | .set v _ => some v

/-- The integer, zero when unset. -/
def intD (p : Price) : Int := p.int?.getD 0

def sign (p : Price) : Int := Int.sign p.intD

def isZero (p : Price) : Bool := p.intD == 0

/-- `1` at scale `s`. -/
def one (s : Int) : Price := .set (pow10 s) s

def rescale (p : Price) (target : Int) : Price :=
  match p with
  | .unset => .unset
  | .set v s => .set (scaleInt v s target) target

/-- Both integers at the larger scale, unset counting as zero. -/
def align (p q : Price) : Int × Int × Int :=
  let s := max p.scale q.scale
  (scaleInt p.intD p.scale s, scaleInt q.intD q.scale s, s)

def add (p q : Price) : Price := let (x, y, s) := align p q; .set (x + y) s

def sub (p q : Price) : Price := let (x, y, s) := align p q; .set (x - y) s

def absDiff (p q : Price) : Price := let (x, y, s) := align p q; .set (x - y).natAbs s

def cmp (p q : Price) : Ordering := let (x, y, _) := align p q; compare x y

def lt (p q : Price) : Bool := p.cmp q == .lt

/-- Both unset, or both set with one value. -/
def equal (p q : Price) : Bool :=
  match p, q with
  | .unset, .unset => true
  | .set _ _, .set _ _ => p.cmp q == .eq
  | _, _ => false

/-- `p · num / den` at `p`'s scale. -/
def mulDiv (p : Price) (num den : Option Int) : Outcome Price :=
  (mulDivInt p.int? num den).map fun v => .set v p.scale

/-- `p / q` at `p`'s scale. -/
def div (p q : Price) : Outcome Price :=
  if q.sign = 0 then .error (Failure.of .divideByZero) else p.mulDiv (some (pow10 q.scale)) q.int?

/-- The decimal value, its exponent `-scale` kept in 32 bits; zero when unset. -/
def toDecimal : Price → Decimal
  | .unset => Decimal.zero
  | .set v s => ⟨v, Decimal.wrapExp (-s)⟩

/-- The nearest float, for logs and metrics only. -/
def toFloat (p : Price) : Float := p.toDecimal.toFloat

/-- The decimal text, or `<unset>`. -/
def toString : Price → String
  | .unset => "<unset>"
  | p => p.toDecimal.toString

instance : ToString Price := ⟨toString⟩

/-- A decimal truncated toward zero to `s` places. -/
def ofDecimal (d : Decimal) (s : Int) : Price := .set (d.shift s).trunc s

/-- A number of basis points as a fraction at scale `s`: `5` bps at 36 is `5 · 10^32`. -/
def ofBps (bps : Decimal) (s : Int) : Price := .set (bps.shift (s - bpsScale)).trunc s

/-- Reads decimal text, truncating digits past scale `s`. -/
def parse (text : String) (s : Int) : Outcome Price :=
  match Decimal.ofString? text with
  | .ok d => .ok (ofDecimal d s)
  | .error e => .error (.plain ("parse price " ++ Text.quoted text ++ ": " ++ e.message))

/-- `null` when unset, else the integer as a string, the scale and the decimal text. -/
def toJson : Price → Json
  | .unset => .null
  | p@(.set v s) => .obj [("v", .str (intText v)), ("s", Json.ofInt s), ("d", .str p.toString)]

end Price

end QuoteKeeper
