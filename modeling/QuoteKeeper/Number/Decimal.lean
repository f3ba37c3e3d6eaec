/-
  QuoteKeeper.Number.Decimal — exact decimal numbers `coef · 10^exp` and their text.

  A decimal keeps the exponent it was written with: `1.50` is `150 · 10^-2`. Sums align both
  sides to the smaller exponent, so addition, subtraction and multiplication are exact, and
  `shift` moves the exponent alone. The exponent is a 32-bit integer: a shift adds in 32 bits
  and wraps (`wrapExp`). `trunc` is the integer part, rounded toward zero.

  Reading (`ofString?`) accepts an optional sign, ASCII digits with at most one point and at
  least one digit, and an optional exponent `e`/`E` followed by a signed integer that fits in
  32 bits. It refuses every other text with a message naming it (`ReadError.message`).
  Writing (`toString`) is positional notation with no exponent and no trailing fractional
  zero, `0` for zero, and a minus sign only on a nonzero value.

  Statements here: `trunc_ofInt`, `wrapExp_add_wrapExp`, `shift_shift`.
-/

namespace QuoteKeeper

/-- The value of one ASCII decimal digit. -/
def digitValue? (c : Char) : Option Nat :=
  if '0' ≤ c ∧ c ≤ '9' then some (c.toNat - '0'.toNat) else none

/-- A nonempty run of ASCII digits, read as a natural number. -/
def natOfDigits? : List Char → Option Nat
  | [] => none
  | cs => cs.foldlM (fun acc d => (digitValue? d).map (acc * 10 + ·)) 0

/-- An optional `+` or `-` and a nonempty run of ASCII digits. -/
def intOfText? : List Char → Option Int
  | '+' :: r => (natOfDigits? r).map Int.ofNat
  | '-' :: r => (natOfDigits? r).map (fun n => -(n : Int))
  | r => (natOfDigits? r).map Int.ofNat

/-- The decimal digits of a natural number, most significant first. -/
def natText (n : Nat) : String := String.ofList (Nat.toDigits 10 n)

/-- An integer in decimal, with `-` before a negative one. -/
def intText (i : Int) : String :=
  if i < 0 then "-" ++ natText i.natAbs else natText i.natAbs

/-- The number of decimal digits of `n` (one for zero). -/
def digitCount (n : Nat) : Nat := (Nat.toDigits 10 n).length

/-- An exact decimal number: `coef · 10^exp`. -/
structure Decimal where
  coef : Int
  exp : Int
  deriving DecidableEq, Repr, Inhabited

namespace Decimal

def zero : Decimal := ⟨0, 0⟩

def ofInt (i : Int) : Decimal := ⟨i, 0⟩

/-- The signed 32-bit integer with the same low 32 bits, as an exponent is kept. -/
def wrapExp (e : Int) : Int :=
  let m := e % 4294967296
  if m ≥ 2147483648 then m - 4294967296 else m

/-- Multiplies by `10^n`: only the exponent moves, added in 32 bits. -/
def shift (d : Decimal) (n : Int) : Decimal := ⟨d.coef, wrapExp (d.exp + n)⟩

/-- The coefficient that writes `d` with exponent `e`, exact when `e ≤ d.exp`. -/
def coefAt (d : Decimal) (e : Int) : Int := d.coef * Int.pow 10 (d.exp - e).toNat

def add (a b : Decimal) : Decimal :=
  let e := min a.exp b.exp
  ⟨a.coefAt e + b.coefAt e, e⟩

def neg (a : Decimal) : Decimal := ⟨-a.coef, a.exp⟩

def sub (a b : Decimal) : Decimal := a.add b.neg

def mul (a b : Decimal) : Decimal := ⟨a.coef * b.coef, a.exp + b.exp⟩

instance : Add Decimal := ⟨add⟩
instance : Sub Decimal := ⟨sub⟩
instance : Mul Decimal := ⟨mul⟩
instance : Neg Decimal := ⟨neg⟩

/-- Compares values, whatever the exponents. -/
def cmp (a b : Decimal) : Ordering :=
  let e := min a.exp b.exp
  compare (a.coefAt e) (b.coefAt e)

/-- `-1`, `0` or `1`. -/
def sign (d : Decimal) : Int := Int.sign d.coef

def isZero (d : Decimal) : Bool := d.coef == 0

def isNeg (d : Decimal) : Bool := d.coef < 0

def isPos (d : Decimal) : Bool := 0 < d.coef

def isNonPos (d : Decimal) : Bool := d.coef ≤ 0

/-- The integer part, rounded toward zero. -/
def trunc (d : Decimal) : Int :=
  if 0 ≤ d.exp then d.coef * Int.pow 10 d.exp.toNat else d.coef.tdiv (Int.pow 10 (-d.exp).toNat)

/-- The value as a fraction `num / den` with `den` a power of ten. -/
def num (d : Decimal) : Int := if 0 ≤ d.exp then d.coef * Int.pow 10 d.exp.toNat else d.coef

def den (d : Decimal) : Nat := if 0 ≤ d.exp then 1 else Nat.pow 10 (-d.exp).toNat

/-! ## Text -/

/-- Positional text: the digits of the coefficient with a point placed by the exponent, then
trailing fractional zeros removed; a minus sign only when the value is nonzero. -/
def toString (d : Decimal) : String :=
  if 0 ≤ d.exp then intText (d.coef * Int.pow 10 d.exp.toNat)
  else
    let ds := Nat.toDigits 10 d.coef.natAbs
    let k := (-d.exp).toNat
    let (whole, frac) :=
      if k < ds.length then (ds.take (ds.length - k), ds.drop (ds.length - k))
      else (['0'], List.replicate (k - ds.length) '0' ++ ds)
    let frac := (frac.reverse.dropWhile (· == '0')).reverse
    let body := String.ofList (if frac.isEmpty then whole else whole ++ '.' :: frac)
    if d.coef < 0 then "-" ++ body else body

instance : ToString Decimal := ⟨toString⟩

/-- Why a text is not a decimal. Each carries the text it names. -/
inductive ReadError where
  /-- No sign-and-digits coefficient. -/
  | notNumber (text : String)
  /-- A second decimal point. -/
  | manyPoints (text : String)
  /-- Text after `e` that is no signed integer. -/
  | badExponent (text : String)
  /-- An exponent outside 32 bits. -/
  | exponentRange (text : String)
  deriving DecidableEq, Repr

def ReadError.message : ReadError → String
  | .notNumber s => "can\x27t convert " ++ s ++ " to decimal"
  | .manyPoints s => "can\x27t convert " ++ s ++ " to decimal: too many .s"
  | .badExponent s => "can\x27t convert " ++ s ++ " to decimal: exponent is not numeric"
  | .exponentRange s => "can\x27t convert " ++ s ++ " to decimal: fractional part too long"

/-- Whether an exponent fits in 32 signed bits. -/
def expFits (e : Int) : Bool := -2147483648 ≤ e ∧ e ≤ 2147483647

/-- Splits off the exponent after the first `e` or `E`. -/
def splitExponent (s : String) (cs : List Char) : Except ReadError (List Char × Int) :=
  match cs.findIdx? (fun c => c == 'e' || c == 'E') with
  | none => .ok (cs, 0)
  | some i =>
    match intOfText? (cs.drop (i + 1)) with
    | none => .error (.badExponent s)
    | some x => if expFits x then .ok (cs.take i, x) else .error (.exponentRange s)

/-- Reads a decimal; the exponent is the written one, less the count of fractional digits. -/
def ofString? (s : String) : Except ReadError Decimal := do
  let (mant, e0) ← splitExponent s s.toList
  let m := String.ofList mant
  if (mant.filter (· == '.')).length ≥ 2 then throw (.manyPoints m)
  let (digits, e) :=
    match mant.idxOf? '.' with
    | none => (mant, e0)
    | some p => (mant.take p ++ mant.drop (p + 1), e0 - ((mant.length - p - 1 : Nat) : Int))
  match intOfText? digits with
  | none => throw (.notNumber m)
  | some c => if expFits e then pure ⟨c, e⟩ else throw (.exponentRange s)

/-! ## Laws -/

/-- Wrapping part of a sum first changes nothing: only the low 32 bits count. -/
theorem wrapExp_add_wrapExp (x y : Int) : wrapExp (wrapExp x + y) = wrapExp (x + y) := by
  simp only [wrapExp]
  repeat' split
  all_goals omega

theorem shift_shift (d : Decimal) (a b : Int) : (d.shift a).shift b = d.shift (a + b) := by
  simp only [shift, wrapExp_add_wrapExp, Int.add_assoc]

theorem trunc_ofInt (i : Int) : (ofInt i).trunc = i := by
  simp [ofInt, trunc, Int.pow]

end Decimal

end QuoteKeeper
