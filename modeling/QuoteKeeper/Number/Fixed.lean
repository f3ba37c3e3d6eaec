import QuoteKeeper.Number.Binary
/-
  QuoteKeeper.Number.Fixed — a float written with a fixed number of places.

  The exact binary value of the float is rounded to the places asked for, a tie going to the
  even last digit, and written with that many digits after the point (none and no point for
  zero places). A negative float keeps its sign even when it rounds to zero, as `-0` does;
  NaN is `NaN` and the infinities `+Inf` and `-Inf`.
-/

namespace QuoteKeeper

namespace Fixed

/-- `n / d` rounded to the nearest integer, a tie to the even one (`d > 0`). -/
def roundHalfEven (n d : Nat) : Nat :=
  let q := n / d
  let r := n % d
  if 2 * r > d ∨ (2 * r = d ∧ q % 2 = 1) then q + 1 else q

/-- A count of hundredths (or another power of ten) written with `places` digits after the
point. -/
def placed (places : Nat) (q : Nat) : String :=
  if places = 0 then natText q
  else
    let unit := Nat.pow 10 places
    let frac := natText (q % unit)
    natText (q / unit) ++ "." ++ "".pushn '0' (places - frac.length) ++ frac

end Fixed

/-- The float written with `places` digits after the point. -/
def Float.fixedText (places : Nat) (x : Float) : String :=
  if x.isNaN then "NaN"
  else if x.isInf then (if x > 0 then "+Inf" else "-Inf")
  else
    let (neg, m, e) := Binary.decompose x
    let scale := Nat.pow 10 places
    let q := if e ≥ 0 then m * Nat.pow 2 e.toNat * scale else Fixed.roundHalfEven (m * scale) (Nat.pow 2 (-e).toNat)
    (if neg then "-" else "") ++ Fixed.placed places q

end QuoteKeeper
