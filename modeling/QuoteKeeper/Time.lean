import QuoteKeeper.Number.Decimal
/-
  QuoteKeeper.Time — instants and durations in nanoseconds.

  Instants are integers of nanoseconds since the Unix epoch, and the distance between two of
  them (`since`) is held in a signed 64-bit duration: outside that range it stops at the
  nearest end. Adding a duration to an instant is exact.

  Durations are written as hours, minutes and seconds with the fraction of the second and no
  trailing zeros (`1h30m0s`, `1.5s`); under a second in the largest of ms, µs and ns that fits
  (`1.2ms`), and `0s` for zero. `roundTo` rounds to a multiple, a half going away from zero.
-/

namespace QuoteKeeper

namespace Duration

def nanosecond : Int := 1
def microsecond : Int := 1000
def millisecond : Int := 1000000
def second : Int := 1000000000
def minute : Int := 60 * second
def hour : Int := 60 * minute
def day : Int := 24 * hour

def maxValue : Int := 9223372036854775807
def minValue : Int := -9223372036854775808

/-- Stops at the ends of the signed 64-bit range. -/
def saturate (d : Int) : Int := max minValue (min maxValue d)

/-- The signed 64-bit integer with the same low 64 bits. -/
def wrap (v : Int) : Int :=
  let m := v % 18446744073709551616
  if m ≥ 9223372036854775808 then m - 18446744073709551616 else m

/-- Whole hours plus the fraction of the rest, as a float. -/
def hours (d : Int) : Float :=
  Float.ofInt (d.tdiv hour) + Float.ofInt (d.tmod hour) / 3.6e12

/-- Whole seconds plus the fraction of the rest, as a float. -/
def seconds (d : Int) : Float :=
  Float.ofInt (d.tdiv second) + Float.ofInt (d.tmod second) / 1e9

/-- The digits of `v / 10^prec` after the point, trailing zeros dropped, with the point when
any digit is left. -/
def fraction (v : Nat) (prec : Nat) : String :=
  let ds := (List.range prec).reverse.map fun i => Char.ofNat (48 + v / Nat.pow 10 i % 10)
  let ds := (ds.reverse.dropWhile (· == '0')).reverse
  if ds.isEmpty then "" else "." ++ String.ofList ds

/-- The written form of a duration. -/
def text (d : Int) : String :=
  let u := d.natAbs
  let sign := if d < 0 then "-" else ""
  let body :=
    if u = 0 then "0s"
    else if u < 1000 then natText u ++ "ns"
    else if u < 1000000 then natText (u / 1000) ++ fraction (u % 1000) 3 ++ "µs"
    else if u < 1000000000 then natText (u / 1000000) ++ fraction (u % 1000000) 6 ++ "ms"
    else
      let secs := u / 1000000000
      let frac := fraction (u % 1000000000) 9
      let mins := secs / 60
      let hrs := mins / 60
      if mins = 0 then natText secs ++ frac ++ "s"
      else if hrs = 0 then natText mins ++ "m" ++ natText (secs % 60) ++ frac ++ "s"
      else natText hrs ++ "h" ++ natText (mins % 60) ++ "m" ++ natText (secs % 60) ++ frac ++ "s"
  sign ++ body

/-- The signed 64-bit wrap leaves a number in range alone. -/
theorem wrap_of_mem {v : Int} (h1 : -9223372036854775808 ≤ v) (h2 : v < 9223372036854775808) :
    wrap v = v := by
  simp only [wrap]
  split <;> omega

/-- Rounds to a multiple of `m > 0`, a half going away from zero. -/
def roundTo (d m : Int) : Int :=
  if m ≤ 0 then d
  else
    let r := (d.tmod m).natAbs
    if d < 0 then
      if 2 * r < m.natAbs then d + r else saturate (d - m + r)
    else
      if 2 * r < m.natAbs then d - r else saturate (d + m - r)

end Duration

namespace Instant

/-- The duration from `u` to `t`, stopping at the ends of the duration range. -/
def since (t u : Int) : Int := Duration.saturate (t - u)

end Instant

end QuoteKeeper
