import QuoteKeeper.Time
import QuoteKeeper.Text.Quoted
/-
  QuoteKeeper.Time.Reading — reading a written duration.

  1. Grammar. A duration is an optional sign and then one or more terms. A term is a number
     and a unit: digits, optionally a point and more digits (at least one digit in all), then
     a unit among `ns`, `us`, `µs`, `μs`, `ms`, `s`, `m` and `h`. `0` alone is zero. The
     terms add up.
  2. Exactness. The whole part of a term is exact; its fraction is the fraction's digits
     times the unit over the matching power of ten, computed in binary floating point and
     truncated, as a clock reader would. Digits of the fraction beyond what 63 bits can hold
     are read past and ignored.
  3. Limits. A term or a running total past 2^63 nanoseconds is refused; only a negative
     total may reach 2^63 itself.
  4. Failures: `time: invalid duration "<text>"` for a malformed or oversized text, `time:
     missing unit in duration "<text>"` for a number with no unit, `time: unknown unit
     "<unit>" in duration "<text>"` for a unit not listed.
-/

namespace QuoteKeeper

namespace Duration

/-- The units a term may have, with their length in nanoseconds. -/
def unitLengths : List (String × Nat) :=
  [("ns", 1), ("us", 1000), ("µs", 1000), ("μs", 1000), ("ms", 1000000), ("s", 1000000000),
    ("m", 60000000000), ("h", 3600000000000)]

/-- `2^63`, the first count of nanoseconds a duration cannot hold. -/
def limit : Nat := 9223372036854775808

/-- Whether a character belongs to a number. -/
def numeral (c : Char) : Bool := c == '.' || c.isDigit

/-- Digits as a number, or `none` once it passes `2^63`. -/
def wholeValue (ds : List Char) : Option Nat :=
  ds.foldl (fun acc d => acc.bind fun x =>
    if x > limit / 10 then none
    else
      let y := x * 10 + (d.toNat - 48)
      if y > limit then none else some y) (some 0)

/-- The digits of a fraction as a number and its power of ten; once a digit would take the
number past `2^63`, it and the digits after it are ignored. -/
def fractionValue (ds : List Char) : Nat × Float :=
  let step (acc : Nat × Float × Bool) (d : Char) : Nat × Float × Bool :=
    let (x, scale, past) := acc
    if past || x > (limit - 1) / 10 then (x, scale, true)
    else
      let y := x * 10 + (d.toNat - 48)
      if y > limit then (x, scale, true) else (y, scale * 10, false)
  let (x, scale, _) := ds.foldl step (0, 1, false)
  (x, scale)

/-- The nanoseconds of one term: its number's characters and its unit's. -/
def termValue (orig : String) (num unit : List Char) : Except String Nat :=
  let invalid : Except String Nat := .error ("time: invalid duration " ++ Text.quoted orig)
  let whole := num.takeWhile Char.isDigit
  let afterWhole := num.dropWhile Char.isDigit
  let (frac, leftover) := match afterWhole with
    | '.' :: more => (more.takeWhile Char.isDigit, more.dropWhile Char.isDigit)
    | _ => ([], afterWhole)
  match wholeValue whole with
  | none => invalid
  | some v =>
    if whole.isEmpty && frac.isEmpty then invalid
    else if !leftover.isEmpty || unit.isEmpty then
      .error ("time: missing unit in duration " ++ Text.quoted orig)
    else
      match unitLengths.lookup (String.ofList unit) with
      | none => .error ("time: unknown unit " ++ Text.quoted (String.ofList unit) ++
          " in duration " ++ Text.quoted orig)
      | some u =>
        if v > limit / u then invalid
        else
          let (f, scale) := fractionValue frac
          let v := v * u
          let v := if f > 0 then v + (Float.ofNat f * (Float.ofNat u / scale)).toUInt64.toNat else v
          if v > limit then invalid else .ok v

/-- The sum of the terms of `cs`, added to `total`. -/
def readTerms (orig : String) (total : Nat) : List Char → Except String Nat
  | [] => .ok total
  | c :: cs =>
    if !numeral c then .error ("time: invalid duration " ++ Text.quoted orig)
    else
      let num := c :: cs.takeWhile numeral
      let rest := cs.dropWhile numeral
      let unit := rest.takeWhile fun d => !numeral d
      let after := rest.dropWhile fun d => !numeral d
      match termValue orig num unit with
      | .error e => .error e
      | .ok v =>
        if total + v > limit then .error ("time: invalid duration " ++ Text.quoted orig)
        else readTerms orig (total + v) after
termination_by cs => cs.length
decreasing_by
  simp only [List.length_cons]
  have h1 : ((cs.dropWhile numeral).dropWhile fun d => !numeral d).length ≤
      (cs.dropWhile numeral).length := (List.dropWhile_suffix _).length_le
  have h2 : (cs.dropWhile numeral).length ≤ cs.length := (List.dropWhile_suffix _).length_le
  omega

/-- The duration a text stands for, in nanoseconds, or why it stands for none. -/
def ofText? (s : String) : Except String Int :=
  let (neg, body) := match s.toList with
    | '-' :: rest => (true, rest)
    | '+' :: rest => (false, rest)
    | cs => (false, cs)
  if body == ['0'] then .ok 0
  else if body.isEmpty then .error ("time: invalid duration " ++ Text.quoted s)
  else
    match readTerms s 0 body with
    | .error e => .error e
    | .ok d =>
      if neg then .ok (-(d : Int))
      else if d ≥ limit then .error ("time: invalid duration " ++ Text.quoted s)
      else .ok d

end Duration

end QuoteKeeper
