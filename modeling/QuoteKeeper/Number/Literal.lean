import QuoteKeeper.Number.Binary
/-
  QuoteKeeper.Number.Literal — numbers and truth values as they are typed on a command line.

  1. Truth values: `1 t T TRUE true True` and `0 f F FALSE false False`.
  2. Integers: an optional sign, then digits in base ten, or after a prefix `0b`, `0o` or `0x`
     (either case) in base two, eight or sixteen, or after a lone leading `0` in base eight.
     `_` may stand between digits, or between the prefix and a digit. The value must fit in a
     signed 64-bit integer; a magnitude that passes 64 bits while it is read is too large at
     once, whatever follows.
  3. Real numbers: an optional sign, then `inf`, `infinity` or `nan` in any case (no sign
     before `nan`), or digits with at most one point and an optional exponent `e` with an
     optional sign; after `0x`, hexadecimal digits with an exponent `p` that is required. `_`
     may stand between digits as for integers. The value is the nearest double, a tie to the
     even one; a finite text whose value is too large for a double is out of range.
  4. A text that does not follow the grammar is a syntax problem; a value that does not fit
     is a range problem.
-/

namespace QuoteKeeper

namespace Literal

/-- Why a text is not a number. -/
inductive Problem where
  | malformed
  | range
  deriving DecidableEq, Repr

def truth? : String → Option Bool
  | "1" | "t" | "T" | "TRUE" | "true" | "True" => some true
  | "0" | "f" | "F" | "FALSE" | "false" | "False" => some false
  | _ => none

/-- The value of a digit in bases up to 36. -/
def digitValue (c : Char) : Option Nat :=
  if c.isDigit then some (c.toNat - 48)
  else if 'a' ≤ c.toLower ∧ c.toLower ≤ 'z' then some (c.toLower.toNat - 87)
  else none

/-- Whether the underscores of a number stand only between digits, or between a base prefix
and a digit. -/
def underscoresPlaced (cs : List Char) : Bool :=
  let cs := match cs with
    | '+' :: r | '-' :: r => r
    | r => r
  let (start, hex, cs) := match cs with
    | '0' :: p :: r =>
      if p.toLower == 'b' || p.toLower == 'o' || p.toLower == 'x' then ('0', p.toLower == 'x', r)
      else ('^', false, cs)
    | _ => ('^', false, cs)
  let step (saw : Option Char) (c : Char) : Option Char :=
    saw.bind fun s =>
      if c.isDigit || (hex && 'a' ≤ c.toLower && c.toLower ≤ 'f') then some '0'
      else if c == '_' then (if s == '0' then some '_' else none)
      else if s == '_' then none
      else some '!'
  match cs.foldl step (some start) with
  | some s => s != '_'
  | none => false

/-- The digits of an unsigned magnitude in `base`, read while it fits in 64 bits. -/
def magnitude (base : Nat) : Nat → List Char → Except Problem Nat
  | n, [] => .ok n
  | n, c :: cs =>
    if c == '_' then magnitude base n cs
    else
      match digitValue c with
      | none => .error .malformed
      | some d =>
        if d ≥ base then .error .malformed
        else
          let n := n * base + d
          if n ≥ Nat.pow 2 64 then .error .range else magnitude base n cs

/-- A signed 64-bit integer, its base read from its prefix. -/
def int64? (s : String) : Except Problem Int := do
  let cs := s.toList
  if cs.isEmpty then throw .malformed
  let (neg, body) := match cs with
    | '-' :: r => (true, r)
    | '+' :: r => (false, r)
    | r => (false, r)
  if body.isEmpty then throw .malformed
  let (base, digits) := match body with
    | '0' :: p :: d :: r =>
      if p.toLower == 'b' then (2, d :: r)
      else if p.toLower == 'o' then (8, d :: r)
      else if p.toLower == 'x' then (16, d :: r)
      else (8, p :: d :: r)
    | '0' :: r => (8, r)
    | r => (10, r)
  let n ← magnitude base 0 digits
  if body.contains '_' && !underscoresPlaced body then throw .malformed
  if !neg && n ≥ Nat.pow 2 63 then throw .range
  if neg && n > Nat.pow 2 63 then throw .range
  pure (if neg then -(n : Int) else n)

/-- How many leading characters of `cs` match `word`, ignoring case. -/
def commonPrefix (word : List Char) (cs : List Char) : Nat :=
  ((cs.zip word).takeWhile fun (a, b) => a.toLower == b).length

/-- `inf`, `infinity` or `nan`, with a sign before the infinities. -/
def special? (cs : List Char) : Option Float :=
  let (neg, signed, rest) := match cs with
    | '+' :: r => (false, true, r)
    | '-' :: r => (true, true, r)
    | r => (false, false, r)
  let n := commonPrefix "infinity".toList rest
  if (n == 3 || n == 8) && rest.length == n then
    some (if neg then -(1.0 / 0.0) else 1.0 / 0.0)
  else if !signed && commonPrefix "nan".toList rest == 3 && rest.length == 3 then some (0.0 / 0.0)
  else none

/-- The mantissa of a real number: its digits, in order, and how many of them follow the
point; the text after it. Underscores are passed over. -/
def mantissa (hex : Bool) : List Char → Bool → List Nat × Nat × List Char
  | [], _ => ([], 0, [])
  | c :: cs, dotted =>
    if c == '_' then mantissa hex cs dotted
    else if c == '.' then
      if dotted then ([], 0, c :: cs)
      else mantissa hex cs true
    else
      match digitValue c with
      | some d =>
        if d < (if hex then 16 else 10) then
          let (ds, after, rest) := mantissa hex cs dotted
          (d :: ds, if dotted then after + 1 else after, rest)
        else ([], 0, c :: cs)
      | none => ([], 0, c :: cs)

/-- Exponent digits, stopping growth at ten thousand as a reader with a fixed budget would;
the text after them. -/
def exponentDigits : Nat → List Char → Nat × List Char
  | e, c :: cs =>
    if c == '_' then exponentDigits e cs
    else if c.isDigit then exponentDigits (if e < 10000 then e * 10 + (c.toNat - 48) else e) cs
    else (e, c :: cs)
  | e, [] => (e, [])

/-- A real number as the nearest double. -/
def float? (s : String) : Except Problem Float := do
  let cs := s.toList
  if let some x := special? cs then return x
  let (neg, body) := match cs with
    | '-' :: r => (true, r)
    | '+' :: r => (false, r)
    | r => (false, r)
  let (hex, digitsPart) := match body with
    | '0' :: x :: d :: r => if x.toLower == 'x' then (true, d :: r) else (false, body)
    | _ => (false, body)
  let (ds, after, rest) := mantissa hex digitsPart false
  if ds.isEmpty then throw .malformed
  let (exp, rest) ← match rest with
    | e :: r =>
      if e.toLower == (if hex then 'p' else 'e') then
        let (eneg, r) := match r with
          | '+' :: t => (false, t)
          | '-' :: t => (true, t)
          | t => (false, t)
        match r with
        | d :: _ =>
          if d.isDigit then
            let (v, r) := exponentDigits 0 r
            pure ((if eneg then -(v : Int) else v), r)
          else throw .malformed
        | [] => throw .malformed
      else if hex then throw .malformed
      else pure (0, e :: r)
    | [] => if hex then throw .malformed else pure (0, [])
  if !rest.isEmpty then throw .malformed
  if cs.contains '_' && !underscoresPlaced cs then throw .malformed
  let base := if hex then 16 else 10
  let n := ds.foldl (fun acc d => acc * base + d) 0
  let x :=
    if hex then
      let e := exp - 4 * (after : Int)
      if e ≥ 0 then Binary.ofRatio neg (n * Nat.pow 2 e.toNat) 1 else Binary.ofRatio neg n (Nat.pow 2 (-e).toNat)
    else Decimal.toFloat ⟨if neg then -(n : Int) else n, exp - after⟩
  if x.isInf then throw .range
  pure (if n == 0 && neg then -0.0 else x)

end Literal

end QuoteKeeper
