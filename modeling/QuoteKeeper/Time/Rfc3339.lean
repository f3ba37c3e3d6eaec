import QuoteKeeper.Time.Calendar
import QuoteKeeper.Text.Quoted
/-
  QuoteKeeper.Time.Rfc3339 — reading `2006-01-02T15:04:05Z07:00` timestamps.

  The text is read element by element: a four-digit year, `-`, a two-digit month (1 to 12),
  `-`, a two-digit day, `T`, an hour of one or two digits (below 24), `:`, two-digit minutes
  and seconds (below 60), then an optional fraction after `.` or `,` (digits past the ninth are
  dropped), and the zone: `Z`, or a sign with `hh:mm` (hours up to 24, minutes up to 60).
  Nothing may follow, and the day must exist in its month.

  The first element that does not fit is reported with what was left of the text there:
  `parsing time "x" as "2006-01-02T15:04:05Z07:00": cannot parse "x" as "2006"`; a number out of
  its range as `parsing time "x": month out of range`, and so for the other parts. In these
  texts a byte outside printable ASCII is written `\xNN`.
-/

namespace QuoteKeeper

namespace Rfc3339

def layout : String := "2006-01-02T15:04:05Z07:00"

/-- Text between double quotes; quotes and backslashes escaped, other bytes outside printable
ASCII as `\xNN`. -/
def quote (s : String) : String :=
  let byteText (b : UInt8) : List Char := ['\\', 'x', Text.hexDigitLower (b.toNat / 16), Text.hexDigitLower (b.toNat % 16)]
  let part (c : Char) : List Char :=
    if c.toNat ≥ 0x80 ∨ c.toNat < 0x20 then (String.singleton c).toUTF8.toList.flatMap byteText
    else if c = '"' ∨ c = '\\' then ['\\', c]
    else [c]
  String.ofList ('"' :: s.toList.flatMap part ++ ['"'])

/-- Why a text is not a timestamp. -/
def cannotParse (value rest element : String) : String :=
  "parsing time " ++ quote value ++ " as " ++ quote layout ++ ": cannot parse " ++ quote rest ++
    " as " ++ quote element

def outOfRange (value what : String) : String := "parsing time " ++ quote value ++ ": " ++ what ++ " out of range"

def digit? (c : Char) : Option Nat := if c.isDigit then some (c.toNat - 48) else none

/-- One or two digits (exactly two when `fixed`), and the rest. -/
def number (fixed : Bool) : List Char → Option (Nat × List Char)
  | a :: rest =>
    match digit? a with
    | none => none
    | some x =>
      match rest with
      | b :: r =>
        match digit? b with
        | some y => some (x * 10 + y, r)
        | none => if fixed then none else some (x, rest)
      | [] => if fixed then none else some (x, [])
  | [] => none

/-- Days from 1970-01-01 to a date. -/
def daysOfDate (y : Int) (m d : Nat) : Int :=
  let y := if m ≤ 2 then y - 1 else y
  let era := y / 400
  let yoe := y - era * 400
  let mp : Int := if m > 2 then (m : Int) - 3 else (m : Int) + 9
  let doy := (153 * mp + 2) / 5 + (d : Int) - 1
  let doe := yoe * 365 + yoe / 4 - yoe / 100 + doy
  era * 146097 + doe - 719468

def leap (y : Int) : Bool := (y % 4 == 0 && y % 100 != 0) || y % 400 == 0

def monthDays (m : Nat) (y : Int) : Nat :=
  if m == 2 then (if leap y then 29 else 28) else if [4, 6, 9, 11].contains m then 30 else 31

/-- Expects the literal `c`. -/
def literal (value : String) (c : Char) (cs : List Char) : Except String (List Char) :=
  match cs with
  | d :: r => if d = c then .ok r else .error (cannotParse value (String.ofList cs) (String.singleton c))
  | [] => .error (cannotParse value "" (String.singleton c))

/-- The instant a timestamp denotes, in nanoseconds since the epoch. -/
def parse (value : String) : Except String Int := do
  let cs := value.toList
  let fail (rest : List Char) (elem : String) : Except String Int := .error (cannotParse value (String.ofList rest) elem)
  -- year
  let (year, cs) ← match cs with
    | a :: b :: c :: d :: r =>
      match digit? a, digit? b, digit? c, digit? d with
      | some w, some x, some y, some z => pure ((w * 1000 + x * 100 + y * 10 + z : Nat), r)
      | _, _, _, _ => fail cs "2006" >>= fun _ => pure (0, [])
    | _ => fail cs "2006" >>= fun _ => pure (0, [])
  let cs ← literal value '-' cs
  let (month, cs) ← match number true cs with
    | some r => pure r
    | none => fail cs "01" >>= fun _ => pure (0, [])
  if month = 0 ∨ month > 12 then throw (outOfRange value "month")
  let cs ← literal value '-' cs
  let (day, cs) ← match number true cs with
    | some r => pure r
    | none => fail cs "02" >>= fun _ => pure (0, [])
  let cs ← literal value 'T' cs
  let (hour, cs) ← match number false cs with
    | some r => pure r
    | none => fail cs "15" >>= fun _ => pure (0, [])
  if hour ≥ 24 then throw (outOfRange value "hour")
  let cs ← literal value ':' cs
  let (minute, cs) ← match number true cs with
    | some r => pure r
    | none => fail cs "04" >>= fun _ => pure (0, [])
  if minute ≥ 60 then throw (outOfRange value "minute")
  let cs ← literal value ':' cs
  let (second, cs) ← match number true cs with
    | some r => pure r
    | none => fail cs "05" >>= fun _ => pure (0, [])
  if second ≥ 60 then throw (outOfRange value "second")
  let (nanos, cs) := match cs with
    | p :: d :: r =>
      if (p = '.' ∨ p = ',') ∧ d.isDigit then
        let ds := d :: r.takeWhile Char.isDigit
        let rest := r.dropWhile Char.isDigit
        let kept := ds.take 9
        let n : Nat := kept.foldl (fun acc c => acc * 10 + (c.toNat - 48)) 0
        ((n * Nat.pow 10 (9 - kept.length) : Nat), rest)
      else ((0 : Nat), cs)
    | _ => ((0 : Nat), cs)
  let (offset, cs) ← match cs with
    | 'Z' :: r => pure ((0 : Int), r)
    | s :: h1 :: h2 :: ':' :: m1 :: m2 :: r =>
      match number true [h1, h2], number true [m1, m2] with
      | some (hh, _), some (mm, _) =>
        if hh > 24 then throw (outOfRange value "time zone offset hour")
        else if mm > 60 then throw (outOfRange value "time zone offset minute")
        else if s = '+' then pure (((hh * 60 + mm) * 60 : Nat), r)
        else if s = '-' then pure (-(((hh * 60 + mm) * 60 : Nat) : Int), r)
        else fail cs "Z07:00" >>= fun _ => pure (0, [])
      | _, _ => fail cs "Z07:00" >>= fun _ => pure (0, [])
    | _ => fail cs "Z07:00" >>= fun _ => pure (0, [])
  if !cs.isEmpty then
    throw ("parsing time " ++ quote value ++ ": extra text: " ++ quote (String.ofList cs))
  if day < 1 ∨ day > monthDays month year then
    throw ("parsing time " ++ quote value ++ ": day out of range")
  let secs := daysOfDate year month day * 86400 + (((hour * 60 + minute) * 60 + second : Nat) : Int) - offset
  pure (secs * 1000000000 + nanos)

end Rfc3339

end QuoteKeeper
