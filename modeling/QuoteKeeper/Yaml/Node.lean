import QuoteKeeper.Yaml.Scanner
import QuoteKeeper.Number.Binary
import QuoteKeeper.Text.Hex
/-
  QuoteKeeper.Yaml.Node — the node tree of a document and what its plain scalars mean.

  (1) Nodes. A scalar keeps its text, its style and its tag; collections keep their
  children in order; an alias keeps the node its anchor named when it was read (none when
  that node was still being read, which makes it contain itself). Every node keeps the line
  and column where it starts, from one.
  (2) Tags. Tags under the core prefix are written short (`!!int`). A quoted or block scalar
  is a string; a plain scalar's tag is resolved from its text.
  (3) Resolution of plain text, in this order: the fixed words (`true`, `False`, `~`,
  `null`, `.inf`, `-.Inf`, `.nan`, `<<` and their spellings); then, for text starting with
  a digit or a sign, a date, an integer (decimal, `0x`, `0o`, `0b` or a leading-zero octal,
  underscores ignored, within 64 bits signed or unsigned), or a decimal float that does
  not overflow; for text starting with `.`, a float, underscores allowed between digits.
  Everything else is a string. A scalar with an explicit tag must resolve to that tag,
  except that an integer within 64 signed bits may be read as a float.
-/

namespace QuoteKeeper

namespace Yaml

inductive Node where
  | scalar (value tag : String) (style : ScalarStyle) (line column : Nat)
  | sequence (items : List Node) (tag : String) (line column : Nat)
  | mapping (pairs : List (Node × Node)) (tag : String) (line column : Nat)
  /-- An alias and the node its anchor named, missing when that node contains the alias. -/
  | alias (name : String) (target : Option Node) (line column : Nat)
  deriving Inhabited

namespace Node

def line : Node → Nat
  | .scalar _ _ _ l _ => l
  | .sequence _ _ l _ => l
  | .mapping _ _ l _ => l
  | .alias _ _ l _ => l

/-- The node's tag as recorded: resolved for plain scalars, empty for aliases. -/
def tag : Node → String
  | .scalar _ t _ _ _ => t
  | .sequence _ t _ _ => t
  | .mapping _ t _ _ => t
  | .alias _ _ _ _ => ""

/-- The scalar's text, or the alias's name; empty for collections. -/
def value : Node → String
  | .scalar v _ _ _ _ => v
  | .alias n _ _ _ => n
  | _ => ""

/-- Which kind of node, for comparing keys. -/
def kindCode : Node → Nat
  | .scalar .. => 0
  | .sequence .. => 1
  | .mapping .. => 2
  | .alias .. => 3

end Node

/-! ## Tags -/

def corePrefix : String := "tag:yaml.org,2002:"

def nullTag : String := "!!null"
def boolTag : String := "!!bool"
def strTag : String := "!!str"
def intTag : String := "!!int"
def floatTag : String := "!!float"
def timestampTag : String := "!!timestamp"
def seqTag : String := "!!seq"
def mapTag : String := "!!map"
def binaryTag : String := "!!binary"
def mergeTag : String := "!!merge"

/-- A core tag written short. -/
def shortTag (tag : String) : String :=
  if tag.startsWith corePrefix then "!!" ++ String.ofList (tag.toList.drop corePrefix.length)
  else tag

def resolvable (tag : String) : Bool :=
  tag == "" || tag == strTag || tag == boolTag || tag == intTag || tag == floatTag ||
    tag == timestampTag || tag == nullTag

/-- What a scalar's text means. -/
inductive Scalar where
  | null
  | bool (b : Bool)
  /-- An integer within 64 bits, signed or unsigned. -/
  | int (i : Int)
  | float (f : Float)
  | timestamp
  | str (s : String)
  | merge
  deriving Inhabited

/-- The fixed words. -/
def fixedWord (text : String) : Option (String × Scalar) :=
  if ["true", "True", "TRUE"].contains text then some (boolTag, .bool true)
  else if ["false", "False", "FALSE"].contains text then some (boolTag, .bool false)
  else if ["", "~", "null", "Null", "NULL"].contains text then some (nullTag, .null)
  else if [".nan", ".NaN", ".NAN"].contains text then some (floatTag, .float (0.0 / 0.0))
  else if [".inf", ".Inf", ".INF", "+.inf", "+.Inf", "+.INF"].contains text then
    some (floatTag, .float (1.0 / 0.0))
  else if ["-.inf", "-.Inf", "-.INF"].contains text then some (floatTag, .float (-1.0 / 0.0))
  else if text == "<<" then some (mergeTag, .merge)
  else none

/-- Digits in base `b`, all of them, as a number. -/
def digitsIn (b : Nat) (cs : List Char) : Option Nat :=
  if cs.isEmpty then none
  else cs.foldlM (fun acc c => do
    let v ← Hex.value? c
    if v < b then some (acc * b + v) else none) 0

/-- An unsigned integer with a base prefix (`0x`, `0o`, `0b`, or `0` for octal). -/
def unsignedBase0 (cs : List Char) : Option Nat :=
  match cs with
  | [] => none
  | '0' :: c :: rest =>
    if rest.length ≥ 1 && (c == 'b' || c == 'B') then digitsIn 2 rest
    else if rest.length ≥ 1 && (c == 'o' || c == 'O') then digitsIn 8 rest
    else if rest.length ≥ 1 && (c == 'x' || c == 'X') then digitsIn 16 rest
    else digitsIn 8 (c :: rest)
  | ['0'] => some 0
  | _ => digitsIn 10 cs

/-- An unsigned 64-bit integer, base from its prefix; no sign. -/
def parseUnsigned (cs : List Char) : Option Nat := do
  let v ← unsignedBase0 cs
  if v < Nat.pow 2 64 then some v else none

/-- A signed 64-bit integer, base from its prefix after the sign. -/
def parseSigned (cs : List Char) : Option Int := do
  let (neg, rest) := match cs with
    | '-' :: r => (true, r)
    | '+' :: r => (false, r)
    | r => (false, r)
  let v ← unsignedBase0 rest
  if neg then (if v ≤ Nat.pow 2 63 then some (-(v : Int)) else none)
  else if v < Nat.pow 2 63 then some v else none

/-- A signed integer in base `b` (no prefix). -/
def parseSignedIn (b : Nat) (cs : List Char) : Option Int := do
  let (neg, rest) := match cs with
    | '-' :: r => (true, r)
    | '+' :: r => (false, r)
    | r => (false, r)
  let v ← digitsIn b rest
  if neg then (if v ≤ Nat.pow 2 63 then some (-(v : Int)) else none)
  else if v < Nat.pow 2 63 then some v else none

/-- Digits, as a list and the rest. -/
def spanDigits (cs : List Char) : List Char × List Char :=
  (cs.takeWhile Char.isDigit, cs.dropWhile Char.isDigit)

/-- A decimal float `[sign](digits[.digits]|.digits)[e[sign]digits]`, all of the text, as
digits and a power of ten; none for other text. -/
def decimalParts (cs : List Char) : Option (Bool × Nat × Int) := do
  let (neg, rest) := match cs with
    | '-' :: r => (true, r)
    | '+' :: r => (false, r)
    | r => (false, r)
  let (whole, rest) := spanDigits rest
  let (frac, rest) := match rest with
    | '.' :: r => spanDigits r
    | r => ([], r)
  if whole.isEmpty && frac.isEmpty then none
  let exp ← match rest with
    | [] => some (0 : Int)
    | e :: r =>
      if e == 'e' || e == 'E' then
        let (eneg, r) := match r with
          | '-' :: t => (true, t)
          | '+' :: t => (false, t)
          | t => (false, t)
        match digitsIn 10 r with
        | some v => some (if eneg then -(v : Int) else v)
        | none => none
      else none
  let coef := (digitsIn 10 (whole ++ frac)).getD 0
  some (neg, coef, exp - frac.length)

/-- Whether the underscores of a number's text each stand between two digits, a base prefix
counting as a digit. -/
def underscoresBetweenDigits (cs : List Char) : Bool :=
  let cs := match cs with
    | '+' :: r => r
    | '-' :: r => r
    | r => r
  let (cs, saw, hex) := match cs with
    | '0' :: b :: r =>
      if ['b', 'o', 'x'].contains b.toLower then (r, '0', b.toLower == 'x') else (cs, '^', false)
    | _ => (cs, '^', false)
  let step (acc : Option Char) (c : Char) : Option Char := acc.bind fun saw =>
    if c.isDigit || (hex && 'a' ≤ c.toLower && c.toLower ≤ 'f') then some '0'
    else if c == '_' then (if saw == '0' then some '_' else none)
    else if saw == '_' then none
    else some '!'
  match cs.foldl step (some saw) with
  | some last => last != '_'
  | none => false

/-- The float a decimal text denotes; none when it is not one or overflows. -/
def parseFloatText (text : String) : Option Float := do
  let (neg, coef, exp) ← decimalParts text.toList
  let x := Decimal.toFloat ⟨if neg then -(coef : Int) else coef, exp⟩
  let x := if neg && coef == 0 then -0.0 else x
  if Binary.isFinite x then some x else none

/-! ## Dates -/

def leapYear (y : Nat) : Bool := (y % 4 == 0 && y % 100 != 0) || y % 400 == 0

def daysIn (month year : Nat) : Nat :=
  if month == 2 then (if leapYear year then 29 else 28)
  else if [4, 6, 9, 11].contains month then 30 else 31

/-- One or two digits. -/
def shortNumber (cs : List Char) : Option (Nat × List Char) :=
  match cs with
  | a :: b :: rest =>
    if a.isDigit && b.isDigit then some ((a.toNat - 48) * 10 + (b.toNat - 48), rest)
    else if a.isDigit then some (a.toNat - 48, b :: rest) else none
  | [a] => if a.isDigit then some (a.toNat - 48, []) else none
  | [] => none

/-- `h:m:s` with an optional fraction; the rest. -/
def clockPart (cs : List Char) : Option (List Char) := do
  let (h, r) ← shortNumber cs
  if h ≥ 24 then none
  let r ← match r with | ':' :: t => some t | _ => none
  let (m, r) ← shortNumber r
  if m ≥ 60 then none
  let r ← match r with | ':' :: t => some t | _ => none
  let (sec, r) ← shortNumber r
  if sec ≥ 60 then none
  match r with
  | '.' :: d :: t => if d.isDigit then some (t.dropWhile Char.isDigit) else some r
  | ',' :: d :: t => if d.isDigit then some (t.dropWhile Char.isDigit) else some r
  | _ => some r

def twoDigits (a b : Char) : Nat := (a.toNat - 48) * 10 + (b.toNat - 48)

/-- A zone: `Z` or `±hh:mm`, at most 24 hours and 60 minutes. -/
def zonePart (cs : List Char) : Option (List Char) :=
  match cs with
  | 'Z' :: r => some r
  | s :: a :: b :: ':' :: c :: d :: r =>
    if (s == '+' || s == '-') && [a, b, c, d].all Char.isDigit && twoDigits a b ≤ 24 &&
        twoDigits c d ≤ 60 then some r
    else none
  | _ => none

/-- Whether plain text is a date (`2006-1-2`), with a time after `T`, `t` and a zone, or
after one or more spaces without one. -/
def isTimestamp (text : String) : Bool :=
  let cs := text.toList
  let year := cs.take 4
  if !(year.length == 4 && year.all Char.isDigit && cs.getD 4 ' ' == '-') then false
  else
    let y := (digitsIn 10 year).getD 0
    let date : Option (List Char) := do
      let (mo, r) ← shortNumber (cs.drop 5)
      if mo < 1 || mo > 12 then none
      let r ← match r with | '-' :: t => some t | _ => none
      let (d, r) ← shortNumber r
      if d < 1 || d > daysIn mo y then none
      some r
    match date with
    | none => false
    | some [] => true
    | some (c :: r) =>
      if c == 'T' || c == 't' then
        match clockPart r with
        | some r => (zonePart r) == some []
        | none => false
      else if c == ' ' then clockPart (r.dropWhile (· == ' ')) == some []
      else false

/-! ## Resolution -/

/-- What plain text means, before an explicit tag is checked. -/
def resolvePlain (tag text : String) : String × Scalar :=
  let first := text.toList.headD ' '
  let hint : Char :=
    if text.isEmpty then 'N'
    else if first == '+' || first == '-' then 'S'
    else if first.isDigit then 'D'
    else if "yYnNtTfFoO~".toList.contains first then 'M'
    else if first == '.' then '.'
    else ' '
  if hint == ' ' || tag == strTag || tag == binaryTag then (strTag, .str text)
  else match fixedWord text with
    | some r => r
    | none =>
      if hint == '.' then
        let digits := if underscoresBetweenDigits text.toList then text.toList.filter (· != '_')
          else text.toList
        match parseFloatText (String.ofList digits) with
        | some f => (floatTag, .float f)
        | none => (strTag, .str text)
      else if hint == 'D' || hint == 'S' then
        if (tag == "" || tag == timestampTag) && isTimestamp text then (timestampTag, .timestamp)
        else
          let plain := text.toList.filter (· != '_')
          match parseSigned plain with
          | some i => (intTag, .int i)
          | none =>
            match parseUnsigned plain with
            | some u => (intTag, .int u)
            | none =>
              match (if (decimalParts plain).isSome then parseFloatText (String.ofList plain) else none) with
              | some f => (floatTag, .float f)
              | none =>
                let viaBase (b : Nat) (cs : List Char) : Option Int :=
                  match parseSignedIn b cs with
                  | some i => some i
                  | none => (digitsIn b cs).bind fun u => if u < Nat.pow 2 64 then some (u : Int) else none
                let r : Option Int :=
                  match plain with
                  | '0' :: 'b' :: r => viaBase 2 r
                  | '-' :: '0' :: 'b' :: r => parseSignedIn 2 ('-' :: r)
                  | '0' :: 'o' :: r => viaBase 8 r
                  | '-' :: '0' :: 'o' :: r => parseSignedIn 8 ('-' :: r)
                  | _ => none
                match r with
                | some i => (intTag, .int i)
                | none => (strTag, .str text)
      else (strTag, .str text)

/-- The nearest float to an integer. -/
def intToFloat (i : Int) : Float := Binary.ofRatio (i < 0) i.natAbs 1

/-- Resolution under an explicit tag (or none): the tag must be met, an integer within 64
signed bits serving for a float. -/
def resolve (tag text : String) : Except String (String × Scalar) :=
  let tag := shortTag tag
  if !resolvable tag then .ok (tag, .str text)
  else
    let (rtag, v) := resolvePlain tag text
    if tag == "" || tag == rtag || tag == strTag || tag == binaryTag then .ok (rtag, v)
    else
      match v with
      | .int i =>
        if tag == floatTag && i < Int.pow 2 63 then .ok (floatTag, .float (intToFloat i))
        else .error ("cannot decode " ++ rtag ++ " `" ++ text ++ "` as a " ++ tag)
      | _ => .error ("cannot decode " ++ rtag ++ " `" ++ text ++ "` as a " ++ tag)

end Yaml

end QuoteKeeper
