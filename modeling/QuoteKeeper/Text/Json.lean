import QuoteKeeper.Number.Binary
/-
  QuoteKeeper.Text.Json — JSON documents: the value type, compact writing, and reading
  numbers and strings out of values.

  A number keeps its literal text, so that a reader can tell `1.5` from `1.50` and report the
  literal it refused. Objects keep their members in document order, repeated keys included.

  Reading a document is Text.Json.Reading's.

  Writing is compact: no blanks, members in order, strings escaped only where JSON requires.
-/

namespace QuoteKeeper

/-- A JSON value. Numbers keep their literal text. -/
inductive Json where
  | null
  | bool (b : Bool)
  | num (literal : String)
  | str (s : String)
  | arr (items : List Json)
  | obj (members : List (String × Json))
  deriving Repr, Inhabited, BEq

namespace Json

/-! ## Building values -/

def ofInt (i : Int) : Json := .num (intText i)

def ofNat (n : Nat) : Json := .num (natText n)

/-- A float as a number in the JSON layout; NaN and the infinities as strings. -/
def ofFloat (x : Float) : Json :=
  if x.isNaN then .str "NaN"
  else if x.isInf then .str (if x > 0 then "+Inf" else "-Inf")
  else .num (Float.layoutText FloatLayout.json x)

/-- An exact decimal as a number in the JSON layout. -/
def ofDecimal (d : Decimal) : Json := .num (d.layoutText FloatLayout.json)

def ofStrings (xs : List String) : Json := .arr (xs.map .str)

/-- `null` for `none`. -/
def opt {α : Type} (f : α → Json) : Option α → Json
  | none => .null
  | some a => f a

/-! ## Reading members -/

/-- The value of the last member named `k`, if any. -/
def get? (j : Json) (k : String) : Option Json :=
  match j with
  | .obj ms => (ms.reverse.find? (·.1 == k)).map (·.2)
  | _ => none

def getD (j : Json) (k : String) : Json := (j.get? k).getD .null

def isNull : Json → Bool
  | .null => true
  | _ => false

/-! ## Writing -/

def hexDigit (n : Nat) : Char := "0123456789abcdef".toList.getD n '0'

/-- Four lowercase hex digits. -/
def hex4 (n : Nat) : List Char :=
  [hexDigit (n / 4096 % 16), hexDigit (n / 256 % 16), hexDigit (n / 16 % 16), hexDigit (n % 16)]

/-- One character inside a quoted JSON string. -/
def escapeChar (c : Char) : List Char :=
  if c = '"' then ['\\', '"']
  else if c = '\\' then ['\\', '\\']
  else if c = '\n' then ['\\', 'n']
  else if c = '\r' then ['\\', 'r']
  else if c = '\t' then ['\\', 't']
  else if c.toNat < 0x20 ∨ c.toNat = 0x2028 ∨ c.toNat = 0x2029 then '\\' :: 'u' :: hex4 c.toNat
  else [c]

def quote (s : String) : String :=
  String.ofList ('"' :: (s.toList.flatMap escapeChar ++ ['"']))

mutual
def render : Json → String
  | .null => "null"
  | .bool b => if b then "true" else "false"
  | .num l => l
  | .str s => quote s
  | .arr xs => "[" ++ renderItems xs ++ "]"
  | .obj ms => "\x7b" ++ renderMembers ms ++ "\x7d"

def renderItems : List Json → String
  | [] => ""
  | [x] => render x
  | x :: xs => render x ++ "," ++ renderItems xs

def renderMembers : List (String × Json) → String
  | [] => ""
  | [(k, v)] => quote k ++ ":" ++ render v
  | (k, v) :: ms => quote k ++ ":" ++ render v ++ "," ++ renderMembers ms
end

/-! ## Reading numbers and strings out of values -/

/-- The exact value of a number literal. -/
def literalDecimal? (l : String) : Option Decimal :=
  match Decimal.ofString? l with
  | .ok d => some d
  | .error _ => none

def asDecimal? : Json → Option Decimal
  | .num l => literalDecimal? l
  | _ => none

/-- An integer-valued number. -/
def asInt? (j : Json) : Option Int :=
  match j.asDecimal? with
  | some d =>
    if 0 ≤ d.exp then some d.trunc
    else if d.coef % Int.pow 10 (-d.exp).toNat == 0 then some d.trunc else none
  | none => none

def asStr? : Json → Option String
  | .str s => some s
  | _ => none

def asBool? : Json → Option Bool
  | .bool b => some b
  | _ => none

def asArr? : Json → Option (List Json)
  | .arr xs => some xs
  | _ => none

end Json

end QuoteKeeper
