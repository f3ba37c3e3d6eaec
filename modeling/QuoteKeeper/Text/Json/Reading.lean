import QuoteKeeper.Text.Json
import QuoteKeeper.Text.Utf8
/-
  QuoteKeeper.Text.Json.Reading — reading a JSON document, with the text each of its values
  was written as.

  1. Grammar: RFC 8259, strictly. Blanks are space, tab, line feed and carriage return.
     Repeated keys are kept, in order. A `\u` escape of a high surrogate pairs with a `\u`
     escape of a low one right after it; a half without its partner reads as U+FFFD.
  2. Errors: the first offending point, left to right. Text that stops before a value is
     complete is `unexpected end of JSON input`. An offending character is named as a rune
     between single quotes, escaped unless printable: `invalid character 'x' looking for
     beginning of value`, `... after array element`, `... after object key`, `... after object
     key:value pair`, `... looking for beginning of object key string`, `... after top-level
     value`; inside a token, `... in literal true (expecting 'r')`, `... in numeric literal`
     where a digit must come, and `... in string` for a control character.
  3. Escapes: a backslash that does not start an escape is `invalid escape sequence <text> in
     string`, the text being the backslash and the byte after it, or for `\u` the six bytes
     from the backslash. When fewer than six bytes are left, the escape is cut short (an early
     end) if they are hex digits after `\u`, and otherwise the text is all that is left. The
     text stands between backquotes, or is quoted when it holds a backquote, a blank, U+FFFD,
     a byte that is not UTF-8 or a character that is not printable.
  4. Text: each value keeps the exact characters it spans, blanks inside it included, so that
     a value can also be read by its own rules from what was written.
-/

namespace QuoteKeeper

namespace Json

/-- A value as read, with the text each part of it was written as. -/
inductive Node where
  | leaf (value : Json) (text : String)
  | arr (items : List Node) (text : String)
  | obj (members : List (String × Node)) (text : String)
  deriving Inhabited

namespace Node

def text : Node → String
  | .leaf _ t => t
  | .arr _ t => t
  | .obj _ t => t

mutual
/-- The value a node reads as. -/
def value : Node → Json
  | .leaf v _ => v
  | .arr items _ => .arr (values items)
  | .obj members _ => .obj (memberValues members)

def values : List Node → List Json
  | [] => []
  | n :: ns => value n :: values ns

def memberValues : List (String × Node) → List (String × Json)
  | [] => []
  | (k, n) :: ms => (k, value n) :: memberValues ms
end

/-- The kind of value, as a type mismatch names it. -/
def kind : Node → String
  | .leaf .null _ => "null"
  | .leaf (.bool _) _ => "bool"
  | .leaf (.num _) _ => "number"
  | .leaf (.str _) _ => "string"
  | .leaf (.arr _) _ => "array"
  | .leaf (.obj _) _ => "object"
  | .arr _ _ => "array"
  | .obj _ _ => "object"

end Node

/-! ## Errors -/

/-- A syntax error: an offending character and where it stood, a malformed escape with its
bytes, or an early end. -/
inductive SyntaxError where
  | bad (c : Char) (context : String)
  | escape (bytes : List UInt8)
  | early
  deriving Repr, BEq

/-- White space in the Unicode sense: the ASCII blanks and controls `\t \n \v \f \r`, NEL, the
space separators, and the line and paragraph separators. -/
def isSpace (c : Char) : Bool :=
  let n := c.toNat
  c = ' ' ∨ (9 ≤ n ∧ n ≤ 13) ∨ n = 0x85 ∨ n = 0xA0 ∨ n = 0x1680 ∨ (0x2000 ≤ n ∧ n ≤ 0x200A) ∨
    n = 0x2028 ∨ n = 0x2029 ∨ n = 0x202F ∨ n = 0x205F ∨ n = 0x3000

/-- The characters of some bytes, if all read cleanly and none needs quoting. -/
def plainChars : Nat → List UInt8 → Option (List Char)
  | 0, _ => some []
  | _, [] => some []
  | fuel + 1, bs =>
    match Utf8.decodeOne bs with
    | none => none
    | some (c, rest) =>
      if c = '\x60' ∨ c = '\uFFFD' ∨ isSpace c ∨ !Text.isPrintable c then none
      else (plainChars fuel rest).map (c :: ·)

/-- The text of a malformed escape: between backquotes, or quoted when it must be. -/
def escapeText (bs : List UInt8) : String :=
  match plainChars bs.length bs with
  | some cs => "\x60" ++ String.ofList cs ++ "\x60"
  | none => Utf8.quotedBytes bs

def SyntaxError.message : SyntaxError → String
  | .bad c ctx => "invalid character " ++ Text.quotedRune c ++ " " ++ ctx
  | .escape bs => "invalid escape sequence " ++ escapeText bs ++ " in string"
  | .early => "unexpected end of JSON input"

/-! ## Tokens -/

abbrev Reader (α : Type) := Except SyntaxError (α × List Char)

def isBlank (c : Char) : Bool := c = ' ' ∨ c = '\t' ∨ c = '\n' ∨ c = '\r'

def skipBlanks (cs : List Char) : List Char := cs.dropWhile isBlank

def isDigit (c : Char) : Bool := '0' ≤ c ∧ c ≤ '9'

def hexValue? (c : Char) : Option Nat :=
  if '0' ≤ c ∧ c ≤ '9' then some (c.toNat - 48)
  else if 'a' ≤ c ∧ c ≤ 'f' then some (c.toNat - 87)
  else if 'A' ≤ c ∧ c ≤ 'F' then some (c.toNat - 55)
  else none

def isHexDigit (c : Char) : Bool := (hexValue? c).isSome

/-- The characters of `cs` that a read took, given what it left. -/
def taken (cs rest : List Char) : String := String.ofList (cs.take (cs.length - rest.length))

/-- The rest of a literal after its first letter. -/
def readLiteral (word : String) (v : Json) (cs : List Char) : Reader Json :=
  let rec go : List Char → List Char → Reader Json
    | [], rest => .ok (v, rest)
    | w :: ws, rest =>
      match rest with
      | c :: r => if c = w then go ws r
        else .error (.bad c ("in literal " ++ word ++ " (expecting " ++ Text.quotedRune w ++ ")"))
      | [] => .error .early
  go (word.toList.drop 1) cs

/-- A digit must come next. -/
def needDigit : List Char → Except SyntaxError Unit
  | [] => .error .early
  | c :: _ => if isDigit c then .ok () else .error (.bad c "in numeric literal")

/-- A number literal starting at `cs`, which holds `-` or a digit first. -/
def readNumber (cs : List Char) : Except SyntaxError (Json × List Char) := do
  let (sign, r) := match cs with
    | '-' :: r => (['-'], r)
    | r => ([], r)
  needDigit r
  let (intPart, r) := match r with
    | '0' :: r => (['0'], r)
    | r => (r.takeWhile isDigit, r.dropWhile isDigit)
  let (fracPart, r) ← match r with
    | '.' :: r => do
      needDigit r
      pure ('.' :: r.takeWhile isDigit, r.dropWhile isDigit)
    | r => pure ([], r)
  let (expPart, r) ← match r with
    | e :: r =>
      if e = 'e' ∨ e = 'E' then do
        let (s, r) := match r with
          | '+' :: r => (['+'], r)
          | '-' :: r => (['-'], r)
          | r => ([], r)
        needDigit r
        pure (e :: s ++ r.takeWhile isDigit, r.dropWhile isDigit)
      else pure ([], e :: r)
    | [] => pure ([], [])
  pure (.num (String.ofList (sign ++ intPart ++ fracPart ++ expPart)), r)

/-- The UTF-8 bytes of some characters. -/
def bytesOf (cs : List Char) : List UInt8 := (String.ofList cs).toUTF8.toList

/-- The UTF-16 unit of a `\u` escape, `cs` being what follows the `u`, and the rest. -/
def readUnit (cs : List Char) : Except SyntaxError (Nat × List Char) :=
  if (cs.take 4).foldl (fun n c => n + c.utf8Size) 0 < 4 then
    if cs.all isHexDigit then .error .early else .error (.escape (bytesOf ('\\' :: 'u' :: cs)))
  else
    match cs with
    | a :: b :: c :: d :: r =>
      match hexValue? a, hexValue? b, hexValue? c, hexValue? d with
      | some w, some x, some y, some z => .ok (((w * 16 + x) * 16 + y) * 16 + z, r)
      | _, _, _, _ => .error (.escape ((bytesOf ('\\' :: 'u' :: cs.take 4)).take 6))
    | _ => .error .early

/-- The character a one-letter escape stands for. -/
def simpleEscape? (e : Char) : Option Char :=
  if e = '"' then some '"' else if e = '\\' then some '\\' else if e = '/' then some '/'
  else if e = 'b' then some '\x08' else if e = 'f' then some '\x0c' else if e = 'n' then some '\n'
  else if e = 'r' then some '\r' else if e = 't' then some '\t' else none

/-- The body of a string after its opening quote; `acc` holds the characters read, reversed. -/
def readString (fuel : Nat) (acc : List Char) (cs : List Char) : Reader String :=
  match fuel with
  | 0 => .error .early
  | fuel + 1 =>
    match cs with
    | [] => .error .early
    | '"' :: r => .ok (String.ofList acc.reverse, r)
    | '\\' :: r =>
      match r with
      | [] => .error .early
      | 'u' :: r =>
        match readUnit r with
        | .error e => .error e
        | .ok (u, r) =>
          if 0xD800 ≤ u ∧ u < 0xDC00 then
            match r with
            | '\\' :: 'u' :: r2 =>
              match readUnit r2 with
              | .ok (l, r3) =>
                if 0xDC00 ≤ l ∧ l < 0xE000 then
                  readString fuel (Char.ofNat (0x10000 + (u - 0xD800) * 1024 + (l - 0xDC00)) :: acc) r3
                else readString fuel ('\uFFFD' :: acc) r
              | .error _ => readString fuel ('\uFFFD' :: acc) r
            | _ => readString fuel ('\uFFFD' :: acc) r
          else if 0xDC00 ≤ u ∧ u < 0xE000 then readString fuel ('\uFFFD' :: acc) r
          else readString fuel (Char.ofNat u :: acc) r
      | e :: r =>
        match simpleEscape? e with
        | some v => readString fuel (v :: acc) r
        | none => .error (.escape ((bytesOf ['\\', e]).take 2))
    | c :: r =>
      if c.toNat < 0x20 then .error (.bad c "in string") else readString fuel (c :: acc) r

/-! ## Values -/

mutual
/-- A value after optional blanks. -/
def readValue (fuel : Nat) (cs : List Char) : Reader Node :=
  match fuel with
  | 0 => .error .early
  | fuel + 1 =>
    let start := skipBlanks cs
    let leaf (r : Except SyntaxError (Json × List Char)) : Reader Node :=
      r.map fun (v, rest) => (.leaf v (taken start rest), rest)
    match start with
    | [] => .error .early
    | c :: r =>
      if c = '{' then (readObject fuel [] true r).map fun (ms, rest) => (.obj ms (taken start rest), rest)
      else if c = '[' then (readArray fuel [] true r).map fun (xs, rest) => (.arr xs (taken start rest), rest)
      else if c = '"' then leaf ((readString r.length [] r).map fun (s, rest) => (.str s, rest))
      else if c = '-' ∨ isDigit c then leaf (readNumber start)
      else if c = 't' then leaf (readLiteral "true" (.bool true) r)
      else if c = 'f' then leaf (readLiteral "false" (.bool false) r)
      else if c = 'n' then leaf (readLiteral "null" .null r)
      else .error (.bad c "looking for beginning of value")

/-- Array items after `[` or after a comma (`first` tells which); `acc` holds the items read,
reversed. -/
def readArray (fuel : Nat) (acc : List Node) (first : Bool) (cs : List Char) : Reader (List Node) :=
  match fuel with
  | 0 => .error .early
  | fuel + 1 =>
    match skipBlanks cs, first with
    | ']' :: r, true => .ok ([], r)
    | cs, _ =>
      match readValue fuel cs with
      | .error e => .error e
      | .ok (v, r) =>
        match skipBlanks r with
        | ',' :: r => readArray fuel (v :: acc) false r
        | ']' :: r => .ok ((v :: acc).reverse, r)
        | c :: _ => .error (.bad c "after array element")
        | [] => .error .early

/-- Object members after `{` or after a comma (`first` tells which); `acc` holds the members
read, reversed. -/
def readObject (fuel : Nat) (acc : List (String × Node)) (first : Bool) (cs : List Char) :
    Reader (List (String × Node)) :=
  match fuel with
  | 0 => .error .early
  | fuel + 1 =>
    match skipBlanks cs, first with
    | '}' :: r, true => .ok ([], r)
    | '"' :: r, _ =>
      match readString r.length [] r with
      | .error e => .error e
      | .ok (k, r) =>
        match skipBlanks r with
        | ':' :: r =>
          match readValue fuel r with
          | .error e => .error e
          | .ok (v, r) =>
            match skipBlanks r with
            | ',' :: r => readObject fuel ((k, v) :: acc) false r
            | '}' :: r => .ok (((k, v) :: acc).reverse, r)
            | c :: _ => .error (.bad c "after object key:value pair")
            | [] => .error .early
        | c :: _ => .error (.bad c "after object key")
        | [] => .error .early
    | c :: _, _ => .error (.bad c "looking for beginning of object key string")
    | [], _ => .error .early
end

/-- Reads one document: a value with only blanks around it. -/
def readDocument (s : String) : Except SyntaxError Node :=
  let cs := s.toList
  match readValue (cs.length + 1) cs with
  | .error e => .error e
  | .ok (v, rest) =>
    match skipBlanks rest with
    | [] => .ok v
    | c :: _ => .error (.bad c "after top-level value")

/-- Reads one document as a value. -/
def parse (s : String) : Except SyntaxError Json := (readDocument s).map Node.value

/-- Reads the first value of a text that may hold more, leaving what follows it unread. Text
that ends inside the value, or holds only blanks, is `unexpected EOF`; any other error is as
for a document. -/
def readFirst (s : String) : Except String Node :=
  let cs := s.toList
  match readValue (cs.length + 1) cs with
  | .ok (v, _) => .ok v
  | .error .early => .error "unexpected EOF"
  | .error e => .error e.message

end Json

end QuoteKeeper
