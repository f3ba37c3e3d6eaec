import QuoteKeeper.Text.Json.Reading
import QuoteKeeper.Number.Literal
import QuoteKeeper.Time.Rfc3339
/-
  QuoteKeeper.Web.Binding — reading JSON documents into typed records.

  A document is first read whole; a syntax error is the answer. Then it is bound to a record
  type field by field. A member binds to the field of the same name, or failing that to one
  whose name matches ignoring case; other members are skipped. `null` leaves a value as it was,
  except that it empties an optional value or a list. A member of the wrong kind leaves its
  field as it was and is remembered: the first such mismatch is the answer once binding ends,
  `json: cannot unmarshal <kind> into Go struct field <Record>.<path> of type <type>` (or `into
  Go value of type <type>` for the document itself), where a number that does not fit is named
  with its text. A real number reads as the nearest double, one too large for a double being a
  mismatch. An optional value is created before its contents are bound.

  A list binds its items over the items it held, and keeps the items an earlier, longer array
  left past its end: binding a longer array again starts from those (`Backed`). `null` and
  `[]` leave it empty, with nothing kept.

  Decimals and timestamps read their own text, exactly as written. A decimal accepts a string
  or any other value (`error decoding string '<text>': <reason>`), where only a string of at
  least one character loses its quotes, and its escapes stay as written; a timestamp needs a
  string (`Time.UnmarshalJSON: input is not a JSON string`) whose text between the quotes is in
  RFC 3339 form. Their failures end the binding at once.
-/

namespace QuoteKeeper

/-- Binding state: the record type's name, the first mismatch, and an error that ends it. -/
abbrev Bind := ReaderT String (StateT (Option String) (Except String))

/-- Binds a JSON value at a field path over the value held so far. -/
abbrev Binder (α : Type) := List String → Json.Node → α → Bind α

/-- A list as binding leaves it: its items, and the items past its end that an earlier, longer
array left, which binding another array into the same place starts from. -/
structure Backed (α : Type) where
  items : List α
  stale : List α
  deriving Inhabited

def Backed.empty : Backed α := ⟨[], []⟩

namespace Binding

/-- Remembers a mismatch unless one was seen before. -/
def mismatch (path : List String) (value typeName : String) : Bind Unit := do
  let record ← read
  let msg :=
    if path.isEmpty then "json: cannot unmarshal " ++ value ++ " into Go value of type " ++ typeName
    else "json: cannot unmarshal " ++ value ++ " into Go struct field " ++ record ++ "." ++
      ".".intercalate path ++ " of type " ++ typeName
  modify fun seen => seen <|> some msg

def string : Binder String := fun path n cur =>
  match n with
  | .leaf .null _ => pure cur
  | .leaf (.str s) _ => pure s
  | other => do mismatch path other.kind "string"; pure cur

/-- The number decimal digits spell. -/
def digitsValue (ds : List Char) : Nat := ds.foldl (fun acc c => acc * 10 + (c.toNat - 48)) 0

/-- An integer literal: optional minus, then digits only. -/
def intLiteral? (l : String) : Option Int :=
  match l.toList with
  | '-' :: ds => if !ds.isEmpty && ds.all Char.isDigit then some (-(digitsValue ds : Int)) else none
  | ds => if !ds.isEmpty && ds.all Char.isDigit then some (digitsValue ds) else none

/-- A signed 64-bit integer field. -/
def int64 (typeName : String) : Binder Int := fun path n cur =>
  match n with
  | .leaf .null _ => pure cur
  | .leaf (.num l) _ =>
    match intLiteral? l with
    | some i => if -(Int.pow 2 63) ≤ i ∧ i < Int.pow 2 63 then pure i else do mismatch path ("number " ++ l) typeName; pure cur
    | none => do mismatch path ("number " ++ l) typeName; pure cur
  | other => do mismatch path other.kind typeName; pure cur

def float64 : Binder Float := fun path n cur =>
  match n with
  | .leaf .null _ => pure cur
  | .leaf (.num l) _ =>
    match Literal.float? l with
    | .ok x => pure x
    | .error _ => do mismatch path ("number " ++ l) "float64"; pure cur
  | other => do mismatch path other.kind "float64"; pure cur

/-- A value that may be absent: `null` clears it, anything else is bound into it (created
first from `zero`). -/
def optional (zero : α) (b : Binder α) : Binder (Option α) := fun path n cur =>
  match n with
  | .leaf .null _ => pure none
  | _ => do pure (some (← b path n (cur.getD zero)))

/-- Items bound over the items held, in order, from `zero` past their end. -/
def items (zero : α) (b : Binder α) (path : List String) : List Json.Node → List α → Bind (List α)
  | [], _ => pure []
  | n :: ns, held => do
    let first ← b path n (held.headD zero)
    let rest ← items zero b path ns held.tail
    pure (first :: rest)

/-- A list: `null` and `[]` empty it; another array binds its items over the items held and
kept, and keeps those past its own end. -/
def list (typeName : String) (zero : α) (b : Binder α) : Binder (Backed α) := fun path n cur =>
  match n with
  | .leaf .null _ => pure Backed.empty
  | .arr [] _ => pure Backed.empty
  | .arr ns _ => do
    let held := cur.items ++ cur.stale
    pure ⟨← items zero b path ns held, held.drop ns.length⟩
  | other => do mismatch path other.kind typeName; pure cur

/-- One field of a record: its name, and how a value binds into the record through it. -/
structure Field (σ : Type) where
  name : String
  bind : Binder σ

def Field.of (name : String) (get : σ → α) (set : σ → α → σ) (b : Binder α) : Field σ :=
  ⟨name, fun path j s => do pure (set s (← b path j (get s)))⟩

/-- Upper case for matching names: ASCII letters, and the Kelvin sign and long s as K and S. -/
def foldChar (c : Char) : Char :=
  if c = 'K' then 'K' else if c = 'ſ' then 'S' else c.toUpper

def sameFolded (a b : String) : Bool := a.toList.map foldChar == b.toList.map foldChar

def fieldFor? (fields : List (Field σ)) (key : String) : Option (Field σ) :=
  match fields.find? (·.name == key) with
  | some f => some f
  | none => fields.find? fun f => sameFolded f.name key

def members (fields : List (Field σ)) (path : List String) : List (String × Json.Node) → σ → Bind σ
  | [], s => pure s
  | (k, v) :: rest, s => do
    let s ← match fieldFor? fields k with
      | some f => f.bind (path ++ [f.name]) v s
      | none => pure s
    members fields path rest s

/-- A record of the given fields. -/
def record (typeName : String) (fields : List (Field σ)) : Binder σ := fun path n cur =>
  match n with
  | .leaf .null _ => pure cur
  | .obj ms _ => members fields path ms cur
  | other => do mismatch path other.kind typeName; pure cur

/-- Text between double quotes without them; other text as it is. -/
def unquoted (text : String) : String :=
  match text.toList with
  | '"' :: c :: cs =>
    match (c :: cs).reverse with
    | '"' :: body => String.ofList body.reverse
    | _ => text
  | _ => text

/-- A decimal reading its own text. -/
def decimal : Binder Decimal := fun _ n cur =>
  if n.text == "null" then pure cur
  else
    let text := unquoted n.text
    match Decimal.ofString? text with
    | .ok d => pure d
    | .error e => throw ("error decoding string \x27" ++ text ++ "\x27: " ++ e.message)

/-- A timestamp reading its own text, as nanoseconds since the epoch. -/
def timestamp : Binder Int := fun _ n cur =>
  if n.text == "null" then pure cur
  else
    match n with
    | .leaf (.str _) text =>
      match Rfc3339.parse ((text.toList.drop 1).dropLast |> String.ofList) with
      | .ok t => pure t
      | .error e => throw e
    | _ => throw "Time.UnmarshalJSON: input is not a JSON string"

/-- Binds a value read before to a record named `recordName`, from `zero`. -/
def value (recordName : String) (b : Binder α) (zero : α) (n : Json.Node) : Except String α :=
  match ((b [] n zero).run recordName).run none with
  | .error e => .error e
  | .ok (_, some e) => .error e
  | .ok (v, none) => .ok v

/-- Reads a document and binds it to a record named `recordName`, from `zero`. -/
def document (recordName : String) (b : Binder α) (zero : α) (text : String) : Except String α :=
  match Json.readDocument text with
  | .error e => .error e.message
  | .ok n => value recordName b zero n

end Binding

end QuoteKeeper
