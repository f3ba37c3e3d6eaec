import QuoteKeeper.Text.Utf8
/-
  QuoteKeeper.Web.IpAddress — reading IP addresses in their text forms.

  The first `.`, `:` or `%` of the text decides its form: a dot makes it IPv4, a colon IPv6,
  a percent sign first is an IPv6 zone without an address, and none of them is not an address.

  * IPv4: four decimal fields of at most 255 between dots, each with at least one digit and no
    leading zero.
  * IPv6: up to eight groups of one to four hex digits between colons, at most one `::`
    standing for at least one group of zeros, optionally ending in an IPv4 address that takes
    the place of the last two groups, and optionally a non-empty zone after `%`.

  A text that is not an address is reported as `ParseAddr("<text>"): <problem>`, with the text
  left where reading stopped as `(at "<rest>")` when it helps.
-/

namespace QuoteKeeper

namespace IpAddress

/-- An address: four bytes, or sixteen with a zone (empty for none). -/
inductive Addr where
  | v4 (bytes : List Nat)
  | v6 (bytes : List Nat) (zone : List UInt8)
  deriving Repr, BEq

def Addr.is4 : Addr → Bool
  | .v4 _ => true
  | .v6 _ _ => false

/-- Why a text is not an address: the problem, and the text left where it stood. -/
structure Problem where
  text : String
  rest : List UInt8 := []

def message (input : List UInt8) (p : Problem) : String :=
  "ParseAddr(" ++ Utf8.quotedBytes input ++ "): " ++ p.text ++
    (if p.rest.isEmpty then "" else " (at " ++ Utf8.quotedBytes p.rest ++ ")")

def isDigit (b : UInt8) : Bool := 48 ≤ b.toNat ∧ b.toNat ≤ 57

def hexValue? (b : UInt8) : Option Nat :=
  let n := b.toNat
  if 48 ≤ n ∧ n ≤ 57 then some (n - 48)
  else if 97 ≤ n ∧ n ≤ 102 then some (n - 87)
  else if 65 ≤ n ∧ n ≤ 70 then some (n - 55)
  else none

def dot : UInt8 := 46
def colon : UInt8 := 58
def percent : UInt8 := 37

/-- The four fields of a dotted IPv4 text. `first` says whether nothing was read yet and `afterDot`
whether a dot came last; `value` and `digits` are the field being read, `fields` those done. -/
def ipv4Fields (first afterDot : Bool) (value digits : Nat) (fields : List Nat) :
    List UInt8 → Except Problem (List Nat)
  | [] =>
    if fields.length < 3 then .error ⟨"IPv4 address too short", []⟩ else .ok (fields ++ [value])
  | b :: rest =>
    if isDigit b then
      if digits = 1 ∧ value = 0 then .error ⟨"IPv4 field has octet with leading zero", []⟩
      else
        let value := value * 10 + (b.toNat - 48)
        if value > 255 then .error ⟨"IPv4 field has value >255", []⟩
        else ipv4Fields false false value (digits + 1) fields rest
    else if b = dot then
      if first ∨ rest.isEmpty ∨ afterDot then
        .error ⟨"IPv4 field must have at least one digit", b :: rest⟩
      else if fields.length = 3 then .error ⟨"IPv4 address too long", []⟩
      else ipv4Fields false true 0 0 (fields ++ [value]) rest
    else .error ⟨"unexpected character", b :: rest⟩

/-- One group of hex digits: its value and the text after it, or the problem. `read` digits
have been taken so far from `group`, the text where the group starts. -/
def hexGroup (group : List UInt8) : Nat → Nat → List UInt8 → Except Problem (Nat × Nat × List UInt8)
  | read, acc, [] => .ok (acc, read, [])
  | read, acc, b :: rest =>
    match hexValue? b with
    | none => .ok (acc, read, b :: rest)
    | some v =>
      if read ≥ 4 then .error ⟨"each group must have 4 or less digits", group⟩
      else hexGroup group (read + 1) (acc * 16 + v) rest

/-- What follows a group: the end (`none`), or a colon and the text after it, perhaps after a
`::` whose place is then recorded: `some` of where `::` stands and the text left. -/
def afterGroup (filled : Nat) (ellipsis : Option Nat) :
    List UInt8 → Except Problem (Option (Option Nat × List UInt8))
  | [] => .ok none
  | b :: rest =>
    if b ≠ colon then .error ⟨"unexpected character, want colon", b :: rest⟩
    else
      match rest with
      | [] => .error ⟨"colon must be followed by more characters", [b]⟩
      | c :: more =>
        if c = colon then
          if ellipsis.isSome then .error ⟨"multiple :: in address", rest⟩
          else if more.isEmpty then .ok none
          else .ok (some (some filled, more))
        else .ok (some (ellipsis, rest))

/-- The ellipsis an `afterGroup` that ended the text leaves: a final `::` records its place. -/
def endEllipsis (filled : Nat) (ellipsis : Option Nat) : List UInt8 → Option Nat
  | 58 :: 58 :: _ => some filled
  | _ => ellipsis

/-- The bytes of the groups of an IPv6 text after any leading `::`: `bytes` filled so far,
`ellipsis` where a `::` stood, `fuel` bounding the groups. Returns the bytes, where `::` stood
and the text left over. -/
def ipv6Groups : Nat → List Nat → Option Nat → List UInt8 →
    Except Problem (List Nat × Option Nat × List UInt8)
  | 0, bytes, ellipsis, s => .ok (bytes, ellipsis, s)
  | fuel + 1, bytes, ellipsis, s =>
    if bytes.length ≥ 16 then .ok (bytes, ellipsis, s)
    else
      match hexGroup s 0 0 s with
      | .error p => .error p
      | .ok (acc, read, after) =>
        if read = 0 then .error ⟨"each colon-separated field must have at least one digit", s⟩
        else if after.head? = some dot then
          if ellipsis.isNone ∧ bytes.length ≠ 12 then
            .error ⟨"embedded IPv4 address must replace the final 2 fields of the address", s⟩
          else if bytes.length + 4 > 16 then
            .error ⟨"too many hex fields to fit an embedded IPv4 at the end of the address", s⟩
          else
            match ipv4Fields true false 0 0 [] s with
            | .error p => .error p
            | .ok fields => .ok (bytes ++ fields, ellipsis, [])
        else
          let bytes := bytes ++ [acc / 256, acc % 256]
          match afterGroup bytes.length ellipsis after with
          | .error p => .error p
          | .ok none => .ok (bytes, endEllipsis bytes.length ellipsis after, [])
          | .ok (some (ellipsis, rest)) => ipv6Groups fuel bytes ellipsis rest

/-- An IPv6 text, with its zone. -/
def ipv6 (text : List UInt8) : Except Problem Addr := do
  let (s, zone) := match text.span (· ≠ percent) with
    | (s, _ :: zone) => (s, some zone)
    | (s, []) => (s, none)
  if zone == some [] then throw ⟨"zone must be a non-empty string", []⟩
  let zoneBytes := zone.getD []
  let (ellipsis, s) := match s with
    | 58 :: 58 :: rest => (some 0, rest)
    | rest => (none, rest)
  if ellipsis.isSome ∧ s.isEmpty then return .v6 (List.replicate 16 0) zoneBytes
  let (bytes, ellipsis, left) ← ipv6Groups (s.length + 1) [] ellipsis s
  if !left.isEmpty then throw ⟨"trailing garbage after address", left⟩
  if bytes.length < 16 then
    match ellipsis with
    | none => throw ⟨"address string too short", []⟩
    | some e => return .v6 (bytes.take e ++ List.replicate (16 - bytes.length) 0 ++ bytes.drop e) zoneBytes
  else if ellipsis.isSome then throw ⟨"the :: must expand to at least one field of zeros", []⟩
  else return .v6 bytes zoneBytes

/-- Reads an address, or says why the text is not one. -/
def parse (text : List UInt8) : Except String Addr :=
  let result : Except Problem Addr :=
    match text.find? fun b => b = dot ∨ b = colon ∨ b = percent with
    | some 46 => (ipv4Fields true false 0 0 [] text).map .v4
    | some 58 => ipv6 text
    | some _ => .error ⟨"missing IPv6 address", []⟩
    | none => .error ⟨"unable to parse IP", []⟩
  result.mapError (message text)

end IpAddress

end QuoteKeeper
