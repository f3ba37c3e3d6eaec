import QuoteKeeper.Text.Quoted
import QuoteKeeper.Text.Utf8
import QuoteKeeper.Text.Base64
import QuoteKeeper.Web.IpAddress
/-
  QuoteKeeper.Web.Url — request addresses: query strings, reading an address into its parts,
  and writing it back.

  A query is written with its keys in byte order, each value as `key=value`, joined by `&`;
  letters, digits and `-_.~` stand as themselves, a blank becomes `+`, and every other byte is
  `%XX` in upper-case hex.

  An address is read as `scheme:` (letters first, then letters, digits, `+-.`, read in lower
  case), then `//authority` with an optional `user[:password]@` and a host, then a path, a
  query after `?` and a fragment after `#`; a scheme followed by anything but `/` leaves the
  rest as it stands. Every part is `%`-decoded, and each part has its own rules for what it
  may hold:
  * no control character anywhere;
  * a `%` needs two hex digits after it;
  * a host may hold letters, digits, `!$&'()*+,;=:[]<>"-_.~` and non-ASCII bytes, and escape
    only non-ASCII bytes and `%25`;
  * a bracketed host is an IPv6 address, perhaps with a zone after `%25`, and then a port;
    an IPv4 address there, or a `[` later in the host, is refused;
  * a port is digits after the last colon;
  * a user part holds letters, digits and `-._:~!$&'()*+,;=%@` only;
  * a relative path may not have a colon before its first `/`.
  The first problem is the answer, as `parse "<address>": <problem>`.

  Writing an address back escapes what each part may not hold as written, keeping the path and
  fragment as they were written when that spelling decodes to the same bytes and holds only
  what may stand there. A failed request names its address with the password, if any, written
  `***`.
-/

namespace QuoteKeeper

namespace Url

def isAlnum (c : Char) : Bool := ('a' ≤ c ∧ c ≤ 'z') ∨ ('A' ≤ c ∧ c ≤ 'Z') ∨ ('0' ≤ c ∧ c ≤ '9')

def hexUpper (n : Nat) : Char := "0123456789ABCDEF".toList.getD n '0'

/-- One byte of a query component. -/
def escapeByte (b : UInt8) : List Char :=
  let c := Char.ofNat b.toNat
  if isAlnum c ∨ c = '-' ∨ c = '_' ∨ c = '.' ∨ c = '~' then [c]
  else if c = ' ' then ['+']
  else ['%', hexUpper (b.toNat / 16), hexUpper (b.toNat % 16)]

/-- A query component, escaped. -/
def queryEscape (s : String) : String := String.ofList (s.toUTF8.toList.flatMap escapeByte)

/-- Query parameters, keys in byte order, each with its values in order. -/
def encodeQuery (params : List (String × List String)) : String :=
  let sorted := params.mergeSort fun a b => decide (a.1 ≤ b.1)
  "&".intercalate (sorted.flatMap fun (k, vs) => vs.map fun v => queryEscape k ++ "=" ++ queryEscape v)

/-- The text after the last `c`, and before it; `none` without one. -/
def splitLast (c : Char) (s : List Char) : Option (List Char × List Char) :=
  let rev := s.reverse
  if rev.contains c then
    let after := (rev.takeWhile (· != c)).reverse
    some ((rev.dropWhile (· != c)).drop 1 |>.reverse, after)
  else none

/-! ## The parts of an address -/

/-- The parts of an address, which differ in what they may hold as written. -/
inductive Part where
  | host
  | zone
  | path
  | userinfo
  | fragment
  deriving DecidableEq

/-- The bytes of an ASCII text. -/
def bytesOf (s : String) : List UInt8 := s.toList.map fun c => UInt8.ofNat c.toNat

def oneOf (s : String) (b : UInt8) : Bool := s.toList.any (·.toNat == b.toNat)

def isAlnumByte (b : UInt8) : Bool := isAlnum (Char.ofNat b.toNat)

/-- Whether a byte must be `%`-escaped when written in a part. -/
def mustEscape (part : Part) (b : UInt8) : Bool :=
  if isAlnumByte b then false
  else if (part = .host ∨ part = .zone) ∧ oneOf "!$&\x27()*+,;=:[]<>\"" b then false
  else if oneOf "-_.~" b then false
  else if oneOf "$&+,/:;=?@" b then
    match part with
    | .path => b.toNat = 63
    | .userinfo => oneOf "@/?:" b
    | .fragment => false
    | _ => true
  else if part = .fragment ∧ oneOf "!()*" b then false
  else true

def hexByte (n : Nat) : UInt8 := UInt8.ofNat (hexUpper n).toNat

/-- A part written out, each byte it may not hold as `%XX`. -/
def escape (part : Part) (bs : List UInt8) : List UInt8 :=
  bs.flatMap fun b => if mustEscape part b then [37, hexByte (b.toNat / 16), hexByte (b.toNat % 16)] else [b]

def escapeProblem (bs : List UInt8) : String := "invalid URL escape " ++ Utf8.quotedBytes bs

def isEscaped25 (a b : UInt8) : Bool := a.toNat = 50 ∧ b.toNat = 53

/-- A part read back: its `%` escapes decoded, or the first thing it may not hold. -/
def unescape (part : Part) : List UInt8 → Except String (List UInt8)
  | [] => .ok []
  | b :: rest =>
    if b.toNat = 37 then
      match rest with
      | x :: y :: more =>
        match IpAddress.hexValue? x, IpAddress.hexValue? y with
        | some hi, some lo =>
          let v := UInt8.ofNat (hi * 16 + lo)
          if part = .host ∧ hi < 8 ∧ !isEscaped25 x y then .error (escapeProblem [b, x, y])
          else if part = .zone ∧ !isEscaped25 x y ∧ v.toNat ≠ 32 ∧ mustEscape .host v then
            .error (escapeProblem [b, x, y])
          else (v :: ·) <$> unescape part more
        | _, _ => .error (escapeProblem [b, x, y])
      | short => .error (escapeProblem (b :: short))
    else if (part = .host ∨ part = .zone) ∧ b.toNat < 0x80 ∧ mustEscape part b then
      .error ("invalid character " ++ Utf8.quotedBytes [b] ++ " in host name")
    else (b :: ·) <$> unescape part rest

/-- Bytes that may stand unescaped in a written path or fragment. -/
def validEncoded (part : Part) (bs : List UInt8) : Bool :=
  bs.all fun b => oneOf "!$&\x27()*+,;=:@[]%" b ∨ !mustEscape part b

/-! ## Reading an address -/

/-- The bytes before the first `b`, and after it if there is one. -/
def cutFirst (b : UInt8) (s : List UInt8) : List UInt8 × Option (List UInt8) :=
  match s.span (· ≠ b) with
  | (before, _ :: after) => (before, some after)
  | (before, []) => (before, none)

/-- The bytes before the last `b` and after it; `none` without one. -/
def cutLast (b : UInt8) (s : List UInt8) : Option (List UInt8 × List UInt8) :=
  match cutFirst b s.reverse with
  | (after, some before) => some (before.reverse, after.reverse)
  | (_, none) => none

/-- Where the last `b` stands. -/
def lastIndex? (b : UInt8) (s : List UInt8) : Option Nat := (cutLast b s).map (·.1.length)

/-- The user part of an address; `password` is `none` when there is no colon. -/
structure Userinfo where
  username : List UInt8
  password : Option (List UInt8)
  deriving BEq, Inhabited

/-- An address in its parts, decoded, with the written spelling of the path and fragment kept
when it differs from the plain escaping. -/
structure Address where
  scheme : List UInt8 := []
  /-- Everything after `scheme:` when it does not start with `/`. -/
  rootless : List UInt8 := []
  user : Option Userinfo := none
  host : List UInt8 := []
  path : List UInt8 := []
  rawPath : List UInt8 := []
  /-- `scheme:/path`, with no authority written. -/
  omitHost : Bool := false
  /-- A `?` with nothing after it. -/
  forceQuery : Bool := false
  rawQuery : List UInt8 := []
  fragment : List UInt8 := []
  rawFragment : List UInt8 := []
  deriving Inhabited

def isControl (b : UInt8) : Bool := b.toNat < 0x20 ∨ b.toNat = 0x7F

def isLetter (b : UInt8) : Bool := (97 ≤ b.toNat ∧ b.toNat ≤ 122) ∨ (65 ≤ b.toNat ∧ b.toNat ≤ 90)

/-- The scheme and the rest; no scheme when the text does not start with one. -/
def schemeOf (s : List UInt8) : Except String (List UInt8 × List UInt8) :=
  go [] s
where
  go : List UInt8 → List UInt8 → Except String (List UInt8 × List UInt8)
    | _, [] => .ok ([], s)
    | acc, b :: rest =>
      if isLetter b then go (b :: acc) rest
      else if IpAddress.isDigit b ∨ oneOf "+-." b then
        if acc.isEmpty then .ok ([], s) else go (b :: acc) rest
      else if b.toNat = 58 then
        if acc.isEmpty then .error "missing protocol scheme" else .ok (acc.reverse, rest)
      else .ok ([], s)

def lowerByte (b : UInt8) : UInt8 := if 65 ≤ b.toNat ∧ b.toNat ≤ 90 then b + 32 else b

/-- Nothing, or `:` and digits. -/
def validOptionalPort : List UInt8 → Bool
  | [] => true
  | b :: ds => b.toNat = 58 ∧ ds.all IpAddress.isDigit

def portProblem (port : List UInt8) : String := "invalid port " ++ Utf8.quotedBytes port ++ " after host"

def percent25 : List UInt8 := bytesOf "%25"

/-- Where `%25` first stands. -/
def zoneStart? (s : List UInt8) : Option Nat :=
  (List.range s.length).find? fun i => (s.drop i).take 3 == percent25

/-- A bracketed host: an IPv6 address, its zone decoded on its own terms, and a port. -/
def bracketed (host : List UInt8) : Except String (List UInt8) := do
  let some (inner, port) := cutLast 93 host | throw "missing \x27]\x27 in host"
  if !validOptionalPort port then throw (portProblem port)
  let name := inner.drop 1
  let name ← match zoneStart? name with
    | some i => do pure ((← unescape .host (name.take i)) ++ (← unescape .zone (name.drop i)))
    | none => unescape .host name
  match IpAddress.parse name with
  | .error e => throw ("invalid host: " ++ e)
  | .ok addr =>
    if addr.is4 then throw "invalid IP-literal"
    pure (91 :: name ++ 93 :: port)

/-- A host and optional port, decoded. -/
def parseHost (host : List UInt8) : Except String (List UInt8) :=
  match lastIndex? 91 host with
  | some 0 => bracketed host
  | some _ => .error "invalid IP-literal"
  | none =>
    match cutLast 58 host with
    | some (_, port) =>
      if validOptionalPort (58 :: port) then unescape .host host else .error (portProblem (58 :: port))
    | none => unescape .host host

def validUserinfo (s : List UInt8) : Bool :=
  s.all fun b => isAlnumByte b ∨ oneOf "-._:~!$&\x27()*+,;=%@" b

/-- `user[:password]@host`: the user part, if any, and the host. -/
def parseAuthority (authority : List UInt8) : Except String (Option Userinfo × List UInt8) := do
  match cutLast 64 authority with
  | none => pure (none, ← parseHost authority)
  | some (info, hostText) =>
    let host ← parseHost hostText
    if !validUserinfo info then throw "net/url: invalid userinfo"
    match cutFirst 58 info with
    | (name, none) => pure (some ⟨← unescape .userinfo name, none⟩, host)
    | (name, some password) =>
      pure (some ⟨← unescape .userinfo name, some (← unescape .userinfo password)⟩, host)

def startsWith (s : String) (bs : List UInt8) : Bool := (bytesOf s).isPrefixOf bs

/-- An address without its fragment. -/
def parseMain (raw : List UInt8) : Except String Address := do
  if raw.any isControl then throw "net/url: invalid control character in URL"
  if raw == bytesOf "*" then return { path := raw }
  let (scheme, rest) ← schemeOf raw
  let scheme := scheme.map lowerByte
  let (rest, rawQuery, forceQuery) :=
    if rest.getLast? == some 63 ∧ rest.count 63 = 1 then (rest.dropLast, [], true)
    else
      match cutFirst 63 rest with
      | (r, some q) => (r, q, false)
      | (r, none) => (r, [], false)
  if rest.head? != some 47 then
    if !scheme.isEmpty then return { scheme, rootless := rest, rawQuery, forceQuery }
    if (rest.takeWhile (·.toNat ≠ 47)).contains 58 then
      throw "first path segment in URL cannot contain colon"
  let (user, host, omitHost, rest) ←
    if (!scheme.isEmpty ∨ !startsWith "///" rest) ∧ startsWith "//" rest then do
      let (authority, rest) := (rest.drop 2).span (·.toNat ≠ 47)
      let (user, host) ← parseAuthority authority
      pure (user, host, false, rest)
    else pure (none, [], !scheme.isEmpty ∧ rest.head? == some 47, rest)
  let path ← unescape .path rest
  let rawPath := if escape .path path == rest then [] else rest
  return { scheme, user, host, path, rawPath, omitHost, rawQuery, forceQuery }

/-- Reads an address, or says why it is not one. -/
def parse (raw : String) : Except String Address :=
  let bytes := raw.toUTF8.toList
  let (main, frag) := cutFirst 35 bytes
  match parseMain main with
  | .error e => .error ("parse " ++ Utf8.quotedBytes main ++ ": " ++ e)
  | .ok a =>
    match frag with
    | none | some [] => .ok a
    | some f =>
      match unescape .fragment f with
      | .error e => .error ("parse " ++ Text.quoted raw ++ ": " ++ e)
      | .ok fragment =>
        .ok { a with fragment, rawFragment := if escape .fragment fragment == f then [] else f }

/-! ## Writing an address -/

def Userinfo.written (u : Userinfo) : List UInt8 :=
  escape .userinfo u.username ++ match u.password with
    | some p => 58 :: escape .userinfo p
    | none => []

namespace Address

/-- Whether a written spelling decodes to exactly these bytes. -/
def decodesTo (part : Part) (raw bytes : List UInt8) : Bool :=
  match unescape part raw with
  | .ok v => v == bytes
  | .error _ => false

def escapedPath (a : Address) : List UInt8 :=
  if !a.rawPath.isEmpty ∧ validEncoded .path a.rawPath ∧ decodesTo .path a.rawPath a.path then
    a.rawPath
  else if a.path == bytesOf "*" then a.path
  else escape .path a.path

def escapedFragment (a : Address) : List UInt8 :=
  if !a.rawFragment.isEmpty ∧ validEncoded .fragment a.rawFragment ∧
      decodesTo .fragment a.rawFragment a.fragment then a.rawFragment
  else escape .fragment a.fragment

/-- The bytes of the address written out. -/
def written (a : Address) : List UInt8 :=
  let schemePart := if a.scheme.isEmpty then [] else a.scheme ++ [58]
  let body :=
    if !a.rootless.isEmpty then a.rootless
    else
      let authority :=
        if (!a.scheme.isEmpty ∨ !a.host.isEmpty ∨ a.user.isSome) ∧
            !(a.omitHost ∧ a.host.isEmpty ∧ a.user.isNone) then
          (if !a.host.isEmpty ∨ !a.path.isEmpty ∨ a.user.isSome then bytesOf "//" else []) ++
            (match a.user with
              | some u => u.written ++ [64]
              | none => []) ++
            escape .host a.host
        else []
      let path := a.escapedPath
      let slash := if !path.isEmpty ∧ path.head? != some 47 ∧ !a.host.isEmpty then [47] else []
      let dot :=
        if schemePart.isEmpty ∧ authority.isEmpty ∧ slash.isEmpty ∧ (path.takeWhile (·.toNat ≠ 47)).contains 58
        then bytesOf "./" else []
      authority ++ slash ++ dot ++ path
  schemePart ++ body ++
    (if a.forceQuery ∨ !a.rawQuery.isEmpty then 63 :: a.rawQuery else []) ++
    (if a.fragment.isEmpty then [] else 35 :: a.escapedFragment)

def text (a : Address) : String := Utf8.lossy a.written

/-- The first `pat` in `s` replaced by `new`. -/
def replaceFirst (pat new : List UInt8) : List UInt8 → List UInt8
  | [] => []
  | b :: rest => if pat.isPrefixOf (b :: rest) then new ++ (b :: rest).drop pat.length else b :: replaceFirst pat new rest

/-- The address as a failed request names it: a password is written `***`. -/
def shown (a : Address) : List UInt8 :=
  match a.user with
  | some u =>
    if u.password.isSome then replaceFirst (u.written ++ [64]) (u.username ++ bytesOf ":***@") a.written
    else a.written
  | none => a.written

/-- A host ending in a colon with no port loses the colon. -/
def withoutEmptyPort (a : Address) : Address :=
  let hasPort : Bool := match lastIndex? 58 a.host, lastIndex? 93 a.host with
    | some c, some b => decide (c > b)
    | some _, none => true
    | none, _ => false
  if hasPort ∧ a.host.getLast? == some 58 then { a with host := a.host.dropLast } else a

/-- The `Authorization` value the user part of the address asks for: `Basic` and the
base64 of `user:password`. -/
def basicAuth? (a : Address) : Option String :=
  a.user.map fun u => "Basic " ++ Base64.encode (u.username ++ 58 :: u.password.getD [])

end Address

end Url

end QuoteKeeper
