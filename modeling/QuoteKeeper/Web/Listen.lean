import QuoteKeeper.Text.Quoted
/-
  QuoteKeeper.Web.Listen — the TCP address a server listens on.

  1. Splitting. An address is `host:port`, split at its last colon (`missing port in address`
     without one). A host with colons of its own is written in brackets, `[::1]:80`: the
     closing bracket must come just before that colon (`missing ']' in address`, or `too many
     colons in address` when another colon follows it); an unbracketed host may hold no colon
     (`too many colons in address`); no other bracket may appear (`unexpected '[' in
     address`, `unexpected ']' in address`). These problems name the whole address.
  2. The port is a decimal number with an optional sign, from 0 to 65535 (`invalid port`,
     naming the port), empty for 0, or the name of a well-known service (`lookup tcp/<name>:
     unknown port` for any other word). Port 0 asks for any free port.
  3. The host is empty or unspecified (every interface, written `[::]`), an IPv4 address in
     dotted form, an IPv6 address (written in brackets), or a name; `localhost` is the IPv4
     loopback.
  4. An empty address is every interface and any free port. A problem reads `listen tcp:
     address <what>: <why>`.
-/

namespace QuoteKeeper

namespace Listen

/-- Well-known TCP service names and their ports. -/
def services : List (String × Nat) :=
  [("ftp", 21), ("ftps", 990), ("gopher", 70), ("http", 80), ("https", 443), ("imap2", 143),
   ("imap3", 220), ("imaps", 993), ("pop3", 110), ("pop3s", 995), ("smtp", 25),
   ("submissions", 465), ("ssh", 22), ("telnet", 23)]

/-- `address <what>: <why>`. -/
def addressError (what why : String) : String := "address " ++ what ++ ": " ++ why

/-- The position of the last `c` in `cs`. -/
def lastIndex? (c : Char) (cs : List Char) : Option Nat :=
  (cs.reverse.findIdx? (· == c)).map fun n => cs.length - 1 - n

/-- Host and port of `host:port`, or the problem with the address. -/
def splitHostPort (s : String) : Except String (String × String) :=
  let cs := s.toList
  let fail (why : String) : Except String (String × String) := .error (addressError s why)
  match lastIndex? ':' cs with
  | none => fail "missing port in address"
  | some i =>
    let hostPart : Except String (String × Nat × Nat) := match cs with
      | '[' :: _ =>
        match cs.findIdx? (· == ']') with
        | none => .error "missing \x27]\x27 in address"
        | some e =>
          if e + 1 == cs.length then .error "missing port in address"
          else if e + 1 == i then .ok (String.ofList ((cs.take e).drop 1), 1, e + 1)
          else if cs[e + 1]? == some ':' then .error "too many colons in address"
          else .error "missing port in address"
      | _ =>
        if (cs.take i).contains ':' then .error "too many colons in address"
        else .ok (String.ofList (cs.take i), 0, 0)
    match hostPart with
    | .error why => fail why
    | .ok (host, j, k) =>
      if (cs.drop j).contains '[' then fail "unexpected \x27[\x27 in address"
      else if (cs.drop k).contains ']' then fail "unexpected \x27]\x27 in address"
      else .ok (host, String.ofList (cs.drop (i + 1)))

/-- A port given as a number: its value, capped far above any port; `none` when it is not
decimal. -/
def portNumber? (service : String) : Option Int :=
  let (neg, ds) := match service.toList with
    | '+' :: ds => (false, ds)
    | '-' :: ds => (true, ds)
    | ds => (false, ds)
  if ds.all Char.isDigit then
    let n : Nat := ds.foldl (fun acc c => min (Nat.pow 2 31) (acc * 10 + (c.toNat - 48))) 0
    some (if neg then -(n : Int) else n)
  else none

/-- The port of a service: a number from 0 to 65535, or a well-known name. -/
def port (service : String) : Except String Nat :=
  if service.isEmpty then .ok 0
  else match portNumber? service with
    | some n =>
      if n < 0 ∨ n > 65535 then .error (addressError service "invalid port") else .ok n.toNat
    | none =>
      match services.lookup (String.map Char.toLower service) with
      | some p => .ok p
      | none => .error ("lookup tcp/" ++ service ++ ": unknown port")

/-- An unspecified address: every interface. -/
def isUnspecified (host : String) : Bool :=
  host.isEmpty || host == "0.0.0.0" || host == "::" || (host.contains ':' && host.all (fun c => c == ':' || c == '0'))

/-- The host part of a listening address as it is written back. -/
def boundHost (host : String) : String :=
  if isUnspecified host then "[::]"
  else if host == "localhost" then "127.0.0.1"
  else if host.contains ':' then "[" ++ host ++ "]"
  else host

/-- Where a server listening on `addr` is bound: the host as written back, and the port asked
for (0 for any free one); or why it cannot listen there. -/
def resolve (addr : String) : Except String (String × Nat) :=
  let wrap (e : String) : String := "listen tcp: " ++ e
  if addr.isEmpty then .ok ("[::]", 0)
  else
    match splitHostPort addr with
    | .error e => .error (wrap e)
    | .ok (host, service) =>
      match port service with
      | .error e => .error (wrap e)
      | .ok p => .ok (boundHost host, p)

end Listen

end QuoteKeeper
