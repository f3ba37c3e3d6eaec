import QuoteKeeper.Gateway.Lending
/-
  QuoteKeeper.Gateway.Squid — withdrawal requests still waiting at validators, from an
  indexer's GraphQL endpoint.

  The query asks, on one chain and up to a limit, for the requests not yet withdrawn, in
  request order, optionally only those to some validators. Each answer row has an id, an
  amount (a decimal integer, possibly signed), a validator id and a creation time; a row
  without a time is taken as created at the zero time. An amount that is not an integer is
  `squid: withdrawal <id>: invalid amount "<amount>"`.
-/

namespace QuoteKeeper

namespace Gateway

variable {m : Type → Type} [Monad m]

/-- A withdrawal request still open. -/
structure PendingWithdrawal where
  id : String
  validatorId : String
  amount : Int
  /-- Nanoseconds since the epoch. -/
  createdAt : Int
  deriving Repr, Inhabited

structure SquidSettings where
  client : ClientSettings
  chainId : Int
  validatorIds : List String
  limit : Int

def squidBase : String := "https://origin.squids.live/origin-squid/graphql"

/-- The zero time, counted in nanoseconds since the epoch the way a 64-bit count wraps. -/
def zeroTimeNanos : Int := -6795364578871345152

def withdrawalsQuery (filtered : Bool) : String :=
  "query OutstandingWithdrawals($chainId: Int!, $limit: Int!" ++
  (if filtered then ", $validators: [String!]" else "") ++ ") \x7b\n" ++
  "  sfcWithdrawals(\n" ++
  "    limit: $limit\n" ++
  "    orderBy: wrID_ASC\n" ++
  "    where: \x7b withdrawnAt_isNull: true, chainId_eq: $chainId" ++
  (if filtered then ", toValidatorID_in: $validators" else "") ++ " \x7d\n" ++
  "  ) \x7b\n" ++
  "    id\n" ++
  "    amount\n" ++
  "    wrID\n" ++
  "    toValidatorID\n" ++
  "    createdAt\n" ++
  "  \x7d\n" ++
  "\x7d"

/-- One answer row as written: id, amount, validator id, creation time. -/
structure WithdrawalRow where
  id : String
  amount : String
  validatorId : String
  createdAt : Int

def withdrawalRow : Binder WithdrawalRow :=
  Binding.record "gateway.sfcWithdrawal"
    [Binding.Field.of "id" (·.id) (fun r v => { r with id := v }) Binding.string,
     Binding.Field.of "amount" (·.amount) (fun r v => { r with amount := v }) Binding.string,
     Binding.Field.of "wrID" (fun _ => "") (fun r _ => r) Binding.string,
     Binding.Field.of "toValidatorID" (·.validatorId) (fun r v => { r with validatorId := v }) Binding.string,
     Binding.Field.of "createdAt" (·.createdAt) (fun r v => { r with createdAt := v }) Binding.timestamp]

structure SquidAnswer where
  rows : Backed WithdrawalRow
  errors : Backed String

def squidAnswer : Binder SquidAnswer :=
  let data : Binder (Backed WithdrawalRow) :=
    Binding.record "struct \x7b SfcWithdrawals []gateway.sfcWithdrawal \"json:\\\"sfcWithdrawals\\\"\" \x7d"
      [Binding.Field.of "sfcWithdrawals" id (fun _ v => v)
        (Binding.list "[]gateway.sfcWithdrawal" ⟨"", "", "", zeroTimeNanos⟩ withdrawalRow)]
  Binding.record "gateway.sfcWithdrawalsResponse"
    [Binding.Field.of "data" (·.rows) (fun a v => { a with rows := v }) data,
     Binding.Field.of "errors" (·.errors) (fun a v => { a with errors := v }) graphQLErrors]

def squid (s : SquidSettings) (transport : Transport m) (observe : String → Outcome Unit → m Unit)
    (waits : ClientWaits m) :
    JsonClient m × SquidSettings :=
  let chainId := if s.chainId == 0 then 146 else s.chainId
  let limit := if s.limit == 0 then 100 else s.limit
  (JsonClient.new "squid" (s.client.withDefaults squidBase) [] transport observe waits, { s with chainId, limit })

/-- A base-ten integer with an optional sign. -/
def signedInteger? (text : String) : Option Int :=
  let (neg, ds) := match text.toList with
    | '-' :: ds => (true, ds)
    | '+' :: ds => (false, ds)
    | ds => (false, ds)
  if ds.isEmpty || !ds.all Char.isDigit then none
  else
    let v : Int := Binding.digitsValue ds
    some (if neg then -v else v)

def pendingOf : List WithdrawalRow → Outcome (List PendingWithdrawal)
  | [] => .ok []
  | r :: rs =>
    match signedInteger? r.amount with
    | none => .error (.plain ("squid: withdrawal " ++ r.id ++ ": invalid amount " ++ Text.quoted r.amount))
    | some a => (pendingOf rs).map fun ps => ⟨r.id, r.validatorId, a, r.createdAt⟩ :: ps

/-- The open withdrawal requests. -/
def squidRequests (c : JsonClient m) (s : SquidSettings) : m (Outcome (List PendingWithdrawal)) := do
  let filtered := !s.validatorIds.isEmpty
  let vars := [("chainId", Json.ofInt s.chainId), ("limit", Json.ofInt s.limit)] ++
    (if filtered then [("validators", Json.ofStrings s.validatorIds)] else [])
  let body := Json.obj [("query", .str (withdrawalsQuery filtered)), ("variables", .obj vars)]
  match ← c.post "" body (Binding.document "sfcWithdrawalsResponse" squidAnswer ⟨Backed.empty, Backed.empty⟩) with
  | .error e => pure (.error e)
  | .ok a =>
    match graphQLFailure "squid" a.errors with
    | some f => pure (.error f)
    | none => pure (pendingOf a.rows.items)

end Gateway

end QuoteKeeper
