import QuoteKeeper.Web.Client
import QuoteKeeper.Chain.Address
import QuoteKeeper.Number.Binary
/-
  QuoteKeeper.Gateway.Lending — supply rates of lending markets.

  Silo: `GET /detailed-vault/<network>-<market>`; the answer's `supplyApr` is a rate with
  eighteen decimals, as a string or a number, and its absence is an error. Morpho: a GraphQL
  `POST /graphql` asking for the vault's weekly net APY on a chain; errors in the answer are
  joined line by line after `morpho: graphql:`, and a vault or rate that is not there is
  `morpho: vault <address> not found`.
-/

namespace QuoteKeeper

namespace Gateway

variable {m : Type → Type} [Monad m]

/-! ## GraphQL answers -/

/-- The messages of a GraphQL answer's errors. -/
def graphQLErrors : Binder (Backed String) :=
  Binding.list "[]gateway.graphQLError" ""
    (Binding.record "gateway.graphQLError" [Binding.Field.of "message" id (fun _ v => v) Binding.string])

/-- A GraphQL answer's errors as one failure, if it has any. -/
def graphQLFailure (provider : String) (errors : Backed String) : Option Failure :=
  match errors.items with
  | e :: es => some (.plain (provider ++ ": graphql: " ++ "\n".intercalate (e :: es)))
  | [] => none

/-! ## Silo -/

structure SiloSettings where
  client : ClientSettings
  network : String

def siloBase : String := "https://v2.silo.finance/api"

def siloVault : Binder (Option Decimal) :=
  Binding.record "gateway.siloVault"
    [Binding.Field.of "supplyApr" id (fun _ v => v) (Binding.optional Decimal.zero Binding.decimal)]

def silo (s : SiloSettings) (transport : Transport m) (observe : String → Outcome Unit → m Unit)
    (waits : ClientWaits m) :
    JsonClient m × SiloSettings :=
  let network := if s.network.isEmpty then "sonic" else s.network
  (JsonClient.new "silo" (s.client.withDefaults siloBase) [] transport observe waits, { s with network })

/-- The market's supply rate as a fraction (0.05 is 5%). -/
def siloSupplyRate (c : JsonClient m) (s : SiloSettings) (market : Address) : m (Outcome Float) := do
  match ← c.get ("/detailed-vault/" ++ s.network ++ "-" ++ market.toText) []
      (Binding.document "siloVault" siloVault none) with
  | .error e => pure (.error e)
  | .ok none => pure (.error (.plain "silo: response missing supplyApr"))
  | .ok (some apr) => pure (.ok (apr.shift (-18)).toFloat)

/-! ## Morpho -/

structure MorphoSettings where
  client : ClientSettings
  chainId : Int

def morphoBase : String := "https://api.morpho.org"

def morphoVaultQuery : String :=
  "query VaultApy($address: String!, $chainId: Int) \x7b\n" ++
  "  vaultByAddress(address: $address, chainId: $chainId) \x7b\n" ++
  "    address\n" ++
  "    state \x7b\n" ++
  "      weeklyNetApy\n" ++
  "    \x7d\n" ++
  "  \x7d\n" ++
  "\x7d"

structure MorphoAnswer where
  /-- The vault, if found, and its rate, if known. -/
  vault : Option (Option Float)
  errors : Backed String

def morphoStateType : String := "struct \x7b WeeklyNetApy *float64 \"json:\\\"weeklyNetApy\\\"\" \x7d"

def morphoVaultType : String :=
  "struct \x7b Address string \"json:\\\"address\\\"\"; State " ++ morphoStateType ++ " \"json:\\\"state\\\"\" \x7d"

def morphoAnswer : Binder MorphoAnswer :=
  let state : Binder (Option Float) :=
    Binding.record morphoStateType
      [Binding.Field.of "weeklyNetApy" id (fun _ v => v) (Binding.optional 0 Binding.float64)]
  let vault : Binder (Option Float) :=
    Binding.record morphoVaultType
      [Binding.Field.of "address" (fun _ => "") (fun v _ => v) Binding.string,
       Binding.Field.of "state" id (fun _ v => v) state]
  let data : Binder (Option (Option Float)) :=
    Binding.record ("struct \x7b VaultByAddress *" ++ morphoVaultType ++ " \"json:\\\"vaultByAddress\\\"\" \x7d")
      [Binding.Field.of "vaultByAddress" id (fun _ v => v) (Binding.optional none vault)]
  Binding.record "gateway.morphoVaultResponse"
    [Binding.Field.of "data" (·.vault) (fun a v => { a with vault := v }) data,
     Binding.Field.of "errors" (·.errors) (fun a v => { a with errors := v }) graphQLErrors]

def morpho (s : MorphoSettings) (transport : Transport m) (observe : String → Outcome Unit → m Unit)
    (waits : ClientWaits m) :
    JsonClient m × MorphoSettings :=
  let chainId := if s.chainId == 0 then 1 else s.chainId
  (JsonClient.new "morpho" (s.client.withDefaults morphoBase) [] transport observe waits, { s with chainId })

/-- The vault's weekly net APY, used as its supply rate. -/
def morphoSupplyRate (c : JsonClient m) (s : MorphoSettings) (vault : Address) : m (Outcome Float) := do
  let body := Json.obj [("query", .str morphoVaultQuery),
    ("variables", .obj [("address", .str vault.toText), ("chainId", Json.ofInt s.chainId)])]
  match ← c.post "/graphql" body (Binding.document "morphoVaultResponse" morphoAnswer ⟨none, Backed.empty⟩) with
  | .error e => pure (.error e)
  | .ok a =>
    match graphQLFailure "morpho" a.errors with
    | some f => pure (.error f)
    | none =>
      match a.vault with
      | some (some apy) => pure (.ok apy)
      | _ => pure (.error (.plain ("morpho: vault " ++ vault.toText ++ " not found")))

end Gateway

end QuoteKeeper
