import QuoteKeeper.Sim.Script
import QuoteKeeper.Gateway.Swap
import QuoteKeeper.Gateway.Squid
/-
  QuoteKeeper.Sim.Gateway — one call of an HTTP adapter over recorded replies.

  The adapter (`1inch`, `kyber`, `fly`, `silo`, `morpho` or `squid`) is built from the
  request's `config` with a retry policy of `max_retries` (2 when absent) and one-microsecond
  backoffs. Its transport answers each request with the next reply of `responses`: a status
  (200 when absent) and a body, or a transport error; when they run out, the request fails
  with `no scripted response`. Every request is recorded with its method, address, headers and
  body, and every report to the observer as `[provider, error or null]`.
-/

namespace QuoteKeeper

namespace Sim

/-- A transport answering from the script and recording each request. -/
def replayTransport : Transport Scripted := fun r => do
  record "request" (.obj [("method", .str r.method), ("url", .str r.url),
    ("headers", .obj (r.headers.map fun (k, v) => (k, .str v))), ("body", .str r.body)])
  match ← nextAnswer with
  | none => pure (.failure "no scripted response")
  | some a =>
    match a.getD "transport_error" with
    | .str e => pure (.failure e)
    | _ =>
      let status := match (a.getD "status").asInt? with
        | some s => s.toNat
        | none => 200
      pure (.response status (match a.getD "body" with | .str b => b | _ => ""))

def observeRecorder (provider : String) (o : Outcome Unit) : Scripted Unit :=
  record "observed" (.arr [.str provider, o.errorJson])

/-- The withdrawal requests as `[{id, validator_id, amount, created_at}]`. -/
def pendingJson (ps : List Gateway.PendingWithdrawal) : Json :=
  .arr (ps.map fun p => .obj [("id", .str p.id), ("validator_id", .str p.validatorId),
    ("amount", .str (intText p.amount)), ("created_at", Json.ofInt p.createdAt)])

/-- One adapter call: its value or error, the requests it made and what it reported. -/
def gateway (j : Json) : Decoded Json := do
  let c := j.getD "config"
  let call := j.getD "call"
  let settings : ClientSettings := ⟨← readStr c "base_url", ⟨← readInt c "max_retries" 2, 1000, 1000, 0, false⟩⟩
  let swap (name : String) (o : Outcome Int) : Outcome Json :=
    o.map fun v => .obj [("name", .str name), ("amount_out", .str (intText v))]
  let amount := some ((← readBig call "amount").getD 0)
  let program : Scripted (Outcome Json) ← match ← readStr j "client" with
    | "1inch" => do
      let (client, chain) ← ofOutcome (Gateway.oneInch ⟨settings, ← readStr c "api_key", ← readInt c "chain_id" 0⟩
        replayTransport observeRecorder .free)
      pure (swap "1inch" <$> Gateway.oneInchQuoteSwap client chain (← readAddr call "token_in")
        (← readAddr call "token_out") amount)
    | "kyber" => do
      let (client, s) := Gateway.kyber ⟨settings, ← readStr c "chain", ← readStr c "client_id",
        ← readStrs c "excluded_sources"⟩ replayTransport observeRecorder .free
      pure (swap "kyber" <$> Gateway.kyberQuoteSwap client s (← readAddr call "token_in")
        (← readAddr call "token_out") amount)
    | "fly" => do
      let (client, s) := Gateway.flyTrade ⟨settings, ← readStr c "network", ← readAddr c "swapper",
        ← readStr c "slippage", ← readStrs c "liquidity_sources", ← readInt c "out_decimals" 0⟩
        replayTransport observeRecorder .free
      pure (swap "fly" <$> Gateway.flyQuoteSwap client s (← readAddr call "token_in")
        (← readAddr call "token_out") amount)
    | "silo" => do
      let (client, s) := Gateway.silo ⟨settings, ← readStr c "network"⟩ replayTransport observeRecorder .free
      pure ((·.map Json.ofFloat) <$> Gateway.siloSupplyRate client s (← readAddr call "market"))
    | "morpho" => do
      let (client, s) := Gateway.morpho ⟨settings, ← readInt c "chain_id" 0⟩ replayTransport observeRecorder .free
      pure ((·.map Json.ofFloat) <$> Gateway.morphoSupplyRate client s (← readAddr call "vault"))
    | "squid" => do
      let (client, s) := Gateway.squid ⟨settings, ← readInt c "chain_id" 0, ← readStrs c "validator_ids",
        ← readInt c "limit" 0⟩ replayTransport observeRecorder .free
      pure ((·.map pendingJson) <$> Gateway.squidRequests client s)
    | other => malformed ("unknown client " ++ Text.quoted other)
  let (o, (_, calls)) := program.run (← readList j "responses", #[])
  pure (.obj [("value", match o with | .ok v => v | .error _ => .null), ("err", o.errorJson),
    ("requests", .arr (recorded calls "request")), ("observed", .arr (recorded calls "observed"))])

end Sim

end QuoteKeeper
