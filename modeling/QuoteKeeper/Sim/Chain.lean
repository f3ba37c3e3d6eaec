import QuoteKeeper.Sim.Script
import QuoteKeeper.Chain.Contracts
/-
  QuoteKeeper.Sim.Chain — contract reads over a scripted call endpoint.
-/

namespace QuoteKeeper

namespace Sim

/-- The bytes a scripted response returns. -/
def responseBytes (r : Json) : Decoded (Outcome (List UInt8)) := do
  match r.getD "error" with
  | .str e => pure (.error (.plain e))
  | _ =>
  if !(r.getD "uint").isNull then pure (.ok (Abi.word ((← readBig r "uint").getD 0)))
  else if !(r.getD "words").isNull then
    pure (.ok ((← readList r "words").flatMap fun w => Abi.word ((Json.asInt? w).getD ((w.asStr?.bind String.toInt?).getD 0))))
  else if !(r.getD "address").isNull then pure (.ok (Abi.encode (.addr (← readAddr r "address"))))
  else pure (.ok (Hex.decodePrefix (Hex.strip0x (← readStr r "hex").toList)))

/-- The answer to a call from scripted responses, keyed `<method>@<address>` or `<method>`. -/
def callAnswer (responses : Json) (target : Address) (data : List UInt8) : Outcome (List UInt8) :=
  let name := ((Abi.methodOf? data).map (·.name)).getD ""
  let r := match responses.get? (name ++ "@" ++ target.toLower) with
    | some r => some r
    | none => responses.get? name
  match r with
  | none => .error (.plain ("no response for " ++ name))
  | some r =>
    match responseBytes r with
    | .ok o => o
    | .error e => .error (.plain e.render)

def chainCalls (j : Json) : Decoded Json := do
  let responses := j.getD "responses"
  let endpoint : CallEndpoint Scripted := fun target data => do
    record "eth_call" (.obj [("to", .str target.toText), ("data", .str (Hex.encode0x data))])
    pure (callAnswer responses target data)
  let mut progs : Array (Scripted (Outcome Json)) := #[]
  for c in ← readList j "calls" do
    let at' : Contract Scripted := ⟨← readAddr c "address", endpoint⟩
    let num (o : Outcome Int) : Outcome Json := o.map fun v => .str (intText v)
    let addr (o : Outcome Address) : Outcome Json := o.map fun a => .str a.toText
    let price (o : Outcome Price) : Outcome Json := o.map Price.toJson
    let prog : Scripted (Outcome Json) ← match ← readStr c "call" with
      | "arm.sell_price" => pure (price <$> ArmContract.sellPrice at')
      | "arm.buy_price" => pure (price <$> ArmContract.buyPrice at')
      | "arm.cross_price" => pure (price <$> ArmContract.crossPrice at')
      | "arm.liquidity_asset" => pure (addr <$> ArmContract.liquidityAsset at')
      | "arm.base_asset" => pure (addr <$> ArmContract.baseAsset at')
      | "arm.active_market" => pure (addr <$> ArmContract.activeMarket at')
      | "arm.vault" => pure (addr <$> ArmContract.vault at')
      | "arm.outstanding_withdrawals" => pure (num <$> ArmContract.outstandingWithdrawals at')
      | "arm.submit_prices" => pure (pure (.error ArmContract.noSigner))
      | "erc20.balance_of" => do let o ← readAddr c "owner"; pure (num <$> TokenContract.balanceOf at' o)
      | "erc4626.exchange_rate" => pure (price <$> TokenContract.exchangeRate at')
      | "market_wrapper.market" => pure (addr <$> TokenContract.market at')
      | "curve.quote_swap" => do
        let coins ← (← readList c "coins").mapM fun p => match p with
          | .arr [a, i] => do pure (Address.ofText ((a.asStr?).getD ""), (Json.asInt? i).getD 0)
          | _ => malformed "coins: want [address, index] pairs"
        let pool : CurvePool Scripted := ⟨at', coins⟩
        let tin ← readAddr c "token_in"
        let tout ← readAddr c "token_out"
        let amt ← readBig c "amount"
        pure (num <$> pool.quoteSwap tin tout amt)
      | "vault_liquidity" => do
        let v : VaultLiquidity Scripted := ⟨at', ⟨← readAddr c "vault", endpoint⟩, ⟨← readAddr c "liquidity_token", endpoint⟩,
          ⟨← readAddr c "base_token", endpoint⟩⟩
        pure ((fun o => o.map fun l => Json.obj [("available", bigJson l.available), ("required", bigJson l.required),
          ("pending_claims", bigJson l.pendingClaims)]) <$> v.read)
      | other => malformed ("unknown chain call " ++ Text.quoted other)
    progs := progs.push prog
  let run : Scripted (List Json) := progs.toList.mapM fun p => do
    match ← p with
    | .ok v => pure (.obj [("value", v)])
    | .error e => pure (.obj [("err", Failure.toJson e)])
  let (results, (_, calls)) := run.run ([], #[])
  pure (.obj [("results", .arr results), ("eth_calls", .arr (recorded calls "eth_call"))])

end Sim

end QuoteKeeper
