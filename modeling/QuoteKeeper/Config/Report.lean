import QuoteKeeper.Config.Validate
import QuoteKeeper.Text.Json
/-
  QuoteKeeper.Config.Report — what a configuration amounts to, as JSON.

  An ARM is reported by its address, its sources in order, the market-price amount and the
  pricing options it gives, each with its error beside it; the options themselves are left out
  when they fail. A whole configuration is reported by whether it validates, its chain,
  breaker and alert settings, and every ARM by name.
-/

namespace QuoteKeeper

namespace Config

def ArmSettings.report (a : ArmSettings) : Json :=
  let amount := a.lending.marketPriceAmount
  let amountJson := match amount with
    | .ok v => Json.str (intText v)
    | .error _ => .null
  let amountErr := match amount with
    | .ok _ => Json.null
    | .error e => Failure.toJson (.plain e)
  let pricing := a.pricingOptions
  let base := [("address", Json.str a.address), ("sources", Json.ofStrings a.sources),
    ("market_price_amount", amountJson), ("market_price_amount_err", amountErr),
    ("pricing_err", pricing.errorJson)]
  match pricing with
  | .ok o =>
    let fields := match o.toJson with
      | .obj fs => fs
      | _ => []
    .obj (base ++ [("pricing", .obj (fields ++ [("amount_wei", .str (intText o.amountWei))]))])
  | .error _ => .obj base

def AppSettings.report (c : AppSettings) : Json :=
  let arms := c.arms.getD []
  .obj [("valid", c.validate.errorJson), ("env", .str c.env),
    ("chain", .obj [("rpc_url", .str c.chain.rpcUrl), ("ws_url", .str c.chain.wsUrl),
      ("chain_id", Json.ofInt c.chain.chainId)]),
    ("breaker", .obj [("threshold", Json.ofInt c.breaker.threshold),
      ("cooldown_seconds", Json.ofInt c.breaker.cooldownSeconds)]),
    ("alert", .obj [("throttle_seconds", Json.ofInt c.alert.throttleSeconds),
      ("console", .bool c.alert.console)]),
    ("arms", .obj ((sortedNames arms).filterMap fun n => (arms.lookup n).map fun a => (n, a.report)))]

/-- A loaded configuration: the outcome of validation and the settings a run takes from it. -/
def loadReport (cfg : AppSettings) (result : Outcome Unit) : Json :=
  .obj [("err", result.errorJson), ("env", .str cfg.env), ("rpc_url", .str cfg.chain.rpcUrl),
    ("ws_url", .str cfg.chain.wsUrl), ("oneinch_api_key", .str cfg.providers.oneInch.apiKey),
    ("private_key", .str cfg.privateKey), ("arms", Json.ofStrings (sortedNames (cfg.arms.getD [])))]

end Config

end QuoteKeeper
