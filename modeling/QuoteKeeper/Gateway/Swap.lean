import QuoteKeeper.Web.Client
import QuoteKeeper.Chain.Address
/-
  QuoteKeeper.Gateway.Swap — swap quotes from aggregator APIs.

  1inch: `GET /<chain>/quote` with `src`, `dst` and `amount`, authorised by a bearer key
  (required); the answer's `toAmount` is the amount out. KyberSwap: `GET
  /<chain>/api/v1/routes` with the tokens, the amount and `gasInclude=false`, optionally
  excluding sources, identified by a client id; a non-zero `code` or no route summary is an
  unavailable quote, else `amountOut`. fly.trade: `GET /quote` with the network, the tokens,
  the amount, a swapper address as sender and receiver, a slippage and `gasless=false`,
  optionally limiting liquidity sources; `amountOut` is a decimal number of whole tokens,
  scaled by the output decimals and truncated, and nothing positive is an unavailable quote.

  An amount out that is empty, zero or negative is no quote; one that is not a decimal integer
  is an error. Tokens are written in checksum form. An amount that is missing is written
  `<nil>`.
-/

namespace QuoteKeeper

namespace Gateway

variable {m : Type → Type} [Monad m]

def amountText : Option Int → String
  | some a => intText a
  | none => "<nil>"

def noQuote (text : String) : Failure := .error (text ++ ": " ++ Condition.quoteUnavailable.text) [.quoteUnavailable]

/-! ## 1inch -/

structure OneInchSettings where
  client : ClientSettings
  apiKey : String
  chainId : Int

def oneInchBase : String := "https://api.1inch.dev/swap/v5.2"

structure OneInchQuote where
  toAmount : String

def oneInchQuote : Binder OneInchQuote :=
  Binding.record "gateway.oneInchQuote"
    [Binding.Field.of "toAmount" (·.toAmount) (fun _ v => ⟨v⟩) Binding.string]

/-- A 1inch client; the key is required. -/
def oneInch (s : OneInchSettings) (transport : Transport m) (observe : String → Outcome Unit → m Unit)
    (waits : ClientWaits m) :
    Outcome (JsonClient m × Int) :=
  if s.apiKey.isEmpty then .error (.plain "1inch api key required")
  else
    let chain := if s.chainId == 0 then 1 else s.chainId
    .ok (JsonClient.new "1inch" (s.client.withDefaults oneInchBase) [("Authorization", "Bearer " ++ s.apiKey)]
      transport observe waits, chain)

def oneInchQuoteSwap (c : JsonClient m) (chain : Int) (tokenIn tokenOut : Address) (amount : Option Int) :
    m (Outcome Int) := do
  let params := [("src", [tokenIn.toText]), ("dst", [tokenOut.toText]), ("amount", [amountText amount])]
  match ← c.get ("/" ++ intText chain ++ "/quote") params
      (Binding.document "oneInchQuote" oneInchQuote ⟨""⟩) with
  | .error e => pure (.error e)
  | .ok q => pure (parseAmount "1inch" q.toAmount)

/-! ## KyberSwap -/

structure KyberSettings where
  client : ClientSettings
  chain : String
  clientId : String
  excludedSources : List String

def kyberBase : String := "https://aggregator-api.kyberswap.com"

structure KyberRoutes where
  code : Int
  message : String
  amountOut : Option String

def kyberSummaryType : String := "struct \x7b AmountOut string \"json:\\\"amountOut\\\"\" \x7d"

def kyberRoutes : Binder KyberRoutes :=
  let summary : Binder String :=
    Binding.record kyberSummaryType [Binding.Field.of "amountOut" id (fun _ v => v) Binding.string]
  let data : Binder (Option String) :=
    Binding.record ("struct \x7b RouteSummary *" ++ kyberSummaryType ++ " \"json:\\\"routeSummary\\\"\" \x7d")
      [Binding.Field.of "routeSummary" id (fun _ v => v) (Binding.optional "" summary)]
  Binding.record "gateway.kyberRoutes"
    [Binding.Field.of "code" (·.code) (fun r v => { r with code := v }) (Binding.int64 "int"),
     Binding.Field.of "message" (·.message) (fun r v => { r with message := v }) Binding.string,
     Binding.Field.of "data" (·.amountOut) (fun r v => { r with amountOut := v }) data]

def kyber (s : KyberSettings) (transport : Transport m) (observe : String → Outcome Unit → m Unit)
    (waits : ClientWaits m) :
    JsonClient m × KyberSettings :=
  let chain := if s.chain.isEmpty then "ethereum" else s.chain
  let clientId := if s.clientId.isEmpty then "arm-pricer" else s.clientId
  let s := { s with chain, clientId }
  (JsonClient.new "kyber" (s.client.withDefaults kyberBase) [("X-Client-Id", s.clientId)] transport observe waits, s)

def kyberQuoteSwap (c : JsonClient m) (s : KyberSettings) (tokenIn tokenOut : Address) (amount : Option Int) :
    m (Outcome Int) := do
  let params := [("tokenIn", [tokenIn.toText]), ("tokenOut", [tokenOut.toText]),
    ("amountIn", [amountText amount]), ("gasInclude", ["false"])] ++
    (if s.excludedSources.isEmpty then [] else [("excludedSources", [",".intercalate s.excludedSources])])
  match ← c.get ("/" ++ s.chain ++ "/api/v1/routes") params
      (Binding.document "kyberRoutes" kyberRoutes ⟨0, "", none⟩) with
  | .error e => pure (.error e)
  | .ok r =>
    match r.code, r.amountOut with
    | 0, some out => pure (parseAmount "kyber" out)
    | code, _ => pure (.error (noQuote ("kyber: code " ++ intText code ++ " " ++ r.message)))

/-! ## fly.trade -/

structure FlyTradeSettings where
  client : ClientSettings
  network : String
  swapper : Address
  slippage : String
  liquiditySources : List String
  outDecimals : Int

def flyBase : String := "https://api.fly.trade/aggregator"

structure FlyQuote where
  id : String
  amountOut : Decimal

def flyQuote : Binder FlyQuote :=
  Binding.record "gateway.flyQuote"
    [Binding.Field.of "id" (·.id) (fun q v => { q with id := v }) Binding.string,
     Binding.Field.of "amountOut" (·.amountOut) (fun q v => { q with amountOut := v }) Binding.decimal]

def flyTrade (s : FlyTradeSettings) (transport : Transport m) (observe : String → Outcome Unit → m Unit)
    (waits : ClientWaits m) :
    JsonClient m × FlyTradeSettings :=
  let network := if s.network.isEmpty then "sonic" else s.network
  let slippage := if s.slippage.isEmpty then "0.005" else s.slippage
  let outDecimals := if s.outDecimals == 0 then 18 else s.outDecimals
  let s := { s with network, slippage, outDecimals }
  (JsonClient.new "fly" (s.client.withDefaults flyBase) [] transport observe waits, s)

def flyQuoteSwap (c : JsonClient m) (s : FlyTradeSettings) (tokenIn tokenOut : Address) (amount : Option Int) :
    m (Outcome Int) := do
  let params := [("network", [s.network]), ("fromTokenAddress", [tokenIn.toText]),
    ("toTokenAddress", [tokenOut.toText]), ("sellAmount", [amountText amount]),
    ("fromAddress", [s.swapper.toText]), ("toAddress", [s.swapper.toText]), ("slippage", [s.slippage]),
    ("gasless", ["false"])] ++
    (if s.liquiditySources.isEmpty then [] else [("liquiditySources", [",".intercalate s.liquiditySources])])
  match ← c.get "/quote" params (Binding.document "flyQuote" flyQuote ⟨"", Decimal.zero⟩) with
  | .error e => pure (.error e)
  | .ok q =>
    let out := (q.amountOut.shift s.outDecimals).trunc
    if out ≤ 0 then pure (.error (noQuote ("fly: quote " ++ q.id))) else pure (.ok out)

end Gateway

end QuoteKeeper
