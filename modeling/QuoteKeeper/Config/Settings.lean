import QuoteKeeper.Yaml.Decode
/-
  QuoteKeeper.Config.Settings — the service configuration and how it is read from YAML.

  The file names the environment, the chain endpoint, logging, metrics, alerting, the
  circuit breaker, the settings of each HTTP price source, and one entry per ARM: its
  addresses, reference sources, fees, pricing parameters, lending bounds and withdrawal
  estimate. Prices and fees stay text, so that no value passes through a binary float.

  Lists and maps remember whether they were given at all (`none`) or given empty: the two
  are different configurations. The private key never comes from the file.

  Decoding follows the key names below exactly; unknown keys are ignored, and a value of
  the wrong kind leaves its field at the default while recording a type error.
-/

namespace QuoteKeeper

namespace Config

structure ChainSettings where
  rpcUrl : String
  wsUrl : String
  chainId : Int
  deriving DecidableEq, Repr, Inhabited

structure LogSettings where
  level : String
  format : String
  outputs : Option (List String)
  outputFile : String
  errorFile : String
  deriving DecidableEq, Repr, Inhabited

structure AlertSettings where
  throttleSeconds : Int
  console : Bool
  deriving DecidableEq, Repr, Inhabited

structure BreakerSettings where
  threshold : Int
  cooldownSeconds : Int
  deriving DecidableEq, Repr, Inhabited

/-- What every HTTP source has: base URL, timeout and the least spacing of requests. -/
structure HttpSettings where
  baseUrl : String
  timeoutMs : Int
  minIntervalMs : Int
  deriving DecidableEq, Repr, Inhabited

structure OneInchSettings where
  http : HttpSettings
  apiKey : String
  deriving DecidableEq, Repr, Inhabited

structure KyberSettings where
  http : HttpSettings
  chain : String
  clientId : String
  excludedSources : Option (List String)
  deriving DecidableEq, Repr, Inhabited

structure FlyTradeSettings where
  http : HttpSettings
  network : String
  swapper : String
  slippage : String
  liquiditySources : Option (List String)
  deriving DecidableEq, Repr, Inhabited

structure SiloSettings where
  http : HttpSettings
  network : String
  deriving DecidableEq, Repr, Inhabited

structure SquidSettings where
  http : HttpSettings
  limit : Int
  deriving DecidableEq, Repr, Inhabited

structure Providers where
  oneInch : OneInchSettings
  kyber : KyberSettings
  flyTrade : FlyTradeSettings
  silo : SiloSettings
  morpho : HttpSettings
  squid : SquidSettings
  deriving DecidableEq, Repr, Inhabited

structure CurveSettings where
  pool : String
  /-- Token address to coin index. -/
  coins : Option (List (String × Int))
  deriving DecidableEq, Repr, Inhabited

/-- Pricing parameters as written: decimal text, empty when not given. -/
structure PricingSettings where
  fee : String
  tolerance : String
  offset : String
  buyPrice : String
  sellPrice : String
  midPrice : String
  minSellPrice : String
  maxSellPrice : String
  minBuyPrice : String
  maxBuyPrice : String
  amount : String
  priceOffset : Bool
  wrapped : Bool
  dryRun : Bool
  confirm : Bool
  deriving DecidableEq, Repr, Inhabited

structure LendingSettings where
  provider : String
  market : String
  holdingDays : Float
  minBuyFloor : String
  maxBuyPremium : String
  priceSource : String
  priceAmount : String
  deriving Repr, Inhabited

structure WithdrawalSettings where
  enabled : Bool
  validatorIds : Option (List String)
  maturationDays : Int
  deriving DecidableEq, Repr, Inhabited

structure ArmSettings where
  address : String
  wrapper : String
  vault : String
  curve : CurveSettings
  source : String
  fallback : Option (List String)
  /-- Infrastructure fee in basis points, by source name. -/
  feeBps : Option (List (String × String))
  pricing : PricingSettings
  lending : LendingSettings
  withdrawal : WithdrawalSettings
  deriving Repr, Inhabited

structure AppSettings where
  env : String
  chain : ChainSettings
  log : LogSettings
  metricsAddr : String
  alert : AlertSettings
  breaker : BreakerSettings
  providers : Providers
  arms : Option (List (String × ArmSettings))
  privateKey : String
  deriving Repr, Inhabited

/-! ## Defaults -/

def HttpSettings.zero : HttpSettings := ⟨"", 0, 0⟩

def PricingSettings.zero : PricingSettings :=
  ⟨"", "", "", "", "", "", "", "", "", "", "", false, false, false, false⟩

def LendingSettings.zero : LendingSettings := ⟨"", "", 0, "", "", "", ""⟩

def ArmSettings.zero : ArmSettings :=
  ⟨"", "", "", ⟨"", none⟩, "", none, none, PricingSettings.zero, LendingSettings.zero,
    ⟨false, none, 0⟩⟩

def Providers.zero : Providers :=
  ⟨⟨HttpSettings.zero, ""⟩, ⟨HttpSettings.zero, "", "", none⟩,
    ⟨HttpSettings.zero, "", "", "", none⟩, ⟨HttpSettings.zero, ""⟩, HttpSettings.zero,
    ⟨HttpSettings.zero, 0⟩⟩

def AppSettings.zero : AppSettings :=
  ⟨"", ⟨"", "", 0⟩, ⟨"", "", none, "", ""⟩, "", ⟨0, false⟩, ⟨0, 0⟩, Providers.zero, none, ""⟩

/-! ## Reading -/

open Yaml Decode

def str (key : String) (upd : σ → String → σ) : Yaml.Field σ := Yaml.Field.of key string upd
def intField (key : String) (upd : σ → Int → σ) : Yaml.Field σ := Yaml.Field.of key (int64 "int") upd
def flag (key : String) (upd : σ → Bool → σ) : Yaml.Field σ := Yaml.Field.of key bool upd
def list (key : String) (upd : σ → Option (List String) → σ) : Yaml.Field σ := Yaml.Field.of key strings upd

/-- The fields every HTTP source shares, on a record that holds them. -/
def httpFields (get : σ → HttpSettings) (put : σ → HttpSettings → σ) : List (Yaml.Field σ) :=
  [str "baseURL" fun s v => put s { get s with baseUrl := v },
   intField "timeoutMs" fun s v => put s { get s with timeoutMs := v },
   intField "minIntervalMs" fun s v => put s { get s with minIntervalMs := v }]

def chainDecoder : Decoder ChainSettings :=
  record "config.ChainConfig"
    [str "rpcURL" fun s v => { s with rpcUrl := v },
     str "wsURL" fun s v => { s with wsUrl := v },
     Yaml.Field.of "chainID" (int64 "int64") fun s v => { s with chainId := v }]
    ⟨"", "", 0⟩

def logDecoder : Decoder LogSettings :=
  record "config.LogConfig"
    [str "level" fun s v => { s with level := v },
     str "format" fun s v => { s with format := v },
     list "outputs" fun s v => { s with outputs := v },
     str "outputFile" fun s v => { s with outputFile := v },
     str "errorFile" fun s v => { s with errorFile := v }]
    ⟨"", "", none, "", ""⟩

def metricsDecoder : Decoder String :=
  record "config.MetricsConfig" [str "addr" fun _ v => v] ""

def alertDecoder : Decoder AlertSettings :=
  record "config.AlertConfig"
    [intField "throttleSeconds" fun s v => { s with throttleSeconds := v },
     flag "console" fun s v => { s with console := v }]
    ⟨0, false⟩

def breakerDecoder : Decoder BreakerSettings :=
  record "config.BreakerConfig"
    [intField "threshold" fun s v => { s with threshold := v },
     intField "cooldownSeconds" fun s v => { s with cooldownSeconds := v }]
    ⟨0, 0⟩

def providersDecoder : Decoder Providers :=
  let oneInch : Decoder OneInchSettings :=
    record "config.OneInchProvider"
      (httpFields (·.http) (fun s h => { s with http := h }) ++
        [str "apiKey" fun s v => { s with apiKey := v }])
      ⟨HttpSettings.zero, ""⟩
  let kyber : Decoder KyberSettings :=
    record "config.KyberProvider"
      (httpFields (·.http) (fun s h => { s with http := h }) ++
        [str "chain" fun s v => { s with chain := v },
         str "clientID" fun s v => { s with clientId := v },
         list "excludedSources" fun s v => { s with excludedSources := v }])
      ⟨HttpSettings.zero, "", "", none⟩
  let flyTrade : Decoder FlyTradeSettings :=
    record "config.FlyTradeProvider"
      (httpFields (·.http) (fun s h => { s with http := h }) ++
        [str "network" fun s v => { s with network := v },
         str "swapper" fun s v => { s with swapper := v },
         str "slippage" fun s v => { s with slippage := v },
         list "liquiditySources" fun s v => { s with liquiditySources := v }])
      ⟨HttpSettings.zero, "", "", "", none⟩
  let silo : Decoder SiloSettings :=
    record "config.SiloProvider"
      (httpFields (·.http) (fun s h => { s with http := h }) ++
        [str "network" fun s v => { s with network := v }])
      ⟨HttpSettings.zero, ""⟩
  let morpho : Decoder HttpSettings :=
    record "config.MorphoProvider" (httpFields id fun _ h => h) HttpSettings.zero
  let squid : Decoder SquidSettings :=
    record "config.SquidProvider"
      (httpFields (·.http) (fun s h => { s with http := h }) ++
        [intField "limit" fun s v => { s with limit := v }])
      ⟨HttpSettings.zero, 0⟩
  record "config.ProvidersConfig"
    [Yaml.Field.of "oneinch" oneInch fun s v => { s with oneInch := v },
     Yaml.Field.of "kyber" kyber fun s v => { s with kyber := v },
     Yaml.Field.of "flytrade" flyTrade fun s v => { s with flyTrade := v },
     Yaml.Field.of "silo" silo fun s v => { s with silo := v },
     Yaml.Field.of "morpho" morpho fun s v => { s with morpho := v },
     Yaml.Field.of "squid" squid fun s v => { s with squid := v }]
    Providers.zero

def pricingDecoder : Decoder PricingSettings :=
  record "config.PricingConfig"
    [str "fee" fun s v => { s with fee := v },
     str "tolerance" fun s v => { s with tolerance := v },
     str "offset" fun s v => { s with offset := v },
     str "buyPrice" fun s v => { s with buyPrice := v },
     str "sellPrice" fun s v => { s with sellPrice := v },
     str "midPrice" fun s v => { s with midPrice := v },
     str "minSellPrice" fun s v => { s with minSellPrice := v },
     str "maxSellPrice" fun s v => { s with maxSellPrice := v },
     str "minBuyPrice" fun s v => { s with minBuyPrice := v },
     str "maxBuyPrice" fun s v => { s with maxBuyPrice := v },
     str "amount" fun s v => { s with amount := v },
     flag "priceOffset" fun s v => { s with priceOffset := v },
     flag "wrapped" fun s v => { s with wrapped := v },
     flag "dryRun" fun s v => { s with dryRun := v },
     flag "confirm" fun s v => { s with confirm := v }]
    PricingSettings.zero

def lendingDecoder : Decoder LendingSettings :=
  record "config.LendingConfig"
    [str "provider" fun s v => { s with provider := v },
     str "market" fun s v => { s with market := v },
     Yaml.Field.of "holdingDays" float64 fun s v => { s with holdingDays := v },
     str "minBuyFloor" fun s v => { s with minBuyFloor := v },
     str "maxBuyPremium" fun s v => { s with maxBuyPremium := v },
     str "priceSource" fun s v => { s with priceSource := v },
     str "priceAmount" fun s v => { s with priceAmount := v }]
    LendingSettings.zero

def withdrawalDecoder : Decoder WithdrawalSettings :=
  record "config.WithdrawalConfig"
    [flag "enabled" fun s v => { s with enabled := v },
     list "validatorIDs" fun s v => { s with validatorIds := v },
     intField "maturationDays" fun s v => { s with maturationDays := v }]
    ⟨false, none, 0⟩

def curveDecoder : Decoder CurveSettings :=
  record "config.CurveConfig"
    [str "pool" fun s v => { s with pool := v },
     Yaml.Field.of "coins" (map "map[string]int64" (int64 "int64") 0) fun s v => { s with coins := v }]
    ⟨"", none⟩

def armDecoder : Decoder ArmSettings :=
  record "config.ARMConfig"
    [str "address" fun s v => { s with address := v },
     str "wrapper" fun s v => { s with wrapper := v },
     str "vault" fun s v => { s with vault := v },
     Yaml.Field.of "curve" curveDecoder fun s v => { s with curve := v },
     str "source" fun s v => { s with source := v },
     list "fallback" fun s v => { s with fallback := v },
     Yaml.Field.of "feeBps" (map "map[string]string" string "") fun s v => { s with feeBps := v },
     Yaml.Field.of "pricing" pricingDecoder fun s v => { s with pricing := v },
     Yaml.Field.of "lending" lendingDecoder fun s v => { s with lending := v },
     Yaml.Field.of "withdrawal" withdrawalDecoder fun s v => { s with withdrawal := v }]
    ArmSettings.zero

def appDecoder : Decoder AppSettings :=
  record "config.AppConfig"
    [str "env" fun s v => { s with env := v },
     Yaml.Field.of "chain" chainDecoder fun s v => { s with chain := v },
     Yaml.Field.of "log" logDecoder fun s v => { s with log := v },
     Yaml.Field.of "metrics" metricsDecoder fun s v => { s with metricsAddr := v },
     Yaml.Field.of "alert" alertDecoder fun s v => { s with alert := v },
     Yaml.Field.of "breaker" breakerDecoder fun s v => { s with breaker := v },
     Yaml.Field.of "providers" providersDecoder fun s v => { s with providers := v },
     Yaml.Field.of "arms" (map "map[string]config.ARMConfig" armDecoder ArmSettings.zero)
       fun s v => { s with arms := v }]
    AppSettings.zero

/-- Reads the configuration; a parse or type problem is `parse yaml: ...`, with the
settings as far as they were read. -/
def parse (text : String) : AppSettings × Option String :=
  match Yaml.parse text with
  | .error p => (AppSettings.zero, some ("parse yaml: " ++ p.message))
  | .ok root =>
    match root with
    | none => (AppSettings.zero, none)
    | some n =>
      match StateT.run (do Yaml.Decode.visit; Yaml.Decode.visit; appDecoder n) {} with
      | .error e => (AppSettings.zero, some ("parse yaml: yaml: " ++ e))
      | .ok (r, tally) =>
        let cfg := r.getD AppSettings.zero
        if tally.errors.isEmpty then (cfg, none)
        else (cfg, some ("parse yaml: yaml: unmarshal errors:\n  " ++
          "\n  ".intercalate tally.errors.toList))

end Config

end QuoteKeeper
