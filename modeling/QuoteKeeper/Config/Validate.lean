import QuoteKeeper.Config.Settings
import QuoteKeeper.Engine.Options
/-
  QuoteKeeper.Config.Validate — when a configuration may run, and what it asks of a run.

  (1) Global checks, first failure wins: an environment name, an RPC endpoint, a chain id,
  a throttle and breaker settings that are not negative, and at least one ARM. Then every
  ARM in name order is checked and all their failures are reported together.
  (2) An ARM needs a hex address (and hex addresses where others are given), known
  sources (a Curve source needs a pool and two hex coins), fees that are decimals not below
  zero, a wrapper when prices are wrapped, a known lending provider and price source, a
  positive market-price amount, non-negative holding and maturation days, a vault for the
  withdrawal estimate, and pricing options that themselves validate.
  (3) Pricing options come from the text settings: empty text is zero (or "not given" for
  the optional prices), holding days become a duration, and a `mid` source needs a mid price
  unless both explicit prices are given.
  (4) Hot reload accepts a new configuration only with the same chain settings and, per
  ARM, the same wiring: everything but the pricing parameters and the lending bounds'
  holding days, floor and premium.
-/

namespace QuoteKeeper

namespace Config

/-- A configuration error. -/
def invalid (msg : String) : Failure := .error msg [.invalidConfig]

/-- `0x`-prefixed or bare, exactly forty hex digits. -/
def isHexAddress (s : String) : Bool :=
  let cs := Hex.strip0x s.toList
  cs.length == 40 && cs.all fun c => (Hex.value? c).isSome

def knownSources : List String := ["mid", "curve", "inch", "kyber", "fly"]

/-- The primary source and the fallbacks, without empty names or repeats. -/
def ArmSettings.sources (a : ArmSettings) : List String :=
  (a.source :: a.fallback.getD []).foldl
    (fun acc s => if s == "" || acc.contains s then acc else acc ++ [s]) []

/-- A decimal that is not negative. -/
def nonNegative (s : String) : Except String Decimal :=
  match Decimal.ofString? s with
  | .error e => .error e.message
  | .ok d => if d.isNeg then .error (s ++ " must be >= 0") else .ok d

/-- The amount a market price is quoted for, at 18 places: 1000 unless given, then positive. -/
def LendingSettings.marketPriceAmount (l : LendingSettings) : Except String Int := do
  let amount ← if l.priceAmount == "" then pure (Decimal.ofInt 1000)
    else match Decimal.ofString? l.priceAmount with
      | .error e => throw ("lending.priceAmount: " ++ e.message)
      | .ok d => if d.isPos then pure d else throw ("lending.priceAmount " ++ d.toString ++ " must be > 0")
  pure (amount.shift 18).trunc

/-- Twenty-four hours in nanoseconds, as a float. -/
def dayNanos : Float := 86400000000000.0

def ArmSettings.pricingOptions (a : ArmSettings) : Outcome PricingOptions := do
  let p := a.pricing
  let plain (name text : String) : Outcome Decimal :=
    if text == "" then .ok Decimal.zero
    else match Decimal.ofString? text with
      | .ok d => .ok d
      | .error e => .error (.plain (name ++ ": " ++ e.message))
  let optional (name text : String) : Outcome (Option Decimal) :=
    if text == "" then .ok none
    else match Decimal.ofString? text with
      | .ok d => .ok (some d)
      | .error e => .error (.plain (name ++ ": " ++ e.message))
  let fee ← plain "fee" p.fee
  let tolerance ← plain "tolerance" p.tolerance
  let offset ← plain "offset" p.offset
  let amount ← plain "amount" p.amount
  let buy ← optional "buyPrice" p.buyPrice
  let sell ← optional "sellPrice" p.sellPrice
  let mid ← optional "midPrice" p.midPrice
  let minSell ← optional "minSellPrice" p.minSellPrice
  let maxSell ← optional "maxSellPrice" p.maxSellPrice
  let minBuy ← optional "minBuyPrice" p.minBuyPrice
  let maxBuy ← optional "maxBuyPrice" p.maxBuyPrice
  let floor ← optional "lending.minBuyFloor" a.lending.minBuyFloor
  let premium ← optional "lending.maxBuyPremium" a.lending.maxBuyPremium
  let holding := if a.lending.holdingDays > 0 then Binary.toInt64 (a.lending.holdingDays * dayNanos) else 0
  let opts : PricingOptions := ⟨fee, tolerance, offset, buy, sell, mid, minSell, maxSell, minBuy,
    maxBuy, p.priceOffset, p.wrapped, p.dryRun, p.confirm, amount, holding, floor, premium⟩
  if a.source == "mid" && mid.isNone && !opts.hasExplicitPair then
    throw (.plain ("source " ++ Text.quoted "mid" ++ " needs pricing.midPrice"))
  opts.validate
  pure opts

/-- A named address that is given but is not a hex address. -/
def addressProblem (arm field v : String) : Option String :=
  if v != "" && !isHexAddress v then some (arm ++ field ++ " " ++ Text.quoted v ++ " is not a hex address")
  else none

/-- A Curve coin that is not a hex address. -/
def coinProblem (arm coin : String) : Option String :=
  if !isHexAddress coin then some (arm ++ "curve coin " ++ Text.quoted coin ++ " is not a hex address")
  else none

/-- A fee that is not a decimal at least zero. -/
def feeProblem (arm src fee : String) : Option String :=
  match nonNegative fee with
  | .error e => some (arm ++ "feeBps." ++ src ++ ": " ++ e)
  | .ok _ => none

/-- An unknown source, or a Curve source without a pool and two coins, or with a coin that is
not a hex address. -/
def ArmSettings.sourceProblem (arm : String) (a : ArmSettings) (s : String) : Option String :=
  if !knownSources.contains s then some (arm ++ "unknown source " ++ Text.quoted s)
  else if s == "curve" then
    let coins := a.curve.coins.getD []
    if a.curve.pool == "" || coins.length < 2 then some (arm ++ "curve source needs curve.pool and two coins")
    else coins.findSome? fun c => coinProblem arm c.1
  else none

/-- The checks that follow the maps, first failure wins: wrapper, lending settings, the
market-price amount, day counts, vault, and the pricing options. -/
def ArmSettings.settingsProblem (arm : String) (a : ArmSettings) : Option String :=
  let src := a.lending.priceSource
  if a.pricing.wrapped && a.wrapper == "" then some (arm ++ "pricing.wrapped needs wrapper")
  else if !(["", "silo", "morpho"].contains a.lending.provider) then
    some (arm ++ "unknown lending provider " ++ Text.quoted a.lending.provider)
  else if src != "" && (!knownSources.contains src || src == "mid") then
    some (arm ++ "lending.priceSource " ++ Text.quoted src ++ " must be a swap source")
  else if src == "curve" && a.curve.pool == "" then some (arm ++ "lending.priceSource curve needs curve.pool")
  else match a.lending.marketPriceAmount with
    | .error e => some (arm ++ e)
    | .ok _ =>
      if a.lending.holdingDays < 0 then some (arm ++ "lending.holdingDays must be >= 0")
      else if a.withdrawal.maturationDays < 0 then some (arm ++ "withdrawal.maturationDays must be >= 0")
      else if a.withdrawal.enabled && a.vault == "" then some (arm ++ "withdrawal estimate needs vault")
      else match a.pricingOptions with
        | .error e => some (arm ++ "pricing: " ++ e.message)
        | .ok _ => none

/-- The first problem with one ARM: its address, the other addresses, each source, each fee,
then the remaining settings. -/
def ArmSettings.problem (name : String) (a : ArmSettings) : Option String :=
  let arm := "arm " ++ name ++ " "
  let addresses := [("wrapper", a.wrapper), ("vault", a.vault), ("curve.pool", a.curve.pool),
    ("lending.market", a.lending.market)]
  (if isHexAddress a.address then none
    else some (arm ++ "address " ++ Text.quoted a.address ++ " is not a hex address")) <|>
  addresses.findSome? (fun f => addressProblem arm f.1 f.2) <|>
  a.sources.findSome? (a.sourceProblem arm) <|>
  (a.feeBps.getD []).findSome? (fun f => feeProblem arm f.1 f.2) <|>
  a.settingsProblem arm

/-- Names in byte order. -/
def sortedNames (arms : List (String × α)) : List String :=
  (arms.map (·.1)).mergeSort fun a b => decide (a ≤ b)

/-- Each failing ARM's first problem, in name order. -/
def armProblems (arms : List (String × ArmSettings)) : List String :=
  (sortedNames arms).filterMap fun name => (arms.lookup name).bind (ArmSettings.problem name)

/-- The first failed global check: environment, endpoint, chain id, alert throttle, breaker
settings, and at least one ARM. -/
def AppSettings.globalProblem (c : AppSettings) : Option String :=
  if c.env == "" then some "env is required"
  else if c.chain.rpcUrl == "" then some "chain.rpcURL is required (or ARM_RPC_URL)"
  else if c.chain.chainId < 0 then some "chain.chainID must be >= 0"
  else if c.alert.throttleSeconds < 0 then some "alert.throttleSeconds must be >= 0"
  else if c.breaker.threshold < 0 || c.breaker.cooldownSeconds < 0 then
    some "breaker.threshold and breaker.cooldownSeconds must be >= 0"
  else if (c.arms.getD []).isEmpty then some "arms config is required"
  else none

/-- A failed global check alone; otherwise every failing ARM's first problem, joined. -/
def AppSettings.validate (c : AppSettings) : Outcome Unit :=
  match c.globalProblem with
  | some msg => .error (invalid msg)
  | none =>
    let problems := armProblems (c.arms.getD [])
    if problems.isEmpty then .ok () else .error (Failure.join (problems.map invalid))

def AppSettings.arm (c : AppSettings) (name : String) : Outcome ArmSettings :=
  match (c.arms.getD []).lookup name with
  | some a => .ok a
  | none => .error (invalid ("arm " ++ Text.quoted name ++ " not configured"))

/-- Environment overrides: non-empty endpoint and API key values replace the file's; the
private key comes only from the environment. -/
def AppSettings.withEnv (c : AppSettings) (env : List (String × String)) : AppSettings :=
  let get (k : String) := (env.lookup k).getD ""
  let rpc := get "ARM_RPC_URL"
  let ws := get "ARM_WS_URL"
  let key := get "ARM_ONEINCH_API_KEY"
  let rpcUrl := if rpc != "" then rpc else c.chain.rpcUrl
  let wsUrl := if ws != "" then ws else c.chain.wsUrl
  let apiKey := if key != "" then key else c.providers.oneInch.apiKey
  let oneInch := { c.providers.oneInch with apiKey }
  let providers := { c.providers with oneInch }
  { c with chain := { c.chain with rpcUrl, wsUrl }, providers, privateKey := get "ARM_PRIVATE_KEY" }

/-- Reads and validates; a read problem comes first. -/
def load (text : String) : AppSettings × Outcome Unit :=
  match parse text with
  | (cfg, some e) => (cfg, .error (.plain e))
  | (cfg, none) => (cfg, cfg.validate)

/-- Reads, applies the environment, and validates. -/
def loadWithEnv (text : String) (env : List (String × String)) : AppSettings × Outcome Unit :=
  match parse text with
  | (cfg, some e) => (cfg, .error (.plain e))
  | (cfg, none) =>
    let cfg := cfg.withEnv env
    (cfg, cfg.validate)

/-! ## Hot reload -/

/-- Two maps with the same keys and equal values, in any order. -/
def sameMap [BEq α] (a b : Option (List (String × α))) : Bool :=
  match a, b with
  | none, none => true
  | some xs, some ys => xs.length == ys.length && xs.all fun (k, v) => ys.lookup k == some v
  | _, _ => false

/-- Equal settings apart from what may change while running. -/
def ArmSettings.sameWiring (a b : ArmSettings) : Bool :=
  a.address == b.address && a.wrapper == b.wrapper && a.vault == b.vault &&
    a.curve.pool == b.curve.pool && sameMap a.curve.coins b.curve.coins &&
    a.source == b.source && a.fallback == b.fallback && sameMap a.feeBps b.feeBps &&
    a.lending.provider == b.lending.provider && a.lending.market == b.lending.market &&
    a.lending.priceSource == b.lending.priceSource && a.lending.priceAmount == b.lending.priceAmount &&
    a.withdrawal == b.withdrawal

def sameChain (current : ChainSettings) (next : AppSettings) : Outcome Unit :=
  if next.chain == current then .ok ()
  else .error (.plain ("chain config changed (" ++ current.rpcUrl ++ " -> " ++ next.chain.rpcUrl ++
    "), restart required"))

def sameWiring (name : String) (current : ArmSettings) (next : AppSettings) : Outcome Unit := do
  let a ← next.arm name
  if !current.sameWiring a then throw (.plain ("arm " ++ name ++ " wiring changed, restart required"))

end Config

end QuoteKeeper
