import QuoteKeeper.Chain.Abi
import QuoteKeeper.Price.Basic
import QuoteKeeper.Withdrawal.Estimate
/-
  QuoteKeeper.Chain.Contracts — reading the contracts pricing depends on.

  A contract is an address and an endpoint that answers read-only calls with bytes. A read
  fails with `call <method> on <address>: <failure>` when the endpoint does, and with
  `unpack <method>: <reason>` when the bytes are not the method's outputs.

  The ARM quotes at 36 places: its buy price is `traderate1`, its cross price `crossPrice`, and
  its sell price the inverse of `traderate0` (`10^72 / traderate0`, so a zero rate cannot be
  inverted). Its outstanding withdrawals are those queued minus those claimed. An ERC-4626
  vault's exchange rate is the assets one whole share (10^18) converts to. A Curve pool quotes
  `get_dy` between the indices of two of its coins; a coin it does not hold is a quote that is
  unavailable, asked of nobody.

  The liquidity behind withdrawals: available is the liquidity token the vault holds, pending
  claims are the vault's queued minus claimed, and required is the ARM's base balance less its
  own outstanding withdrawals, never below zero.
-/

namespace QuoteKeeper

/-- A read-only call endpoint: call data sent to an address, the bytes returned. -/
abbrev CallEndpoint (m : Type → Type) := Address → List UInt8 → m (Outcome (List UInt8))

structure Contract (m : Type → Type) where
  address : Address
  endpoint : CallEndpoint m

namespace Contract

variable {m : Type → Type} [Monad m]

def call (c : Contract m) (meth : AbiMethod) (args : List AbiValue) : m (Outcome (List AbiValue)) := do
  match ← c.endpoint c.address (meth.pack args) with
  | .error e => pure (.error (e.wrap ("call " ++ meth.name ++ " on " ++ c.address.toText)))
  | .ok out =>
    match meth.unpack out with
    | .error why => pure (.error (.plain ("unpack " ++ meth.name ++ ": " ++ why)))
    | .ok vals => pure (.ok vals)

/-- The first output as a number. -/
def callNum (c : Contract m) (meth : AbiMethod) (args : List AbiValue) : m (Outcome Int) := do
  match ← c.call meth args with
  | .error e => pure (.error e)
  | .ok (.num n :: _) => pure (.ok n)
  | .ok (.addr _ :: _) => pure (.error (.plain (meth.name ++ ": unexpected type common.Address")))
  | .ok [] => pure (.error (.plain (meth.name ++ ": empty result")))

/-- The first output as an address. -/
def callAddress (c : Contract m) (meth : AbiMethod) (args : List AbiValue) : m (Outcome Address) := do
  match ← c.call meth args with
  | .error e => pure (.error e)
  | .ok (.addr a :: _) => pure (.ok a)
  | .ok (.num _ :: _) => pure (.error (.plain (meth.name ++ ": unexpected type *big.Int")))
  | .ok [] => pure (.error (.plain (meth.name ++ ": empty result")))

end Contract

namespace ArmContract

variable {m : Type → Type} [Monad m]

/-- Submitting prices needs a key to sign with. -/
def noSigner : Failure := .plain "arm: no signer configured"

/-- `10^72 / traderate0` at 36 places. -/
def sellPrice (c : Contract m) : m (Outcome Price) := do
  match ← c.callNum Abi.traderate0 [] with
  | .error e => pure (.error e)
  | .ok rate =>
    match invertInt (some rate) (2 * priceScale) with
    | .error e => pure (.error (e.wrap "traderate0"))
    | .ok inv => pure (.ok (.set inv priceScale))

def buyPrice (c : Contract m) : m (Outcome Price) := do
  pure ((← c.callNum Abi.traderate1 []).map fun v => .set v priceScale)

def crossPrice (c : Contract m) : m (Outcome Price) := do
  pure ((← c.callNum Abi.crossPrice []).map fun v => .set v priceScale)

def liquidityAsset (c : Contract m) : m (Outcome Address) := c.callAddress Abi.liquidityAsset []
def baseAsset (c : Contract m) : m (Outcome Address) := c.callAddress Abi.baseAsset []
def activeMarket (c : Contract m) : m (Outcome Address) := c.callAddress Abi.activeMarket []
def vault (c : Contract m) : m (Outcome Address) := c.callAddress Abi.vault []

/-- Queued minus claimed. -/
def outstandingWithdrawals (c : Contract m) : m (Outcome Int) := do
  match ← c.callNum Abi.withdrawsQueued [] with
  | .error e => pure (.error e)
  | .ok queued =>
    match ← c.callNum Abi.withdrawsClaimed [] with
    | .error e => pure (.error e)
    | .ok claimed => pure (.ok (queued - claimed))

end ArmContract

namespace TokenContract

variable {m : Type → Type} [Monad m]

def balanceOf (c : Contract m) (owner : Address) : m (Outcome Int) :=
  c.callNum Abi.balanceOf [.addr owner]

/-- Assets per whole share, at 18 places. -/
def exchangeRate (c : Contract m) : m (Outcome Price) := do
  pure ((← c.callNum Abi.convertToAssets [.num (pow10 tokenScale)]).map fun v => .set v tokenScale)

/-- The lending market behind a market wrapper. -/
def market (c : Contract m) : m (Outcome Address) := c.callAddress Abi.market []

end TokenContract

/-- A Curve pool and the index of each coin it holds. -/
structure CurvePool (m : Type → Type) where
  contract : Contract m
  coins : List (Address × Int)

namespace CurvePool

variable {m : Type → Type} [Monad m]

def notInPool (a : Address) : Failure :=
  .error ("curve: " ++ a.toText ++ " not in pool: " ++ Condition.quoteUnavailable.text) [.quoteUnavailable]

def quoteSwap (p : CurvePool m) (tokenIn tokenOut : Address) (amount : Option Int) : m (Outcome Int) :=
  match p.coins.lookup tokenIn, p.coins.lookup tokenOut with
  | none, _ => pure (.error (notInPool tokenIn))
  | _, none => pure (.error (notInPool tokenOut))
  | some i, some j =>
    match amount with
    | none => pure (.error Failure.nilDeref)
    | some a => p.contract.callNum Abi.getDy [.num i, .num j, .num a]

end CurvePool

/-- The contracts behind the withdrawal liquidity of one ARM. -/
structure VaultLiquidity (m : Type → Type) where
  arm : Contract m
  vault : Contract m
  liquidityToken : Contract m
  baseToken : Contract m

namespace VaultLiquidity

variable {m : Type → Type} [Monad m]

def read (v : VaultLiquidity m) : m (Outcome Withdrawal.Liquidity) := do
  match ← TokenContract.balanceOf v.liquidityToken v.vault.address with
  | .error e => pure (.error e)
  | .ok available =>
    match ← v.vault.call Abi.withdrawalQueueMetadata [] with
    | .error e => pure (.error e)
    | .ok outs =>
      match outs with
      | .num queued :: _ :: .num claimed :: _ =>
        match ← TokenContract.balanceOf v.baseToken v.arm.address with
        | .error e => pure (.error e)
        | .ok base =>
          match ← ArmContract.outstandingWithdrawals v.arm with
          | .error e => pure (.error e)
          | .ok outstanding =>
            pure (.ok ⟨some available, some (max 0 (base - outstanding)), some (queued - claimed)⟩)
      | _ =>
        if outs.length < 3 then
          pure (.error (.plain ("withdrawalQueueMetadata: got " ++ natText outs.length ++ " values")))
        else pure (.error (.plain "withdrawalQueueMetadata: unexpected types"))

end VaultLiquidity

end QuoteKeeper
