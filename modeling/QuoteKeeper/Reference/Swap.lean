import QuoteKeeper.Reference.Quote
/-
  QuoteKeeper.Reference.Swap — quotes from a swap quoter's two legs.

  A swap quoter answers how much of one token a given amount of another buys. The swap
  provider quotes the buy leg (liquidity asset into base asset) and then the sell leg (base
  into liquidity) for the same nominal amount. A leg that fails keeps its error, prefixed with
  `<name> buy leg` or `<name> sell leg`; a leg answering nothing or a non-positive amount is
  `quoteUnavailable`. A positive fee in basis points takes its share off each leg's answer
  (rounding toward zero), and an answer that the fee brings to zero or below is unavailable.

  From the two answers, at 18 places: buy = amount · 10^18 / buyOut, sell = sellOut · 10^18 /
  amount, and mid = (buy + sell) / 2, all rounding toward zero. A missing or non-positive
  amount is refused before any leg is quoted (`<name>: invalid amount`).
-/

namespace QuoteKeeper

/-- Something that quotes swaps: `quoteSwap tokenIn tokenOut amountIn` is the amount out. -/
structure SwapQuoter (m : Type → Type) where
  name : String
  quoteSwap : Address → Address → Option Int → m (Outcome (Option Int))

namespace SwapQuoter

variable {m : Type → Type} [Monad m]

/-- `10^18`. -/
def unit : Int := pow10 tokenScale

/-- An amount out less the fee: `out · (10^18 − fee) / 10^18`, rounding toward zero, with the fee
at 18 places; a fee that is not positive takes nothing. -/
def afterFee (feeBps : Decimal) (out : Int) : Int :=
  if feeBps.isPos then (out * (unit - (Price.ofBps feeBps tokenScale).intD)).tdiv unit else out

/-- What a leg makes of the quoter's answer: an amount that is present and positive, and still
positive after the fee, else `quoteUnavailable`; the quoter's own error as it is. -/
def net (feeBps : Decimal) : Outcome (Option Int) → Outcome Int
  | .error e => .error e
  | .ok none => .error (Failure.of .quoteUnavailable)
  | .ok (some out) =>
    if out ≤ 0 then .error (Failure.of .quoteUnavailable)
    else if afterFee feeBps out ≤ 0 then .error (Failure.of .quoteUnavailable)
    else .ok (afterFee feeBps out)

/-- One leg: the quoter's answer, after the fee. -/
def leg (q : SwapQuoter m) (feeBps : Decimal) (tokenIn tokenOut : Address) (amount : Int) :
    m (Outcome Int) :=
  net feeBps <$> q.quoteSwap tokenIn tokenOut (some amount)

/-- The quote of `amount` in for `buyOut` on the buy leg and `sellOut` on the sell leg, at 18
places: the buy price `amount / buyOut`, the sell price `sellOut / amount` and the mid halfway,
each rounding toward zero. -/
def normalise (name : String) (amount buyOut sellOut : Int) : Quote :=
  let buy := (amount * unit).tdiv buyOut
  let sell := (sellOut * unit).tdiv amount
  ⟨name, .set ((buy + sell).tdiv 2) tokenScale, .set buy tokenScale, .set sell tokenScale⟩

/-- The quote from the two legs of a swap quoter. -/
def quote (q : SwapQuoter m) (feeBps : Decimal) (pair : Pair) (amount : Option Int) :
    m (Outcome Quote) := do
  match amount with
  | none => pure (.error (.plain (q.name ++ ": invalid amount")))
  | some a =>
    if a ≤ 0 then pure (.error (.plain (q.name ++ ": invalid amount")))
    else
      match ← q.leg feeBps pair.liquidity pair.base a with
      | .error e => pure (.error (e.wrap (q.name ++ " buy leg")))
      | .ok buyOut =>
        match ← q.leg feeBps pair.base pair.liquidity a with
        | .error e => pure (.error (e.wrap (q.name ++ " sell leg")))
        | .ok sellOut => pure (.ok (normalise q.name a buyOut sellOut))

/-- The swap provider of a quoter and a fee. -/
def provider (q : SwapQuoter m) (feeBps : Decimal) : Provider m :=
  ⟨q.name, q.quote feeBps⟩

end SwapQuoter

end QuoteKeeper
