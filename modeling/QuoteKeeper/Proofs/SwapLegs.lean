import QuoteKeeper.Reference.Swap
import QuoteKeeper.Proofs.EngineFixpoint
import QuoteKeeper.Proofs.EngineSubmission
import QuoteKeeper.Proofs.FeeStrategy
import QuoteKeeper.Proofs.PriceText
/-
  QuoteKeeper.Proofs.SwapLegs — a swap quoter's two legs, normalised to prices, and what a fee
  does to them.

  The swap provider refuses a missing or non-positive amount before it asks anything. Otherwise
  it asks the buy leg (liquidity asset into base asset) and, only when that leg gives an amount,
  the sell leg (base into liquidity). A leg (`SwapQuoter.net`) passes the quoter's error on, and
  answers `quoteUnavailable` for an amount out that is missing or not positive, before or after
  the fee. A positive fee of `f` basis points keeps `out · (10^18 − F) / 10^18` of an amount out,
  rounding toward zero, where `F` is `f` at 18 places: the integer part of `f` shifted fourteen
  places. From the amounts kept, the buy price is `amount · 10^18 / buyOut`, the sell price
  `sellOut · 10^18 / amount` and the mid their mean, each truncated at 18 places; the mid lies
  between the two. A larger fee keeps less of each leg, so its buy price is no lower and its
  sell price no higher.

  The shift of the fee keeps its exponent in 32 bits, as every decimal's is. For a fee whose
  exponent lies within fourteen of `2^31` the shift wraps to an exponent near `-2^31`, `F` is
  then far smaller than `f · 10^14`, and the fee takes almost nothing
  (`fee_shift_wraps_to_nothing`): the defect of `Price.parse_wraps_scale` once more.

  A quoter's answers over one quote are a sequence: the scripted quoter (`scripted`) gives the
  answers of a script in call order, no amount once it is spent, and records each call.

  Proved:
  (1) `run_leg`, `quote_nonpos`, `run_buy_error`, `run_sell_error`, `run_ok`, `run_ok_inv`:
      the run, for every script, with the calls it makes.
  (2) `net_unavailable`, `net_of_pos`, `net_eq_ok`: one leg.
  (3) `Decimal.isPos_iff`, `Decimal.trunc_shift_of_fits`, `afterFee_of_nonpos`,
      `afterFee_of_pos`, `afterFee_le`, `afterFee_anti`: the fee.
  (4) `normalise_eq`, `mid_between`: the prices.
  (5) `run_prices`, `run_fee_mono`: two legs that answer, under one fee and under two.
      `quote_normalises_two_legs`: all of it. `share_leaves_nothing` and
      `fee_shift_wraps_to_nothing`: where the wrap bites.
-/

namespace QuoteKeeper

/-- A call a swap quoter was asked: the token in, the token out and the amount in. -/
structure SwapCall where
  tokenIn : Address
  tokenOut : Address
  amount : Option Int

/-- The world of a scripted quoter: the answers still to give, and the calls asked so far. -/
abbrev SwapScript := List (Outcome (Option Int)) × List SwapCall

namespace Decimal

/-- A decimal is positive as a flag exactly when its value is. -/
theorem isPos_iff (d : Decimal) : d.isPos = true ↔ 0 < d.val := by
  have h10 : (0 : ℚ) < 10 ^ d.exp := zpow_pos (by norm_num) _
  rw [isPos, decide_eq_true_iff, val]
  constructor
  · intro h
    exact mul_pos (by exact_mod_cast h) h10
  · intro h
    exact_mod_cast pos_of_mul_pos_left h h10.le

/-- Shifting within 32 bits multiplies the value, so the integer part of the shift is the value
times `10^n`, truncated. -/
theorem trunc_shift_of_fits {d : Decimal} {n : Int} (h : expFits (d.exp + n)) :
    (d.shift n).trunc = towardZero (d.val * 10 ^ n) := by
  rw [trunc_eq_towardZero]
  simp only [shift, val, wrapExp_of_fits h]
  rw [zpow_add₀ (by norm_num), mul_assoc]

end Decimal

namespace SwapQuoter

/-- A quoter that answers from a script in call order, with no amount once the script is spent,
and records every call after those before it. -/
def scripted (name : String) : SwapQuoter (StateM SwapScript) :=
  ⟨name, fun i o a w => (w.1.headD (.ok none), w.1.tail, w.2 ++ [⟨i, o, a⟩])⟩

@[simp] theorem unit_eq : unit = 10 ^ 18 := rfl

/-! ## (1) The run, for every script -/

section Run

variable (name : String) (fee : Decimal) (pair : Pair)

/-- A leg takes the script's next answer and records its call. -/
theorem run_leg (i o : Address) (a : Int) (w : SwapScript) :
    ((scripted name).leg fee i o a).run w =
      (net fee (w.1.headD (.ok none)), w.1.tail, w.2 ++ [⟨i, o, some a⟩]) :=
  rfl

/-- A missing or non-positive amount is refused before any leg, whatever the quoter. -/
theorem quote_nonpos {m : Type → Type} [Monad m] (q : SwapQuoter m) {amount : Option Int}
    (h : ∀ a, amount = some a → a ≤ 0) :
    q.quote fee pair amount = pure (.error (.plain (q.name ++ ": invalid amount"))) := by
  cases amount with
  | none => rfl
  | some a => simp [quote, h a rfl]

variable {a : Int} (ha : 0 < a) (w : SwapScript)
include ha

theorem run_buy_error {e : Failure} (h : net fee (w.1.headD (.ok none)) = .error e) :
    ((scripted name).quote fee pair (some a)).run w =
      (.error (e.wrap (name ++ " buy leg")), w.1.tail, w.2 ++ [⟨pair.liquidity, pair.base, some a⟩]) := by
  simp only [quote, if_neg (not_le.mpr ha)]
  rw [run_bind, run_leg, h]
  rfl

theorem run_sell_error {b : Int} {e : Failure} (hb : net fee (w.1.headD (.ok none)) = .ok b)
    (h : net fee (w.1.tail.headD (.ok none)) = .error e) :
    ((scripted name).quote fee pair (some a)).run w =
      (.error (e.wrap (name ++ " sell leg")), w.1.tail.tail,
        w.2 ++ [⟨pair.liquidity, pair.base, some a⟩, ⟨pair.base, pair.liquidity, some a⟩]) := by
  simp only [quote, if_neg (not_le.mpr ha)]
  rw [run_bind, run_leg, hb]
  dsimp only
  -- the buy leg answered: the sell leg is asked next
  rw [run_bind, run_leg, h]
  simp only [List.append_assoc, List.cons_append, List.nil_append]
  rfl

theorem run_ok {b s : Int} (hb : net fee (w.1.headD (.ok none)) = .ok b)
    (hs : net fee (w.1.tail.headD (.ok none)) = .ok s) :
    ((scripted name).quote fee pair (some a)).run w =
      (.ok (normalise name a b s), w.1.tail.tail,
        w.2 ++ [⟨pair.liquidity, pair.base, some a⟩, ⟨pair.base, pair.liquidity, some a⟩]) := by
  simp only [quote, if_neg (not_le.mpr ha)]
  rw [run_bind, run_leg, hb]
  dsimp only
  rw [run_bind, run_leg, hs]
  simp only [List.append_assoc, List.cons_append, List.nil_append]
  rfl

omit ha in
/-- A quote answered is the normalised quote of two legs that both gave an amount. -/
theorem run_ok_inv {w' : SwapScript} {Q : Quote}
    (h : ((scripted name).quote fee pair (some a)).run w = (.ok Q, w')) :
    0 < a ∧ ∃ b s, net fee (w.1.headD (.ok none)) = .ok b ∧
      net fee (w.1.tail.headD (.ok none)) = .ok s ∧ Q = normalise name a b s := by
  by_cases ha : a ≤ 0
  · rw [quote_nonpos fee pair _ (fun a' h' => Option.some.inj h' ▸ ha)] at h
    cases h
  have ha : 0 < a := not_le.mp ha
  refine ⟨ha, ?_⟩
  cases hb : net fee (w.1.headD (.ok none)) with
  | error e =>
    rw [run_buy_error name fee pair ha w hb] at h
    cases h
  | ok b =>
    cases hs : net fee (w.1.tail.headD (.ok none)) with
    | error e =>
      rw [run_sell_error name fee pair ha w hb hs] at h
      cases h
    | ok s =>
      rw [run_ok name fee pair ha w hb hs] at h
      exact ⟨b, s, rfl, rfl, (Except.ok.inj (Prod.mk.inj h).1).symm⟩

end Run

/-! ## (2) One leg -/

section Leg

variable (fee : Decimal)

/-- A missing amount out, or one that is not positive before or after the fee, is
`quoteUnavailable`. -/
theorem net_unavailable {r : Outcome (Option Int)}
    (h : r = .ok none ∨ ∃ out, r = .ok (some out) ∧ (out ≤ 0 ∨ afterFee fee out ≤ 0)) :
    net fee r = .error (Failure.of .quoteUnavailable) := by
  rcases h with rfl | ⟨out, rfl, hout⟩
  · rfl
  · simp only [net]
    by_cases h0 : out ≤ 0
    · rw [if_pos h0]
    · rw [if_neg h0, if_pos (hout.resolve_left h0)]

theorem net_of_pos {out : Int} (hout : 0 < out) (hkept : 0 < afterFee fee out) :
    net fee (.ok (some out)) = .ok (afterFee fee out) := by
  simp [net, not_le.mpr hout, not_le.mpr hkept]

/-- A leg that gives an amount was answered a positive amount out, and gives what the fee
leaves of it, which is positive. -/
theorem net_eq_ok {r : Outcome (Option Int)} {x : Int} (h : net fee r = .ok x) :
    ∃ out, r = .ok (some out) ∧ 0 < out ∧ x = afterFee fee out ∧ 0 < x := by
  rcases r with e | _ | out
  · cases h
  · cases h
  · simp only [net] at h
    by_cases h0 : out ≤ 0
    · rw [if_pos h0] at h
      cases h
    by_cases h1 : afterFee fee out ≤ 0
    · rw [if_neg h0, if_pos h1] at h
      cases h
    rw [if_neg h0, if_neg h1] at h
    cases h
    exact ⟨out, rfl, not_le.mp h0, rfl, not_le.mp h1⟩

end Leg

/-! ## (3) The fee -/

section Fee

/-- The fee at 18 places is the integer part of the fee shifted fourteen places. -/
theorem feeInt_eq (fee : Decimal) : (Price.ofBps fee tokenScale).intD = (fee.shift 14).trunc := rfl

theorem afterFee_of_nonpos {fee : Decimal} (h : fee.val ≤ 0) (out : Int) : afterFee fee out = out := by
  have hp : fee.isPos = false := by
    cases hp : fee.isPos
    · rfl
    · exact absurd ((Decimal.isPos_iff fee).mp hp) (not_lt.mpr h)
  simp [afterFee, hp]

/-- With the fee's shift in 32 bits, a positive fee keeps `out · (10^18 − trunc(f · 10^14)) / 10^18`,
truncated. -/
theorem afterFee_of_pos {fee : Decimal} (h : 0 < fee.val) (hf : Decimal.expFits (fee.exp + 14)) (out : Int) :
    afterFee fee out = towardZero (out * (10 ^ 18 - towardZero (fee.val * 10 ^ 14)) / 10 ^ 18) := by
  rw [afterFee, if_pos ((Decimal.isPos_iff fee).mpr h), feeInt_eq, Decimal.trunc_shift_of_fits hf, unit_eq,
    tdiv_eq_towardZero (by norm_num)]
  push_cast
  rfl

/-- A fee never adds to an amount out that is not negative. -/
theorem afterFee_le {fee : Decimal} {out : Int} (hout : 0 ≤ out) : afterFee fee out ≤ out := by
  unfold afterFee
  split
  · rename_i hp
    -- the fee at 18 places is not negative, so at most the whole unit is kept
    have hF : 0 ≤ (Price.ofBps fee tokenScale).intD := by
      rw [feeInt_eq]
      apply trunc_nonneg
      have hc : 0 < fee.coef := by simpa [Decimal.isPos] using hp
      simp only [Decimal.shift, Decimal.isNeg]
      exact decide_eq_false (not_lt.mpr hc.le)
    have hprod : (0 : ℚ) ≤ out * (Price.ofBps fee tokenScale).intD :=
      mul_nonneg (by exact_mod_cast hout) (by exact_mod_cast hF)
    have hle : ((out * (unit - (Price.ofBps fee tokenScale).intD) : ℤ) : ℚ) / (unit : ℤ) ≤ (out : ℤ) := by
      rw [div_le_iff₀ (by simp [unit_eq])]
      push_cast
      linarith
    have hmono := towardZero_mono hle
    rwa [towardZero_intCast, ← tdiv_eq_towardZero (by simp [unit_eq])] at hmono
  · exact le_refl _

/-- A larger fee keeps no more of an amount out, as long as both fees shift within 32 bits. -/
theorem afterFee_anti {fee₁ fee₂ : Decimal} (hle : fee₁.val ≤ fee₂.val) (h₁ : Decimal.expFits (fee₁.exp + 14))
    (h₂ : Decimal.expFits (fee₂.exp + 14)) {out : Int} (hout : 0 ≤ out) :
    afterFee fee₂ out ≤ afterFee fee₁ out := by
  by_cases hp₁ : fee₁.val ≤ 0
  · rw [afterFee_of_nonpos hp₁]
    exact afterFee_le hout
  have hp₁ : 0 < fee₁.val := not_le.mp hp₁
  rw [afterFee_of_pos hp₁ h₁, afterFee_of_pos (hp₁.trans_le hle) h₂]
  -- the larger fee truncates to a share no smaller, which keeps no more of `out`
  have hF : (towardZero (fee₁.val * 10 ^ 14) : ℚ) ≤ towardZero (fee₂.val * 10 ^ 14) := by
    exact_mod_cast towardZero_mono (by gcongr)
  apply towardZero_mono
  apply div_le_div_of_nonneg_right _ (by norm_num)
  apply mul_le_mul_of_nonneg_left _ (by exact_mod_cast hout)
  linarith

end Fee

/-! ## (4) The prices -/

section Prices

/-- The prices of two legs, each a truncated quotient at 18 places. -/
theorem normalise_eq (name : String) {a b s : Int} (ha : 0 < a) (hb : 0 < b) :
    normalise name a b s =
      let buy := towardZero ((a : ℚ) * 10 ^ 18 / b)
      let sell := towardZero ((s : ℚ) * 10 ^ 18 / a)
      ⟨name, .set (towardZero (((buy + sell : ℤ) : ℚ) / 2)) 18, .set buy 18, .set sell 18⟩ := by
  simp only [normalise, tdiv_eq_towardZero hb, tdiv_eq_towardZero ha,
    tdiv_eq_towardZero (by norm_num : (0 : ℤ) < 2), unit_eq]
  push_cast
  rfl

/-- The mean of two prices that are not negative, truncated, lies between them. -/
theorem mid_between {B S : Int} (hB : 0 ≤ B) (hS : 0 ≤ S) :
    min B S ≤ towardZero (((B + S : ℤ) : ℚ) / 2) ∧ towardZero (((B + S : ℤ) : ℚ) / 2) ≤ max B S := by
  have h2 : ((B + S : ℤ) : ℚ) / 2 = ((B + S : ℤ) : ℚ) / ((2 : ℤ) : ℚ) := by norm_num
  rw [h2, ← tdiv_eq_towardZero (by norm_num), Int.tdiv_eq_ediv_of_nonneg (by omega)]
  omega

end Prices

/-! ## (5) The swap provider -/

section Provider

variable {name : String} {pair : Pair}

/-- Two legs that gave amounts: the buy, sell and mid prices at 18 places, after both calls, the
mid between the other two. -/
theorem run_prices {fee : Decimal} {a b s : Int} (ha : 0 < a) (w : SwapScript)
    (hb : net fee (w.1.headD (.ok none)) = .ok b) (hs : net fee (w.1.tail.headD (.ok none)) = .ok s) :
    let buy := towardZero ((a : ℚ) * 10 ^ 18 / b)
    let sell := towardZero ((s : ℚ) * 10 ^ 18 / a)
    let mid := towardZero (((buy + sell : ℤ) : ℚ) / 2)
    ((scripted name).quote fee pair (some a)).run w =
      (.ok ⟨name, .set mid 18, .set buy 18, .set sell 18⟩, w.1.tail.tail,
        w.2 ++ [⟨pair.liquidity, pair.base, some a⟩, ⟨pair.base, pair.liquidity, some a⟩]) ∧
    min buy sell ≤ mid ∧ mid ≤ max buy sell := by
  obtain ⟨-, -, -, -, hb0⟩ := net_eq_ok fee hb
  obtain ⟨-, -, -, -, hs0⟩ := net_eq_ok fee hs
  intro buy sell mid
  -- both prices are quotients of positive amounts, so their truncated mean lies between them
  have hB : 0 ≤ buy := towardZero_nonneg (by positivity)
  have hS : 0 ≤ sell := towardZero_nonneg (by positivity)
  refine ⟨?_, mid_between hB hS⟩
  rw [run_ok name fee pair ha w hb hs, normalise_eq name ha hb0]

/-- Of two fees that shift within 32 bits, over the same answers, the larger gives a buy price
no lower and a sell price no higher whenever both answer. -/
theorem run_fee_mono {fee₁ fee₂ : Decimal} (hle : fee₁.val ≤ fee₂.val) (h₁ : Decimal.expFits (fee₁.exp + 14))
    (h₂ : Decimal.expFits (fee₂.exp + 14)) {a : Int} {w w₁ w₂ : SwapScript} {Q₁ Q₂ : Quote}
    (hr₁ : ((scripted name).quote fee₁ pair (some a)).run w = (.ok Q₁, w₁))
    (hr₂ : ((scripted name).quote fee₂ pair (some a)).run w = (.ok Q₂, w₂)) :
    Q₁.buy.intD ≤ Q₂.buy.intD ∧ Q₂.sell.intD ≤ Q₁.sell.intD := by
  obtain ⟨ha, b₁, s₁, hb₁, hs₁, rfl⟩ := run_ok_inv name fee₁ pair _ hr₁
  obtain ⟨-, b₂, s₂, hb₂, hs₂, rfl⟩ := run_ok_inv name fee₂ pair _ hr₂
  -- both fees act on the same two amounts out
  obtain ⟨o₁, ho₁, hpos₁, rfl, hb₁0⟩ := net_eq_ok fee₁ hb₁
  obtain ⟨o₁', ho₁', -, rfl, hb₂0⟩ := net_eq_ok fee₂ hb₂
  obtain ⟨o₂, ho₂, hpos₂, rfl, -⟩ := net_eq_ok fee₁ hs₁
  obtain ⟨o₂', ho₂', -, rfl, -⟩ := net_eq_ok fee₂ hs₂
  obtain rfl : o₁' = o₁ := by rw [ho₁] at ho₁'; cases ho₁'; rfl
  obtain rfl : o₂' = o₂ := by rw [ho₂] at ho₂'; cases ho₂'; rfl
  have hbuy := afterFee_anti hle h₁ h₂ hpos₁.le
  have hsell := afterFee_anti hle h₁ h₂ hpos₂.le
  refine ⟨tdiv_le_tdiv_of_le_divisor (by simp [unit_eq]; omega) hb₂0 hbuy, ?_⟩
  exact Int.tdiv_le_tdiv ha (Int.mul_le_mul_of_nonneg_right hsell (by simp [unit_eq]))

end Provider

/-- The swap provider, for every script of quoter answers, every amount and every fee. A missing
or non-positive amount is refused before any call. A leg passes the quoter's error on, and is
`quoteUnavailable` for an amount out that is missing or not positive, before or after the fee;
a fee that is not positive keeps the whole amount out, and a positive one that shifts within 32
bits keeps `trunc(out · (10^18 − trunc(f · 10^14)) / 10^18)`. The buy leg is asked first, the
sell leg only when the buy leg gave an amount, and two amounts give the buy price
`trunc(amount · 10^18 / buyOut)`, the sell price `trunc(sellOut · 10^18 / amount)` and the mid
`trunc((buy + sell) / 2)`, all at 18 places, the mid between the two. Of two fees that shift
within 32 bits, over the same answers, the larger gives a buy price no lower and a sell price
no higher whenever both answer. -/
theorem quote_normalises_two_legs (name : String) (fee fee₁ fee₂ : Decimal) (pair : Pair)
    (amount : Option Int) (script : List (Outcome (Option Int))) :
    let run (f : Decimal) (a : Option Int) := ((scripted name).quote f pair a).run (script, [])
    let r₁ := script.headD (.ok none)
    let r₂ := script.tail.headD (.ok none)
    ((∀ a, amount = some a → a ≤ 0) →
      run fee amount = (.error (.plain (name ++ ": invalid amount")), script, [])) ∧
    (∀ e, net fee (.error e) = .error e) ∧
    (∀ r, (r = .ok none ∨ ∃ out, r = .ok (some out) ∧ (out ≤ 0 ∨ afterFee fee out ≤ 0)) →
      net fee r = .error (Failure.of .quoteUnavailable)) ∧
    (∀ out, 0 < out → 0 < afterFee fee out → net fee (.ok (some out)) = .ok (afterFee fee out)) ∧
    (fee.val ≤ 0 → ∀ out, afterFee fee out = out) ∧
    (0 < fee.val → Decimal.expFits (fee.exp + 14) → ∀ out,
      afterFee fee out = towardZero (out * (10 ^ 18 - towardZero (fee.val * 10 ^ 14)) / 10 ^ 18)) ∧
    (∀ a, 0 < a →
      let buyCall : SwapCall := ⟨pair.liquidity, pair.base, some a⟩
      let sellCall : SwapCall := ⟨pair.base, pair.liquidity, some a⟩
      (∀ e, net fee r₁ = .error e →
        run fee (some a) = (.error (e.wrap (name ++ " buy leg")), script.tail, [buyCall])) ∧
      (∀ b e, net fee r₁ = .ok b → net fee r₂ = .error e →
        run fee (some a) = (.error (e.wrap (name ++ " sell leg")), script.tail.tail, [buyCall, sellCall])) ∧
      (∀ b s, net fee r₁ = .ok b → net fee r₂ = .ok s →
        let buy := towardZero ((a : ℚ) * 10 ^ 18 / b)
        let sell := towardZero ((s : ℚ) * 10 ^ 18 / a)
        let mid := towardZero (((buy + sell : ℤ) : ℚ) / 2)
        run fee (some a) =
          (.ok ⟨name, .set mid 18, .set buy 18, .set sell 18⟩, script.tail.tail, [buyCall, sellCall]) ∧
        min buy sell ≤ mid ∧ mid ≤ max buy sell)) ∧
    (∀ a Q₁ Q₂ w₁ w₂, fee₁.val ≤ fee₂.val → Decimal.expFits (fee₁.exp + 14) →
      Decimal.expFits (fee₂.exp + 14) → run fee₁ (some a) = (.ok Q₁, w₁) → run fee₂ (some a) = (.ok Q₂, w₂) →
      Q₁.buy.intD ≤ Q₂.buy.intD ∧ Q₂.sell.intD ≤ Q₁.sell.intD) := by
  intro run r₁ r₂
  refine ⟨fun h => by simp only [run, quote_nonpos fee pair _ h]; rfl, fun e => rfl,
    fun r h => net_unavailable fee h, fun out hout hkept => net_of_pos fee hout hkept,
    fun h => afterFee_of_nonpos h, fun h hf => afterFee_of_pos h hf, fun a ha => ?_,
    fun a Q₁ Q₂ w₁ w₂ hle h₁ h₂ hr₁ hr₂ => run_fee_mono hle h₁ h₂ hr₁ hr₂⟩
  exact ⟨fun e h => run_buy_error name fee pair ha _ h, fun b e hb h => run_sell_error name fee pair ha _ hb h,
    fun b s hb hs => run_prices ha (script, []) hb hs⟩

/-- A fee of at least `10^4` basis points, truncated as `trunc(f · 10^14)`, is the whole unit or
more, so it leaves nothing of any amount out. -/
theorem share_leaves_nothing {v : ℚ} (hv : 10 ^ 4 ≤ v) {out : Int} (hout : 0 ≤ out) :
    towardZero (out * (10 ^ 18 - towardZero (v * 10 ^ 14)) / 10 ^ 18) ≤ 0 := by
  have hshare : (10 : ℤ) ^ 18 ≤ towardZero (v * 10 ^ 14) := by
    have hx : (((10 : ℤ) ^ 18 : ℤ) : ℚ) ≤ v * 10 ^ 14 := by
      push_cast
      nlinarith
    rw [towardZero, if_pos (le_trans (by positivity) hx)]
    exact Int.le_floor.mpr hx
  have hneg : (out : ℚ) * (10 ^ 18 - (towardZero (v * 10 ^ 14) : ℚ)) / 10 ^ 18 ≤ 0 := by
    apply div_nonpos_of_nonpos_of_nonneg _ (by norm_num)
    apply mul_nonpos_of_nonneg_of_nonpos (by exact_mod_cast hout)
    have : ((10 : ℤ) ^ 18 : ℚ) ≤ (towardZero (v * 10 ^ 14) : ℚ) := by exact_mod_cast hshare
    push_cast at this
    linarith
  have h0 : towardZero 0 = 0 := by
    have h := towardZero_intCast 0
    rwa [Int.cast_zero] at h
  have hmono := towardZero_mono hneg
  rwa [h0] at hmono

/-- A fee of `10^2147483647` basis points, asked for `10^18` with both legs answering `10^18`.
The fee's exponent plus fourteen wraps in 32 bits to `-2147483635`, so the fee at 18 places is
the integer part of `10^-2147483635`, zero: both legs keep all of `10^18`, and the quote answers
buy, sell and mid `1` after both calls. Truncating the fee's value times `10^14` instead gives a
share of the whole unit or more, which leaves nothing of the buy leg: not positive, so
unavailable. -/
theorem fee_shift_wraps_to_nothing :
    let fee : Decimal := ⟨1, 2147483647⟩
    let pair : Pair := ⟨⟨1⟩, ⟨2⟩⟩
    let one : Price := .set (10 ^ 18) 18
    0 < fee.val ∧
      ((scripted "q").quote fee pair (some (10 ^ 18))).run ([.ok (some (10 ^ 18)), .ok (some (10 ^ 18))], []) =
        (.ok ⟨"q", one, one, one⟩, [], [⟨⟨2⟩, ⟨1⟩, some (10 ^ 18)⟩, ⟨⟨1⟩, ⟨2⟩, some (10 ^ 18)⟩]) ∧
      towardZero ((10 ^ 18 : ℤ) * (10 ^ 18 - towardZero (fee.val * 10 ^ 14)) / 10 ^ 18) ≤ 0 := by
  intro fee pair one
  -- the fee's value, kept as a power so that nothing evaluates it
  have hval : fee.val = (10 : ℚ) ^ (2147483647 : ℤ) := by
    simp only [fee, Decimal.val, Int.cast_one, one_mul]
  have hpos : 0 < fee.val := by
    rw [hval]
    exact zpow_pos (by norm_num) _
  have hbig : (10 : ℚ) ^ 4 ≤ fee.val := by
    rw [hval, ← zpow_natCast]
    exact zpow_le_zpow_right₀ (by norm_num) (by norm_num)
  -- the shift wraps: the fee at 18 places is the integer part of `10^-2147483635`, zero
  have hwrap : fee.shift 14 = ⟨1, -2147483635⟩ := by
    simp only [fee, Decimal.shift, Decimal.wrapExp]
    norm_num
  have hsmall : (0 : ℚ) < 10 ^ (-2147483635 : ℤ) ∧ (10 : ℚ) ^ (-2147483635 : ℤ) < 1 :=
    ⟨zpow_pos (by norm_num) _, zpow_lt_one_of_neg₀ (by norm_num) (by norm_num)⟩
  have hv : Decimal.val ⟨1, -2147483635⟩ = (10 : ℚ) ^ (-2147483635 : ℤ) := by
    simp only [Decimal.val, Int.cast_one, one_mul]
  have hF : (Price.ofBps fee tokenScale).intD = 0 := by
    rw [feeInt_eq, hwrap, Decimal.trunc_eq_towardZero, hv, towardZero, if_pos hsmall.1.le, Int.floor_eq_zero_iff]
    exact ⟨hsmall.1.le, hsmall.2⟩
  have hkeep : afterFee fee (10 ^ 18) = 10 ^ 18 := by
    rw [afterFee, if_pos ((Decimal.isPos_iff fee).mpr hpos), hF, Int.sub_zero, unit_eq,
      Int.mul_tdiv_cancel _ (by norm_num)]
  have hleg : net fee (.ok (some (10 ^ 18))) = .ok (10 ^ 18) := by
    rw [net_of_pos fee (by norm_num) (by rw [hkeep]; norm_num), hkeep]
  refine ⟨hpos, ?_, share_leaves_nothing hbig (by norm_num)⟩
  rw [run_ok "q" fee pair (by norm_num) ([.ok (some (10 ^ 18)), .ok (some (10 ^ 18))], []) hleg hleg]
  rfl

end SwapQuoter

end QuoteKeeper
