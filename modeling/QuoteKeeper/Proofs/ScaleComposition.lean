import QuoteKeeper.Proofs.PriceArithmetic
/-
  QuoteKeeper.Proofs.ScaleComposition — moving an integer through a chain of scales.

  Between near scales (`ScalesNear`) `scaleInt x a b` multiplies by `10^(b - a)` going up and
  divides by `10^(a - b)` rounding toward zero going down. A move up is exact, so it can be
  folded into whatever move comes next (`scaleInt_after_up`); two moves down compose into one,
  because truncating toward zero twice by positive divisors is truncating once by their
  product (`tdiv_tdiv_of_nonneg`). A chain `a → b → c` of near scales therefore equals the
  direct move `a → c` whenever the middle scale is not below both ends; when it is, the first
  move drops digits the second one would keep. Scales `2^63` or more apart are moved by a
  wrapped difference, and the laws fail there (`scale_down_wraps_far_apart`).

  Proved:
  (1) `pow10_eq_pow_max`, `pow10_add`: `pow10 n` is `10^max n 0`, and powers add.
  (2) `scaleInt_after_up`, `scaleInt_down`, `scaleInt_scaleInt`: the composition law.
  (3) `scaleInt_round_trip`: up and back down is the identity.
  (4) `scaleInt_down_eq_towardZero`, `scaleInt_neg`: a move down is the quotient truncated
      toward zero; every move commutes with negation.
  (5) `scale_composes`: all of it, for near scales.
-/

namespace QuoteKeeper

/-! ## (1) Powers of ten -/

theorem pow10_eq_pow_max (n : Int) : pow10 n = 10 ^ (max n 0).toNat := by
  by_cases h : n ≤ 0
  · rw [pow10_of_nonpos h, max_eq_right h]
    rfl
  · rw [pow10_eq_pow (by omega), max_eq_left (by omega)]

theorem pow10_add {m n : Int} (hm : 0 ≤ m) (hn : 0 ≤ n) : pow10 (m + n) = pow10 m * pow10 n := by
  rw [pow10_eq_pow hm, pow10_eq_pow hn, pow10_eq_pow (by omega), ← pow_add]
  congr 1
  omega

/-! ## (2) Composition -/

/-- Truncating toward zero twice, first by a divisor that is not negative, is truncating once
by the product. -/
theorem tdiv_tdiv_of_nonneg (x : Int) {m : Int} (n : Int) (hm : 0 ≤ m) :
    (x.tdiv m).tdiv n = x.tdiv (m * n) := by
  -- on a dividend that is not negative, truncation is floor division
  have hnonneg : ∀ y : Int, 0 ≤ y → (y.tdiv m).tdiv n = y.tdiv (m * n) := fun y hy => by
    have hq : 0 ≤ y.tdiv m := Int.tdiv_nonneg hy hm
    rw [Int.tdiv_eq_ediv_of_nonneg hq, Int.tdiv_eq_ediv_of_nonneg hy, Int.tdiv_eq_ediv_of_nonneg hy,
      Int.ediv_ediv_of_nonneg hm]
  rcases Int.le_total 0 x with hx | hx
  · exact hnonneg x hx
  · -- a negative dividend is truncated as its negation, then negated back
    have h := congrArg Neg.neg (hnonneg (-x) (by omega))
    simpa only [Int.neg_tdiv, Int.neg_neg] using h

/-- A move down (or none) between near scales is the truncated quotient by the power of ten
between them. -/
theorem scaleInt_down {x b c : Int} (h : c ≤ b) (hn : ScalesNear b c) : scaleInt x b c = x.tdiv (pow10 (b - c)) := by
  rcases Int.lt_or_eq_of_le h with hlt | rfl
  · exact scaleInt_of_lt hlt hn
  · rw [scaleInt_self, Int.sub_self, pow10_of_nonpos (Int.le_refl 0), Int.tdiv_one]

/-- A move up by `k` places loses nothing: the next move may as well start from the scale
before it. -/
theorem scaleInt_after_up (x a c k : Int) (hk : 0 ≤ k) (hkc : ScalesNear (a + k) c) (hac : ScalesNear a c) :
    scaleInt (x * pow10 k) (a + k) c = scaleInt x a c := by
  rcases Int.le_total (a + k) c with hup | hdown
  · -- both moves up: the powers add
    rw [scaleInt_of_le hup hkc, scaleInt_of_le (by omega) hac, Int.mul_assoc, ← pow10_add hk (by omega)]
    congr 2
    omega
  · rw [scaleInt_down hdown hkc]
    rcases Int.le_total a c with hle | hca
    · -- the move down stops at or above `a`: it divides exactly
      have hsplit : pow10 k = pow10 (c - a) * pow10 (a + k - c) := by
        rw [← pow10_add (by omega) (by omega)]
        congr 1
        omega
      rw [scaleInt_of_le hle hac, hsplit, ← Int.mul_assoc, Int.mul_tdiv_cancel _ (pow10_pos _).ne']
    · -- the move down passes `a`: the common factor `10^k` cancels
      have hsplit : pow10 (a + k - c) = pow10 (a - c) * pow10 k := by
        rw [← pow10_add (by omega) hk]
        congr 1
        omega
      rw [scaleInt_down hca hac, hsplit, Int.mul_tdiv_mul_of_pos_left _ _ (pow10_pos k)]

/-- Moving `a → b → c` through near scales is moving `a → c` when `b` is not below both
ends. -/
theorem scaleInt_scaleInt (x : Int) {a b c : Int} (h : min a c ≤ b) (hab : ScalesNear a b)
    (hbc : ScalesNear b c) (hac : ScalesNear a c) :
    scaleInt (scaleInt x a b) b c = scaleInt x a c := by
  by_cases hle : a ≤ b
  · have h := scaleInt_after_up x a c (b - a) (by omega) (by rwa [show a + (b - a) = b by omega]) hac
    rwa [show a + (b - a) = b by omega, ← scaleInt_of_le hle hab] at h
  · -- both moves go down: `c ≤ b < a`
    have hcb : c ≤ b := by omega
    rw [scaleInt_down (by omega : b ≤ a) hab, scaleInt_down hcb hbc, scaleInt_down (by omega : c ≤ a) hac,
      tdiv_tdiv_of_nonneg _ _ (pow10_pos _).le, ← pow10_add (by omega) (by omega)]
    congr 2
    omega

/-- Going down past both ends is where the law fails: `5` at scale 1, moved to scale 0 and
back to 1, is `0`, where staying put keeps `5`. -/
example : scaleInt (scaleInt 5 1 0) 0 1 = 0 ∧ scaleInt 5 1 1 = 5 := by
  decide

/-! ## (3) The round trip -/

theorem scaleInt_round_trip (x : Int) {f t : Int} (h : f ≤ t) (hn : ScalesNear f t) :
    scaleInt (scaleInt x f t) t f = x := by
  rw [scaleInt_scaleInt x (by omega) hn hn.symm (ScalesNear.refl f), scaleInt_self]

/-! ## (4) Moving down truncates toward zero -/

theorem scaleInt_down_eq_towardZero (x : Int) {a b : Int} (h : b < a) (hn : ScalesNear a b) :
    scaleInt x a b = towardZero ((x : ℚ) / 10 ^ (a - b)) := by
  rw [scaleInt_of_lt h hn, tdiv_eq_towardZero (pow10_pos _), cast_pow10 (by omega)]

/-- A quotient below one truncates to zero. -/
theorem towardZero_of_lt_one {x : ℚ} (h0 : 0 ≤ x) (h1 : x < 1) : towardZero x = 0 := by
  rw [towardZero, if_pos h0, Int.floor_eq_zero_iff]
  exact ⟨h0, h1⟩

theorem scaleInt_neg (x a b : Int) : scaleInt (-x) a b = -scaleInt x a b := by
  unfold scaleInt
  split
  · exact Int.neg_mul _ _
  · split
    · exact Int.neg_tdiv _ _
    · rfl

/-! ## (5) All of it -/

/-- Scales that are pairwise near compose: `a → b → c` is `a → c` whenever `b ≥ min a c`, so
`a → b → a` is the identity for `b ≥ a` (as `18 → 36 → 18`); a move down from `a` to `b < a`
is `x / 10^(a - b)` truncated toward zero; every move commutes with negation; and
`pow10 n = 10^max n 0`. -/
theorem scale_composes (x a b c : Int) (hab : ScalesNear a b) (hbc : ScalesNear b c) (hac : ScalesNear a c) :
    (min a c ≤ b → scaleInt (scaleInt x a b) b c = scaleInt x a c) ∧
    (a ≤ b → scaleInt (scaleInt x a b) b a = x) ∧
    (b < a → scaleInt x a b = towardZero ((x : ℚ) / 10 ^ (a - b))) ∧
    scaleInt (-x) a b = -scaleInt x a b ∧
    (∀ n : Int, pow10 n = 10 ^ (max n 0).toNat) :=
  ⟨fun h => scaleInt_scaleInt x h hab hbc hac, fun h => scaleInt_round_trip x h hab,
    fun h => scaleInt_down_eq_towardZero x h hab, scaleInt_neg x a b, pow10_eq_pow_max⟩

/-- A price at 18 places moved to 36 and back: the three scales are near. -/
theorem scale_through_price_scale_and_back :
    (ScalesNear 18 36 ∧ ScalesNear 36 18 ∧ ScalesNear 18 18) ∧
      scaleInt (scaleInt 123456789 18 36) 36 18 = 123456789 := by
  have h1 : ScalesNear 18 36 := by decide
  have h2 : ScalesNear 36 18 := by decide
  have h3 : ScalesNear 18 18 := by decide
  exact ⟨⟨h1, h2, h3⟩, (scale_composes 123456789 18 36 18 h1 h2 h3).2.1 (by decide)⟩

/-- Scales `2^62` and `-(2^62 + 1)` are `2^63 + 1` apart, past the 64-bit range: the
difference wraps to a negative number, and the move down, which should divide `123` by
`10^(2^63 + 1)`, leaves it as it is, where the truncated quotient is `0`. -/
theorem scale_down_wraps_far_apart :
    scaleInt 123 (2 ^ 62) (-(2 ^ 62 + 1)) = 123 ∧
      towardZero ((123 : ℚ) / 10 ^ ((2 : ℤ) ^ 62 - -(2 ^ 62 + 1))) = 0 := by
  refine ⟨by decide, towardZero_of_lt_one (by positivity) ?_⟩
  -- the divisor is at least `10^3`, without computing it
  have h3 : (10 : ℚ) ^ (3 : ℤ) ≤ 10 ^ ((2 : ℤ) ^ 62 - -(2 ^ 62 + 1)) :=
    zpow_le_zpow_right₀ (by norm_num) (by omega)
  rw [div_lt_one (by positivity)]
  calc (123 : ℚ) < 10 ^ (3 : ℤ) := by norm_num
    _ ≤ _ := h3

end QuoteKeeper
