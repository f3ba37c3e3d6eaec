import QuoteKeeper.Chain.Contracts
import QuoteKeeper.Proofs.PriceArithmetic
/-
  QuoteKeeper.Proofs.RateInversion — a rate inverted twice.

  `invertInt rate d` is `10^d / rate`, truncated. The ARM keeps its sell price as the rate
  `traderate0 = 10^72 / sell` and the pricer reads it back by inverting once more. With
  `N = 10^d` and `0 < s ≤ N`, the first quotient `q = ⌊N / s⌋` is positive and `q · s` falls
  short of `N` by less than `s`; so the second quotient `⌊N / q⌋` is at least `s`, and it
  overshoots `s` by at most `⌊s² / (N − s)⌋`. When `s² ≤ N` the first quotient is at least `s`
  and nothing is lost; when `s` divides `N` nothing was truncated to begin with. At 72 digits
  every sell price up to 1 at 36 places therefore comes back exactly, and every one with
  `s² < 2 (10^72 − s)` (up to about 1.41421) within one unit at 36 places.

  Proved:
  (1) `invertInt_fails_iff`, `invertInt_error`: inverting fails exactly on a missing or zero
      rate, and then with divide-by-zero.
  (2) `ediv_pos_of_le`, `le_ediv_ediv`, `ediv_ediv_le`, `ediv_ediv_of_sq_le`,
      `ediv_ediv_of_dvd`: the two quotients.
  (3) `natOfBytes_bytesOfNat`, `unpack_word`, `callNum_word`: a word the node answers is read
      back as the number it encodes.
  (4) `sellPrice_of_inverted`: the ARM's sell price, read from a rate that inverts a sell price.
  (5) `invert_twice_recovers`: all of it.
-/

namespace QuoteKeeper

/-! ## (1) When inverting fails -/

theorem invertInt_of_ne_zero {r : Int} (hr : r ≠ 0) (digits : Int) :
    invertInt (some r) digits = .ok ((pow10 digits).tdiv r) := by
  simp [invertInt, hr]

theorem invertInt_fails_iff (rate : Option Int) (digits : Int) :
    (∃ e, invertInt rate digits = .error e) ↔ rate = none ∨ rate = some 0 := by
  rcases rate with _ | r
  · simp [invertInt]
  · by_cases hr : r = 0 <;> simp [invertInt, hr]

theorem invertInt_error {rate : Option Int} {digits : Int} {e : Failure}
    (h : invertInt rate digits = .error e) : e = Failure.of .divideByZero := by
  rcases rate with _ | r
  · simpa [invertInt] using h.symm
  · by_cases hr : r = 0 <;> simp [invertInt, hr] at h
    exact h.symm

theorem pow10_natCast (d : ℕ) : pow10 d = 10 ^ d := by
  rw [pow10_eq_pow (by omega)]
  simp

/-- A positive rate at `d` digits inverts to the floor quotient `⌊10^d / r⌋`. -/
theorem invertInt_pos {r : Int} (hr : 0 < r) (d : ℕ) : invertInt (some r) d = .ok (10 ^ d / r) := by
  rw [invertInt_of_ne_zero hr.ne', pow10_natCast, Int.tdiv_eq_ediv_of_nonneg (by positivity)]

/-! ## (2) Two floor quotients of one number -/

section Quotients

variable {N s : Int}

theorem ediv_pos_of_le (hs : 0 < s) (hsN : s ≤ N) : 0 < N / s := by
  have h1 : 1 ≤ N / s := (Int.le_ediv_iff_mul_le hs).2 (by simpa using hsN)
  omega

/-- Inverting twice never comes back below where it started. -/
theorem le_ediv_ediv (hs : 0 < s) (hsN : s ≤ N) : s ≤ N / (N / s) := by
  rw [Int.le_ediv_iff_mul_le (ediv_pos_of_le hs hsN), Int.mul_comm]
  exact Int.ediv_mul_le N hs.ne'

/-- Inverting twice overshoots by at most `⌊s² / (N − s)⌋`. -/
theorem ediv_ediv_le (hs : 0 < s) (hsN : s < N) : N / (N / s) ≤ s + s ^ 2 / (N - s) := by
  set q := N / s with hq_def
  set t := s ^ 2 / (N - s) with ht_def
  have hq : 0 < q := ediv_pos_of_le hs hsN.le
  -- `q · s` falls short of `N` by less than `s`, and `s²` is below `(t + 1)(N − s)`
  have hmiss : N < (q + 1) * s := Int.lt_ediv_add_one_mul_self N hs
  have hsq : s ^ 2 < (t + 1) * (N - s) := Int.lt_ediv_add_one_mul_self _ (by omega)
  have ht : 0 ≤ t := Int.ediv_nonneg (by positivity) (by omega)
  -- so `s · s < (t + 1)(N − s) < (t + 1) · q · s`, and `(t + 1) · q` passes `s`
  have h1 : s * s < (t + 1) * q * s := by nlinarith
  have hts : s < (t + 1) * q := lt_of_mul_lt_mul_right h1 hs.le
  rw [← Int.lt_add_one_iff, Int.ediv_lt_iff_lt_mul hq]
  linarith

/-- Below the square root of `N` the first quotient is at least `s`, and nothing is lost. -/
theorem ediv_ediv_of_sq_le (hs : 0 < s) (h : s ^ 2 ≤ N) : N / (N / s) = s := by
  have hsN : s ≤ N := by nlinarith
  have hq : s ≤ N / s := by
    rw [Int.le_ediv_iff_mul_le hs]
    nlinarith
  have hmiss : N < (N / s + 1) * s := Int.lt_ediv_add_one_mul_self N hs
  apply le_antisymm
  · rw [← Int.lt_add_one_iff, Int.ediv_lt_iff_lt_mul (by omega)]
    nlinarith
  · exact le_ediv_ediv hs hsN

theorem ediv_ediv_of_dvd (hs : 0 < s) (hsN : s ≤ N) (h : s ∣ N) : N / (N / s) = s := by
  obtain ⟨k, rfl⟩ := h
  have hk : k ≠ 0 := by
    rintro rfl
    simp at hsN
    omega
  rw [Int.mul_ediv_cancel_left _ hs.ne', Int.mul_ediv_cancel _ hk]

end Quotients

/-! ## (3) Reading a word back -/

theorem natOfBytes_foldl (acc : Nat) (bs : List UInt8) :
    bs.foldl (fun acc b => acc * 256 + b.toNat) acc = acc * 256 ^ bs.length + Hex.natOfBytes bs := by
  induction bs generalizing acc with
  | nil => simp [Hex.natOfBytes]
  | cons b bs ih =>
    have hb : Hex.natOfBytes (b :: bs) = (0 * 256 + b.toNat) * 256 ^ bs.length + Hex.natOfBytes bs := ih _
    rw [List.foldl_cons, ih, hb, List.length_cons]
    ring

theorem natOfBytes_cons (b : UInt8) (bs : List UInt8) :
    Hex.natOfBytes (b :: bs) = b.toNat * 256 ^ bs.length + Hex.natOfBytes bs := by
  rw [Hex.natOfBytes, List.foldl_cons, natOfBytes_foldl]
  simp

theorem bytesOfNat_succ (n v : Nat) :
    Hex.bytesOfNat (n + 1) v = (v / Nat.pow 256 n % 256).toUInt8 :: Hex.bytesOfNat n v := by
  simp [Hex.bytesOfNat, List.range_succ]

@[simp] theorem length_bytesOfNat (n v : Nat) : (Hex.bytesOfNat n v).length = n := by
  simp [Hex.bytesOfNat]

/-- The `n` low bytes of `v`, read back, are `v` modulo `256^n`. -/
theorem natOfBytes_bytesOfNat (n v : Nat) : Hex.natOfBytes (Hex.bytesOfNat n v) = v % 256 ^ n := by
  induction n with
  | zero => simp [Hex.natOfBytes, Hex.bytesOfNat, Nat.mod_one]
  | succ n ih =>
    rw [bytesOfNat_succ, natOfBytes_cons, length_bytesOfNat, ih, pow_succ, Nat.mod_mul]
    simp
    ring

/-- A method with one unsigned output reads the word of a number below `2^256` as that
number. -/
theorem unpack_word {meth : AbiMethod} {b : Nat} (hout : meth.outputs = [.uint b]) {n : Int}
    (h0 : 0 ≤ n) (hn : n < 2 ^ 256) : meth.unpack (Abi.word n) = .ok [.num n] := by
  have hmod : n % Int.pow 2 256 = n := Int.emod_eq_of_lt h0 (by simpa [Int.pow_eq] using hn)
  have hlen : (Abi.word n).length = 32 := by simp [Abi.word]
  have hval : (Hex.natOfBytes (Abi.word n) : Int) = n := by
    have hlt : n.toNat < 256 ^ 32 := by omega
    rw [Abi.word, natOfBytes_bytesOfNat, hmod, Nat.mod_eq_of_lt hlt, Int.toNat_of_nonneg h0]
  have hne : Abi.word n ≠ [] := fun h => by simp [h] at hlen
  have htake : (Abi.word n).take 32 = Abi.word n := List.take_of_length_le (by omega)
  simp [AbiMethod.unpack, hout, hlen, Abi.wordSize, Abi.decode, htake, hval, hne]

section Reads

variable {m : Type → Type} [Monad m] [LawfulMonad m]

theorem callNum_word (c : Contract m) {meth : AbiMethod} {b : Nat} (hout : meth.outputs = [.uint b])
    {args : List AbiValue} {n : Int} (h0 : 0 ≤ n) (hn : n < 2 ^ 256)
    (h : c.endpoint c.address (meth.pack args) = pure (.ok (Abi.word n))) :
    c.callNum meth args = pure (.ok n) := by
  simp [Contract.callNum, Contract.call, h, unpack_word hout h0 hn]

/-! ## (4) The ARM's sell price -/

theorem sellPrice_of_read (c : Contract m) {rate : Int} (h0 : 0 < rate) (hn : rate < 2 ^ 256)
    (h : c.endpoint c.address (Abi.traderate0.pack []) = pure (.ok (Abi.word rate))) :
    ArmContract.sellPrice c = pure (.ok (.set ((10 ^ 72 : Int) / rate) 36)) := by
  have hread := callNum_word c (b := 256) rfl h0.le hn h
  simp [ArmContract.sellPrice, hread, invertInt, h0.ne', priceScale, pow10]
  rw [Int.tdiv_eq_ediv_of_nonneg (by norm_num)]

/-- A sell price stored as its inverse at 72 digits is read back as the double quotient. -/
theorem sellPrice_of_inverted (c : Contract m) {sell rate : Int} (hs : 0 < sell) (hsN : sell ≤ 10 ^ 72)
    (hrate : invertInt (some sell) 72 = .ok rate)
    (h : c.endpoint c.address (Abi.traderate0.pack []) = pure (.ok (Abi.word rate))) :
    ArmContract.sellPrice c = pure (.ok (.set ((10 ^ 72 : Int) / (10 ^ 72 / sell)) 36)) := by
  rw [show (72 : Int) = ((72 : ℕ) : Int) from rfl, invertInt_pos hs] at hrate
  cases hrate
  have hle : (10 ^ 72 : Int) / sell ≤ 10 ^ 72 := Int.ediv_le_self _ (by norm_num)
  exact sellPrice_of_read c (ediv_pos_of_le hs hsN) (by omega) h

end Reads

/-! ## (5) All of it -/

/-- For `0 < s ≤ 10^d`, inverting `s` twice at `d` digits succeeds, never comes back below
`s`, overshoots by at most `⌊s² / (10^d − s)⌋`, and gives `s` itself when `s² ≤ 10^d` (so when
`s² + s ≤ 10^d`) or `s` divides `10^d`. The ARM's sell price, read from
`traderate0 = Invert(sell, 72)`, is `sell` for every sell price up to 1 at 36 places and within
one unit of it when `sell² < 2 (10^72 − sell)`. Inverting fails, with divide-by-zero, exactly on
a missing or zero rate. -/
theorem invert_twice_recovers :
    (∀ (d : ℕ) (s : ℤ), 0 < s → s ≤ 10 ^ d →
      ∃ q r, invertInt (some s) d = .ok q ∧ invertInt (some q) d = .ok r ∧ s ≤ r ∧
        (s < 10 ^ d → r ≤ s + s ^ 2 / (10 ^ d - s)) ∧ (s ^ 2 ≤ 10 ^ d ∨ s ∣ 10 ^ d → r = s)) ∧
    (∀ {m : Type → Type} [Monad m] [LawfulMonad m] (c : Contract m) (sell rate : ℤ), 0 < sell →
      invertInt (some sell) 72 = .ok rate →
      c.endpoint c.address (Abi.traderate0.pack []) = pure (.ok (Abi.word rate)) →
      (sell ≤ 10 ^ 36 → ArmContract.sellPrice c = pure (.ok (.set sell 36))) ∧
      (sell ^ 2 < 2 * (10 ^ 72 - sell) →
        ∃ v, ArmContract.sellPrice c = pure (.ok (.set v 36)) ∧ sell ≤ v ∧ v ≤ sell + 1)) ∧
    (∀ (rate : Option ℤ) (digits : ℤ),
      ((∃ e, invertInt rate digits = .error e) ↔ rate = none ∨ rate = some 0) ∧
      ∀ e, invertInt rate digits = .error e → e = Failure.of .divideByZero) := by
  refine ⟨fun d s hs hsN => ?_, fun c sell rate hs hrate h => ?_,
    fun rate digits => ⟨invertInt_fails_iff rate digits, fun e => invertInt_error⟩⟩
  · have hq := ediv_pos_of_le hs hsN
    refine ⟨_, _, invertInt_pos hs d, invertInt_pos hq d, le_ediv_ediv hs hsN, ediv_ediv_le hs, ?_⟩
    rintro (hsq | hdvd)
    · exact ediv_ediv_of_sq_le hs hsq
    · exact ediv_ediv_of_dvd hs hsN hdvd
  · constructor
    · intro hs36
      -- up to 1 at 36 places is below the square root of `10^72`
      have hsq : sell ^ 2 ≤ 10 ^ 72 := by nlinarith
      rw [sellPrice_of_inverted c hs (by nlinarith) hrate h, ediv_ediv_of_sq_le hs hsq]
    · intro hnear
      have hsN : sell < 10 ^ 72 := by nlinarith
      have hover : sell ^ 2 / (10 ^ 72 - sell) < 2 := by
        rw [Int.ediv_lt_iff_lt_mul (by omega)]
        linarith
      have hup := ediv_ediv_le hs hsN
      exact ⟨_, sellPrice_of_inverted c hs hsN.le hrate h, le_ediv_ediv hs hsN.le, by omega⟩

/-- At four places 4 inverts to 2500 and back to 4; an ARM whose node answers `traderate0`
with `10^72 / 0.9995` (at 36 places) reads its sell price back as exactly 0.9995. -/
theorem sell_price_read_back_exactly :
    let sell : Int := 999500000000000000000000000000000000
    let rate : Int := 10 ^ 72 / sell
    let c : Contract Id := ⟨Address.zero, fun _ _ => .ok (Abi.word rate)⟩
    (0 < (4 : Int) ∧ (4 : Int) ≤ 10 ^ 4 ∧
      ∃ q r, invertInt (some 4) ((4 : ℕ) : Int) = .ok q ∧ invertInt (some q) ((4 : ℕ) : Int) = .ok r ∧
        4 ≤ r ∧ ((4 : Int) < 10 ^ 4 → r ≤ 4 + 4 ^ 2 / (10 ^ 4 - 4)) ∧
        ((4 : Int) ^ 2 ≤ 10 ^ 4 ∨ (4 : Int) ∣ 10 ^ 4 → r = 4)) ∧
    (0 < sell ∧ invertInt (some sell) 72 = .ok rate ∧
      c.endpoint c.address (Abi.traderate0.pack []) = pure (.ok (Abi.word rate)) ∧
      sell ≤ 10 ^ 36 ∧ ArmContract.sellPrice c = pure (.ok (.set sell 36))) := by
  intro sell rate c
  have hs : 0 < sell := by norm_num [sell]
  have hrate : invertInt (some sell) 72 = .ok rate := by
    dsimp only [sell, rate]
    rfl
  have hread : c.endpoint c.address (Abi.traderate0.pack []) = pure (.ok (Abi.word rate)) := rfl
  have h36 : sell ≤ 10 ^ 36 := by norm_num [sell]
  exact ⟨⟨by norm_num, by norm_num, invert_twice_recovers.1 4 4 (by norm_num) (by norm_num)⟩,
    hs, hrate, hread, h36, (invert_twice_recovers.2.1 c sell rate hs hrate hread).1 h36⟩

end QuoteKeeper
