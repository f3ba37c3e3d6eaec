import Mathlib
import QuoteKeeper.Proofs.RetryAccounting
/-
  QuoteKeeper.Proofs.RetryPauses — how long a retry waits before each call, and where the cap
  on it fails.

  The pause before the first retry is the first backoff, 10 ms when none is set. Each later
  pause is the one before times the factor, converted to whole nanoseconds and capped at the
  larger of the maximum and the first pause. The cap bounds every pause from above and the
  first pause is positive, but the cap is only an upper one: a product past the 64-bit range
  converts, as the x86-64 conversion does, to the least 64-bit integer, and the pause is then
  negative (`huge_factor_waits_negative`). Every pause is within `[0, cap]` as long as the
  conversions of pauses within it stay non-negative.

  The wait is the pause; under jitter it is the pause plus a draw below it, which stays below
  twice the cap when the draws are below their bounds and the cap is at most `2^62`, so that the
  64-bit sum does not wrap. Under jitter a pause that is not positive has no draw below it, and
  the run panics there.

  The run is watched through a `Tally`, as in `RetryAccounting`: the observer keeps what it is
  told. One round of the loop tells at most one wait, the wait before its attempt; that is
  the invariant `Poised` carries from round to round (`loop_tells`).

  Proved:
  (1) `initialBackoff_pos`, `initialBackoff_le_cap`, `grow_le_cap`, `grow_nonneg`: the first
      pause, and one step from a pause to the next; `jittered_bounds`: one jittered wait.
  (2) `pauseBefore_le_cap`, `pauseBefore_nonneg`: every pause of a run.
  (3) `loop_tells`, `retryWithin_told`: the observer is told, at each attempt, the wait before
      it, over a pause the draw could be made below; the answer is a call's answer, the
      exhaustion failure, the context's, or the draw's panic.
  (4) `retry_waits_within_cap`: all of it; `huge_factor_waits_negative` is the run where a
      wait is negative.
-/

namespace QuoteKeeper

namespace RetryPolicy

/-! ## (1) The first pause, and one step -/

/-- The cap on the pauses: the larger of the maximum and the first pause. -/
theorem normalize_maxBackoff (policy : RetryPolicy) :
    policy.normalize.maxBackoff =
      max policy.maxBackoff (if policy.initialBackoff ≤ 0 then 10000000 else policy.initialBackoff) := rfl

theorem initialBackoff_pos (policy : RetryPolicy) : 0 < policy.normalize.initialBackoff := by
  simp only [normalize]
  split <;> omega

theorem initialBackoff_le_cap (policy : RetryPolicy) :
    policy.normalize.initialBackoff ≤ policy.normalize.maxBackoff :=
  Int.le_max_right _ _

theorem grow_le_cap (p : RetryPolicy) (b : Int) : p.grow b ≤ p.maxBackoff :=
  Int.min_le_left _ _

/-- A pause that is not negative grows into one that is not, when its conversion is not
negative: the cap only lowers it, and the cap is not negative. -/
theorem grow_nonneg {p : RetryPolicy} {b : Int} (hcap : 0 ≤ p.maxBackoff)
    (hconv : 0 ≤ Binary.toInt64 (Float.ofInt b * p.factor)) : 0 ≤ p.grow b :=
  Int.le_min.mpr ⟨hcap, hconv⟩

/-- Under jitter, a positive pause of at most `2^62` plus a draw below it is at least the pause
and below twice it: the 64-bit sum does not wrap. -/
theorem jittered_bounds {p : RetryPolicy} {b d : Int} (hj : p.jitter = true) (hb : 0 < b)
    (hb62 : b ≤ 2 ^ 62) (hd : 0 ≤ d ∧ d < b) : b ≤ p.jittered b d ∧ p.jittered b d < 2 * b := by
  have hsum : p.jittered b d = b + d := by
    rw [jittered, if_pos hj, Int64.toInt_ofInt]
    exact Int.bmod_eq_of_le (by simp [Int64.size]; omega) (by simp [Int64.size]; omega)
  rw [hsum]
  omega

/-! ## (2) Every pause of a run -/

theorem pauseBefore_le_cap (policy : RetryPolicy) (k : Nat) :
    policy.normalize.pauseBefore k ≤ policy.normalize.maxBackoff := by
  rcases Nat.lt_or_ge k 2 with hk | hk
  · -- before the second call the pause is the first one
    have h : policy.normalize.pauseBefore k = policy.normalize.initialBackoff := by
      obtain rfl | rfl : k = 0 ∨ k = 1 := by omega
      all_goals rfl
    rw [h]
    exact initialBackoff_le_cap policy
  · obtain ⟨j, rfl⟩ : ∃ j, k = j + 1 := ⟨k - 1, by omega⟩
    rw [pauseBefore_succ _ (by omega)]
    exact grow_le_cap _ _

/-- Every pause is within `[0, cap]` when the conversion of every pause within it is not
negative. -/
theorem pauseBefore_nonneg (policy : RetryPolicy)
    (hconv : ∀ b, 0 ≤ b → b ≤ policy.normalize.maxBackoff →
      0 ≤ Binary.toInt64 (Float.ofInt b * policy.normalize.factor)) (k : Nat) :
    0 ≤ policy.normalize.pauseBefore k := by
  have hcap : 0 ≤ policy.normalize.maxBackoff :=
    Int.le_trans (Int.le_of_lt (initialBackoff_pos policy)) (initialBackoff_le_cap policy)
  -- induction on the number of growths the pause has had
  induction k with
  | zero => exact Int.le_of_lt (initialBackoff_pos policy)
  | succ k ih =>
    rcases Nat.eq_zero_or_pos k with rfl | hk
    · exact Int.le_of_lt (initialBackoff_pos policy)
    · rw [pauseBefore_succ _ hk]
      exact grow_nonneg hcap (hconv _ ih (pauseBefore_le_cap policy k))

end RetryPolicy

namespace Retry

/-! ## (3) What the observer is told -/

section Told

variable {α : Type} (outs : Nat → Outcome α) (ends : Nat → Option Failure) (draws : Nat → Int → Int)
  (p : RetryPolicy) (retryable : Failure → Bool)

/-- Every wait told so far is the wait before the attempt it was told with, over a pause the
draw could be made below. -/
def ToldPauses (told : List (Nat × Failure × Int)) : Prop :=
  ∀ w ∈ told, p.CanWait w.1 ∧ w.2.2 = p.jittered (p.pauseBefore w.1) (draws w.1 (p.pauseBefore w.1))

/-- How a run may end: with a call's answer, the exhaustion failure, the failure the context
ended a wait with, or the panic of a draw below a pause that is not positive. -/
def Ending (r : Outcome α) : Prop :=
  (∃ i, r = outs i) ∨ (∃ last, r = .error (p.exhausted last)) ∨
    (∃ i c, ends i = some c ∧ r = .error (c.wrap "retry cancelled")) ∨
    ∃ j, 1 ≤ j ∧ ¬p.CanWait j ∧ r = .error RetryPolicy.badDraw

theorem toldPauses_append {told : List (Nat × Failure × Int)} {j : Nat} (f : Failure) (hw : p.CanWait j)
    (h : ToldPauses draws p told) :
    ToldPauses draws p (told ++ [(j, f, p.jittered (p.pauseBefore j) (draws j (p.pauseBefore j)))]) := by
  intro w hw'
  rcases List.mem_append.mp hw' with hw' | hw'
  · exact h w hw'
  · rw [List.mem_singleton.mp hw']
    exact ⟨hw, rfl⟩

/-- The step: a call with no failure to retry ends the run with its answer, or leaves the
loop poised at the next attempt. -/
theorem loop_call_poised (left : Nat) {j : Nat} {b : Int} (t : Tally) (hb : Poised p j b none) :
    (tallied outs ends draws p retryable (left + 1) j b none).run t = (outs t.calls, { t with calls := t.calls + 1 }) ∨
      ∃ f, Poised p (j + 1) b (some f) ∧
        (tallied outs ends draws p retryable (left + 1) j b none).run t =
          (tallied outs ends draws p retryable left (j + 1) b (some f)).run { t with calls := t.calls + 1 } := by
  rw [loop_call]
  split
  · exact .inl rfl
  · exact .inr ⟨_, ⟨by omega, hb⟩, rfl⟩

/-- The run, induction on the calls left: from a poised loop whose attempt is its number of
calls, every wait told is the one before its attempt, and the run ends in one of the four ways. -/
theorem loop_tells : ∀ (left j : Nat) (b : Int) (last : Option Failure) (told : List (Nat × Failure × Int)),
    Poised p j b last → ToldPauses draws p told →
    let r := (tallied outs ends draws p retryable left j b last).run ⟨j, told⟩
    ToldPauses draws p r.2.told ∧ Ending outs ends p r.1 := by
  intro left
  induction left with
  | zero => exact fun _ _ last _ _ ht => ⟨ht, .inr (.inl ⟨last, rfl⟩)⟩
  | succ left ih =>
    intro j b last told hpos ht
    -- the call with nothing to retry either ends the run or leaves a failure at the next attempt
    have hcall : ∀ (j : Nat) (b : Int) (told : List (Nat × Failure × Int)), Poised p j b none →
        ToldPauses draws p told →
        let r := (tallied outs ends draws p retryable (left + 1) j b none).run ⟨j, told⟩
        ToldPauses draws p r.2.told ∧ Ending outs ends p r.1 := by
      intro j b told hb ht
      rcases loop_call_poised outs ends draws p retryable left ⟨j, told⟩ hb with h | ⟨f, hf, h⟩
      · simp only [h]
        exact ⟨ht, .inl ⟨_, rfl⟩⟩
      · simp only [h]
        exact ih _ _ _ _ hf ht
    cases last with
    | none => exact hcall j b told hpos ht
    | some f =>
      obtain ⟨hj, rfl⟩ := hpos
      rw [loop_told]
      by_cases hw : p.CanWait j
      · rw [if_pos (show p.Drawable (p.pauseBefore j) from hw)]
        have ht' := toldPauses_append draws p f hw ht
        cases hend : ends j with
        | some c => exact ⟨ht', .inr (.inr (.inl ⟨j, c, hend, rfl⟩))⟩
        | none =>
          refine hcall j _ _ ?_ ht'
          exact (RetryPolicy.pauseBefore_succ p hj).symm
      · rw [if_neg (show ¬p.Drawable (p.pauseBefore j) from hw)]
        exact ⟨ht, .inr (.inr (.inr ⟨j, hj, hw, rfl⟩))⟩

/-- A whole run under a context: every wait told is the wait before its attempt, under the
normalized policy, and the run ends in one of the four ways. -/
theorem retryWithin_told (policy : RetryPolicy) :
    let r := (retryWithin (Tally.pause ends) (Tally.draw draws) policy retryable Tally.tell (Tally.call outs)).run
      ⟨0, []⟩
    ToldPauses draws policy.normalize r.2.told ∧ Ending outs ends policy.normalize r.1 :=
  loop_tells outs ends draws _ retryable _ 0 _ none [] rfl (fun _ h => absurd h List.not_mem_nil)

end Told

end Retry

/-! ## (4) All of it -/

/-- The waits a retry tells its observer, under any context, whatever the calls answer and
whatever the random source draws. Each is the wait before its attempt: the pause before it (the
first backoff, 10 ms when not positive, grown by the factor once per attempt after the first),
plus under jitter the draw below it. No pause exceeds the cap, the larger of the maximum and the
first backoff. Without jitter every wait is within `[0, cap]` as long as converting a pause
within the cap times the factor to nanoseconds gives no negative number; with jitter every wait
is positive and below twice the cap when the draws are below their bounds and the cap is at most
`2^62`. A panic the run answers with is a call's own, the context's, or, under jitter, the
draw's below a pause that is not positive. -/
theorem retry_waits_within_cap {α : Type} (policy : RetryPolicy) (retryable : Failure → Bool)
    (outs : Nat → Outcome α) (ends : Nat → Option Failure) (draws : Nat → Int → Int) :
    let p := policy.normalize
    let cap := max policy.maxBackoff (if policy.initialBackoff ≤ 0 then 10000000 else policy.initialBackoff)
    let r := (retryWithin (Retry.Tally.pause ends) (Retry.Tally.draw draws) policy retryable Retry.Tally.tell
      (Retry.Tally.call outs)).run ⟨0, []⟩
    (∀ w ∈ r.2.told, w.2.2 = p.jittered (p.pauseBefore w.1) (draws w.1 (p.pauseBefore w.1)) ∧
      p.pauseBefore w.1 ≤ cap) ∧
    p.pauseBefore 1 = (if policy.initialBackoff ≤ 0 then 10000000 else policy.initialBackoff) ∧
    (policy.jitter = false → (∀ b, 0 ≤ b → b ≤ cap → 0 ≤ Binary.toInt64 (Float.ofInt b * p.factor)) →
      ∀ w ∈ r.2.told, 0 ≤ w.2.2 ∧ w.2.2 ≤ cap) ∧
    (policy.jitter = true → (∀ k b, 0 < b → 0 ≤ draws k b ∧ draws k b < b) → cap ≤ 2 ^ 62 →
      ∀ w ∈ r.2.told, 0 < w.2.2 ∧ w.2.2 < 2 * cap) ∧
    (∀ e, r.1 = .error e → e.isPanic = true →
      (∃ i, outs i = .error e) ∨ (∃ i, ends i = some e) ∨
        (e = RetryPolicy.badDraw ∧ policy.jitter = true ∧ ∃ k, 1 ≤ k ∧ p.pauseBefore k ≤ 0)) := by
  intro p cap r
  obtain ⟨htold, hend⟩ := Retry.retryWithin_told outs ends draws retryable policy
  have hcap : cap = p.maxBackoff := (RetryPolicy.normalize_maxBackoff policy).symm
  have hle : ∀ k, p.pauseBefore k ≤ cap := fun k => hcap ▸ RetryPolicy.pauseBefore_le_cap policy k
  refine ⟨fun w hw => ⟨(htold w hw).2, hle w.1⟩, rfl, fun hj hconv w hw => ?_, fun hj hdraws h62 w hw => ?_,
    fun e he hp => ?_⟩
  · -- without jitter the wait is the pause
    have hw' : w.2.2 = p.pauseBefore w.1 := by
      rw [(htold w hw).2, RetryPolicy.jittered, if_neg (by simpa [p, RetryPolicy.normalize] using hj)]
    rw [hw']
    exact ⟨RetryPolicy.pauseBefore_nonneg policy (hcap ▸ hconv) w.1, hle w.1⟩
  · -- with jitter the pause under the wait is positive, and the sum does not wrap
    obtain ⟨hcan, hval⟩ := htold w hw
    have hjp : p.jitter = true := hj
    have hpos : 0 < p.pauseBefore w.1 := hcan hjp
    obtain ⟨hlo, hhi⟩ := RetryPolicy.jittered_bounds hjp hpos (Int.le_trans (hle w.1) h62)
      (hdraws w.1 _ hpos)
    rw [hval]
    exact ⟨Int.lt_of_lt_of_le hpos hlo, Int.lt_of_lt_of_le hhi (by have := hle w.1; omega)⟩
  · -- the exhaustion failure is no panic, a cancellation keeps the context's failure, and a
    -- draw panics only under jitter, below a pause that is not positive
    rcases hend with ⟨i, hi⟩ | ⟨last, hl⟩ | ⟨i, c, hc, hr⟩ | ⟨k, hk, hw, hr⟩
    · exact .inl ⟨i, hi.symm.trans he⟩
    · rw [he] at hl
      cases hl
      simp [RetryPolicy.exhausted, Failure.isPanic] at hp
    · rw [he] at hr
      cases hr
      cases c with
      | error m cs => simp [Failure.wrap, Failure.isPanic] at hp
      | panic m => exact .inr (.inl ⟨i, hc⟩)
    · rw [he] at hr
      cases hr
      simp only [RetryPolicy.CanWait, RetryPolicy.Drawable, Classical.not_imp, Int.not_lt] at hw
      exact .inr (.inr ⟨rfl, hw.1, k, hk, hw.2⟩)

/-- A policy that doubles a 4 ns pause up to a cap of 8 ns, with no jitter: every conversion
within the cap is exact, so every wait of a run that always fails is within `[0, 8]`. -/
theorem doubling_policy_waits_within_cap :
    let policy : RetryPolicy := ⟨3, 4, 8, 2, false⟩
    let outs : Nat → Outcome String := fun _ => .error (.plain "e")
    let r := (retryWithin (Retry.Tally.pause fun _ => none) (Retry.Tally.draw fun _ _ => 0) policy (fun _ => true)
      Retry.Tally.tell (Retry.Tally.call outs)).run ⟨0, []⟩
    policy.jitter = false ∧
    (∀ b, 0 ≤ b → b ≤ max policy.maxBackoff (if policy.initialBackoff ≤ 0 then 10000000 else policy.initialBackoff) →
      0 ≤ Binary.toInt64 (Float.ofInt b * policy.normalize.factor)) ∧
    ∀ w ∈ r.2.told, 0 ≤ w.2.2 ∧ w.2.2 ≤ 8 := by
  intro policy outs r
  have hconv : ∀ b, 0 ≤ b → b ≤ max policy.maxBackoff
      (if policy.initialBackoff ≤ 0 then 10000000 else policy.initialBackoff) →
      0 ≤ Binary.toInt64 (Float.ofInt b * policy.normalize.factor) := by
    have hsmall : ∀ n : Nat, n < 9 → 0 ≤ Binary.toInt64 (Float.ofInt (n : Int) * policy.normalize.factor) := by
      dsimp only [policy]
      decide +kernel
    intro b h0 h8
    obtain ⟨n, rfl⟩ := Int.eq_ofNat_of_zero_le h0
    exact hsmall n (by dsimp only [policy] at h8; omega)
  exact ⟨rfl, hconv,
    (retry_waits_within_cap policy (fun _ => true) outs (fun _ => none) (fun _ _ => 0)).2.2.1 rfl hconv⟩

/-- A factor of `1e300` turns the second wait negative: the first pause, 1000 ns, times the
factor is past the 64-bit range and converts to the least 64-bit integer, which the cap of
1000 ns does not raise. -/
theorem huge_factor_waits_negative :
    let policy : RetryPolicy := ⟨2, 1000, 1000, 1e300, false⟩
    let outs : Nat → Outcome String := fun i => if i < 2 then .error (.plain "e") else .ok "done"
    ((retry (Retry.Tally.draw fun _ _ => 0) policy (fun _ => true) Retry.Tally.tell (Retry.Tally.call outs)).run
      ⟨0, []⟩).2.told.map (fun w => w.2.2) = [1000, -9223372036854775808] := by
  decide +kernel

end QuoteKeeper
