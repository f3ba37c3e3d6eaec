import QuoteKeeper.Proofs.ClientRetry
/-
  QuoteKeeper.Proofs.RetryAccounting — how many calls a retry makes, what it answers, and what
  its observer hears, for every policy, every sequence of outcomes and every random source.

  A run is watched through a `Tally`: call number `i` (from 0) answers `outs i` and is counted,
  the observer keeps what it hears in order, the wait after `i` calls answers `ends i` (nothing
  when it ran its course, the context's error when the context ended it first), and the draw
  below a bound `b` after `i` calls is `draws i b`.

  After `j` calls that all failed and were retried, the loop stands at attempt `j` with the
  failure of call `j - 1` to retry and the first pause grown `j - 1` times
  (`RetryPolicy.pauseBefore`). One round makes the wait over that pause (under jitter the draw
  panics when the pause is not positive, `loop_panics`), tells the observer (`heard`), waits,
  and calls once; rounds compose (`loop_rounds`), and the loop ends in one of four ways: a call
  it does not retry (`loop_stops`), a wait the context ends (`loop_cancelled`), a wait that
  cannot be made, or the end of its budget.

  Proved:
  (1) `loop_call`, `loop_told`: one call, and what comes before it.
  (2) `loop_rounds`, `loop_stops`, `loop_cancelled`, `loop_panics`: rounds in a row, and how
      they end.
  (3) `retry_accounting`: with `B = max 0 (maxRetries + 1)` and `j` the number of the first
      outcome not retried, a retry whose waits up to that call can all be made calls `min j B`
      times, answers that outcome or the exhaustion failure, and tells the observer before every
      call but the first, with the failure before it and the wait; a context that ends a wait
      ends the run there, with no further call; and a wait that cannot be made ends the run
      with the draw's panic, before the call it precedes (`jitter_panics_before_third_call`).
-/

namespace QuoteKeeper

namespace Retry

/-- A retry run seen from outside: the calls made so far, and what the observer heard
(attempt, failure retried, wait), in order. -/
structure Tally where
  calls : Nat
  told : List (Nat × Failure × Int)

variable {α : Type} (outs : Nat → Outcome α) (ends : Nat → Option Failure) (draws : Nat → Int → Int)

namespace Tally

/-- Call number `calls` answers `outs calls`. -/
def call : StateM Tally (Outcome α) := fun t => (outs t.calls, { t with calls := t.calls + 1 })

/-- The observer keeps what it is told. -/
def tell (attempt : Nat) (f : Failure) (pause : Int) : StateM Tally Unit :=
  fun t => ((), { t with told := t.told ++ [(attempt, f, pause)] })

/-- The wait after `calls` calls answers `ends calls`, whatever its length. -/
def pause (_ : Int) : StateM Tally (Option Failure) := fun t => (ends t.calls, t)

/-- The draw below `b` after `calls` calls is `draws calls b`. -/
def draw (b : Int) : StateM Tally Int := fun t => (draws t.calls b, t)

@[simp] theorem run_call (t : Tally) : (call outs).run t = (outs t.calls, { t with calls := t.calls + 1 }) := rfl

@[simp] theorem run_tell (a : Nat) (f : Failure) (b : Int) (t : Tally) :
    (tell a f b).run t = ((), { t with told := t.told ++ [(a, f, b)] }) := rfl

@[simp] theorem run_pause (b : Int) (t : Tally) : (pause ends b).run t = (ends t.calls, t) := rfl

@[simp] theorem run_draw (b : Int) (t : Tally) : (draw draws b).run t = (draws t.calls b, t) := rfl

@[simp 1100] theorem run_pure {β : Type} (a : β) (t : Tally) : (pure a : StateM Tally β).run t = (a, t) := rfl

end Tally

/-- The failure call `i` answered; a success reads as the default failure and is never
retried. -/
def failureAt (i : Nat) : Failure :=
  match outs i with
  | .error e => e
  | .ok _ => default

/-- What the observer hears before call `k` (from 1): the attempt, the failure of the call
before, and the wait: the pause before call `k`, with the draw below it under jitter. -/
def heard (p : RetryPolicy) (k : Nat) : Nat × Failure × Int :=
  (k, failureAt outs (k - 1), p.jittered (p.pauseBefore k) (draws k (p.pauseBefore k)))

theorem failureAt_of_not_stops {retryable : Failure → Bool} {i : Nat} (h : stops retryable (outs i) = false) :
    outs i = .error (failureAt outs i) ∧ (failureAt outs i).isPanic = false ∧ retryable (failureAt outs i) = true := by
  obtain ⟨e, he, hs⟩ := error_of_not_stops h
  simp only [failureAt, he]
  simpa using hs

/-! ## (1) One call, and what comes before it -/

section Rounds

variable (p : RetryPolicy) (retryable : Failure → Bool)

/-- The loop of the tallied world, from `left` calls to make at attempt `j` with pause `b`. -/
abbrev tallied (left j : Nat) (b : Int) (last : Option Failure) : StateM Tally (Outcome α) :=
  loop p retryable Tally.tell (Tally.pause ends) (Tally.draw draws) (Tally.call outs) left j b last

/-- A call with no failure to retry: it stops the loop, or its failure is retried next. -/
theorem loop_call (left j : Nat) (b : Int) (t : Tally) :
    (tallied outs ends draws p retryable (left + 1) j b none).run t =
      if stops retryable (outs t.calls) then (outs t.calls, { t with calls := t.calls + 1 })
      else (tallied outs ends draws p retryable left (j + 1) b (some (failureAt outs t.calls))).run
        { t with calls := t.calls + 1 } := by
  simp only [tallied, loop, before, run_bind, Tally.run_pure, Tally.run_call]
  by_cases hs : stops retryable (outs t.calls) = true
  · simp only [hs, if_true]
    cases ho : outs t.calls with
    | ok v => rfl
    | error e =>
      simp only [stops, ho] at hs
      simp [hs]
  · obtain ⟨ho, hp, hr⟩ := failureAt_of_not_stops outs (Bool.of_not_eq_true hs)
    simp only [hs, if_false, Bool.false_eq_true]
    rw [ho]
    simp [hp, hr]

/-- A failure to retry: the wait over the pause is made, unless the draw panics; the observer
hears it, and the wait either is ended by the context, which ends the loop, or runs its course,
and the call follows with the pause grown. -/
theorem loop_told (left j : Nat) (b : Int) (f : Failure) (t : Tally) :
    (tallied outs ends draws p retryable (left + 1) j b (some f)).run t =
      if p.Drawable b then
        match ends t.calls with
        | some c => (.error (c.wrap "retry cancelled"),
            { t with told := t.told ++ [(j, f, p.jittered b (draws t.calls b))] })
        | none => (tallied outs ends draws p retryable (left + 1) j (p.grow b) none).run
            { t with told := t.told ++ [(j, f, p.jittered b (draws t.calls b))] }
      else (.error RetryPolicy.badDraw, t) := by
  simp only [tallied, loop, before, run_bind, RetryPolicy.wait_run p (Tally.draw draws) b t rfl, Tally.run_draw]
  by_cases hd : p.Drawable b
  · simp only [hd, if_true, run_bind, Tally.run_tell, Tally.run_pause]
    cases ends t.calls with
    | some c => rfl
    | none => rfl
  · simp only [hd, if_false]
    rfl

/-! ## (2) Rounds -/

/-- The loop at attempt `j`, after `j` calls and with `told` heard: the failure of call `j - 1`
is retried after the pause before call `j`. -/
def atAttempt (left j : Nat) (told : List (Nat × Failure × Int)) : Outcome α × Tally :=
  (tallied outs ends draws p retryable left j (p.pauseBefore j) (some (failureAt outs (j - 1)))).run ⟨j, told⟩

theorem atAttempt_zero (j : Nat) (told : List (Nat × Failure × Int)) :
    atAttempt outs ends draws p retryable 0 j told =
      (.error (p.exhausted (some (failureAt outs (j - 1)))), ⟨j, told⟩) :=
  rfl

/-- A wait that cannot be made: the draw panics, and nothing is heard or called. -/
theorem loop_panics {left j : Nat} {told : List (Nat × Failure × Int)} (hw : ¬p.CanWait j) :
    atAttempt outs ends draws p retryable (left + 1) j told = (.error RetryPolicy.badDraw, ⟨j, told⟩) := by
  simp only [atAttempt, loop_told]
  exact if_neg hw

/-- A wait the context ends: the observer has heard the failure, and no call follows. -/
theorem loop_cancelled {left j : Nat} {told : List (Nat × Failure × Int)} {c : Failure} (hw : p.CanWait j)
    (hc : ends j = some c) :
    atAttempt outs ends draws p retryable (left + 1) j told =
      (.error (c.wrap "retry cancelled"), ⟨j, told ++ [heard outs draws p j]⟩) := by
  simp only [atAttempt, loop_told]
  rw [if_pos (show p.Drawable (p.pauseBefore j) from hw)]
  simp only [hc]
  rfl

/-- A wait that runs its course, then a call the loop does not retry: its outcome is the
answer. -/
theorem loop_stops {left j : Nat} {told : List (Nat × Failure × Int)} (hw : p.CanWait j) (hc : ends j = none)
    (hs : stops retryable (outs j) = true) :
    atAttempt outs ends draws p retryable (left + 1) j told = (outs j, ⟨j + 1, told ++ [heard outs draws p j]⟩) := by
  simp only [atAttempt, loop_told]
  rw [if_pos (show p.Drawable (p.pauseBefore j) from hw)]
  simp only [hc, loop_call, hs, if_true]
  rfl

/-- A wait that runs its course and a failure retried: the loop moves to the next attempt. -/
theorem loop_round {left j : Nat} {told : List (Nat × Failure × Int)} (hj : 1 ≤ j) (hw : p.CanWait j)
    (hc : ends j = none) (hs : stops retryable (outs j) = false) :
    atAttempt outs ends draws p retryable (left + 1) j told =
      atAttempt outs ends draws p retryable left (j + 1) (told ++ [heard outs draws p j]) := by
  simp only [atAttempt, loop_told]
  rw [if_pos (show p.Drawable (p.pauseBefore j) from hw)]
  simp only [hc, loop_call, hs, Bool.false_eq_true, if_false, RetryPolicy.pauseBefore_succ p hj, Nat.add_sub_cancel]
  rfl

/-- Rounds in a row: `k` retried calls whose waits could all be made and ran their course. -/
theorem loop_rounds (k : Nat) : ∀ {left j : Nat} {told : List (Nat × Failure × Int)}, 1 ≤ j → k ≤ left →
    (∀ i, j ≤ i → i < j + k → p.CanWait i ∧ ends i = none ∧ stops retryable (outs i) = false) →
    atAttempt outs ends draws p retryable left j told =
      atAttempt outs ends draws p retryable (left - k) (j + k) (told ++ (List.range' j k).map (heard outs draws p)) := by
  induction k with
  | zero => intro left j told _ _ _; simp
  | succ k ih =>
    intro left j told hj hk hi
    obtain ⟨left, rfl⟩ : ∃ l, left = l + 1 := ⟨left - 1, by omega⟩
    obtain ⟨hw, hc, hs⟩ := hi j (Nat.le_refl j) (by omega)
    rw [loop_round outs ends draws p retryable hj hw hc hs,
      ih (by omega) (by omega) fun i hi₁ hi₂ => hi i (by omega) (by omega)]
    rw [show left + 1 - (k + 1) = left - k by omega, show j + 1 + k = j + (k + 1) by omega]
    simp only [List.range'_succ, List.map_cons, List.append_assoc, List.singleton_append]

/-- What the observer heard before calls `1` to `i - 1`, then before call `i`. -/
theorem heard_upto {i : Nat} (hi : 1 ≤ i) :
    (List.range' 1 (i - 1)).map (heard outs draws p) ++ [heard outs draws p i] =
      (List.range' 1 i).map (heard outs draws p) := by
  obtain ⟨k, rfl⟩ : ∃ k, i = k + 1 := ⟨i - 1, by omega⟩
  rw [List.range'_concat, List.map_append]
  simp [Nat.add_comm 1 k]

/-- The first call, made with no wait before it, from a budget of `left + 1` calls. -/
theorem retryWithin_first (policy : RetryPolicy) {left : Nat} (hB : policy.normalize.calls = left + 1) :
    (retryWithin (Tally.pause ends) (Tally.draw draws) policy retryable Tally.tell (Tally.call outs)).run ⟨0, []⟩ =
      if stops retryable (outs 0) then (outs 0, ⟨1, []⟩)
      else atAttempt outs ends draws policy.normalize retryable left 1 [] := by
  simp only [retryWithin, hB]
  exact loop_call outs ends draws _ retryable left 0 _ ⟨0, []⟩

end Rounds

/-! ## (3) Whole runs -/

section Runs

variable (policy : RetryPolicy) (retryable : Failure → Bool)

/-- Calls `0` to `c - 1` all retried, and the waits before calls `1` to `c - 1` all made and
run their course: the loop is at attempt `c` with the rest of the budget, the observer having
heard the failures before calls `1` to `c - 1`. -/
theorem retryWithin_reaches {c : Nat} (hc : 1 ≤ c) (hcB : c ≤ policy.normalize.calls)
    (hretry : ∀ i < c, stops retryable (outs i) = false)
    (hwait : ∀ i, 1 ≤ i → i < c → policy.normalize.CanWait i ∧ ends i = none) :
    (retryWithin (Tally.pause ends) (Tally.draw draws) policy retryable Tally.tell (Tally.call outs)).run ⟨0, []⟩ =
      atAttempt outs ends draws policy.normalize retryable (policy.normalize.calls - c) c
        ((List.range' 1 (c - 1)).map (heard outs draws policy.normalize)) := by
  obtain ⟨left, hB⟩ : ∃ l, policy.normalize.calls = l + 1 := ⟨policy.normalize.calls - 1, by omega⟩
  -- the first call is retried, then `c - 1` rounds bring the loop to attempt `c`
  rw [retryWithin_first outs ends draws retryable policy hB, if_neg (by simp [hretry 0 (by omega)]),
    loop_rounds outs ends draws _ retryable (c - 1) (Nat.le_refl 1) (by omega)
      fun i h₁ h₂ => ⟨(hwait i h₁ (by omega)).1, (hwait i h₁ (by omega)).2, hretry i (by omega)⟩]
  rw [hB, show left - (c - 1) = left + 1 - c by omega, show 1 + (c - 1) = c by omega, List.nil_append]

/-- The first call the loop does not retry is number `i`, and every wait before it was made and
ran its course: the run answers its outcome after `i + 1` calls, the observer having heard the
`i` failures before it. -/
theorem retryWithin_stops {i : Nat} (hiB : i < policy.normalize.calls)
    (hretry : ∀ i' < i, stops retryable (outs i') = false) (hstop : stops retryable (outs i) = true)
    (hwait : ∀ i', 1 ≤ i' → i' ≤ i → policy.normalize.CanWait i' ∧ ends i' = none) :
    (retryWithin (Tally.pause ends) (Tally.draw draws) policy retryable Tally.tell (Tally.call outs)).run ⟨0, []⟩ =
      (outs i, ⟨i + 1, (List.range' 1 i).map (heard outs draws policy.normalize)⟩) := by
  rcases Nat.eq_zero_or_pos i with rfl | hi
  · obtain ⟨left, hB⟩ : ∃ l, policy.normalize.calls = l + 1 := ⟨policy.normalize.calls - 1, by omega⟩
    rw [retryWithin_first outs ends draws retryable policy hB]
    simp [hstop]
  · obtain ⟨hw, hc⟩ := hwait i hi (Nat.le_refl i)
    rw [retryWithin_reaches outs ends draws policy retryable hi (by omega) hretry
        fun i' h₁ h₂ => hwait i' h₁ (by omega),
      show policy.normalize.calls - i = (policy.normalize.calls - i - 1) + 1 by omega,
      loop_stops outs ends draws _ retryable hw hc hstop, heard_upto outs draws _ hi]

/-- Every call of the budget is retried and every wait is made and runs its course: the run
answers the exhaustion failure after all the calls, the last failure in it, the observer having
heard every failure but the last. -/
theorem retryWithin_exhausted (hretry : ∀ i < policy.normalize.calls, stops retryable (outs i) = false)
    (hwait : ∀ i, 1 ≤ i → i < policy.normalize.calls → policy.normalize.CanWait i ∧ ends i = none) :
    (retryWithin (Tally.pause ends) (Tally.draw draws) policy retryable Tally.tell (Tally.call outs)).run ⟨0, []⟩ =
      (.error (policy.normalize.exhausted
          (if policy.normalize.calls = 0 then none else some (failureAt outs (policy.normalize.calls - 1)))),
        ⟨policy.normalize.calls,
          (List.range' 1 (policy.normalize.calls - 1)).map (heard outs draws policy.normalize)⟩) := by
  rcases hB : policy.normalize.calls with _ | left
  · simp only [retryWithin, hB]
    rfl
  · rw [retryWithin_reaches outs ends draws policy retryable (c := left + 1) (by omega) (by omega)
      (fun i hi => hretry i (by omega)) fun i h₁ h₂ => hwait i h₁ (by omega), hB]
    simp only [Nat.sub_self, atAttempt_zero, Nat.add_sub_cancel, Nat.add_one_ne_zero, if_false]

/-- The context ends the wait before call `c`, every call before having been retried: the run
answers `retry cancelled: <the context's error>` after `c` calls, the observer having heard the
`c` failures. -/
theorem retryWithin_cancelled {c : Nat} {err : Failure} (hc : 1 ≤ c) (hcB : c < policy.normalize.calls)
    (hretry : ∀ i < c, stops retryable (outs i) = false) (hwait : ∀ i, 1 ≤ i → i < c → policy.normalize.CanWait i ∧ ends i = none)
    (hwc : policy.normalize.CanWait c) (hend : ends c = some err) :
    (retryWithin (Tally.pause ends) (Tally.draw draws) policy retryable Tally.tell (Tally.call outs)).run ⟨0, []⟩ =
      (.error (err.wrap "retry cancelled"), ⟨c, (List.range' 1 c).map (heard outs draws policy.normalize)⟩) := by
  rw [retryWithin_reaches outs ends draws policy retryable hc (by omega) hretry hwait,
    show policy.normalize.calls - c = (policy.normalize.calls - c - 1) + 1 by omega,
    loop_cancelled outs ends draws _ retryable hwc hend, heard_upto outs draws _ hc]

/-- The wait before call `k` cannot be made, every call before having been retried: the run
answers the draw's panic after `k` calls, the observer having heard the failures before calls
`1` to `k - 1`. -/
theorem retryWithin_panics {k : Nat} (hk : 1 ≤ k) (hkB : k < policy.normalize.calls)
    (hretry : ∀ i < k, stops retryable (outs i) = false) (hwait : ∀ i, 1 ≤ i → i < k → policy.normalize.CanWait i ∧ ends i = none)
    (hwk : ¬policy.normalize.CanWait k) :
    (retryWithin (Tally.pause ends) (Tally.draw draws) policy retryable Tally.tell (Tally.call outs)).run ⟨0, []⟩ =
      (.error RetryPolicy.badDraw, ⟨k, (List.range' 1 (k - 1)).map (heard outs draws policy.normalize)⟩) := by
  rw [retryWithin_reaches outs ends draws policy retryable hk (by omega) hretry hwait,
    show policy.normalize.calls - k = (policy.normalize.calls - k - 1) + 1 by omega,
    loop_panics outs ends draws _ retryable hwk]

/-- Retry accounting. With `B = max 0 (maxRetries + 1)` calls allowed, call `i` answering
`outs i` and the draw below `b` before call `k` being `draws k b`: under a context that never
ends, a retry whose waits up to the first outcome it does not retry can all be made calls up to
and including that outcome, `min j B` calls in all for the outcome numbered `j` from 1; it
answers that outcome itself, or, when all `B` calls failed and were retried,
`retries exhausted after <maxRetries + 1> attempts: <last failure>`, carrying the exhausted
condition and the last failure's (`%!w(<nil>)` and the exhausted condition alone when no call
was made). Before each call but the first the observer hears the attempt number from 1, the
failure of the call before and the wait. A wait that cannot be made, the pause before it not
positive under jitter, ends the run with the draw's panic before the call it precedes. Under a
context that ends the wait before call `c`, the run ends there with
`retry cancelled: <the context's error>`, carrying its conditions, after `c` calls. -/
theorem retry_accounting (outs : Nat → Outcome α) (draws : Nat → Int → Int) :
    let p := policy.normalize
    let B := (policy.maxRetries + 1).toNat
    let stop := fun i => stops retryable (outs i)
    let out := (retry (Tally.draw draws) policy retryable Tally.tell (Tally.call outs)).run ⟨0, []⟩
    (∀ i, firstStop stop 0 B = some i → (∀ k, 1 ≤ k → k ≤ i → p.CanWait k) →
      out = (outs i, ⟨i + 1, (List.range' 1 i).map (heard outs draws p)⟩)) ∧
    (firstStop stop 0 B = none → (∀ k, 1 ≤ k → k < B → p.CanWait k) →
      out = (.error (.error ("retries exhausted after " ++ intText (policy.maxRetries + 1) ++ " attempts: " ++
            (if B = 0 then "%!w(<nil>)" else (failureAt outs (B - 1)).message))
          (.retriesExhausted :: if B = 0 then [] else (failureAt outs (B - 1)).conditions)),
        ⟨B, (List.range' 1 (B - 1)).map (heard outs draws p)⟩)) ∧
    (∀ k, 1 ≤ k → k < B → (∀ i < k, stop i = false) → (∀ i, 1 ≤ i → i < k → p.CanWait i) → ¬p.CanWait k →
      out = (.error RetryPolicy.badDraw, ⟨k, (List.range' 1 (k - 1)).map (heard outs draws p)⟩)) ∧
    (∀ (ends : Nat → Option Failure) (c : Nat) (err : Failure), 1 ≤ c → c < B →
      (∀ i < c, stop i = false) → (∀ i, 1 ≤ i → i ≤ c → p.CanWait i) → (∀ i, 1 ≤ i → i < c → ends i = none) →
      ends c = some err →
      (retryWithin (Tally.pause ends) (Tally.draw draws) policy retryable Tally.tell (Tally.call outs)).run ⟨0, []⟩ =
        (.error (err.wrap "retry cancelled"), ⟨c, (List.range' 1 c).map (heard outs draws p)⟩)) := by
  intro p B stop out
  -- the plain retry is the one whose waits all run their course
  have hout : out =
      (retryWithin (Tally.pause fun _ => none) (Tally.draw draws) policy retryable Tally.tell (Tally.call outs)).run
        ⟨0, []⟩ := rfl
  have hcalls : policy.normalize.calls = B := rfl
  refine ⟨fun i hi hw => ?_, fun hnone hw => ?_, fun k hk hkB hretry hw hwk => ?_,
    fun ends c err hc hcB hretry hw hwait hend => retryWithin_cancelled outs ends draws policy retryable hc
      (by omega) hretry (fun i h₁ h₂ => ⟨hw i h₁ (by omega), hwait i h₁ h₂⟩) (hw c hc (Nat.le_refl c)) hend⟩
  · obtain ⟨-, hiB, hstop, hretry⟩ := firstStop_eq_some hi
    rw [hout, retryWithin_stops outs _ draws policy retryable (by omega)
      (fun i' h => hretry i' (Nat.zero_le i') h) hstop fun i' h₁ h₂ => ⟨hw i' h₁ h₂, rfl⟩]
  · have hretry := firstStop_eq_none hnone
    rw [hout, retryWithin_exhausted outs _ draws policy retryable (fun i h => hretry i (Nat.zero_le i) (by omega))
      fun i h₁ h₂ => ⟨hw i h₁ (by omega), rfl⟩, hcalls]
    by_cases hB : B = 0
    · simp only [hB, if_true, RetryPolicy.exhausted]
      rfl
    · simp only [hB, if_false, RetryPolicy.exhausted]
      rfl
  · rw [hout, retryWithin_panics outs _ draws policy retryable hk (by omega) hretry
      (fun i h₁ h₂ => ⟨hw i h₁ h₂, rfl⟩) hwk]

/-- A policy with jitter whose first pause, 1 ns, halves: the pause before the second retry
truncates to 0 ns, and the draw below it panics, so a run whose third call would succeed makes
two calls and answers the panic. -/
theorem jitter_panics_before_third_call :
    let outs : Nat → Outcome String := fun i => if i < 2 then .error (.plain "e") else .ok "done"
    let out := (retry (Tally.draw fun _ _ => 0) ⟨2, 1, 1, 0.5, true⟩ (fun _ => true) Tally.tell (Tally.call outs)).run
      ⟨0, []⟩
    out.1 = .error RetryPolicy.badDraw ∧ out.2.calls = 2 := by
  decide +kernel

end Runs

end Retry

end QuoteKeeper
