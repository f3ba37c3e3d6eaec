import QuoteKeeper.Breaker
/-
  QuoteKeeper.Proofs.BreakerInvariants — the circuit breaker as a state machine over calls and
  resets, at any clock values.

  An operation is a call at `now` whose function succeeds or fails with an error, or a reset
  at `now` (`Breaker.Op`); `Breaker.runOps` applies operations in turn and collects every
  change of state the breaker reports. `Breaker.remaining` is the cooldown left as a call
  computes it: the cooldown minus the time since opening, that time stopped at the ends of the
  64-bit duration range and the difference wrapped to 64 bits.

  Proved:
  (1) one lemma per case of `moveTo`, `permit` and `record` (`record_cases`), and what a call
      and a reset make of a breaker (`callWith_refused`, `callWith_permitted`, `reset_eq`).
  (2) `callWith_spec`: a call runs its function exactly when the breaker is not open or the
      remaining cooldown is not positive; a refused call answers the open error and changes
      nothing; a call that ran answers its function's outcome and opens the breaker exactly on
      a failure in half-open or at the threshold, at the call's clock; the changes it reports
      are the lazy half-opening and the change its outcome made, each once. `reset_spec` for
      a reset.
  (3) `Inv`: a closed breaker is below its threshold, half-open successes are counted only
      half open and stay below their target, an open breaker has an opening time;
      `Inv.new`, `Inv.step`, `Inv.runOps`.
  (4) `Chains`: the reported changes change the state and follow on from each other, from
      the state before to the state after; `chains_step`, `chains_runOps`.
  (5) `remaining_nonpos_iff`: the remaining cooldown is not positive exactly when the
      cooldown has passed, unless the clock is some 292 years behind the opening time;
      `far_behind_clock_calls_through` is such a clock, where the call goes through.
  (6) `breaker_state_machine`: (2) to (5) for every breaker a new one becomes.
-/

namespace QuoteKeeper

/-- The states a change leads from and to. -/
def BreakerChange.states (c : BreakerChange) : BreakerState × BreakerState := (c.before, c.after)

@[simp] theorem BreakerChange.states_mk (s t : BreakerState) (n : Nat) :
    (BreakerChange.mk s t n).states = (s, t) := rfl

/-- `ps` leads from `s` to `t`: each change starts where the one before it ended and changes
the state, and the last one ends at `t`. -/
def Chains : BreakerState → List (BreakerState × BreakerState) → BreakerState → Prop
  | s, [], t => s = t
  | s, p :: ps, t => p.1 = s ∧ p.1 ≠ p.2 ∧ Chains p.2 ps t

theorem Chains.append {s t u : BreakerState} {ps qs : List (BreakerState × BreakerState)}
    (hp : Chains s ps t) (hq : Chains t qs u) : Chains s (ps ++ qs) u := by
  induction ps generalizing s with
  | nil => exact (hp : s = t) ▸ hq
  | cons p ps ih => exact ⟨hp.1, hp.2.1, ih hp.2.2⟩

/-- At most one change, made only when the state changes. -/
theorem chains_single (s t : BreakerState) : Chains s (if s = t then [] else [(s, t)]) t := by
  by_cases h : s = t
  · rw [if_pos h]
    exact h
  · rw [if_neg h]
    exact ⟨rfl, h, rfl⟩

namespace Breaker

/-- What the function called through the breaker answers: success, or its error. -/
def fnOutcome : Option Failure → Outcome Unit
  | none => .ok ()
  | some e => .error e

/-- An operation on a breaker, at the clock value it happens at. -/
inductive Op where
  /-- A call whose function succeeds (`none`) or fails with an error. -/
  | call (now : Int) (fails : Option Failure)
  | reset (now : Int)

/-- A call at `now` of a function that answers `r`. -/
def callWith (b : Breaker) (now : Int) (r : Option Failure) :
    Outcome Unit × Bool × Breaker × List BreakerChange :=
  Id.run (b.call now (pure (fnOutcome r)))

/-- The breaker after one operation, and the changes it reported. -/
def step (b : Breaker) : Op → Breaker × List BreakerChange
  | .call now r => ((b.callWith now r).2.2.1, (b.callWith now r).2.2.2)
  | .reset now => b.reset now

/-- The breaker after the operations in turn, and every change reported on the way. -/
def runOps (b : Breaker) : List Op → Breaker × List BreakerChange
  | [] => (b, [])
  | op :: ops =>
    let rest := (b.step op).1.runOps ops
    (rest.1, (b.step op).2 ++ rest.2)

/-- The cooldown left at `now`, as `permit` computes it. -/
def remaining (b : Breaker) (now : Int) : Int :=
  Duration.wrap (b.cooldown - Instant.since now (b.openedAt.getD 0))

/-- The breaker a permitted call runs in: an open one half-opens first. -/
def entered (b : Breaker) (now : Int) : Breaker :=
  if b.state = .opened then (b.moveTo .halfOpen now).1 else b

/-- What a breaker is set up with; no operation changes it. -/
def settings (b : Breaker) : Nat × Int × Nat := (b.threshold, b.cooldown, b.halfOpenMaxTry)

/-! ## (1) One lemma per case -/

section Cases

variable (b : Breaker) (now : Int)

@[simp] theorem moveTo_state (s : BreakerState) : (b.moveTo s now).1.state = s := by cases s <;> rfl
@[simp] theorem moveTo_failures (s : BreakerState) : (b.moveTo s now).1.failures = b.failures := by
  cases s <;> rfl
@[simp] theorem moveTo_halfOpenSuccesses (s : BreakerState) : (b.moveTo s now).1.halfOpenSuccesses = 0 := by
  cases s <;> rfl
@[simp] theorem moveTo_settings (s : BreakerState) : (b.moveTo s now).1.settings = b.settings := by
  cases s <;> rfl
@[simp] theorem moveTo_threshold (s : BreakerState) : (b.moveTo s now).1.threshold = b.threshold := by
  cases s <;> rfl
@[simp] theorem moveTo_halfOpenMaxTry (s : BreakerState) :
    (b.moveTo s now).1.halfOpenMaxTry = b.halfOpenMaxTry := by
  cases s <;> rfl
@[simp] theorem moveTo_cooldown (s : BreakerState) : (b.moveTo s now).1.cooldown = b.cooldown := by
  cases s <;> rfl
theorem moveTo_openedAt (s : BreakerState) :
    (b.moveTo s now).1.openedAt = if s = .opened then some now else b.openedAt := by
  cases s <;> rfl
@[simp] theorem moveTo_change (s : BreakerState) : (b.moveTo s now).2 = ⟨b.state, s, b.failures⟩ := rfl

theorem entered_of_opened (h : b.state = .opened) : b.entered now = (b.moveTo .halfOpen now).1 := if_pos h

theorem entered_of_ne (h : b.state ≠ .opened) : b.entered now = b := if_neg h

theorem entered_state : (b.entered now).state = if b.state = .opened then .halfOpen else b.state := by
  by_cases h : b.state = .opened
  · rw [entered_of_opened b now h, if_pos h, moveTo_state]
  · rw [entered_of_ne b now h, if_neg h]

theorem entered_state_ne : (b.entered now).state ≠ .opened := by
  rw [entered_state]
  split
  · exact nofun
  · assumption

@[simp] theorem entered_failures : (b.entered now).failures = b.failures := by
  unfold entered
  split <;> simp

@[simp] theorem entered_settings : (b.entered now).settings = b.settings := by
  unfold entered
  split <;> simp

theorem permit_of_ne (h : b.state ≠ .opened) : b.permit now = .ok (b, []) := if_pos h

theorem permit_of_cooling (h : b.state = .opened) (hr : 0 < b.remaining now) :
    b.permit now = .error (refusal (b.remaining now)) := by
  unfold permit
  rw [if_neg (not_not_intro h)]
  exact if_pos hr

theorem permit_of_cooled (h : b.state = .opened) (hr : b.remaining now ≤ 0) :
    b.permit now = .ok (b.entered now, [⟨.opened, .halfOpen, b.failures⟩]) := by
  unfold permit
  rw [if_neg (not_not_intro h), entered_of_opened b now h, ← h]
  exact if_neg (Int.not_lt.mpr hr)

/-- What recording an outcome can do to a breaker that is not open: a failure in half-open
or at the threshold opens it; another failure only counts; a success in half-open closes it
at its target or counts towards it; a success when closed clears the count. -/
theorem record_cases (hne : b.state ≠ .opened) (r : Option Failure) :
    (∃ e, r = some e ∧ (b.state = .halfOpen ∨ b.threshold ≤ b.failures + 1) ∧
      b.record now r = (({ b with failures := b.failures + 1, lastError := some e }.moveTo .opened now).1,
        [⟨b.state, .opened, b.failures + 1⟩])) ∨
    (∃ e, r = some e ∧ b.state = .closed ∧ b.failures + 1 < b.threshold ∧
      b.record now r = ({ b with failures := b.failures + 1, lastError := some e }, [])) ∨
    (r = none ∧ b.state = .halfOpen ∧ b.halfOpenMaxTry ≤ b.halfOpenSuccesses + 1 ∧
      b.record now r = (({ b with failures := 0, halfOpenSuccesses := b.halfOpenSuccesses + 1 }.moveTo
        .closed now).1, [⟨.halfOpen, .closed, 0⟩])) ∨
    (r = none ∧ b.state = .halfOpen ∧ b.halfOpenSuccesses + 1 < b.halfOpenMaxTry ∧
      b.record now r = ({ b with failures := 0, halfOpenSuccesses := b.halfOpenSuccesses + 1 }, [])) ∨
    (r = none ∧ b.state = .closed ∧ b.record now r = ({ b with failures := 0 }, [])) := by
  cases r with
  | some e =>
    by_cases hc : b.state = .halfOpen ∨ b.threshold ≤ b.failures + 1
    · refine .inl ⟨e, rfl, hc, ?_⟩
      simp [record, hc, Ne.symm hne]
    · have hcl : b.state = .closed := by
        cases hs : b.state <;> simp_all
      refine .inr (.inl ⟨e, rfl, hcl, by omega, ?_⟩)
      simp [record, hc]
  | none =>
    by_cases hh : b.state = .halfOpen
    · by_cases hm : b.halfOpenMaxTry ≤ b.halfOpenSuccesses + 1
      · refine .inr (.inr (.inl ⟨rfl, hh, hm, ?_⟩))
        simp [record, hh, hm]
      · refine .inr (.inr (.inr (.inl ⟨rfl, hh, by omega, ?_⟩)))
        simp [record, hh, hm]
    · have hcl : b.state = .closed := by
        cases hs : b.state <;> simp_all
      refine .inr (.inr (.inr (.inr ⟨rfl, hcl, ?_⟩)))
      simp [record, hcl]

theorem callWith_refused (h : b.state = .opened) (hr : 0 < b.remaining now) (r : Option Failure) :
    b.callWith now r = (.error (refusal (b.remaining now)), false, b, []) := by
  simp only [callWith, call, permit_of_cooling b now h hr]
  rfl

theorem callWith_permitted (h : b.state ≠ .opened ∨ b.remaining now ≤ 0) (r : Option Failure) :
    b.callWith now r = (fnOutcome r, true, ((b.entered now).record now r).1,
      (if b.state = .opened then [⟨.opened, .halfOpen, b.failures⟩] else []) ++
        ((b.entered now).record now r).2) := by
  by_cases ho : b.state = .opened
  · have hr : b.remaining now ≤ 0 := h.resolve_left (not_not_intro ho)
    simp only [callWith, call, permit_of_cooled b now ho hr, if_pos ho]
    cases r <;> rfl
  · simp only [callWith, call, permit_of_ne b now ho, if_neg ho, entered_of_ne b now ho]
    cases r <;> rfl

theorem reset_eq : b.reset now =
    (({ b with failures := 0 }.moveTo .closed now).1, if b.state = .closed then [] else [⟨b.state, .closed, 0⟩]) :=
  rfl

end Cases

/-! ## (2) What one call or reset does -/

section Record

variable {b : Breaker} {now : Int}

theorem record_opened_iff (hne : b.state ≠ .opened) (r : Option Failure) :
    (b.record now r).1.state = .opened ↔
      ∃ e, r = some e ∧ (b.state = .halfOpen ∨ b.threshold ≤ b.failures + 1) := by
  rcases record_cases b now hne r with ⟨e, rfl, hc, hrec⟩ | ⟨e, rfl, hcl, hlt, hrec⟩ |
    ⟨rfl, hh, -, hrec⟩ | ⟨rfl, hh, -, hrec⟩ | ⟨rfl, hcl, hrec⟩ <;> rw [hrec]
  · simpa using hc
  · simp [hcl]
    omega
  · simp
  · simp [hh]
  · simp [hcl]

theorem record_openedAt (hne : b.state ≠ .opened) (r : Option Failure)
    (h : (b.record now r).1.state = .opened) : (b.record now r).1.openedAt = some now := by
  rcases record_cases b now hne r with ⟨e, rfl, -, hrec⟩ | ⟨e, rfl, hcl, -, hrec⟩ |
    ⟨rfl, -, -, hrec⟩ | ⟨rfl, hh, -, hrec⟩ | ⟨rfl, hcl, hrec⟩ <;> rw [hrec] at h ⊢
  · simp [moveTo_openedAt]
  all_goals simp_all

/-- The changes recording reports: one, when the state changed. -/
theorem record_changes (hne : b.state ≠ .opened) (r : Option Failure) :
    (b.record now r).2.map BreakerChange.states =
      if b.state = (b.record now r).1.state then [] else [(b.state, (b.record now r).1.state)] := by
  rcases record_cases b now hne r with ⟨e, rfl, -, hrec⟩ | ⟨e, rfl, -, -, hrec⟩ |
    ⟨rfl, hh, -, hrec⟩ | ⟨rfl, -, -, hrec⟩ | ⟨rfl, -, hrec⟩ <;> rw [hrec]
  · simp [hne]
  · simp
  · simp [hh]
  · simp
  · simp

theorem record_settings (hne : b.state ≠ .opened) (r : Option Failure) :
    (b.record now r).1.settings = b.settings := by
  rcases record_cases b now hne r with ⟨e, rfl, -, hrec⟩ | ⟨e, rfl, -, -, hrec⟩ |
    ⟨rfl, -, -, hrec⟩ | ⟨rfl, -, -, hrec⟩ | ⟨rfl, -, hrec⟩ <;> rw [hrec] <;> simp <;> rfl

end Record

/-- A call at `now`: its function runs exactly when the breaker is not open or its remaining
cooldown is not positive. A refused call answers an error carrying `breakerOpen` and leaves
the breaker and its reports as they were. A call that ran answers its function's outcome; it
leaves the breaker open exactly when the function failed and the call ran half open or
brought the failures to the threshold, and then opened at `now`; and it reports the lazy
half-opening and the change its outcome made, each once. -/
theorem callWith_spec (b : Breaker) (now : Int) (r : Option Failure) :
    ((b.callWith now r).2.1 = true ↔ b.state ≠ .opened ∨ b.remaining now ≤ 0) ∧
    ((b.callWith now r).2.1 = false →
      (∃ e, (b.callWith now r).1 = .error e ∧ e.has .breakerOpen) ∧
      (b.callWith now r).2.2.1 = b ∧ (b.callWith now r).2.2.2 = []) ∧
    ((b.callWith now r).2.1 = true →
      (b.callWith now r).1 = fnOutcome r ∧
      ((b.callWith now r).2.2.1.state = .opened ↔
        ∃ e, r = some e ∧ ((b.entered now).state = .halfOpen ∨ b.threshold ≤ b.failures + 1)) ∧
      ((b.callWith now r).2.2.1.state = .opened → (b.callWith now r).2.2.1.openedAt = some now) ∧
      (b.callWith now r).2.2.2.map BreakerChange.states =
        (if b.state = .opened then [(.opened, .halfOpen)] else []) ++
        (if (b.entered now).state = (b.callWith now r).2.2.1.state then []
         else [((b.entered now).state, (b.callWith now r).2.2.1.state)])) := by
  by_cases hp : b.state ≠ .opened ∨ b.remaining now ≤ 0
  · -- the function runs in the entered breaker, which is never open
    have hne := entered_state_ne b now
    have hth : (b.entered now).threshold = b.threshold := congrArg Prod.fst (entered_settings b now)
    rw [callWith_permitted b now hp r]
    refine ⟨iff_of_true rfl hp, nofun, fun _ => ⟨rfl, ?_, record_openedAt hne r, ?_⟩⟩
    · rw [record_opened_iff hne, hth, entered_failures]
    · rw [List.map_append, record_changes hne]
      congr 1
      split <;> rfl
  · have ho : b.state = .opened := Classical.not_not.mp (not_or.mp hp).1
    have hr : 0 < b.remaining now := Int.lt_of_not_ge (not_or.mp hp).2
    rw [callWith_refused b now ho hr r]
    exact ⟨iff_of_false nofun hp, fun _ => ⟨⟨_, rfl, by simp [refusal, Failure.has, Failure.conditions]⟩,
      rfl, rfl⟩, nofun⟩

/-- A reset closes the breaker with no failures counted, and reports the change when it was
not closed. -/
theorem reset_spec (b : Breaker) (now : Int) :
    (b.reset now).1.state = .closed ∧ (b.reset now).1.failures = 0 ∧
    (b.reset now).2.map BreakerChange.states = if b.state = .closed then [] else [(b.state, .closed)] := by
  rw [reset_eq]
  refine ⟨moveTo_state _ _ _, moveTo_failures _ _ _, ?_⟩
  split <;> rfl

/-! ## (3) The invariant -/

/-- What holds of every breaker a new one becomes. -/
structure Inv (b : Breaker) : Prop where
  threshold_pos : 0 < b.threshold
  halfOpenMaxTry_pos : 0 < b.halfOpenMaxTry
  cooldown_pos : 0 < b.cooldown
  /-- A closed breaker is below its threshold of failures. -/
  closed_below : b.state = .closed → b.failures < b.threshold
  /-- Half-open successes count only while half open, and stay below their target there. -/
  successes_zero : b.state ≠ .halfOpen → b.halfOpenSuccesses = 0
  successes_below : b.state = .halfOpen → b.halfOpenSuccesses < b.halfOpenMaxTry
  /-- An open breaker knows when it opened. -/
  opened_at : b.state = .opened → b.openedAt.isSome

theorem Inv.of_settings {b b' : Breaker} (h : Inv b) (hs : b'.settings = b.settings) :
    0 < b'.threshold ∧ 0 < b'.halfOpenMaxTry ∧ 0 < b'.cooldown := by
  simp only [settings, Prod.mk.injEq] at hs
  exact ⟨hs.1 ▸ h.threshold_pos, hs.2.2 ▸ h.halfOpenMaxTry_pos, hs.2.1 ▸ h.cooldown_pos⟩

theorem Inv.new (c : BreakerConfig) : Inv (new c) where
  threshold_pos := by
    simp only [Breaker.new]
    split <;> omega
  halfOpenMaxTry_pos := by
    simp only [Breaker.new]
    split <;> omega
  cooldown_pos := by
    simp only [Breaker.new]
    split
    · decide
    · omega
  closed_below _ := by
    simp only [Breaker.new]
    split <;> omega
  successes_zero _ := rfl
  successes_below h := nomatch h
  opened_at h := nomatch h

theorem Inv.entered {b : Breaker} (h : Inv b) (now : Int) : Inv (b.entered now) := by
  by_cases ho : b.state = .opened
  · rw [entered_of_opened b now ho]
    exact ⟨by simpa using h.threshold_pos, by simpa using h.halfOpenMaxTry_pos,
      by simpa using h.cooldown_pos, nofun, fun _ => rfl, fun _ => by simpa using h.halfOpenMaxTry_pos, nofun⟩
  · rw [entered_of_ne b now ho]
    exact h

theorem Inv.record {b : Breaker} (h : Inv b) (hne : b.state ≠ .opened) (now : Int) (r : Option Failure) :
    Inv (b.record now r).1 := by
  obtain ⟨ht, hm, hc⟩ := h.of_settings (record_settings hne r)
  refine ⟨ht, hm, hc, ?_, ?_, ?_, ?_⟩ <;>
  rcases record_cases b now hne r with ⟨e, rfl, -, hrec⟩ | ⟨e, rfl, hcl, hlt, hrec⟩ |
    ⟨rfl, hh, -, hrec⟩ | ⟨rfl, hh, hlt, hrec⟩ | ⟨rfl, hcl, hrec⟩ <;> rw [hrec] <;> intro hs
  -- closed below the threshold
  · simp at hs
  · simpa using hlt
  · simpa using h.threshold_pos
  · simp [hh] at hs
  · simpa using h.threshold_pos
  -- successes only half open
  · simp
  · simpa using h.successes_zero (by simpa using hs)
  · simp
  · simp [hh] at hs
  · simpa using h.successes_zero (by simpa using hs)
  -- successes below the target
  · simp at hs
  · simp [hcl] at hs
  · simp at hs
  · simpa using hlt
  · simp [hcl] at hs
  -- an open breaker's opening time
  · simp [moveTo_openedAt]
  · simp [hcl] at hs
  · simp at hs
  · simp [hh] at hs
  · simp [hcl] at hs

theorem Inv.reset {b : Breaker} (h : Inv b) (now : Int) : Inv (b.reset now).1 := by
  rw [reset_eq]
  exact ⟨by simpa using h.threshold_pos, by simpa using h.halfOpenMaxTry_pos, by simpa using h.cooldown_pos,
    fun _ => by simpa using h.threshold_pos, fun _ => by simp, fun hs => by simp at hs, fun hs => by simp at hs⟩

theorem Inv.step {b : Breaker} (h : Inv b) : ∀ op, Inv (b.step op).1
  | .call now r => by
    by_cases hp : b.state ≠ .opened ∨ b.remaining now ≤ 0
    · simp only [Breaker.step, callWith_permitted b now hp r]
      exact (h.entered now).record (entered_state_ne b now) now r
    · have ho : b.state = .opened := Classical.not_not.mp (not_or.mp hp).1
      have hr : 0 < b.remaining now := Int.lt_of_not_ge (not_or.mp hp).2
      simp only [Breaker.step, callWith_refused b now ho hr r]
      exact h
  | .reset now => h.reset now

theorem Inv.runOps {b : Breaker} (h : Inv b) (ops : List Op) : Inv (b.runOps ops).1 := by
  induction ops generalizing b with
  | nil => exact h
  | cons op ops ih => exact ih (h.step op)

theorem settings_step (b : Breaker) : ∀ op, (b.step op).1.settings = b.settings
  | .call now r => by
    by_cases hp : b.state ≠ .opened ∨ b.remaining now ≤ 0
    · simp only [Breaker.step, callWith_permitted b now hp r]
      rw [record_settings (entered_state_ne b now), entered_settings]
    · have ho : b.state = .opened := Classical.not_not.mp (not_or.mp hp).1
      have hr : 0 < b.remaining now := Int.lt_of_not_ge (not_or.mp hp).2
      simp only [Breaker.step, callWith_refused b now ho hr r]
  | .reset now => by
    rw [Breaker.step, reset_eq]
    exact moveTo_settings _ _ _

theorem settings_runOps (b : Breaker) (ops : List Op) : (b.runOps ops).1.settings = b.settings := by
  induction ops generalizing b with
  | nil => rfl
  | cons op ops ih => exact (ih _).trans (settings_step b op)

/-! ## (4) The reported changes chain -/

theorem chains_step (b : Breaker) :
    ∀ op, Chains b.state ((b.step op).2.map BreakerChange.states) (b.step op).1.state
  | .call now r => by
    obtain ⟨hcalled, hrefused, hran⟩ := callWith_spec b now r
    cases hc : (b.callWith now r).2.1 with
    | false =>
      obtain ⟨-, hb, hcs⟩ := hrefused hc
      simp only [Breaker.step, hb, hcs, List.map_nil]
      rfl
    | true =>
      obtain ⟨-, -, -, hcs⟩ := hran hc
      simp only [Breaker.step, hcs]
      -- the lazy half-opening, then the change the outcome made
      refine Chains.append ?_ (chains_single _ _)
      rw [entered_state]
      by_cases ho : b.state = .opened
      · rw [if_pos ho, if_pos ho, ho]
        exact ⟨rfl, nofun, rfl⟩
      · rw [if_neg ho, if_neg ho]
        rfl
  | .reset now => by
    obtain ⟨hs, -, hcs⟩ := reset_spec b now
    simp only [Breaker.step, hcs, hs]
    exact chains_single _ _

theorem chains_runOps (b : Breaker) (ops : List Op) :
    Chains b.state ((b.runOps ops).2.map BreakerChange.states) (b.runOps ops).1.state := by
  induction ops generalizing b with
  | nil => rfl
  | cons op ops ih =>
    simp only [Breaker.runOps, List.map_append]
    exact (chains_step b op).append (ih _)

/-! ## (5) The remaining cooldown -/

/-- Unless the clock is some 292 years behind the opening time, the cooldown has passed
exactly when the remaining cooldown is not positive. -/
theorem remaining_nonpos_iff {b : Breaker} {now t : Int} (hpos : 0 < b.cooldown)
    (hmax : b.cooldown < 9223372036854775808) (ht : b.openedAt = some t)
    (hnear : b.cooldown - 9223372036854775808 < now - t) :
    b.remaining now ≤ 0 ↔ b.cooldown ≤ now - t := by
  -- the elapsed time stops only at the top of the range, and the difference does not wrap
  have hsince : Instant.since now t = min Duration.maxValue (now - t) := by
    simp only [Instant.since, Duration.saturate, Duration.minValue, Duration.maxValue]
    omega
  simp only [remaining, ht, Option.getD_some, hsince, Duration.maxValue]
  rw [Duration.wrap_of_mem (by omega) (by omega)]
  omega

/-- A breaker opened at 9·10¹⁸ ns with a ten-second cooldown lets a call through at a clock
1.8·10¹⁹ ns behind: that time since opening stops at the bottom of the duration range, and
the cooldown minus it wraps to a negative number. -/
theorem far_behind_clock_calls_through :
    let b := (runOps (new ⟨1, 10 * Duration.second, 0⟩) [.call 9000000000000000000 (some (.plain "x"))]).1
    b.state = .opened ∧ b.openedAt = some 9000000000000000000 ∧
      -9000000000000000000 - 9000000000000000000 < b.cooldown ∧
      (b.callWith (-9000000000000000000) none).2.1 = true := by
  decide

/-! ## (6) Every breaker a new one becomes -/

/-- For every breaker reached from a new one by calls and resets at any clock values: the
invariant holds; the reported changes chain from closed to its state; one more call or reset
does what `callWith_spec` and `reset_spec` say; and the remaining cooldown is not positive
exactly when the cooldown has passed since the opening, unless the clock is some 292 years
behind it. -/
theorem breaker_state_machine (c : BreakerConfig) (ops : List Op) :
    let b := ((new c).runOps ops).1
    Inv b ∧ Chains .closed (((new c).runOps ops).2.map BreakerChange.states) b.state ∧
    (∀ now r,
      ((b.callWith now r).2.1 = true ↔ b.state ≠ .opened ∨ b.remaining now ≤ 0) ∧
      ((b.callWith now r).2.1 = false →
        (∃ e, (b.callWith now r).1 = .error e ∧ e.has .breakerOpen) ∧
        (b.callWith now r).2.2.1 = b ∧ (b.callWith now r).2.2.2 = []) ∧
      ((b.callWith now r).2.1 = true →
        (b.callWith now r).1 = fnOutcome r ∧
        ((b.callWith now r).2.2.1.state = .opened ↔
          ∃ e, r = some e ∧ ((b.entered now).state = .halfOpen ∨ b.threshold ≤ b.failures + 1)) ∧
        ((b.callWith now r).2.2.1.state = .opened → (b.callWith now r).2.2.1.openedAt = some now) ∧
        (b.callWith now r).2.2.2.map BreakerChange.states =
          (if b.state = .opened then [(.opened, .halfOpen)] else []) ++
          (if (b.entered now).state = (b.callWith now r).2.2.1.state then []
           else [((b.entered now).state, (b.callWith now r).2.2.1.state)]))) ∧
    (∀ now, (b.reset now).1.state = .closed ∧ (b.reset now).1.failures = 0 ∧
      (b.reset now).2.map BreakerChange.states = if b.state = .closed then [] else [(b.state, .closed)]) ∧
    (∀ now t, b.openedAt = some t → c.cooldown < 9223372036854775808 →
      b.cooldown - 9223372036854775808 < now - t → (b.remaining now ≤ 0 ↔ b.cooldown ≤ now - t)) := by
  intro b
  have hinv : Inv b := (Inv.new c).runOps ops
  refine ⟨hinv, chains_runOps (new c) ops, callWith_spec b, reset_spec b, ?_⟩
  intro now t ht hc hnear
  -- the cooldown is the one the breaker was made with
  have hcool : b.cooldown = (new c).cooldown := congrArg (fun s => s.2.1) (settings_runOps (new c) ops)
  have hmax : b.cooldown < 9223372036854775808 := by
    rw [hcool]
    simp only [Breaker.new]
    split
    · decide
    · exact hc
  exact remaining_nonpos_iff hinv.cooldown_pos hmax ht hnear

end Breaker

end QuoteKeeper
