import QuoteKeeper.Withdrawal.Estimate
import Mathlib.Algebra.Order.Group.Int
import Mathlib.Algebra.BigOperators.Group.List.Basic
import Mathlib.Tactic.Ring
import Mathlib.Tactic.Linarith
/-
  QuoteKeeper.Proofs.WithdrawalEstimate — the holding period as a weighted average.

  The estimate walks the pending requests oldest first. A request with positive amount `p`
  gives `min p R` toward the need `R` still open, weighted by its whole seconds left to
  maturity; the distance to maturity saturates at the 64-bit duration range, so a request far
  in the future weighs about 292 years and no more. What the queue cannot give is the
  shortfall, weighted by the maturation's seconds. `coverCost` is that sum as a recursion on
  the queue. The walk never takes the need below zero, so what it covers and what falls short
  add up to the need.

  Unit by unit, covering `R + 1` costs what covering `R` costs plus the weight of unit `R`
  (`unitWeight`): the seconds left of the request that covers it, or the maturation past the
  queue. Oldest first these weights do not decrease inside the queue, so a unit inside the
  queue weighs at least the average before it, and a unit past it weighs the maturation; the
  average capped at the maturation therefore never falls as the need grows. Requests made at
  one time weigh the same, so two orders of one queue by creation time cost the same.

  Proved:
  (1) `Walk.step_eq`, `walk_run`: one step of the walk, and what a whole walk covers, leaves
      open, costs and counts.
  (2) `coverCost_succ`, `unitWeight_mono`, `coverCost_le_mul`, `cappedAverage_mono`: the cost
      unit by unit; the capped average grows with the need.
  (3) `coverCost_swap`, `coverCost_perm_of_sorted`: requests made at one time can be taken in
      either order.
  (4) `estimate_busy`, `estimate_period_within`, `estimate_period_of_busy`: the estimate's
      fields, and a period that stays inside 64 bits.
  (5) `estimate_covers_need`: conservation and range, for every liquidity, queue and clock.
  (6) `estimate_period_mono`, `estimate_perm`, `estimate_weighted_average`: the period is the
      capped average, monotone in the need and independent of the order of the queue.
      `far_future_request_saturates`: with exact
      seconds left in place of saturated ones, a request 584 years ahead would give another
      period.
-/

namespace QuoteKeeper

namespace Withdrawal

/-! ## (1) The walk -/

/-- A request's positive amount: nothing for a missing or non-positive amount. -/
def Request.positive (r : Request) : Int := max 0 (r.amount.getD 0)

/-- Whole seconds until the request matures at `now`, as the estimate counts them. -/
def Estimator.secondsLeft (e : Estimator) (now : Int) (r : Request) : Int :=
  (max 0 (Instant.since (r.createdAt + e.maturation) now)).tdiv Duration.second

/-- The weighted seconds of covering `need` from requests in the order given: each request
gives its positive amount while the need lasts and the rest of the need at the boundary,
weighted by `left`; what no request covers waits `M` seconds a unit. -/
def coverCost (left : Request → Int) (M : Int) : List Request → Int → Int
  | [], need => max 0 need * M
  | r :: rs, need =>
    let t := min r.positive (max 0 need)
    t * left r + coverCost left M rs (need - t)

/-- The sum of the positive amounts. -/
def positiveSum (rs : List Request) : Int := (rs.map Request.positive).sum

/-- How many requests have a positive amount. -/
def positiveCount (rs : List Request) : Nat := rs.countP fun r => 0 < r.positive

theorem positive_nonneg (r : Request) : 0 ≤ r.positive := le_max_left _ _

theorem positiveSum_nonneg (rs : List Request) : 0 ≤ positiveSum rs := by
  induction rs with
  | nil => simp [positiveSum]
  | cons r rs ih =>
    simp only [positiveSum, List.map_cons, List.sum_cons] at *
    have := positive_nonneg r
    omega

section Walk

variable (e : Estimator) (now : Int)

theorem Walk.step_eq (w : Walk) (r : Request) :
    Walk.step e now w r =
      if w.remaining ≤ 0 ∨ r.positive = 0 then w
      else ⟨w.weighted + min r.positive w.remaining * e.secondsLeft now r,
        w.covered + min r.positive w.remaining, w.remaining - min r.positive w.remaining, w.used + 1⟩ := by
  rcases r with ⟨id, v, _ | a, c⟩
  · simp [Walk.step, Request.positive]
  · by_cases hr : w.remaining ≤ 0
    · simp [Walk.step, hr]
    · by_cases ha : a ≤ 0
      · simp [Walk.step, Request.positive, hr, ha]
      · have hpos : max 0 a = a := max_eq_right (by omega)
        simp [Walk.step, Request.positive, Estimator.secondsLeft, hr, ha, hpos, show a ≠ 0 by omega]

@[simp] theorem positiveSum_nil : positiveSum [] = 0 := rfl

@[simp] theorem positiveSum_cons (r : Request) (L : List Request) :
    positiveSum (r :: L) = r.positive + positiveSum L := by
  simp [positiveSum]

@[simp] theorem positiveCount_nil : positiveCount [] = 0 := rfl

theorem positiveCount_cons (r : Request) (L : List Request) :
    positiveCount (r :: L) = positiveCount L + if 0 < r.positive then 1 else 0 := by
  simp [positiveCount, List.countP_cons]

theorem coverCost_cons (left : Request → Int) (M : Int) (r : Request) (L : List Request) (need : Int) :
    coverCost left M (r :: L) need =
      min r.positive (max 0 need) * left r + coverCost left M L (need - min r.positive (max 0 need)) := rfl

/-- The walk from any state whose need is not negative covers the need up to the positive
amounts, never takes the need below zero, adds the cost of covering, and counts at most the
requests with a positive amount. -/
theorem walk_run (M : Int) (L : List Request) (w : Walk) (hw : 0 ≤ w.remaining) :
    (L.foldl (Walk.step e now) w).covered = w.covered + min w.remaining (positiveSum L) ∧
    (L.foldl (Walk.step e now) w).remaining = w.remaining - min w.remaining (positiveSum L) ∧
    (L.foldl (Walk.step e now) w).weighted + (L.foldl (Walk.step e now) w).remaining * M =
      w.weighted + coverCost (e.secondsLeft now) M L w.remaining ∧
    (L.foldl (Walk.step e now) w).used ≤ w.used + positiveCount L := by
  induction L generalizing w with
  | nil =>
    have hmin : min w.remaining 0 = 0 := min_eq_right hw
    simp [coverCost, max_eq_right hw, hmin]
  | cons r L ih =>
    have hp := positive_nonneg r
    have hS := positiveSum_nonneg L
    rw [List.foldl_cons, Walk.step_eq, coverCost_cons, positiveSum_cons, positiveCount_cons,
      max_eq_right hw]
    split
    · -- the request gives nothing: the need is met, or its amount is not positive
      have ht : min r.positive w.remaining = 0 := by omega
      obtain ⟨h1, h2, h3, h4⟩ := ih w hw
      rw [ht, Int.zero_mul, Int.zero_add, Int.sub_zero]
      refine ⟨by omega, by omega, h3, by split <;> omega⟩
    · -- the request gives `t`, all of its amount or the rest of the need
      set t := min r.positive w.remaining with ht
      obtain ⟨h1, h2, h3, h4⟩ := ih ⟨w.weighted + t * e.secondsLeft now r, w.covered + t, w.remaining - t,
        w.used + 1⟩ (show 0 ≤ w.remaining - t by omega)
      dsimp only at h1 h2 h3 h4
      refine ⟨by omega, by omega, by rw [h3]; ring, by rw [if_pos (by omega)]; omega⟩

end Walk

/-! ## (2) The cost of covering, unit by unit -/

/-- The weight of unit `u` of the need (counting from zero), with the requests taken in order:
the seconds left of the request whose positive amount covers it, or `M` past all of them. -/
def unitWeight (left : Request → Int) (M : Int) : List Request → Int → Int
  | [], _ => M
  | r :: rs, u => if u < r.positive then left r else unitWeight left M rs (u - r.positive)

section Units

variable {left : Request → Int} {M : Int}

theorem coverCost_zero (L : List Request) : coverCost left M L 0 = 0 := by
  induction L with
  | nil => simp [coverCost]
  | cons r L ih =>
    have hmin : min r.positive (max 0 0) = 0 := by have := positive_nonneg r; omega
    rw [coverCost_cons, hmin, Int.sub_zero, ih]
    simp

/-- One more unit of need costs the weight of that unit. -/
theorem coverCost_succ (L : List Request) {R : Int} (hR : 0 ≤ R) :
    coverCost left M L (R + 1) = coverCost left M L R + unitWeight left M L R := by
  induction L generalizing R with
  | nil =>
    simp only [coverCost, unitWeight, max_eq_right hR, max_eq_right (by omega : (0 : Int) ≤ R + 1)]
    ring
  | cons r L ih =>
    rw [coverCost_cons, coverCost_cons, unitWeight, max_eq_right hR,
      max_eq_right (by omega : (0 : Int) ≤ R + 1)]
    by_cases hu : R < r.positive
    · -- the unit is inside this request: everything before and after is the same
      rw [min_eq_right (by omega : R + 1 ≤ r.positive), min_eq_right hu.le, if_pos hu,
        Int.sub_self, Int.sub_self]
      ring
    · -- the request is used whole either way; the unit falls to the rest of the queue
      have hp : min r.positive (R + 1) = r.positive := min_eq_left (by omega)
      have hp' : min r.positive R = r.positive := min_eq_left (by omega)
      rw [hp, hp', if_neg hu, show R + 1 - r.positive = R - r.positive + 1 by ring, ih (by omega)]
      ring

theorem unitWeight_of_ge {L : List Request} {u : Int} (h : positiveSum L ≤ u) :
    unitWeight left M L u = M := by
  induction L generalizing u with
  | nil => rfl
  | cons r L ih =>
    rw [positiveSum_cons] at h
    have hS := positiveSum_nonneg L
    rw [unitWeight, if_neg (by omega), ih (by omega)]

theorem unitWeight_mem {L : List Request} {u : Int} (hu : 0 ≤ u) (h : u < positiveSum L) :
    ∃ r ∈ L, unitWeight left M L u = left r := by
  induction L generalizing u with
  | nil => simp at h; omega
  | cons r L ih =>
    rw [positiveSum_cons] at h
    rw [unitWeight]
    split
    · exact ⟨r, List.mem_cons_self, rfl⟩
    · obtain ⟨b, hb, hw⟩ := ih (u := u - r.positive) (by omega) (by omega)
      exact ⟨b, List.mem_cons_of_mem _ hb, hw⟩

/-- Along a queue whose weights do not decrease, so do the weights of its units. -/
theorem unitWeight_mono {L : List Request} (hL : L.Pairwise fun a b => left a ≤ left b) {u v : Int}
    (hu : 0 ≤ u) (huv : u ≤ v) (hv : v < positiveSum L) :
    unitWeight left M L u ≤ unitWeight left M L v := by
  induction L generalizing u v with
  | nil => simp at hv; omega
  | cons r L ih =>
    rw [positiveSum_cons] at hv
    rw [List.pairwise_cons] at hL
    rw [unitWeight, unitWeight]
    by_cases hur : u < r.positive
    · rw [if_pos hur]
      split
      · exact le_rfl
      · -- `v` falls to a later request, whose weight is at least this one's
        obtain ⟨b, hb, hw⟩ : ∃ b ∈ L, unitWeight left M L (v - r.positive) = left b :=
          unitWeight_mem (by omega) (by omega)
        rw [hw]
        exact hL.1 b hb
    · rw [if_neg hur, if_neg (by omega)]
      exact ih hL.2 (by omega) (by omega) (by omega)

/-- Within the queue, covering `N` units costs at most `N` times the weight of the next unit. -/
theorem coverCost_le_mul {L : List Request} (hL : L.Pairwise fun a b => left a ≤ left b) {N : Int}
    (hN0 : 0 ≤ N) (hN : N < positiveSum L) :
    coverCost left M L N ≤ N * unitWeight left M L N := by
  obtain ⟨n, rfl⟩ := Int.eq_ofNat_of_zero_le hN0
  induction n with
  | zero => simp [coverCost_zero]
  | succ n ih =>
    push_cast at hN ⊢
    have hprev := ih (Int.natCast_nonneg n) (by omega)
    have hmono := unitWeight_mono (M := M) hL (Int.natCast_nonneg n) (by omega : (n : Int) ≤ n + 1) hN
    have hstep : (n : Int) * unitWeight left M L n ≤ n * unitWeight left M L (n + 1) :=
      mul_le_mul_of_nonneg_left hmono (Int.natCast_nonneg n)
    rw [coverCost_succ L (Int.natCast_nonneg n)]
    linarith

/-- With every weight in `[0, B]`, covering `R` units costs between `0` and `R · B`. -/
theorem coverCost_bounds {B : Int} (hl : ∀ r, 0 ≤ left r ∧ left r ≤ B) (hM0 : 0 ≤ M) (hMB : M ≤ B)
    (L : List Request) {R : Int} (hR : 0 ≤ R) : 0 ≤ coverCost left M L R ∧ coverCost left M L R ≤ R * B := by
  induction L generalizing R with
  | nil =>
    rw [coverCost, max_eq_right hR]
    exact ⟨mul_nonneg hR hM0, mul_le_mul_of_nonneg_left hMB hR⟩
  | cons r L ih =>
    rw [coverCost_cons, max_eq_right hR]
    have hp := positive_nonneg r
    obtain ⟨hl0, hlB⟩ := hl r
    have ht0 : 0 ≤ min r.positive R := le_min hp hR
    obtain ⟨h0, hB⟩ := ih (R := R - min r.positive R) (by omega)
    have htl : min r.positive R * left r ≤ min r.positive R * B := mul_le_mul_of_nonneg_left hlB ht0
    constructor
    · nlinarith
    · nlinarith

/-- With a positive divisor on each side, averages compare as their cross products do. -/
theorem ediv_le_ediv_of_mul_le {a b c d : Int} (hb : 0 < b) (hd : 0 < d) (h : a * d ≤ c * b) :
    a / b ≤ c / d := by
  rw [Int.le_ediv_iff_mul_le hd]
  have hq : a / b * b ≤ a := Int.ediv_mul_le a hb.ne'
  have : a / b * d * b ≤ c * b := by nlinarith
  exact le_of_mul_le_mul_right this hb

/-- The average weight of the first `N` units, capped at `M`, does not drop when one more unit
is needed: a unit inside the queue weighs at least the average before it, and a unit past
the queue weighs `M`, which keeps a larger average above `M`. -/
theorem cappedAverage_step {L : List Request} (hL : L.Pairwise fun a b => left a ≤ left b) {N : Int}
    (hN : 0 < N) :
    min M (coverCost left M L N / N) ≤ min M (coverCost left M L (N + 1) / (N + 1)) := by
  rw [coverCost_succ L hN.le]
  set T := coverCost left M L N
  set f := unitWeight left M L N
  by_cases hc : T ≤ N * f
  · apply min_le_min_left
    exact ediv_le_ediv_of_mul_le hN (by omega) (by nlinarith)
  · -- past the queue: the unit weighs `M`, and both averages are at least `M`
    have hge : positiveSum L ≤ N := by
      by_contra hlt
      exact hc (coverCost_le_mul hL hN.le (by omega))
    have hf : f = M := unitWeight_of_ge hge
    rw [hf] at hc ⊢
    have h1 : M ≤ T / N := (Int.le_ediv_iff_mul_le hN).2 (by linarith)
    have h2 : M ≤ (T + M) / (N + 1) := (Int.le_ediv_iff_mul_le (by omega)).2 (by linarith)
    rw [min_eq_left h1, min_eq_left h2]

theorem cappedAverage_mono {L : List Request} (hL : L.Pairwise fun a b => left a ≤ left b)
    {N₁ N₂ : Int} (h1 : 0 < N₁) (h12 : N₁ ≤ N₂) :
    min M (coverCost left M L N₁ / N₁) ≤ min M (coverCost left M L N₂ / N₂) := by
  suffices h : ∀ k : Nat, min M (coverCost left M L N₁ / N₁) ≤
      min M (coverCost left M L (N₁ + k) / (N₁ + k)) by
    have := h (N₂ - N₁).toNat
    rwa [Int.toNat_of_nonneg (by omega), add_sub_cancel] at this
  intro k
  induction k with
  | zero => simp
  | succ k ih =>
    have hstep := cappedAverage_step (M := M) hL (N := N₁ + k) (by omega)
    push_cast
    rw [← add_assoc]
    exact ih.trans hstep

end Units

/-! ## (3) Requests made at one time can be taken in either order -/

section Order

variable {left : Request → Int} {M : Int}

/-- Two requests of one weight, taken one after the other, give together what their positive
amounts give at once. -/
theorem coverCost_pair {a b : Request} (hab : left a = left b) (L : List Request) (R : Int) :
    coverCost left M (a :: b :: L) R =
      min (a.positive + b.positive) (max 0 R) * left a +
        coverCost left M L (R - min (a.positive + b.positive) (max 0 R)) := by
  have ha := positive_nonneg a
  have hb := positive_nonneg b
  rw [coverCost_cons, coverCost_cons, ← hab]
  have hsum : min a.positive (max 0 R) + min b.positive (max 0 (R - min a.positive (max 0 R))) =
      min (a.positive + b.positive) (max 0 R) := by omega
  rw [show R - min a.positive (max 0 R) - min b.positive (max 0 (R - min a.positive (max 0 R))) =
    R - min (a.positive + b.positive) (max 0 R) by omega, ← hsum]
  ring

theorem coverCost_swap {a b : Request} (hab : left a = left b) (L : List Request) (R : Int) :
    coverCost left M (a :: b :: L) R = coverCost left M (b :: a :: L) R := by
  rw [coverCost_pair hab, coverCost_pair hab.symm, Int.add_comm b.positive, hab]

theorem coverCost_cons_congr (r : Request) {L₁ L₂ : List Request}
    (h : ∀ R, coverCost left M L₁ R = coverCost left M L₂ R) (R : Int) :
    coverCost left M (r :: L₁) R = coverCost left M (r :: L₂) R := by
  rw [coverCost_cons, coverCost_cons, h]

variable (hleft : ∀ a b : Request, a.createdAt = b.createdAt → left a = left b)
include hleft

/-- In a queue ordered by creation time, an oldest request may be brought to the front. -/
theorem coverCost_erase_oldest {a : Request} {L : List Request}
    (hL : L.Pairwise fun x y => x.createdAt ≤ y.createdAt) (ha : a ∈ L)
    (hmin : ∀ b ∈ L, a.createdAt ≤ b.createdAt) (R : Int) :
    coverCost left M (a :: L.erase a) R = coverCost left M L R := by
  induction L generalizing R with
  | nil => simp at ha
  | cons b t ih =>
    rw [List.pairwise_cons] at hL
    rw [List.erase_cons]
    split
    · rename_i hba
      rw [beq_iff_eq.mp hba]
    · rename_i hba
      have hat : a ∈ t := by
        rcases List.mem_cons.mp ha with rfl | h
        · simp at hba
        · exact h
      -- `b` is first, so no later than `a`; `a` is oldest, so no later than `b`
      have hkey : a.createdAt = b.createdAt := le_antisymm (hmin b List.mem_cons_self) (hL.1 a hat)
      rw [coverCost_swap (hleft a b hkey)]
      exact coverCost_cons_congr b (ih hL.2 hat (fun c hc => hmin c (List.mem_cons_of_mem _ hc))) R

/-- Two queues ordered by creation time that hold the same requests cost the same. -/
theorem coverCost_perm_of_sorted {L₁ L₂ : List Request}
    (h₁ : L₁.Pairwise fun x y => x.createdAt ≤ y.createdAt)
    (h₂ : L₂.Pairwise fun x y => x.createdAt ≤ y.createdAt) (hp : L₁.Perm L₂) (R : Int) :
    coverCost left M L₁ R = coverCost left M L₂ R := by
  induction L₁ generalizing L₂ R with
  | nil => rw [hp.nil_eq]
  | cons a t ih =>
    rw [List.pairwise_cons] at h₁
    have ha : a ∈ L₂ := hp.subset List.mem_cons_self
    have hrest : t.Perm (L₂.erase a) := (hp.trans (List.perm_cons_erase ha)).cons_inv
    have hmin : ∀ b ∈ L₂, a.createdAt ≤ b.createdAt := by
      intro b hb
      rcases List.mem_cons.mp (hp.symm.subset hb) with rfl | h
      · exact le_rfl
      · exact h₁.1 b h
    rw [coverCost_cons_congr a (ih h₁.2 (h₂.sublist List.erase_sublist) hrest) R]
    exact coverCost_erase_oldest hleft h₂ ha hmin R

end Order

/-! ## (4) The estimate -/

theorem oldestFirst_perm (queue : List Request) : (oldestFirst queue).Perm queue :=
  List.mergeSort_perm _ _

theorem oldestFirst_sorted (queue : List Request) :
    (oldestFirst queue).Pairwise fun a b => a.createdAt ≤ b.createdAt := by
  have h := @List.pairwise_mergeSort Request (fun a b => decide (a.createdAt ≤ b.createdAt))
    (fun a b c hab hbc => by simp only [decide_eq_true_eq] at *; omega)
    (fun a b => by simp only [Bool.or_eq_true, decide_eq_true_eq]; omega) queue
  exact h.imp fun hab => by simpa using hab

theorem positiveSum_perm {L₁ L₂ : List Request} (h : L₁.Perm L₂) : positiveSum L₁ = positiveSum L₂ :=
  (h.map _).sum_eq

theorem positiveCount_perm {L₁ L₂ : List Request} (h : L₁.Perm L₂) :
    positiveCount L₁ = positiveCount L₂ :=
  h.countP_eq _

section Estimate

variable (e : Estimator) (now : Int)

theorem secondsLeft_eq (r : Request) :
    e.secondsLeft now r =
      max 0 (min Duration.maxValue (r.createdAt + e.maturation - now)) / Duration.second := by
  have hsat : max 0 (Instant.since (r.createdAt + e.maturation) now) =
      max 0 (min Duration.maxValue (r.createdAt + e.maturation - now)) := by
    simp only [Instant.since, Duration.saturate, Duration.minValue, Duration.maxValue]
    omega
  rw [Estimator.secondsLeft, hsat, Int.tdiv_eq_ediv_of_nonneg (le_max_left _ _)]

theorem secondsLeft_mono {a b : Request} (h : a.createdAt ≤ b.createdAt) :
    e.secondsLeft now a ≤ e.secondsLeft now b := by
  rw [secondsLeft_eq, secondsLeft_eq]
  exact Int.ediv_le_ediv (by decide) (by omega)

theorem secondsLeft_bounds (r : Request) : 0 ≤ e.secondsLeft now r ∧ e.secondsLeft now r ≤ 9223372036 := by
  rw [secondsLeft_eq]
  constructor
  · exact Int.ediv_nonneg (le_max_left _ _) (by decide)
  · calc _ ≤ Duration.maxValue / Duration.second :=
          Int.ediv_le_ediv (by decide) (by simp only [Duration.maxValue]; omega)
      _ = 9223372036 := by norm_num [Duration.maxValue, Duration.second]

theorem secondsLeft_congr {a b : Request} (h : a.createdAt = b.createdAt) :
    e.secondsLeft now a = e.secondsLeft now b := by
  simp [Estimator.secondsLeft, h]

variable (liq : Liquidity) (queue : List Request)

@[simp] theorem estimate_needed : (e.estimate now liq queue).needed = liq.needed := by
  unfold Estimator.estimate
  split <;> rfl

theorem wantsQueue_iff : liq.wantsQueue = true ↔ liq.required.getD 0 ≠ 0 ∧ 0 < liq.needed := by
  rcases liq with ⟨available, required, pending⟩
  cases required <;> simp [Liquidity.wantsQueue]

/-- The estimator's early return and the source's test for reading the queue are written
apart, each as the code has it; they are exact negations of each other, over a missing
required amount, a zero one and every need. -/
theorem nothingNeeded_eq_not_wantsQueue : liq.nothingNeeded = !liq.wantsQueue := by
  rcases liq with ⟨available, required, pending⟩
  cases required with
  | none => rfl
  | some r =>
    -- a required amount is set: the two tests differ only in how they say "not zero, needed"
    by_cases hn : (⟨available, some r, pending⟩ : Liquidity).needed ≤ 0
    · simp [Liquidity.nothingNeeded, Liquidity.wantsQueue, hn, Int.not_lt.mpr hn]
    · simp [Liquidity.nothingNeeded, Liquidity.wantsQueue, hn, Int.lt_of_not_ge hn, bne]

theorem estimate_idle (h : liq.wantsQueue = false) :
    e.estimate now liq queue = ⟨e.minPeriod, liq.needed, 0, 0, 0⟩ := by
  simp [Estimator.estimate, nothingNeeded_eq_not_wantsQueue, h]

/-- The estimate when the queue matters, as a walk over the queue oldest first. -/
theorem estimate_of_busy (h : liq.wantsQueue = true) :
    e.estimate now liq queue =
      let w := (oldestFirst queue).foldl (Walk.step e now) ⟨0, 0, liq.needed, 0⟩
      let M := Duration.wrap (e.maturation.tdiv Duration.second)
      let secs := (w.weighted + max 0 w.remaining * M).tdiv liq.needed
      ⟨min e.maturation (max e.minPeriod (Duration.wrap (Duration.wrap secs * Duration.second))),
        liq.needed, w.covered, max 0 w.remaining, w.used⟩ := by
  simp only [Estimator.estimate, nothingNeeded_eq_not_wantsQueue, h, Bool.not_true, Bool.false_eq_true, if_false]
  congr 1
  split_ifs <;> omega

/-- When the queue matters: the period is the truncated average cost of covering the need,
oldest first, in 64-bit seconds and then nanoseconds, raised to the minimum and capped at the
maturation; the amount covered is the need up to the positive amounts, and the rest is the
shortfall. -/
theorem estimate_busy (h : liq.wantsQueue = true) :
    let M := Duration.wrap (e.maturation.tdiv Duration.second)
    let est := e.estimate now liq queue
    est.period = min e.maturation (max e.minPeriod (Duration.wrap (Duration.wrap
        ((coverCost (e.secondsLeft now) M (oldestFirst queue) liq.needed).tdiv liq.needed) *
          Duration.second))) ∧
    est.covered = min liq.needed (positiveSum queue) ∧
    est.shortfall = liq.needed - min liq.needed (positiveSum queue) ∧
    est.used ≤ positiveCount queue := by
  intro M est
  have hN : 0 < liq.needed := ((wantsQueue_iff liq).1 h).2
  obtain ⟨h1, h2, h3, h4⟩ := walk_run e now M (oldestFirst queue) ⟨0, 0, liq.needed, 0⟩ hN.le
  rw [positiveSum_perm (oldestFirst_perm queue)] at h1 h2
  rw [positiveCount_perm (oldestFirst_perm queue)] at h4
  simp only [est, estimate_of_busy e now liq queue h]
  generalize (oldestFirst queue).foldl (Walk.step e now) ⟨0, 0, liq.needed, 0⟩ = w at h1 h2 h3 h4 ⊢
  dsimp only at h1 h2 h3 h4 ⊢
  have hrem : max 0 w.remaining = w.remaining := max_eq_right (by omega)
  rw [hrem, h3]
  exact ⟨by simp [M], by omega, by omega, by omega⟩

/-- The period always lies between the minimum and the maturation, whatever the queue. -/
theorem estimate_period_within (hle : e.minPeriod ≤ e.maturation) :
    e.minPeriod ≤ (e.estimate now liq queue).period ∧ (e.estimate now liq queue).period ≤ e.maturation := by
  cases h : liq.wantsQueue
  · rw [estimate_idle e now liq queue h]
    exact ⟨le_rfl, hle⟩
  · rw [(estimate_busy e now liq queue h).1]
    omega

/-- With a maturation of 64-bit nanoseconds, the average stays inside 64 bits: the period is
the truncated average in seconds, raised to the minimum and capped at the maturation. -/
theorem estimate_period_of_busy (h : liq.wantsQueue = true) (hmat0 : 0 ≤ e.maturation)
    (hmax : e.maturation ≤ Duration.maxValue) :
    (e.estimate now liq queue).period = min e.maturation (max e.minPeriod
      (coverCost (e.secondsLeft now) (e.maturation / Duration.second) (oldestFirst queue)
        liq.needed / liq.needed * Duration.second)) := by
  have hN : 0 < liq.needed := ((wantsQueue_iff liq).1 h).2
  -- the shortfall's weight, `maturation / 1 s`, is a 64-bit number of seconds
  have hM : Duration.wrap (e.maturation.tdiv Duration.second) = e.maturation / Duration.second := by
    rw [Int.tdiv_eq_ediv_of_nonneg hmat0]
    have : e.maturation / Duration.second ≤ e.maturation := Int.ediv_le_self _ hmat0
    have : 0 ≤ e.maturation / Duration.second := Int.ediv_nonneg hmat0 (by decide)
    exact Duration.wrap_of_mem (by omega) (by simp only [Duration.maxValue] at hmax; omega)
  have hMB : e.maturation / Duration.second ≤ 9223372036 := by
    calc _ ≤ Duration.maxValue / Duration.second := Int.ediv_le_ediv (by decide) hmax
      _ = 9223372036 := by norm_num [Duration.maxValue, Duration.second]
  -- every unit weighs at most `2^63 / 10^9` seconds, so the average does too
  obtain ⟨hT0, hTB⟩ := coverCost_bounds (fun r => secondsLeft_bounds e now r)
    (Int.ediv_nonneg hmat0 (by decide)) hMB (oldestFirst queue) hN.le
  set T := coverCost (e.secondsLeft now) (e.maturation / Duration.second) (oldestFirst queue) liq.needed
  have hs0 : 0 ≤ T / liq.needed := Int.ediv_nonneg hT0 hN.le
  have hsB : T / liq.needed ≤ 9223372036 := Int.ediv_le_of_le_mul hN (by linarith)
  have hsecs : Duration.wrap (T / liq.needed) = T / liq.needed := Duration.wrap_of_mem (by omega) (by omega)
  have hnanos : Duration.wrap (T / liq.needed * Duration.second) = T / liq.needed * Duration.second :=
    Duration.wrap_of_mem (by simp only [Duration.second]; omega) (by simp only [Duration.second]; omega)
  rw [(estimate_busy e now liq queue h).1, hM, Int.tdiv_eq_ediv_of_nonneg hT0, hsecs, hnanos]

end Estimate

/-! ## (5) What the estimate guarantees -/

/-- The estimate for any liquidity, queue and clock: the need is `required + pendingClaims −
available`, a missing amount counting as zero; the period stays between the minimum and the
maturation; with nothing required or nothing needed the estimate is the minimum period with
nothing covered; otherwise what is covered and what falls short add up to the need, neither is
negative, what is covered is the need up to the sum of the positive amounts, and no more
requests are used than have a positive amount. The queue itself is a value and is not
changed. -/
theorem estimate_covers_need (e : Estimator) (now : Int) (liq : Liquidity) (queue : List Request) :
    let est := e.estimate now liq queue
    est.needed = liq.required.getD 0 + liq.pendingClaims.getD 0 - liq.available.getD 0 ∧
    (e.minPeriod ≤ e.maturation → e.minPeriod ≤ est.period ∧ est.period ≤ e.maturation) ∧
    (liq.required.getD 0 = 0 ∨ est.needed ≤ 0 →
      est.period = e.minPeriod ∧ est.covered = 0 ∧ est.shortfall = 0 ∧ est.used = 0) ∧
    (liq.required.getD 0 ≠ 0 → 0 < est.needed →
      est.covered + est.shortfall = est.needed ∧ 0 ≤ est.covered ∧ 0 ≤ est.shortfall ∧
      est.covered = min est.needed (positiveSum queue) ∧ est.used ≤ positiveCount queue) := by
  dsimp only
  rw [estimate_needed]
  refine ⟨rfl, estimate_period_within e now liq queue, fun hidle => ?_, fun hreq hN => ?_⟩
  · have h : liq.wantsQueue = false := by
      rw [Bool.eq_false_iff]
      intro hbusy
      have := (wantsQueue_iff liq).1 hbusy
      omega
    simp [estimate_idle e now liq queue h]
  · have h : liq.wantsQueue = true := (wantsQueue_iff liq).2 ⟨hreq, by omega⟩
    obtain ⟨-, hc, hs, hu⟩ := estimate_busy e now liq queue h
    have hS := positiveSum_nonneg queue
    exact ⟨by omega, by omega, by omega, hc, hu⟩

/-- Three units needed from a queue of 5 and 2 units and a request with no amount, and an
idle liquidity that needs nothing. -/
theorem estimate_covers_three_units :
    let now : Int := 1750000000000000000
    let queue : List Request := [⟨"w1", "v1", some 5, 1749827200000000000⟩,
      ⟨"w2", "v2", some 2, 1749913600000000000⟩, ⟨"w3", "v3", none, 0⟩]
    let busy : Liquidity := ⟨some 0, some 3, none⟩
    let idle : Liquidity := ⟨some 5, some 3, none⟩
    let est := Estimator.default.estimate now busy queue
    let rest := Estimator.default.estimate now idle queue
    Estimator.default.minPeriod ≤ Estimator.default.maturation ∧
      (Estimator.default.minPeriod ≤ est.period ∧ est.period ≤ Estimator.default.maturation) ∧
    (idle.required.getD 0 = 0 ∨ rest.needed ≤ 0) ∧
      (rest.period = Estimator.default.minPeriod ∧ rest.covered = 0 ∧ rest.shortfall = 0 ∧ rest.used = 0) ∧
    busy.required.getD 0 ≠ 0 ∧ 0 < est.needed ∧
      (est.covered + est.shortfall = est.needed ∧ 0 ≤ est.covered ∧ 0 ≤ est.shortfall ∧
        est.covered = min est.needed (positiveSum queue) ∧ est.used ≤ positiveCount queue) := by
  intro now queue busy idle est rest
  have hmin : Estimator.default.minPeriod ≤ Estimator.default.maturation := by decide
  have hidle : idle.required.getD 0 = 0 ∨ rest.needed ≤ 0 := by
    right
    simp only [rest, estimate_needed]
    decide
  have hreq : busy.required.getD 0 ≠ 0 := by decide
  have hN : 0 < est.needed := by
    simp only [est, estimate_needed]
    decide
  obtain ⟨-, hrange, -, -⟩ := estimate_covers_need Estimator.default now busy queue
  obtain ⟨-, -, hnone, -⟩ := estimate_covers_need Estimator.default now idle queue
  obtain ⟨-, -, -, hsome⟩ := estimate_covers_need Estimator.default now busy queue
  exact ⟨hmin, hrange hmin, hidle, hnone hidle, hreq, hN, hsome hreq hN⟩

/-! ## (6) The period as a weighted average -/

section Average

variable (e : Estimator) (now : Int)

/-- More need never gives a shorter period, for a minimum not above a maturation of whole
seconds that fits a 64-bit duration. -/
theorem estimate_period_mono (h0 : 0 ≤ e.minPeriod) (hle : e.minPeriod ≤ e.maturation)
    (hmax : e.maturation ≤ Duration.maxValue) (hsec : e.maturation % Duration.second = 0)
    {liq₁ liq₂ : Liquidity} (queue : List Request) (hreq₁ : liq₁.required.getD 0 ≠ 0)
    (hreq₂ : liq₂.required.getD 0 ≠ 0) (hle₁₂ : liq₁.needed ≤ liq₂.needed) :
    (e.estimate now liq₁ queue).period ≤ (e.estimate now liq₂ queue).period := by
  by_cases hN₁ : liq₁.needed ≤ 0
  · -- nothing needed at first: the minimum, which no period goes below
    have h : liq₁.wantsQueue = false := by
      rw [Bool.eq_false_iff]
      intro hbusy
      have := (wantsQueue_iff liq₁).1 hbusy
      omega
    rw [estimate_idle e now liq₁ queue h]
    exact (estimate_period_within e now liq₂ queue hle).1
  · have h₁ : liq₁.wantsQueue = true := (wantsQueue_iff liq₁).2 ⟨hreq₁, by omega⟩
    have h₂ : liq₂.wantsQueue = true := (wantsQueue_iff liq₂).2 ⟨hreq₂, by omega⟩
    rw [estimate_period_of_busy e now liq₁ queue h₁ (by omega) hmax,
      estimate_period_of_busy e now liq₂ queue h₂ (by omega) hmax]
    -- the weights grow along the queue oldest first, so the capped average grows with the need
    have hsorted := (oldestFirst_sorted queue).imp fun hab => secondsLeft_mono e now hab
    -- the maturation is the cap in whole seconds
    have hmat : e.maturation = e.maturation / Duration.second * Duration.second :=
      (Int.ediv_mul_cancel_of_emod_eq_zero hsec).symm
    generalize e.maturation / Duration.second = M at hmat ⊢
    have hmono : min M (coverCost (e.secondsLeft now) M (oldestFirst queue) liq₁.needed / liq₁.needed) ≤
        min M (coverCost (e.secondsLeft now) M (oldestFirst queue) liq₂.needed / liq₂.needed) :=
      cappedAverage_mono hsorted (by omega) hle₁₂
    generalize coverCost (e.secondsLeft now) M (oldestFirst queue) liq₁.needed / liq₁.needed = a at hmono ⊢
    generalize coverCost (e.secondsLeft now) M (oldestFirst queue) liq₂.needed / liq₂.needed = b at hmono ⊢
    simp only [Duration.second] at hmat ⊢
    omega

/-- The period, the amount covered and the shortfall do not depend on the order of the queue. -/
theorem estimate_perm (liq : Liquidity) {queue₁ queue₂ : List Request} (hp : queue₁.Perm queue₂) :
    (e.estimate now liq queue₁).period = (e.estimate now liq queue₂).period ∧
      (e.estimate now liq queue₁).covered = (e.estimate now liq queue₂).covered ∧
      (e.estimate now liq queue₁).shortfall = (e.estimate now liq queue₂).shortfall := by
  cases h : liq.wantsQueue
  · simp [estimate_idle e now liq _ h]
  · obtain ⟨hp₁, hc₁, hs₁, -⟩ := estimate_busy e now liq queue₁ h
    obtain ⟨hp₂, hc₂, hs₂, -⟩ := estimate_busy e now liq queue₂ h
    have hsum := positiveSum_perm hp
    -- requests made at one time weigh the same, so any two orders oldest first cost the same
    have hcost := coverCost_perm_of_sorted (M := Duration.wrap (e.maturation.tdiv Duration.second))
      (fun a b hab => secondsLeft_congr e now hab) (oldestFirst_sorted queue₁)
      (oldestFirst_sorted queue₂)
      (((oldestFirst_perm queue₁).trans hp).trans (oldestFirst_perm queue₂).symm) liq.needed
    exact ⟨by rw [hp₁, hp₂, hcost], by rw [hc₁, hc₂, hsum], by rw [hs₁, hs₂, hsum]⟩

end Average

/-- For an estimator whose minimum is not negative and not above a maturation of whole
seconds that fits a 64-bit duration: when something is required and needed, the period is
the average cost of covering the need oldest first (`coverCost`: each request's share times
its whole seconds left, saturated at the 64-bit duration range, plus the shortfall times the
maturation's seconds), rounded down to whole seconds, raised to the minimum and capped at the
maturation. So more need never gives a shorter period, and the period, the amount covered and
the shortfall do not depend on the order of the queue. -/
theorem estimate_weighted_average (e : Estimator) (now : Int) (h0 : 0 ≤ e.minPeriod)
    (hle : e.minPeriod ≤ e.maturation) (hmax : e.maturation ≤ Duration.maxValue)
    (hsec : e.maturation % Duration.second = 0) :
    (∀ liq queue, liq.required.getD 0 ≠ 0 → 0 < liq.needed →
      (e.estimate now liq queue).period = min e.maturation (max e.minPeriod
        (coverCost (e.secondsLeft now) (e.maturation / Duration.second) (oldestFirst queue)
          liq.needed / liq.needed * Duration.second))) ∧
    (∀ liq₁ liq₂ queue, liq₁.required.getD 0 ≠ 0 → liq₂.required.getD 0 ≠ 0 →
      liq₁.needed ≤ liq₂.needed →
      (e.estimate now liq₁ queue).period ≤ (e.estimate now liq₂ queue).period) ∧
    (∀ liq queue₁ queue₂, queue₁.Perm queue₂ →
      (e.estimate now liq queue₁).period = (e.estimate now liq queue₂).period ∧
      (e.estimate now liq queue₁).covered = (e.estimate now liq queue₂).covered ∧
      (e.estimate now liq queue₁).shortfall = (e.estimate now liq queue₂).shortfall) := by
  refine ⟨fun liq queue hreq hN => ?_, fun liq₁ liq₂ queue hreq₁ hreq₂ hle₁₂ => ?_,
    fun liq queue₁ queue₂ hp => estimate_perm e now liq hp⟩
  · exact estimate_period_of_busy e now liq queue ((wantsQueue_iff liq).2 ⟨hreq, hN⟩) (by omega) hmax
  · exact estimate_period_mono e now h0 hle hmax hsec queue hreq₁ hreq₂ hle₁₂


/-- The default estimator (one day to fourteen days) on two requests made at one time: the
period of three units is their capped average, ten units take no shorter, and reversing the
queue changes nothing. -/
theorem default_estimator_weighted_average :
    let e := Estimator.default
    let now : Int := 1750000000000000000
    let queue : List Request :=
      [⟨"w1", "v1", some 5, 1749913600000000000⟩, ⟨"w2", "v2", some 2, 1749913600000000000⟩]
    let small : Liquidity := ⟨none, some 3, none⟩
    let large : Liquidity := ⟨none, some 10, none⟩
    (0 ≤ e.minPeriod ∧ e.minPeriod ≤ e.maturation ∧ e.maturation ≤ Duration.maxValue ∧
      e.maturation % Duration.second = 0) ∧
    (small.required.getD 0 ≠ 0 ∧ 0 < small.needed ∧
      (e.estimate now small queue).period = min e.maturation (max e.minPeriod
        (coverCost (e.secondsLeft now) (e.maturation / Duration.second) (oldestFirst queue)
          small.needed / small.needed * Duration.second))) ∧
    (large.required.getD 0 ≠ 0 ∧ small.needed ≤ large.needed ∧
      (e.estimate now small queue).period ≤ (e.estimate now large queue).period) ∧
    (queue.Perm queue.reverse ∧
      (e.estimate now small queue).period = (e.estimate now small queue.reverse).period ∧
      (e.estimate now small queue).covered = (e.estimate now small queue.reverse).covered ∧
      (e.estimate now small queue).shortfall = (e.estimate now small queue.reverse).shortfall) := by
  intro e now queue small large
  have h0 : 0 ≤ e.minPeriod := by decide
  have hle : e.minPeriod ≤ e.maturation := by decide
  have hmax : e.maturation ≤ Duration.maxValue := by decide
  have hsec : e.maturation % Duration.second = 0 := by decide
  have hreq₁ : small.required.getD 0 ≠ 0 := by decide
  have hN₁ : 0 < small.needed := by decide
  have hreq₂ : large.required.getD 0 ≠ 0 := by decide
  have hN₁₂ : small.needed ≤ large.needed := by decide
  have hp : queue.Perm queue.reverse := (List.reverse_perm queue).symm
  obtain ⟨hformula, hmono, hperm⟩ := estimate_weighted_average e now h0 hle hmax hsec
  exact ⟨⟨h0, hle, hmax, hsec⟩, ⟨hreq₁, hN₁, hformula small queue hreq₁ hN₁⟩,
    ⟨hreq₂, hN₁₂, hmono small large queue hreq₁ hreq₂ hN₁₂⟩, ⟨hp, hperm small queue queue.reverse hp⟩⟩

/-- A request made 584 years after the clock: its distance to maturity passes the 64-bit
duration range and stops there, so it weighs 9223372036 seconds and not 18001209600. Beside
9999 matured units the estimate is 922337 seconds, where exact seconds left would average
1800120 and be capped at the fourteen days of maturation. -/
theorem far_future_request_saturates :
    let now : Int := -9000000000000000000
    let liq : Liquidity := ⟨none, some 10000, none⟩
    let queue : List Request :=
      [⟨"a", "v", some 9999, -9100000000000000000⟩, ⟨"b", "v", some 1, 9000000000000000000⟩]
    let exactLeft : Request → Int := fun r =>
      max 0 (r.createdAt + Estimator.default.maturation - now) / Duration.second
    (Estimator.default.estimate now liq queue).period = 922337000000000 ∧
      min Estimator.default.maturation (max Estimator.default.minPeriod
        (coverCost exactLeft (Estimator.default.maturation / Duration.second) (oldestFirst queue)
          liq.needed / liq.needed * Duration.second)) = 1209600000000000 := by
  intro now liq queue exactLeft
  have hsorted : oldestFirst queue = queue := List.mergeSort_of_pairwise (by decide)
  have hbusy : liq.wantsQueue = true := by decide
  rw [estimate_period_of_busy _ _ _ _ hbusy (by decide) (by decide), hsorted]
  dsimp only [now, liq, queue, exactLeft]
  constructor <;> decide

end Withdrawal

end QuoteKeeper
