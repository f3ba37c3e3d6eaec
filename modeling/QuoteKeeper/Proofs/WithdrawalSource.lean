import QuoteKeeper.Withdrawal.Source
import QuoteKeeper.Proofs.WithdrawalEstimate
import QuoteKeeper.Proofs.EngineAudit
/-
  QuoteKeeper.Proofs.WithdrawalSource — the source reads the withdrawal queue only when the
  estimate can use it, and logs one audit event for each estimate it answers.

  A source over a world `σ` is watched beside a journal (`Source.watched`): reading the queue
  adds `queueRead`, and each entry its logger writes is added with the fields the source gave
  it (the logger's context is added only on the way to the real sink). Every collaborator then
  acts on the world as it would have, so a stub may answer anything and change its world as it
  likes.

  The source asks its own question before reading the queue: is a required amount set and not
  zero, and is something needed (`Liquidity.wantsQueue`)? The estimator asks the opposite one
  before using it (`Liquidity.nothingNeeded`), and the two are exact negations
  (`nothingNeeded_eq_not_wantsQueue`). When the source's answer is no, the estimate ignores the
  queue and the clock (`estimate_idle`), so a skipped read is one whose answer could not have
  changed anything.

  Proved:
  (1) `eventFields_withdrawEstimate`, `records_estimate`: the audit event of an estimate, and
      what it records (`RecordsEstimate`).
  (2) `estimate_of_liquidity_error`, `estimate_of_queue_error`: a failed reading is answered
      wrapped, and nothing is logged.
  (3) `estimate_of_queue`, `estimate_of_idle`: otherwise the answer is the estimator's estimate
      over the queue as read, or over any queue at any time when it was not read; the journal
      holds the read when it was made, then the one event recording that estimate.
  (4) `estimate_reads_queue_only_when_used`: all of it over one reading of the world, with the
      two tests' agreement.
-/

namespace QuoteKeeper

namespace Withdrawal

/-- What a watched source adds to its journal: a read of the queue, or an entry its logger
wrote, with the fields the source gave it. -/
inductive Seen where
  | queueRead
  | entry (en : Entry)

section Watch

variable {σ α : Type}

/-- `x` on the world, the journal left alone. -/
def unseen (x : StateM σ α) : StateM (σ × List Seen) α :=
  fun s => ((x.run s.1).1, (x.run s.1).2, s.2)

/-- `x` on the world, with `n` added to the journal. -/
def seen (n : Seen) (x : StateM σ α) : StateM (σ × List Seen) α :=
  fun s => ((x.run s.1).1, (x.run s.1).2, s.2 ++ [n])

@[simp] theorem run_unseen (x : StateM σ α) (s : σ × List Seen) :
    (unseen x).run s = ((x.run s.1).1, (x.run s.1).2, s.2) := rfl

@[simp] theorem run_seen (n : Seen) (x : StateM σ α) (s : σ × List Seen) :
    (seen n x).run s = ((x.run s.1).1, (x.run s.1).2, s.2 ++ [n]) := rfl

@[simp 1100] theorem run_pure_seen (a : α) (s : σ × List Seen) :
    (pure a : StateM (σ × List Seen) α).run s = (a, s) := rfl

end Watch

/-! ## (1) The audit event of an estimate -/

/-- `en` is the audit event of the estimate `est` made from `queued` requests: a
`withdraw_estimate` event at info level without schema error, whose amounts are the
estimate's as decimal text, with the requests used and queued and the period in days. -/
structure RecordsEstimate (en : Entry) (est : Estimate) (queued : Nat) : Prop where
  level : en.level = .info
  event : en.eventName? = some "withdraw_estimate"
  clean : en.fields.lookup "schemaError" = none
  needed : en.fields.lookup "needed" = some (.str (intText est.needed))
  covered : en.fields.lookup "covered" = some (.str (intText est.covered))
  shortfall : en.fields.lookup "shortfall" = some (.str (intText est.shortfall))
  used : en.fields.lookup "used" = some (Json.ofNat est.used)
  queued : en.fields.lookup "queued" = some (Json.ofNat queued)
  days : en.fields.lookup "days" = some (Json.ofFloat est.days)

section Event

variable (est : Estimate) (queued : Nat)

/-- The event's fields pass its schema, so they are written sorted, then the event's name. -/
theorem eventFields_withdrawEstimate :
    eventFields "withdraw_estimate"
        [("needed", .str (intText est.needed)), ("covered", .str (intText est.covered)),
         ("shortfall", .str (intText est.shortfall)), ("used", Json.ofNat est.used),
         ("queued", Json.ofNat queued), ("days", Json.ofFloat est.days)] =
      [("covered", .str (intText est.covered)), ("days", Json.ofFloat est.days),
       ("needed", .str (intText est.needed)), ("queued", Json.ofNat queued),
       ("shortfall", .str (intText est.shortfall)), ("used", Json.ofNat est.used),
       ("event", .str "withdraw_estimate")] := by
  rw [eventFields_of_check rfl]
  simp [sortFields, List.mergeSort]

theorem records_estimate (name : String) :
    RecordsEstimate ⟨.info, "withdraw_estimate", [] ++ eventFields "withdraw_estimate"
        [("needed", .str (intText est.needed)), ("covered", .str (intText est.covered)),
         ("shortfall", .str (intText est.shortfall)), ("used", Json.ofNat est.used),
         ("queued", Json.ofNat queued), ("days", Json.ofFloat est.days)], name⟩ est queued := by
  rw [eventFields_withdrawEstimate]
  constructor <;> simp [Entry.eventName?, List.lookup]

end Event

namespace Source

variable {σ : Type}

/-- The source beside a journal of its queue reads and of the entries it logs. -/
def watched (src : Source (StateM σ)) : Source (StateM (σ × List Seen)) where
  liquidity := unseen src.liquidity
  queue := seen .queueRead src.queue
  estimator := src.estimator
  now := unseen src.now
  logger := ⟨fun en => seen (.entry en) (src.logger.sink { en with fields := src.logger.context ++ en.fields }),
    [], src.logger.name, src.logger.durationJson⟩

variable (src : Source (StateM σ)) (w : σ) (J : List Seen)

/-! ## (2) Failed readings -/

theorem estimate_of_liquidity_error {err : Failure} (h : (src.liquidity.run w).1 = .error err) :
    src.watched.estimate.run (w, J) = (.error (err.wrap "read liquidity"), (src.liquidity.run w).2, J) := by
  simp only [estimate, run_bind]
  simp [watched, h]

theorem estimate_of_queue_error {liq : Liquidity} {err : Failure} (hl : (src.liquidity.run w).1 = .ok liq)
    (hq : liq.wantsQueue = true) (he : (src.queue.run (src.liquidity.run w).2).1 = .error err) :
    src.watched.estimate.run (w, J) =
      (.error (err.wrap "read withdrawal queue"), (src.queue.run (src.liquidity.run w).2).2, J ++ [.queueRead]) := by
  simp only [estimate, watched, run_bind, run_unseen, hl, hq, if_true, run_seen, he, run_pure_seen]

/-! ## (3) Estimates -/

theorem estimate_of_queue {liq : Liquidity} {queue : List Request} (hl : (src.liquidity.run w).1 = .ok liq)
    (hq : liq.wantsQueue = true) (hr : (src.queue.run (src.liquidity.run w).2).1 = .ok queue) :
    let est := src.estimator.estimate (src.now.run (src.queue.run (src.liquidity.run w).2).2).1 liq queue
    ∃ en, (src.watched.estimate.run (w, J)).1 = .ok est ∧
      (src.watched.estimate.run (w, J)).2.2 = J ++ [.queueRead, .entry en] ∧ RecordsEstimate en est queue.length := by
  intro est
  refine ⟨_, ?_, ?_, records_estimate est queue.length src.logger.name⟩
  · simp only [estimate, watched, run_bind, run_unseen, hl, hq, if_true, run_seen, hr, run_pure_seen]
    rfl
  · simp only [estimate, watched, run_bind, run_unseen, hl, hq, if_true, run_seen, hr, run_pure_seen,
      Logger.event, Logger.info, Logger.log, List.append_assoc]
    rfl

/-- A skipped read: the estimate is the one the estimator gives over any queue at any time. -/
theorem estimate_of_idle {liq : Liquidity} (hl : (src.liquidity.run w).1 = .ok liq) (hq : liq.wantsQueue = false) :
    ∃ en est, (src.watched.estimate.run (w, J)).1 = .ok est ∧ (∀ t queue, est = src.estimator.estimate t liq queue) ∧
      (src.watched.estimate.run (w, J)).2.2 = J ++ [.entry en] ∧ RecordsEstimate en est 0 := by
  let est := src.estimator.estimate (src.now.run (src.liquidity.run w).2).1 liq []
  have hany : ∀ t queue, est = src.estimator.estimate t liq queue := by
    intro t queue
    exact (estimate_idle _ _ liq _ hq).trans (estimate_idle _ _ liq _ hq).symm
  refine ⟨_, est, ?_, hany, ?_, records_estimate est 0 src.logger.name⟩
  · simp only [estimate, watched, run_bind, run_unseen, hl, hq, Bool.false_eq_true, if_false, run_pure_seen]
    rfl
  · simp only [estimate, watched, run_bind, run_unseen, hl, hq, Bool.false_eq_true, if_false, run_pure_seen,
      run_seen, Logger.event, Logger.info, Logger.log]
    rfl

/-- The queue is read exactly when the liquidity snapshot was read and wants it. -/
theorem queueRead_mem_iff :
    Seen.queueRead ∈ (src.watched.estimate.run (w, [])).2.2 ↔
      ∃ liq, (src.liquidity.run w).1 = .ok liq ∧ liq.wantsQueue = true := by
  cases hl : (src.liquidity.run w).1 with
  | error err => simp [estimate_of_liquidity_error src w [] hl]
  | ok liq =>
    cases hq : liq.wantsQueue with
    | false =>
      obtain ⟨en, -, -, -, hj, -⟩ := estimate_of_idle src w [] hl hq
      simp [hj, hq]
    | true =>
      cases hr : (src.queue.run (src.liquidity.run w).2).1 with
      | error err => simp [estimate_of_queue_error src w [] hl hq hr, hq]
      | ok queue =>
        obtain ⟨en, -, hj, -⟩ := estimate_of_queue src w [] hl hq hr
        simp [hj, hq]

/-! ## (4) The whole estimate -/

/-- Over one reading of the world: the source reads the queue exactly when the snapshot it
read has something required and something needed; a failed reading is answered wrapped, with
nothing logged; otherwise the answer is the estimator's estimate over the queue as read, or
over whatever queue the source would have read when it skipped it, and one `withdraw_estimate`
event records that estimate with the number of requests read. The source's test and the
estimator's early return, written apart, are exact negations for every snapshot. -/
theorem estimate_reads_queue_only_when_used (src : Source (StateM σ)) (w : σ) :
    let out := (watched src).estimate.run (w, [])
    let w₁ := (src.liquidity.run w).2
    let w₂ := (src.queue.run w₁).2
    (Seen.queueRead ∈ out.2.2 ↔
        ∃ liq, (src.liquidity.run w).1 = .ok liq ∧ liq.required.getD 0 ≠ 0 ∧ 0 < liq.needed) ∧
    (∀ err, (src.liquidity.run w).1 = .error err →
        out.1 = .error (err.wrap "read liquidity") ∧ out.2.2 = []) ∧
    (∀ liq, (src.liquidity.run w).1 = .ok liq → liq.wantsQueue = true →
        (∀ err, (src.queue.run w₁).1 = .error err →
          out.1 = .error (err.wrap "read withdrawal queue") ∧ out.2.2 = [.queueRead]) ∧
        ∀ queue, (src.queue.run w₁).1 = .ok queue →
          ∃ en, out.1 = .ok (src.estimator.estimate (src.now.run w₂).1 liq queue) ∧
            out.2.2 = [.queueRead, .entry en] ∧
            RecordsEstimate en (src.estimator.estimate (src.now.run w₂).1 liq queue) queue.length) ∧
    (∀ liq, (src.liquidity.run w).1 = .ok liq → liq.wantsQueue = false →
        ∃ en est, out.1 = .ok est ∧ (∀ t queue, est = src.estimator.estimate t liq queue) ∧
          out.2.2 = [.entry en] ∧ RecordsEstimate en est 0) ∧
    (∀ liq : Liquidity, liq.nothingNeeded = !liq.wantsQueue) := by
  intro out w₁ w₂
  refine ⟨?_, fun err hl => ?_, fun liq hl hq => ⟨fun err he => ?_, fun queue hr => ?_⟩, fun liq hl hq => ?_,
    nothingNeeded_eq_not_wantsQueue⟩
  · simp only [out, queueRead_mem_iff, wantsQueue_iff]
  · simp [out, estimate_of_liquidity_error src w [] hl]
  · simp [out, estimate_of_queue_error src w [] hl hq he]
  · simpa using estimate_of_queue src w [] hl hq hr
  · simpa using estimate_of_idle src w [] hl hq

end Source

end Withdrawal

end QuoteKeeper
