import QuoteKeeper.Alert
import QuoteKeeper.Proofs.EngineSubmission
/-
  QuoteKeeper.Proofs.AlertThrottling — what the alert manager lets out, over any history of
  sends and resets, and what its channels hear.

  The throttle keeps, per key, only the time the key last went out. Over a history the rule
  is `Window.run`: a submission always goes out, and any other alert unless an alert of its
  group went out less than an interval before it, since the last reset; alerts held back do
  not count, and alerts let out count whatever the channels answer.
  - `replay_eq_run`: for an interval that is a duration (`0 ≤ interval ≤ Duration.maxValue`),
    the manager's decisions are the rule's over keys. The invariant `Tracks` says the throttle
    holds each key's latest time; times let out under one key only grow, so the latest is the
    nearest (`Tracks.holds_iff`).
  - `group_eq_of_key_eq`, `run_key_eq_group`: the key joins level, ARM, event and message with
    `|`, and tells alerts apart when no part holds a `|`; over such alerts the rule over keys
    is the rule over the four parts. `bar_in_arm_shares_window`: two alerts that differ only in
    where a `|` falls share one window.
  - `send_watched`, `runOps_watched`: over channels whose offers are recorded, a send that goes
    out offers the stamped alert to every channel in order and fails exactly when there is a
    channel and every one failed, with the failures joined in channel order.
  - `lookup_fields_stamped`: the stamp sets `arm` among the caller's fields and keeps the rest.
-/

namespace QuoteKeeper

/-! ## (1) The stamp -/

/-- Dropping the entries under one key leaves every other key's lookup as it was. -/
theorem lookup_filter_ne {β : Type} (key k : String) :
    ∀ l : List (String × β), (l.filter (·.1 != key)).lookup k = if k = key then none else l.lookup k
  | [] => by simp
  | (k', v) :: l => by
    have ih := lookup_filter_ne key k l
    by_cases hk' : k' = key
    · -- the entry goes
      subst hk'
      rw [List.filter_cons_of_neg (by simp), ih]
      by_cases hk : k = k'
      · simp [hk]
      · simp [hk, List.lookup_cons, beq_eq_false_iff_ne.mpr hk]
    · -- the entry stays
      rw [List.filter_cons_of_pos (by simpa using hk')]
      by_cases hk : k = k'
      · subst hk
        simp [hk']
      · simp [List.lookup_cons, beq_eq_false_iff_ne.mpr hk, ih]

namespace Alert

/-- The stamp in one piece: the time, and with an ARM the fields. -/
theorem stamped_eq (a : Alert) (now : Int) : a.stamped now =
    { a with timestamp := some (a.timestamp.getD now),
             fields := if a.arm = "" then a.fields
               else some ((a.fields.getD []).filter (·.1 != "arm") ++ [("arm", AlertValue.text a.arm)]) } := by
  unfold stamped
  by_cases h : a.arm = "" <;> simp [h]

@[simp] theorem key_stamped (a : Alert) (now : Int) : (a.stamped now).key = a.key := by
  rw [stamped_eq]
  rfl

@[simp] theorem event_stamped (a : Alert) (now : Int) : (a.stamped now).event = a.event := by
  rw [stamped_eq]

theorem timestamp_stamped (a : Alert) (now : Int) :
    (a.stamped now).timestamp = some (a.timestamp.getD now) := by
  rw [stamped_eq]

/-- With an ARM, the stamped fields read as the caller's with `arm` set to it. -/
theorem lookup_fields_stamped (a : Alert) (now : Int) (h : a.arm ≠ "") (k : String) :
    ((a.stamped now).fields.getD []).lookup k =
      if k = "arm" then some (.text a.arm) else (a.fields.getD []).lookup k := by
  rw [stamped_eq]
  by_cases hk : k = "arm"
  · simp [h, hk, List.lookup_append, lookup_filter_ne]
  · have hlast : [("arm", AlertValue.text a.arm)].lookup k = none := by simp [hk]
    simp [h, hk, hlast, List.lookup_append, lookup_filter_ne]

/-! ## (2) The key -/

/-- The four parts of the key, in order. -/
def group (a : Alert) : List String := [a.level, a.arm, a.event, a.message]

/-- No part of the key holds its separator. -/
def Separable (a : Alert) : Prop := ∀ s ∈ a.group, '|' ∉ s.toList

/-- Alerts that agree on the four parts share a key. -/
theorem key_eq_of_group_eq {a b : Alert} (h : a.group = b.group) : a.key = b.key := by
  simp only [key, group] at h ⊢
  rw [h]

/-- The key tells apart alerts whose parts hold no separator. -/
theorem group_eq_of_key_eq {a b : Alert} (ha : a.Separable) (hb : b.Separable) (h : a.key = b.key) :
    a.group = b.group := by
  -- the joined texts split back at the separator into the parts
  have hbar : "|".toList = ['|'] := rfl
  have hlist := congrArg String.toList h
  simp only [key, String.toList_intercalate, hbar] at hlist
  have hsplit := congrArg (List.splitOn '|') hlist
  rw [List.splitOn_intercalate _ (by simpa [Separable, group] using ha) (by simp),
    List.splitOn_intercalate _ (by simpa [Separable, group] using hb) (by simp)] at hsplit
  exact (List.map_inj_right fun _ _ => String.toList_injective).mp hsplit

end Alert

/-! ## (3) One decision of the throttle -/

/-- For an interval in the duration range, the saturated time since an instant falls short of it
exactly when the plain difference does. -/
theorem since_lt_iff {t u interval : Int} (hlo : 0 ≤ interval) (hhi : interval ≤ Duration.maxValue) :
    Instant.since t u < interval ↔ t - u < interval := by
  simp only [Instant.since, Duration.saturate, Duration.minValue, Duration.maxValue] at *
  omega

/-- A time not within a nonnegative interval of `u` is not before it. -/
theorem le_of_not_since_lt {t u interval : Int} (hlo : 0 ≤ interval)
    (h : ¬ Instant.since t u < interval) : u ≤ t := by
  simp only [Instant.since, Duration.saturate, Duration.minValue, Duration.maxValue] at h
  omega

namespace Throttle

/-- Whether the throttle holds `key` back at `now`. -/
def holds (t : Throttle) (key : String) (now : Int) : Bool :=
  match t.lastSent.lookup key with
  | some last => decide (Instant.since now last < t.interval)
  | none => false

/-- The throttle lets a key through, and notes it, unless it holds it back. -/
theorem allow_eq (t : Throttle) (key : String) (now : Int) :
    t.allow key now = if t.holds key now then (false, t) else (true, t.note key now) := by
  unfold allow holds
  cases h : t.lastSent.lookup key with
  | none => rfl
  | some last => by_cases hl : Instant.since now last < t.interval <;> simp [hl]

/-- After noting a key, the throttle holds `now` for it and what it held for every other key. -/
theorem lookup_note (t : Throttle) (key : String) (now : Int) (k : String) :
    (t.note key now).lastSent.lookup k = if k = key then some now else t.lastSent.lookup k := by
  by_cases hk : k = key
  · subst hk
    simp [note]
  · simp [note, List.lookup_cons, beq_eq_false_iff_ne.mpr hk, lookup_filter_ne, hk]

end Throttle

namespace AlertManager

/-- A call on the manager: a send at a clock reading, or a reset of the throttle. -/
inductive Op where
  | send (now : Int) (a : Alert)
  | reset

/-- Whether each send of a history goes out, and the manager after it. -/
def replay : AlertManager → List Op → List Bool × AlertManager
  | mgr, [] => ([], mgr)
  | mgr, .reset :: ops => replay mgr.resetThrottle ops
  | mgr, .send now a :: ops =>
    let d := mgr.letThrough now a
    let r := replay d.2 ops
    (d.1 :: r.1, r.2)

/-- The stamp changes neither the event nor the key, so not the decision. -/
theorem letThrough_stamped (mgr : AlertManager) (now : Int) (a : Alert) (t : Int) :
    mgr.letThrough now (a.stamped t) = mgr.letThrough now a := by
  simp [letThrough]

/-- One decision: a submission goes out untouched; any other alert goes out, and is noted,
unless the throttle holds its key back. -/
theorem letThrough_eq (mgr : AlertManager) (now : Int) (a : Alert) :
    mgr.letThrough now a =
      if a.event = eventSubmitted then (true, mgr)
      else if mgr.throttle.holds a.key now then (false, mgr)
      else (true, ⟨mgr.throttle.note a.key now⟩) := by
  unfold letThrough
  rw [Throttle.allow_eq]
  by_cases he : a.event = eventSubmitted <;> by_cases hh : mgr.throttle.holds a.key now <;> simp [he, hh]

end AlertManager

/-! ## (4) The rule over a history -/

namespace Window

open AlertManager

variable {G : Type} [DecidableEq G] (interval : Int) (group : Alert → G)

/-- The throttling rule over what went out since the last reset: a submission always goes out,
and any other alert when nothing of its group went out less than `interval` before `now`. -/
def lets (past : List (Alert × Int)) (now : Int) (a : Alert) : Bool :=
  a.event == eventSubmitted || !past.any fun p => decide (group p.1 = group a ∧ now - p.2 < interval)

/-- The rule over a history: whether each send goes out. A reset forgets the past, and an alert
that the rule lets through and that is no submission joins it. -/
def run : List (Alert × Int) → List Op → List Bool
  | _, [] => []
  | _, .reset :: ops => run [] ops
  | past, .send now a :: ops =>
    let ok := lets interval group past now a
    ok :: run (if ok && a.event != eventSubmitted then past ++ [(a, now)] else past) ops

end Window

/-! ## (5) The throttle follows the rule -/

namespace AlertManager

/-- What a throttle holds about what went out since the last reset: its interval, and for each
key the latest time an alert of that key went out, none when none did. -/
structure Tracks (interval : Int) (t : Throttle) (past : List (Alert × Int)) : Prop where
  interval_eq : t.interval = interval
  none_iff : ∀ k, t.lastSent.lookup k = none ↔ ∀ p ∈ past, p.1.key ≠ k
  latest : ∀ k last, t.lastSent.lookup k = some last →
    (∃ b, (b, last) ∈ past ∧ b.key = k) ∧ ∀ p ∈ past, p.1.key = k → p.2 ≤ last

namespace Tracks

variable {interval : Int} {t : Throttle} {past : List (Alert × Int)}

theorem start (interval : Int) : Tracks interval (AlertManager.new interval).throttle [] :=
  ⟨rfl, by simp [AlertManager.new], by simp [AlertManager.new]⟩

theorem clear (h : Tracks interval t past) : Tracks interval t.clear [] :=
  ⟨h.interval_eq, by simp [Throttle.clear], by simp [Throttle.clear]⟩

/-- Over a tracked past, the throttle holds a key back exactly when an alert of that key went
out less than an interval before. -/
theorem holds_iff (h : Tracks interval t past) (hlo : 0 ≤ interval)
    (hhi : interval ≤ Duration.maxValue) (key : String) (now : Int) :
    t.holds key now = past.any fun p => decide (p.1.key = key ∧ now - p.2 < interval) := by
  unfold Throttle.holds
  cases hl : t.lastSent.lookup key with
  | none =>
    have hnone := (h.none_iff key).mp hl
    simp only [Bool.false_eq, List.any_eq_false, decide_eq_true_eq, not_and]
    exact fun p hp hk => absurd hk (hnone p hp)
  | some last =>
    -- the latest time of the key is the nearest one
    obtain ⟨⟨b, hb, hbk⟩, hmax⟩ := h.latest key last hl
    rw [h.interval_eq, Bool.eq_iff_iff]
    simp only [decide_eq_true_eq, since_lt_iff hlo hhi, List.any_eq_true, Prod.exists]
    constructor
    · intro hlt
      exact ⟨b, last, hb, hbk, hlt⟩
    · rintro ⟨b', t', hb', hk', hlt⟩
      have := hmax (b', t') hb' hk'
      omega

/-- A key the throttle does not hold back at `now` went out at no time after `now`. -/
theorem before_of_not_holds (h : Tracks interval t past) (hlo : 0 ≤ interval) {key : String}
    {now : Int} (hfree : t.holds key now = false) : ∀ p ∈ past, p.1.key = key → p.2 ≤ now := by
  intro p hp hk
  cases hl : t.lastSent.lookup key with
  | none => exact absurd hk ((h.none_iff key).mp hl p hp)
  | some last =>
    have hpass : ¬ Instant.since now last < t.interval := by
      simpa [Throttle.holds, hl] using hfree
    have := le_of_not_since_lt (h.interval_eq ▸ hlo) hpass
    have := (h.latest key last hl).2 p hp hk
    omega

/-- After noting `a`'s key, a key has no time exactly when nothing of it went out. -/
theorem none_iff_note (h : Tracks interval t past) (a : Alert) (now : Int) (k : String) :
    (t.note a.key now).lastSent.lookup k = none ↔ ∀ p ∈ past ++ [(a, now)], p.1.key ≠ k := by
  rw [Throttle.lookup_note]
  by_cases hk : k = a.key
  · rw [if_pos hk]
    exact ⟨by simp, fun hall => absurd hk.symm (hall (a, now) List.mem_concat_self)⟩
  · rw [if_neg hk, h.none_iff k]
    refine ⟨fun hall p hp => ?_, fun hall p hp => hall p (List.mem_append_left _ hp)⟩
    rcases List.mem_append.mp hp with hp | hp
    · exact hall p hp
    · rw [List.mem_singleton.mp hp]
      exact Ne.symm hk

/-- After noting `a`'s key at a time no earlier than its others, that time is its latest, and
every other key keeps its own. -/
theorem latest_note (h : Tracks interval t past) {a : Alert} {now : Int}
    (hbefore : ∀ p ∈ past, p.1.key = a.key → p.2 ≤ now) (k : String) (last : Int) :
    (t.note a.key now).lastSent.lookup k = some last →
      (∃ b, (b, last) ∈ past ++ [(a, now)] ∧ b.key = k) ∧
        ∀ p ∈ past ++ [(a, now)], p.1.key = k → p.2 ≤ last := by
  rw [Throttle.lookup_note]
  by_cases hk : k = a.key
  · rw [if_pos hk, Option.some.injEq]
    rintro rfl
    refine ⟨⟨a, List.mem_concat_self, hk.symm⟩, fun p hp hpk => ?_⟩
    rcases List.mem_append.mp hp with hp | hp
    · exact hbefore p hp (hpk.trans hk)
    · obtain rfl := List.mem_singleton.mp hp
      exact Int.le_refl now
  · rw [if_neg hk]
    intro hl
    obtain ⟨⟨b, hb, hbk⟩, hmax⟩ := h.latest k last hl
    refine ⟨⟨b, List.mem_append_left _ hb, hbk⟩, fun p hp hpk => ?_⟩
    rcases List.mem_append.mp hp with hp | hp
    · exact hmax p hp hpk
    · rw [List.mem_singleton.mp hp] at hpk
      exact absurd hpk.symm hk

/-- Letting a key through at a time it is not held back at extends the tracked past. -/
theorem note (h : Tracks interval t past) (hlo : 0 ≤ interval) (a : Alert) (now : Int)
    (hfree : t.holds a.key now = false) :
    Tracks interval (t.note a.key now) (past ++ [(a, now)]) :=
  ⟨h.interval_eq, h.none_iff_note a now, h.latest_note (h.before_of_not_holds hlo hfree)⟩

end Tracks

section Replay

variable {interval : Int} (hlo : 0 ≤ interval) (hhi : interval ≤ Duration.maxValue)
include hlo hhi

/-- One send: the manager lets an alert through exactly when the rule over keys does, and keeps
tracking what went out. -/
theorem letThrough_tracks {mgr : AlertManager} {past : List (Alert × Int)}
    (h : Tracks interval mgr.throttle past) (now : Int) (a : Alert) :
    let ok := Window.lets interval Alert.key past now a
    (mgr.letThrough now a).1 = ok ∧
      Tracks interval (mgr.letThrough now a).2.throttle
        (if ok && a.event != eventSubmitted then past ++ [(a, now)] else past) := by
  intro ok
  have hholds := h.holds_iff hlo hhi a.key now
  rw [letThrough_eq]
  by_cases he : a.event = eventSubmitted
  · simp [ok, Window.lets, he, h]
  · have hlets : ok = !mgr.throttle.holds a.key now := by
      simp only [ok, Window.lets, hholds, beq_eq_false_iff_ne.mpr he, Bool.false_or]
    cases hh : mgr.throttle.holds a.key now with
    | false =>
      simp only [he, hh, if_false, hlets, Bool.not_false, Bool.true_and, bne_iff_ne, ne_eq,
        not_false_eq_true, if_true]
      exact ⟨rfl, h.note hlo a now hh⟩
    | true => simp [he, hh, hlets, h]

/-- Over any history, the manager's decisions are the rule's over keys, for an interval that
is a duration. -/
theorem replay_eq_run : ∀ (mgr : AlertManager) (past : List (Alert × Int)) (ops : List Op),
    Tracks interval mgr.throttle past → (mgr.replay ops).1 = Window.run interval Alert.key past ops
  | _, _, [], _ => rfl
  | mgr, _, .reset :: ops, h => replay_eq_run mgr.resetThrottle [] ops h.clear
  | mgr, past, .send now a :: ops, h => by
    obtain ⟨hok, htracks⟩ := letThrough_tracks hlo hhi h now a
    simp only [replay, Window.run, hok, List.cons.injEq, true_and]
    exact replay_eq_run _ _ ops htracks

end Replay

end AlertManager

namespace Window

variable (interval : Int)

theorem lets_key_eq_group {past : List (Alert × Int)} {now : Int} {a : Alert}
    (hpast : ∀ p ∈ past, p.1.Separable) (ha : a.Separable) :
    lets interval Alert.key past now a = lets interval Alert.group past now a := by
  have hsame : ∀ p ∈ past, p.1.key = a.key ↔ p.1.group = a.group := fun p hp =>
    ⟨Alert.group_eq_of_key_eq (hpast p hp) ha, Alert.key_eq_of_group_eq⟩
  have hany : (past.any fun p => decide (p.1.key = a.key ∧ now - p.2 < interval)) =
      past.any fun p => decide (p.1.group = a.group ∧ now - p.2 < interval) := by
    rw [Bool.eq_iff_iff]
    simp only [List.any_eq_true, decide_eq_true_eq]
    exact exists_congr fun p => and_congr_right fun hp => by rw [hsame p hp]
  simp only [lets, hany]

/-- Over a history whose alerts all have separable keys, the rule over keys is the rule over
the four parts. -/
theorem run_key_eq_group : ∀ (past : List (Alert × Int)) (ops : List AlertManager.Op),
    (∀ p ∈ past, p.1.Separable) → (∀ now a, AlertManager.Op.send now a ∈ ops → a.Separable) →
    run interval Alert.key past ops = run interval Alert.group past ops
  | _, [], _, _ => rfl
  | _, .reset :: ops, _, hops =>
    run_key_eq_group [] ops (by simp) fun now a h => hops now a (List.mem_cons_of_mem _ h)
  | past, .send now a :: ops, hpast, hops => by
    have ha := hops now a List.mem_cons_self
    have hnext : ∀ (c : Bool), ∀ p ∈ (if c then past ++ [(a, now)] else past), p.1.Separable := by
      intro c p hp
      cases c
      · exact hpast p hp
      · rcases List.mem_append.mp hp with hp | hp
        · exact hpast p hp
        · rw [List.mem_singleton.mp hp]
          exact ha
    simp only [run, lets_key_eq_group interval hpast ha, List.cons.injEq, true_and]
    exact run_key_eq_group _ ops (hnext _) fun now a h => hops now a (List.mem_cons_of_mem _ h)

end Window

/-! ## (6) What the channels hear -/

namespace AlertManager

section Offer

variable {m : Type → Type} [Monad m] [LawfulMonad m]

/-- The failure a channel's answer stands for, named after the channel. -/
def failureOf : String × Outcome Unit → Option Failure
  | (_, .ok _) => none
  | (name, .error e) => some (e.wrap ("channel " ++ name))

/-- What each channel answers to an alert, in channel order, each asked after the ones before. -/
def answers (a : Alert) : List (AlertChannel m) → m (List (String × Outcome Unit))
  | [] => pure []
  | ch :: chs => do
    let r ← ch.send a
    let rest ← answers a chs
    pure ((ch.name, r) :: rest)

/-- Offering collects the failures of the answers, in channel order. -/
theorem offer_eq (a : Alert) :
    ∀ chs : List (AlertChannel m), offer a chs = (fun rs => rs.filterMap failureOf) <$> answers a chs
  | [] => by simp [offer, answers]
  | ch :: chs => by
    simp only [offer, answers, offer_eq a chs, map_bind, bind_map_left, map_pure]
    refine bind_congr fun r => bind_congr fun rs => ?_
    cases r <;> simp [failureOf, List.filterMap_cons]

end Offer

/-- Every answer is a failure, and there is at least one. -/
theorem all_failed_iff (rs : List (String × Outcome Unit)) :
    (!(rs.filterMap failureOf).isEmpty && (rs.filterMap failureOf).length == rs.length) = true ↔
      rs ≠ [] ∧ ∀ r ∈ rs, (failureOf r).isSome := by
  simp only [Bool.and_eq_true, Bool.not_eq_true', List.isEmpty_eq_false_iff, beq_iff_eq,
    List.filterMap_length_eq_length]
  constructor
  · rintro ⟨hne, hall⟩
    refine ⟨fun h => hne (by simp [h]), fun r hr => by simpa using hall r hr⟩
  · rintro ⟨hne, hall⟩
    refine ⟨fun h => ?_, fun r hr => by simpa using hall r hr⟩
    obtain ⟨r, hr⟩ := List.exists_mem_of_ne_nil rs hne
    obtain ⟨f, hf⟩ := Option.isSome_iff_exists.mp (hall r hr)
    simpa [h] using List.mem_filterMap.mpr ⟨r, hr, hf⟩

end AlertManager

namespace AlertChannel

variable {σ : Type}

/-- A channel whose offers are recorded: each alert it is offered, under its name, after what
it does. -/
def watched (ch : AlertChannel (StateM σ)) : AlertChannel (StateM (σ × List (String × Alert))) :=
  ⟨ch.name, fun a s => (((ch.send a).run s.1).1, ((ch.send a).run s.1).2, s.2 ++ [(ch.name, a)])⟩

@[simp] theorem name_watched (ch : AlertChannel (StateM σ)) : ch.watched.name = ch.name := rfl

@[simp] theorem run_send_watched (ch : AlertChannel (StateM σ)) (a : Alert) (w : σ)
    (J : List (String × Alert)) :
    (ch.watched.send a).run (w, J) = (((ch.send a).run w).1, ((ch.send a).run w).2, J ++ [(ch.name, a)]) :=
  rfl

end AlertChannel

@[simp 1100] theorem run_pure_stateM {τ α : Type} (a : α) (s : τ) : (pure a : StateM τ α).run s = (a, s) :=
  rfl

theorem run_map_stateM {τ α β : Type} (f : α → β) (x : StateM τ α) (s : τ) :
    (f <$> x).run s = (f (x.run s).1, (x.run s).2) :=
  rfl

namespace AlertManager

section Watched

variable {σ : Type}

/-- One answer per channel. -/
theorem answers_length (a : Alert) :
    ∀ (chs : List (AlertChannel (StateM σ))) (w : σ), ((answers a chs).run w).1.length = chs.length
  | [], _ => rfl
  | ch :: chs, w => by
    simp only [answers, run_bind, run_pure_stateM, List.length_cons, answers_length a chs]

/-- Over recorded channels, every channel is offered the alert, in order, and answers as it
would. -/
theorem answers_watched (a : Alert) :
    ∀ (chs : List (AlertChannel (StateM σ))) (w : σ) (J : List (String × Alert)),
      (answers a (chs.map AlertChannel.watched)).run (w, J) =
        (((answers a chs).run w).1, ((answers a chs).run w).2, J ++ chs.map fun ch => (ch.name, a))
  | [], _, _ => by simp [answers]
  | ch :: chs, w, J => by
    simp only [List.map_cons, answers, run_bind, AlertChannel.run_send_watched,
      AlertChannel.name_watched, answers_watched a chs, run_pure_stateM, List.append_assoc,
      List.singleton_append]

/-- Over recorded channels, the failures are those of the answers, and every channel is offered
the alert. -/
theorem offer_watched (a : Alert) (chs : List (AlertChannel (StateM σ))) (w : σ)
    (J : List (String × Alert)) :
    (offer a (chs.map AlertChannel.watched)).run (w, J) =
      ((((answers a chs).run w).1.filterMap failureOf), ((answers a chs).run w).2,
        J ++ chs.map fun ch => (ch.name, a)) := by
  rw [offer_eq, run_map_stateM, answers_watched]

/-- One send over recorded channels: when the manager lets the alert through, every channel is
offered it as stamped, in order, and the send fails exactly when there is a channel and every
one failed, with their failures joined in channel order; otherwise no channel hears of it. -/
theorem send_watched (mgr : AlertManager) (chs : List (AlertChannel (StateM σ))) (now : Int)
    (a : Alert) (w : σ) (J : List (String × Alert)) :
    let sent := a.stamped now
    let ans := (answers sent chs).run w
    (mgr.send (chs.map AlertChannel.watched) now a).run (w, J) =
      if (mgr.letThrough now a).1 then
        ((if chs ≠ [] ∧ ∀ r ∈ ans.1, (failureOf r).isSome
            then .error (Failure.join (ans.1.filterMap failureOf)) else .ok (),
          (mgr.letThrough now a).2), ans.2, J ++ chs.map fun ch => (ch.name, sent))
      else ((.ok (), (mgr.letThrough now a).2), w, J) := by
  intro sent ans
  dsimp only [sent, ans]
  have hlen := answers_length (a.stamped now) chs w
  unfold send
  dsimp only
  rw [letThrough_stamped]
  rcases hd : mgr.letThrough now a with ⟨ok, mgr'⟩
  cases ok with
  | false => rfl
  | true =>
    simp only [Bool.not_true, Bool.false_eq_true, if_false, if_true, run_bind, offer_watched,
      List.length_map]
    have hchs : chs ≠ [] ↔ ((answers (a.stamped now) chs).run w).1 ≠ [] := by
      simp only [ne_eq, ← List.length_eq_zero_iff, hlen]
    have hfailed := all_failed_iff ((answers (a.stamped now) chs).run w).1
    rw [← hlen]
    split
    · rename_i h
      rw [if_pos ⟨hchs.mpr (hfailed.mp h).1, (hfailed.mp h).2⟩]
      rfl
    · rename_i h
      rw [if_neg fun hall => h (hfailed.mpr ⟨hchs.mp hall.1, hall.2⟩)]
      rfl

/-- The manager and the journal after one send over recorded channels. -/
theorem send_watched_after (mgr : AlertManager) (chs : List (AlertChannel (StateM σ))) (now : Int)
    (a : Alert) (w : σ) (J : List (String × Alert)) :
    let out := (mgr.send (chs.map AlertChannel.watched) now a).run (w, J)
    out.1.2 = (mgr.letThrough now a).2 ∧
      out.2.2 = J ++ if (mgr.letThrough now a).1 then chs.map fun ch => (ch.name, a.stamped now) else [] := by
  intro out
  simp only [out, send_watched]
  cases (mgr.letThrough now a).1 <;> simp

end Watched

section Run

variable {m : Type → Type} [Monad m]

/-- Sends and resets one after another, with each send's outcome. -/
def runOps (chs : List (AlertChannel m)) : AlertManager → List Op → m (List (Outcome Unit) × AlertManager)
  | mgr, [] => pure ([], mgr)
  | mgr, .reset :: ops => runOps chs mgr.resetThrottle ops
  | mgr, .send now a :: ops => do
    let r ← mgr.send chs now a
    let rest ← runOps chs r.2 ops
    pure (r.1 :: rest.1, rest.2)

/-- What the channels are offered over a history, given whether each send goes out: each
channel in turn, the alert as stamped at its send. -/
def offered (chs : List (AlertChannel m)) : List Op → List Bool → List (String × Alert)
  | .send now a :: ops, ok :: oks =>
    (if ok then chs.map fun ch => (ch.name, a.stamped now) else []) ++ offered chs ops oks
  | .reset :: ops, oks => offered chs ops oks
  | _, _ => []

end Run

/-- Over any history and recorded channels, the channels are offered exactly the alerts the
manager lets through, and the manager ends as its decisions leave it. -/
theorem runOps_watched {σ : Type} (chs : List (AlertChannel (StateM σ))) :
    ∀ (mgr : AlertManager) (ops : List Op) (s : σ × List (String × Alert)),
      let out := (runOps (chs.map AlertChannel.watched) mgr ops).run s
      out.1.2 = (mgr.replay ops).2 ∧ out.2.2 = s.2 ++ offered chs ops (mgr.replay ops).1
  | mgr, [], s => by simp [runOps, replay, offered]
  | mgr, .reset :: ops, s => by
    simp only [runOps, replay, offered]
    exact runOps_watched chs mgr.resetThrottle ops s
  | mgr, .send now a :: ops, (w, J) => by
    -- the send, then the rest of the history from where it leaves manager and journal
    obtain ⟨hmgr, hjournal⟩ := send_watched_after mgr chs now a w J
    have hrest := runOps_watched chs
      ((mgr.send (chs.map AlertChannel.watched) now a).run (w, J)).1.2 ops
      ((mgr.send (chs.map AlertChannel.watched) now a).run (w, J)).2
    rw [hmgr, hjournal] at hrest
    simp only [runOps, run_bind, run_pure_stateM, hmgr]
    refine ⟨hrest.1, ?_⟩
    rw [hrest.2]
    simp [replay, offered]

end AlertManager

/-! ## (7) Alerts over any history -/

/-- Two alerts that differ in level and ARM but join to one key: the second is held back by the
first, where the rule over the four parts lets both out. -/
theorem bar_in_arm_shares_window :
    let first : Alert := ⟨"INFO", "e", "a|b", "m", none, none⟩
    let second : Alert := ⟨"INFO|a", "e", "b", "m", none, none⟩
    let ops := [AlertManager.Op.send 1750000000000000000 first, .send 1750000000000000000 second]
    first.group ≠ second.group ∧ first.key = second.key ∧
      ((AlertManager.new 60000000000).replay ops).1 = [true, false] ∧
      Window.run 60000000000 Alert.group [] ops = [true, true] := by
  decide

/-- Alerts over any history of sends and resets, on recorded channels.

The manager lets out a submission always, and any other alert when no alert of the same key went
out less than an interval before it since the last reset, for an interval that is a duration;
alerts it holds back do not count, and alerts let out count whatever the channels answer. The
key tells apart alerts whose parts hold no `|`, and over such alerts the rule is the one over
level, ARM, event and message. The channels are offered exactly the alerts let out, each as
stamped, channel after channel; one send fails exactly when there is a channel and every one
failed, with their failures joined in channel order; the stamp sets a time and, with an ARM,
sets `arm` among the caller's fields and keeps the others. -/
theorem alert_throttling {σ : Type} (interval : Int) (chs : List (AlertChannel (StateM σ)))
    (ops : List AlertManager.Op) (w : σ) :
    let mgr := AlertManager.new interval
    let decided := (mgr.replay ops).1
    let out := (AlertManager.runOps (chs.map AlertChannel.watched) mgr ops).run (w, [])
    (0 ≤ interval → interval ≤ Duration.maxValue →
        decided = Window.run interval Alert.key [] ops ∧
        ((∀ now a, .send now a ∈ ops → a.Separable) →
          decided = Window.run interval Alert.group [] ops)) ∧
    out.1.2 = (mgr.replay ops).2 ∧ out.2.2 = AlertManager.offered chs ops decided ∧
    (∀ (m : AlertManager) (now : Int) (a : Alert) (v : σ) (J : List (String × Alert)),
      let ans := (AlertManager.answers (a.stamped now) chs).run v
      (m.send (chs.map AlertChannel.watched) now a).run (v, J) =
        if (m.letThrough now a).1 then
          ((if chs ≠ [] ∧ ∀ r ∈ ans.1, (AlertManager.failureOf r).isSome
              then .error (Failure.join (ans.1.filterMap AlertManager.failureOf)) else .ok (),
            (m.letThrough now a).2), ans.2, J ++ chs.map fun ch => (ch.name, a.stamped now))
        else ((.ok (), (m.letThrough now a).2), v, J)) ∧
    (∀ a b : Alert, a.Separable → b.Separable → a.key = b.key → a.group = b.group) ∧
    (∀ (a : Alert) (now : Int), (a.stamped now).timestamp = some (a.timestamp.getD now) ∧
      (a.arm ≠ "" → ∀ k, ((a.stamped now).fields.getD []).lookup k =
        if k = "arm" then some (.text a.arm) else (a.fields.getD []).lookup k)) := by
  intro mgr decided out
  obtain ⟨hmgr, hjournal⟩ := AlertManager.runOps_watched chs mgr ops (w, [])
  refine ⟨fun hlo hhi => ?_, hmgr, by simpa using hjournal,
    fun m now a v J => AlertManager.send_watched m chs now a v J,
    fun a b ha hb => Alert.group_eq_of_key_eq ha hb,
    fun a now => ⟨Alert.timestamp_stamped a now, Alert.lookup_fields_stamped a now⟩⟩
  -- the decisions follow the rule over keys, tracked from the empty throttle
  have hkey : decided = Window.run interval Alert.key [] ops :=
    AlertManager.replay_eq_run hlo hhi mgr [] ops (AlertManager.Tracks.start interval)
  exact ⟨hkey, fun hsep => hkey.trans (Window.run_key_eq_group interval [] ops (by simp) hsep)⟩

end QuoteKeeper
