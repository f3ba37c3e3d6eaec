import QuoteKeeper.Web.Client
import QuoteKeeper.Proofs.EngineSubmission
import Mathlib.Logic.Function.Iterate
/-
  QuoteKeeper.Proofs.ClientRetry — one call of a JSON client against a server that answers
  from a script.

  The world is an `Exchange`: how many requests the server has answered and what the client
  told its observer. The server answers request number `n` (from 0) with the status and body
  `replies n`, whatever was asked (`Exchange.scripted`); the context never ends, the limiter
  never holds a call back, and each draw below a bound `b` is `draw b`. Every adapter's client
  is `JsonClient.new` over its settings completed by `ClientSettings.withDefaults`, and every
  call it makes is one `send`.

  A reply means what `Http.reply` says: a status outside 200–299 is the status failure, which
  carries the status and, for 400, 404 and 422, the unavailable-quote condition; otherwise the
  body, cut at 4 MiB, is bound once.

  The pause before call `k` (from 1) is the first pause grown `k - 1` times
  (`RetryPolicy.pauseBefore`); under jitter the wait over it can be made only when it is
  positive (`RetryPolicy.CanWait`), the draw below it panicking otherwise.

  Proved:
  (1) `before_quiet`, `loop_run`: the retry loop over calls that answer in turn from a
      sequence of outcomes, where telling, waiting and drawing change nothing, is
      `Retry.spec` read off that sequence; `spec_of_stop`, `spec_of_none`: when every wait it
      needs can be made, it stops at the first outcome it does not retry, having made the calls
      up to and including that one, or makes every call of its budget and answers that the
      retries ran out.
  (2) `stops_reply`: the client tries a reply again exactly when its status is 429.
  (3) `send_on_script`: with effective retry count `R` (2 when neither a count nor a first pause
      is set) and every wait of the budget possible, a call whose address is a request sends
      `min k (R + 1)` requests, `k` the position of the first reply that is not a 429; if the
      first `R + 1` replies are all 429 it fails rate limited with the retries exhausted;
      otherwise it answers what that reply means, and the observer hears the outcome once.
      `send_of_unbuildable`: the address has to be a request; one that is not sends nothing.
      `jittered_client_panics_after_two_requests`: a wait that cannot be made ends the call
      with the panic, before the budget is spent.
-/

namespace QuoteKeeper

/-- Outcomes compare by their results, so a fixed run can be checked by evaluation. -/
instance {α : Type} [DecidableEq α] : DecidableEq (Outcome α) := fun a b =>
  match a, b with
  | .ok x, .ok y => decidable_of_iff (x = y) (by simp)
  | .error e, .error f => decidable_of_iff (e = f) (by simp)
  | .ok _, .error _ => isFalse (by simp)
  | .error _, .ok _ => isFalse (by simp)

namespace Http

variable {α : Type}

/-- What a reply gives a client named `name`: a status outside 200–299 fails, else the body,
each read up to 4 MiB. -/
def body (name : String) (r : Nat × String) : Outcome String :=
  if r.1 < 200 ∨ r.1 ≥ 300 then .error (statusFailure name r.1 (readBody r.2)) else .ok (readBody r.2)

/-- A body bound by `decode`; a body that does not bind fails, named after the client. -/
def decoded (name : String) (decode : String → Except String α) (text : String) : Outcome α :=
  match decode text with
  | .ok v => .ok v
  | .error e => .error (.plain (name ++ ": decode response: " ++ e))

/-- What one reply means to a client named `name` that binds bodies with `decode`. -/
def reply (name : String) (decode : String → Except String α) (r : Nat × String) : Outcome α :=
  (body name r).bind (decoded name decode)

theorem statusFailure_conditions (name : String) (code : Nat) (text : String) :
    (statusFailure name code text).conditions =
      .httpStatus code :: if Failure.noRouteStatus code then [.quoteUnavailable] else [] := rfl

theorem statusFailure_isPanic (name : String) (code : Nat) (text : String) :
    (statusFailure name code text).isPanic = false := rfl

/-- A status failure carries a status exactly when it is its own. -/
theorem statusFailure_has_status (name : String) (code c : Nat) (text : String) :
    (statusFailure name code text).has (.httpStatus c) = decide (c = code) := by
  by_cases hc : c = code
  · simp [Failure.has, statusFailure_conditions, hc]
  · simp [Failure.has, statusFailure_conditions, hc]

/-- A status failure that is no route carries the unavailable quote and is classed so. -/
theorem statusFailure_noRoute {name : String} {code : Nat} (text : String) (h : Failure.noRouteStatus code = true) :
    (statusFailure name code text).has .quoteUnavailable = true ∧
      (statusFailure name code text).runKind = "quote_unavailable" := by
  have hq : (statusFailure name code text).has .quoteUnavailable = true := by
    simp [Failure.has, statusFailure_conditions, h]
  have hr : (statusFailure name code text).has .rateLimited = false := by
    simp [Failure.has, statusFailure_conditions, h]
  exact ⟨hq, by simp [Failure.runKind, hr, hq]⟩

theorem reply_of_status {name : String} {decode : String → Except String α} {r : Nat × String}
    (hs : r.1 < 200 ∨ r.1 ≥ 300) : reply name decode r = .error (statusFailure name r.1 (readBody r.2)) := by
  simp [reply, body, hs, Except.bind]

theorem reply_of_success {name : String} {decode : String → Except String α} {r : Nat × String}
    (hs : ¬(r.1 < 200 ∨ r.1 ≥ 300)) : reply name decode r = decoded name decode (readBody r.2) := by
  simp only [reply, body, hs, if_false]
  rfl

end Http

/-- A server answering from a script, and what a client told its observer. -/
structure Exchange where
  sent : Nat
  observed : List (String × Outcome Unit)

namespace Exchange

/-- The server that answers request number `n` with `replies n`. -/
def scripted (replies : Nat → Nat × String) : Transport (StateM Exchange) := fun _ x =>
  (.response (replies x.sent).1 (replies x.sent).2, { x with sent := x.sent + 1 })

/-- The observer that keeps what it is told. -/
def observer (name : String) (o : Outcome Unit) : StateM Exchange Unit := fun x =>
  ((), { x with observed := x.observed ++ [(name, o)] })

/-- A context that never ends, a limiter that never holds a call back, and `draw b` drawn
below `b`. -/
def waits (draw : Int → Int) : ClientWaits (StateM Exchange) :=
  ⟨pure none, fun _ => pure none, fun b => pure (draw b)⟩

@[simp] theorem scripted_run (replies : Nat → Nat × String) (req : HttpRequest) (x : Exchange) :
    (scripted replies req).run x =
      (.response (replies x.sent).1 (replies x.sent).2, { x with sent := x.sent + 1 }) := rfl

@[simp] theorem observer_run (name : String) (o : Outcome Unit) (x : Exchange) :
    (observer name o).run x = ((), { x with observed := x.observed ++ [(name, o)] }) := rfl

end Exchange

/-! ## (1) The retry loop over a sequence of outcomes -/

namespace RetryPolicy

/-- The pause before call `k` (from 1): the first pause, grown `k - 1` times. -/
def pauseBefore (p : RetryPolicy) (k : Nat) : Int := p.grow^[k - 1] p.initialBackoff

theorem pauseBefore_succ (p : RetryPolicy) {k : Nat} (hk : 1 ≤ k) :
    p.pauseBefore (k + 1) = p.grow (p.pauseBefore k) := by
  obtain ⟨i, rfl⟩ : ∃ i, k = i + 1 := ⟨k - 1, by omega⟩
  simp only [pauseBefore, Nat.add_sub_cancel, Function.iterate_succ_apply']

/-- Whether the wait over pause `b` can be made: under jitter the draw below a pause that is
not positive panics. -/
def Drawable (p : RetryPolicy) (b : Int) : Prop := p.jitter = true → 0 < b

instance (p : RetryPolicy) (b : Int) : Decidable (p.Drawable b) := inferInstanceAs (Decidable (_ → _))

/-- Whether the wait before call `k` (from 1) can be made. -/
def CanWait (p : RetryPolicy) (k : Nat) : Prop := p.Drawable (p.pauseBefore k)

instance (p : RetryPolicy) (k : Nat) : Decidable (p.CanWait k) := inferInstanceAs (Decidable (p.Drawable _))

theorem canWait_of_jitter_off {p : RetryPolicy} (h : p.jitter = false) (k : Nat) : p.CanWait k := by
  simp [CanWait, Drawable, h]

/-- The wait over pause `b` when the draw below it is `d`. -/
def jittered (p : RetryPolicy) (b d : Int) : Int := if p.jitter then (Int64.ofInt (b + d)).toInt else b

/-- A wait in a state monad whose draw leaves the state as it is: the jittered pause, or the
panic of a draw below a pause that is not positive. -/
theorem wait_run {σ : Type} (p : RetryPolicy) (draw : Int → StateM σ Int) (b : Int) (x : σ)
    (hdraw : ((draw b).run x).2 = x) :
    (p.wait draw b).run x = (if p.Drawable b then .ok (p.jittered b ((draw b).run x).1) else .error badDraw, x) := by
  unfold wait Drawable jittered
  by_cases hj : p.jitter = true
  · by_cases hb : b ≤ 0
    · simp only [hj, hb, if_true]
      simp only [true_implies, if_neg (Int.not_lt.mpr hb)]
      rfl
    · simp only [hj, hb, if_true, if_false, true_implies, if_pos (Int.lt_of_not_ge hb), run_bind]
      rw [hdraw]
      rfl
  · simp only [hj, if_false, Bool.false_eq_true, false_implies, if_true]
    rfl

/-- What comes before a call when telling, waiting and drawing change nothing and no wait is
ended: the grown pause, or the panic of a draw below a pause that is not positive. -/
def quietBefore (p : RetryPolicy) (b : Int) : Option Failure → Outcome Int
  | none => .ok b
  | some _ => if p.Drawable b then .ok (p.grow b) else .error badDraw

end RetryPolicy

namespace Retry

variable {α : Type}

/-- Whether the loop ends on outcome `o`: a success, a panic, or a failure it does not retry. -/
def stops (retryable : Failure → Bool) : Outcome α → Bool
  | .ok _ => true
  | .error e => e.isPanic || !retryable e

theorem error_of_not_stops {retryable : Failure → Bool} {o : Outcome α} (h : stops retryable o = false) :
    ∃ e, o = .error e ∧ (e.isPanic || !retryable e) = false := by
  cases o with
  | ok v => cases h
  | error e => exact ⟨e, rfl, h⟩

/-- Of the `left` outcomes from number `j` on, the first on which the loop ends. -/
def firstStop (stop : Nat → Bool) : Nat → Nat → Option Nat
  | _, 0 => none
  | j, left + 1 => if stop j then some j else firstStop stop (j + 1) left

section FirstStop

variable {stop : Nat → Bool}

theorem firstStop_of_first {k : Nat} (hk : stop k = true) :
    ∀ {left j : Nat}, j ≤ k → k < j + left → (∀ i, j ≤ i → i < k → stop i = false) →
      firstStop stop j left = some k
  | 0, _, hjk, hkl, _ => by omega
  | left + 1, j, hjk, hkl, hbefore => by
    unfold firstStop
    by_cases hj : j = k
    · subst hj
      simp [hk]
    · -- outcome `j` is retried, and `k` is still ahead
      have hsj : stop j = false := hbefore j (Nat.le_refl j) (by omega)
      simp only [hsj]
      exact firstStop_of_first hk (by omega) (by omega) fun i hi hik => hbefore i (by omega) hik

theorem firstStop_none : ∀ {left j : Nat}, (∀ i, j ≤ i → i < j + left → stop i = false) →
    firstStop stop j left = none
  | 0, _, _ => rfl
  | left + 1, j, h => by
    unfold firstStop
    simp only [h j (Nat.le_refl j) (by omega)]
    exact firstStop_none fun i hi hil => h i (by omega) (by omega)

theorem firstStop_eq_some : ∀ {left j i : Nat}, firstStop stop j left = some i →
    j ≤ i ∧ i < j + left ∧ stop i = true ∧ ∀ i', j ≤ i' → i' < i → stop i' = false
  | 0, _, _, h => by cases h
  | left + 1, j, i, h => by
    unfold firstStop at h
    by_cases hj : stop j = true
    · simp only [hj, if_true, Option.some.injEq] at h
      subst h
      exact ⟨Nat.le_refl _, by omega, hj, fun i' h₁ h₂ => by omega⟩
    · simp only [hj, Bool.false_eq_true, if_false] at h
      obtain ⟨h₁, h₂, h₃, h₄⟩ := firstStop_eq_some h
      refine ⟨by omega, by omega, h₃, fun i' hi₁ hi₂ => ?_⟩
      by_cases he : i' = j
      · subst he
        simpa using hj
      · exact h₄ i' (by omega) hi₂

theorem firstStop_eq_none : ∀ {left j : Nat}, firstStop stop j left = none →
    ∀ i, j ≤ i → i < j + left → stop i = false
  | 0, _, _, _, h₁, h₂ => by omega
  | left + 1, j, h, i, h₁, h₂ => by
    unfold firstStop at h
    by_cases hj : stop j = true
    · simp [hj] at h
    · simp only [hj, Bool.false_eq_true, if_false] at h
      by_cases he : i = j
      · subst he
        simpa using hj
      · exact firstStop_eq_none h i (by omega) (by omega)

end FirstStop

variable (p : RetryPolicy) (retryable : Failure → Bool) (outs : Nat → Outcome α)

/-- Where the loop stands between rounds, `j` calls made: with nothing to retry it holds the
pause before call `j + 1`; with a failure to retry, at `j ≥ 1`, the pause before call `j`. -/
def Poised (j : Nat) (b : Int) : Option Failure → Prop
  | none => b = p.pauseBefore (j + 1)
  | some _ => 1 ≤ j ∧ b = p.pauseBefore j

/-- From a poised loop whose wait before call `j` can be made, the call follows with the pause
before call `j + 1`. -/
theorem quietBefore_poised {j : Nat} {b : Int} {last : Option Failure} (h : Poised p j b last)
    (hw : 1 ≤ j → p.CanWait j) : p.quietBefore b last = .ok (p.pauseBefore (j + 1)) := by
  cases last with
  | none => exact congrArg Except.ok h
  | some f =>
    obtain ⟨hj, rfl⟩ := h
    have hd : p.Drawable (p.pauseBefore j) := hw hj
    simp only [RetryPolicy.quietBefore, if_pos hd, RetryPolicy.pauseBefore_succ p hj]

/-- The loop read off a sequence of outcomes: from outcome number `j`, with `left` calls to
make and pause `b`, what it answers and how many outcomes it has then used. -/
def spec : Nat → Nat → Int → Option Failure → Outcome α × Nat
  | j, 0, _, last => (.error (p.exhausted last), j)
  | j, left + 1, b, last =>
    match p.quietBefore b last with
    | .error e => (.error e, j)
    | .ok b =>
      match outs j with
      | .ok v => (.ok v, j + 1)
      | .error e => if e.isPanic || !retryable e then (.error e, j + 1) else spec (j + 1) left b (some e)

/-- Every wait up to call `i` possible: the loop ends on the first outcome it does not retry,
number `i`, having used those up to it. -/
theorem spec_of_stop : ∀ {left j i : Nat} {b : Int} {last : Option Failure}, Poised p j b last →
    (∀ k, 1 ≤ k → k ≤ i → p.CanWait k) →
    firstStop (fun i => stops retryable (outs i)) j left = some i → spec p retryable outs j left b last = (outs i, i + 1)
  | 0, _, _, _, _, _, _, h => by cases h
  | left + 1, j, i, b, last, hp, hw, h => by
    have hji : j ≤ i := (firstStop_eq_some h).1
    simp only [spec, quietBefore_poised p hp fun hj => hw j hj hji]
    simp only [firstStop] at h
    by_cases hs : stops retryable (outs j) = true
    · simp only [hs, if_true, Option.some.injEq] at h
      subst h
      cases ho : outs j with
      | ok v => rfl
      | error e =>
        simp only [stops, ho] at hs
        simp [hs]
    · obtain ⟨e, ho, he⟩ := error_of_not_stops (Bool.of_not_eq_true hs)
      simp only [hs, if_false, Bool.false_eq_true] at h
      simp only [ho, he, if_false, Bool.false_eq_true]
      exact spec_of_stop ⟨by omega, rfl⟩ hw h

/-- Every wait of the budget possible and every outcome retried: the loop uses them all and
answers that the retries ran out. -/
theorem spec_of_none : ∀ {left j : Nat} {b : Int} {last : Option Failure}, Poised p j b last →
    (∀ k, 1 ≤ k → k < j + left → p.CanWait k) →
    firstStop (fun i => stops retryable (outs i)) j left = none →
      ∃ l, spec p retryable outs j left b last = (.error (p.exhausted l), j + left)
  | 0, _, _, last, _, _, _ => ⟨last, rfl⟩
  | left + 1, j, b, last, hp, hw, h => by
    simp only [spec, quietBefore_poised p hp fun hj => hw j hj (by omega)]
    simp only [firstStop] at h
    by_cases hs : stops retryable (outs j) = true
    · simp [hs] at h
    · obtain ⟨e, ho, he⟩ := error_of_not_stops (Bool.of_not_eq_true hs)
      simp only [hs, if_false, Bool.false_eq_true] at h
      have hp' : Poised p (j + 1) (p.pauseBefore (j + 1)) (some e) := ⟨by omega, rfl⟩
      obtain ⟨l, hl⟩ := spec_of_none hp' (fun k h₁ h₂ => hw k h₁ (by omega)) h
      refine ⟨l, ?_⟩
      simp only [ho, he, if_false, Bool.false_eq_true, hl]
      simp [Nat.add_assoc, Nat.add_comm 1 left]

section Quiet

variable {σ : Type} {onRetry : Nat → Failure → Int → StateM σ Unit} {pause : Int → StateM σ (Option Failure)}
  {draw : Int → StateM σ Int}

/-- Telling, waiting and drawing leave the state as it is, and no wait is ended: what comes
before a call is `quietBefore`. -/
theorem before_quiet (hquiet : ∀ a e w x, (onRetry a e w).run x = ((), x))
    (hpause : ∀ w x, (pause w).run x = (none, x)) (hdraw : ∀ b x, ((draw b).run x).2 = x)
    (a : Nat) (b : Int) (last : Option Failure) (x : σ) :
    (before p onRetry pause draw a b last).run x = (p.quietBefore b last, x) := by
  cases last with
  | none => rfl
  | some f =>
    simp only [before, run_bind, RetryPolicy.wait_run p draw b x (hdraw b x)]
    by_cases hd : p.Drawable b
    · simp only [hd, if_true, run_bind, hquiet, hpause, RetryPolicy.quietBefore]
      rfl
    · simp only [hd, if_false, RetryPolicy.quietBefore]
      rfl

end Quiet

variable {onRetry : Nat → Failure → Int → StateM Exchange Unit} {pause : Int → StateM Exchange (Option Failure)}
  {draw : Int → StateM Exchange Int} {call : StateM Exchange (Outcome α)}

/-- Each call answers the next outcome of `outs` and counts one request, and telling, waiting
and drawing change nothing: then the loop is `spec`, with the requests counted. -/
theorem loop_run (hcall : ∀ x, call.run x = (outs x.sent, { x with sent := x.sent + 1 }))
    (hquiet : ∀ a e w x, (onRetry a e w).run x = ((), x)) (hpause : ∀ w x, (pause w).run x = (none, x))
    (hdraw : ∀ b x, ((draw b).run x).2 = x) :
    ∀ (left attempt : Nat) (b : Int) (last : Option Failure) (x : Exchange),
      (loop p retryable onRetry pause draw call left attempt b last).run x =
        ((spec p retryable outs x.sent left b last).1, { x with sent := (spec p retryable outs x.sent left b last).2 })
  | 0, _, _, last, x => rfl
  | left + 1, attempt, b, last, x => by
    simp only [loop, run_bind, before_quiet p hquiet hpause hdraw, spec]
    -- what comes before the call changes nothing; a panic there ends the loop
    cases p.quietBefore b last with
    | error e => rfl
    | ok b' =>
      simp only [run_bind, hcall]
      cases ho : outs x.sent with
      | ok v => rfl
      | error e =>
        by_cases he : (e.isPanic || !retryable e) = true
        · simp only [he, if_true]
          rfl
        · simp only [he, if_false, Bool.false_eq_true]
          exact loop_run hcall hquiet hpause hdraw left (attempt + 1) b' (some e) { x with sent := x.sent + 1 }

end Retry

/-! ## (2) The client over a scripted server -/

namespace JsonClient

variable {α : Type} (name : String) (settings : ClientSettings) (base : String) (headers : List (String × String))
  (replies : Nat → Nat × String) (draw : Int → Int) (method url : String) (body : Option String)
  (decode : String → Except String α)

/-- The client an adapter builds over the scripted server, the keeping observer and waits that
never end, its settings completed with the API's base address `base`. -/
abbrev onScript : JsonClient (StateM Exchange) :=
  JsonClient.new name (settings.withDefaults base) headers (Exchange.scripted replies) Exchange.observer
    (Exchange.waits draw)

/-- The client tries a reply again exactly when its status is 429. -/
theorem stops_reply (r : Nat × String) :
    Retry.stops Http.tooManyRequests (Http.reply name decode r) = (r.1 != 429) := by
  by_cases hs : r.1 < 200 ∨ r.1 ≥ 300
  · rw [Http.reply_of_status hs]
    simp only [Retry.stops, Http.tooManyRequests, Http.statusFailure_isPanic, Http.statusFailure_has_status,
      Bool.false_or]
    by_cases h429 : r.1 = 429
    · simp [h429]
    · simp [h429, Ne.symm h429]
  · have hne : r.1 ≠ 429 := by omega
    rw [Http.reply_of_success hs]
    unfold Http.decoded
    split <;> simp [Retry.stops, Http.tooManyRequests, Failure.has, Failure.plain, Failure.conditions,
      Failure.isPanic, hne]

/-- One request to an address that parses: it is answered by the next reply, whose status
decides what the client gets. -/
theorem once_run (hurl : (Url.parse url).isOk = true) (x : Exchange) :
    ((onScript name settings base headers replies draw).once method url body).run x =
      (Http.body name (replies x.sent), { x with sent := x.sent + 1 }) := by
  obtain ⟨a, ha⟩ : ∃ a, Url.parse url = .ok a := by
    cases hp : Url.parse url with
    | error e => simp [hp, Except.isOk, Except.toBool] at hurl
    | ok a => exact ⟨a, rfl⟩
  unfold once
  simp only [ha, run_bind]
  dsimp only [onScript, JsonClient.new]
  simp only [Exchange.scripted_run]
  by_cases hs : (replies x.sent).1 < 200 ∨ (replies x.sent).1 ≥ 300
  · simp only [Http.body, hs, if_true]
    rfl
  · simp only [Http.body, hs, if_false]
    rfl

/-- How a call reports its outcome: a failure the retries ran out on as rate limited, anything
else as it is. -/
def rateLimitedOf (name : String) : Outcome α → Outcome α
  | .error e =>
    if e.has .retriesExhausted then
      .error (.error (name ++ ": " ++ Condition.rateLimited.text ++ ": " ++ e.message) (.rateLimited :: e.conditions))
    else .error e
  | .ok v => .ok v

/-- A call from `x` is the retry loop read off the replies from the next one on, reported as
`rateLimitedOf` says and told to the observer once. -/
theorem send_run (hurl : (Url.parse url).isOk = true) (x : Exchange) :
    ((onScript name settings base headers replies draw).send method url body decode).run x =
      let p := (settings.withDefaults base).retry.normalize
      let res := Retry.spec p Http.tooManyRequests (fun i => Http.reply name decode (replies i)) x.sent p.calls
        p.initialBackoff none
      (rateLimitedOf name res.1,
        { sent := res.2, observed := x.observed ++ [(name, (rateLimitedOf name res.1).map fun _ => ())] }) := by
  unfold send retryWithin
  simp only [run_bind]
  rw [Retry.loop_run _ _ (fun i => Http.reply name decode (replies i)) ?hcall ?hquiet ?hpause ?hdraw]
  case hquiet =>
    -- the client logs nowhere
    exact fun _ _ _ _ => rfl
  case hpause => exact fun _ _ => rfl
  case hdraw => exact fun _ _ => rfl
  case hcall =>
    -- one try: the limiter lets it through, then one request, its body bound
    intro y
    rw [run_bind]
    have hturn : ((onScript name settings base headers replies draw).waits.turn).run y = (none, y) := rfl
    rw [hturn]
    dsimp only
    rw [run_bind, once_run name settings base headers replies draw method url body hurl]
    by_cases hs : (replies y.sent).1 < 200 ∨ (replies y.sent).1 ≥ 300
    · rw [Http.reply_of_status hs]
      simp only [Http.body, hs, if_true]
      rfl
    · rw [Http.reply_of_success hs]
      simp only [Http.body, hs, if_false]
      unfold Http.decoded
      cases decode (Http.readBody (replies y.sent).2) <;> rfl
  dsimp only [onScript, JsonClient.new]
  generalize Retry.spec _ _ _ _ _ _ _ = res
  obtain ⟨o, n⟩ := res
  cases o with
  | ok v => rfl
  | error e =>
    by_cases he : e.has .retriesExhausted = true
    · simp only [rateLimitedOf, he, if_true]
      rfl
    · simp only [rateLimitedOf, he, if_false, Bool.false_eq_true]
      rfl

/-- The effective retry count `R`: the policy's own, or 2 when neither a count nor a first
pause is set. -/
theorem calls_withDefaults {R : Nat}
    (hR : (if settings.retry.initialBackoff = 0 ∧ settings.retry.maxRetries = 0 then 2 else settings.retry.maxRetries) = R) :
    (settings.withDefaults base).retry.normalize.calls = R + 1 := by
  simp only [RetryPolicy.calls, RetryPolicy.normalize, ClientSettings.withDefaults, RetryPolicy.orStandard]
  split
  · simp only [if_pos ‹_›] at hR
    simp only [RetryPolicy.standard]
    omega
  · simp only [if_neg ‹_›] at hR
    omega

/-- A reply that is not a 429 is reported as it is: none of its failures ran out of retries. -/
theorem rateLimitedOf_reply (r : Nat × String) :
    rateLimitedOf name (Http.reply name decode r) = Http.reply name decode r := by
  by_cases hs : r.1 < 200 ∨ r.1 ≥ 300
  · rw [Http.reply_of_status hs]
    have hx : (Http.statusFailure name r.1 (Http.readBody r.2)).has .retriesExhausted = false := by
      cases hn : Failure.noRouteStatus r.1 <;> simp [Failure.has, Http.statusFailure_conditions, hn]
    simp [rateLimitedOf, hx]
  · rw [Http.reply_of_success hs]
    unfold Http.decoded
    cases decode (Http.readBody r.2) <;> rfl

/-- Retries that ran out are reported rate limited, carrying both conditions. -/
theorem rateLimitedOf_exhausted (p : RetryPolicy) (l : Option Failure) :
    ∃ e, rateLimitedOf name (.error (p.exhausted l) : Outcome α) = .error e ∧ e.has .rateLimited = true ∧
      e.has .retriesExhausted = true ∧ e.runKind = "rate_limited" := by
  have hx : (p.exhausted l).has .retriesExhausted = true := by
    simp [RetryPolicy.exhausted, Failure.has, Failure.conditions]
  refine ⟨.error (name ++ ": " ++ Condition.rateLimited.text ++ ": " ++ (p.exhausted l).message)
    (.rateLimited :: (p.exhausted l).conditions), by simp only [rateLimitedOf, hx, if_true], ?_, ?_, ?_⟩
  · simp [Failure.has, Failure.conditions]
  · simpa [Failure.has, Failure.conditions] using hx
  · simp [Failure.runKind, Failure.has, Failure.conditions]

/-- Over a server that answers request `n` with `replies n`, one call of a client whose
effective retry count is `R` (its policy's, or 2 when neither a count nor a first pause is set),
every wait of whose budget can be made, to an address that is a request: the observer hears its
outcome once; it sends `min (k + 1) (R + 1)` requests, `k` the number of the first reply that is
not a 429; when the first `R + 1` replies are 429 it sends them all and fails rate limited with
the retries exhausted; otherwise it answers what reply `k` means, untried again: no route
carries the unavailable quote, another status outside 200–299 is that status and nothing else,
and a success is its body bound once. -/
theorem send_on_script (R : Nat)
    (hR : (if settings.retry.initialBackoff = 0 ∧ settings.retry.maxRetries = 0 then 2 else settings.retry.maxRetries) = R)
    (hwait : ∀ k, 1 ≤ k → k ≤ R → (settings.withDefaults base).retry.normalize.CanWait k)
    (hurl : (Url.parse url).isOk = true) :
    let run := ((onScript name settings base headers replies draw).send method url body decode).run ⟨0, []⟩
    run.2.observed = [(name, run.1.map fun _ => ())] ∧
      (∀ k, (replies k).1 ≠ 429 → (∀ i < k, (replies i).1 = 429) → run.2.sent = min (k + 1) (R + 1)) ∧
      ((∀ i ≤ R, (replies i).1 = 429) → run.2.sent = R + 1 ∧
        ∃ e, run.1 = .error e ∧ e.has .rateLimited = true ∧ e.has .retriesExhausted = true ∧
          e.runKind = "rate_limited") ∧
      (∀ k ≤ R, (replies k).1 ≠ 429 → (∀ i < k, (replies i).1 = 429) →
        run.1 = Http.reply name decode (replies k) ∧
        (Failure.noRouteStatus (replies k).1 = true →
          ∃ e, run.1 = .error e ∧ e.has .quoteUnavailable = true ∧ e.runKind = "quote_unavailable") ∧
        ((replies k).1 < 200 ∨ (replies k).1 ≥ 300 → Failure.noRouteStatus (replies k).1 = false →
          run.1 = .error (Http.statusFailure name (replies k).1 (Http.readBody (replies k).2)) ∧
            (Http.statusFailure name (replies k).1 (Http.readBody (replies k).2)).conditions =
              [.httpStatus (replies k).1]) ∧
        (¬((replies k).1 < 200 ∨ (replies k).1 ≥ 300) →
          run.1 = Http.decoded name decode (Http.readBody (replies k).2))) := by
  intro run
  have hrun : run = _ := send_run name settings base headers replies draw method url body decode hurl ⟨0, []⟩
  dsimp only at hrun
  rw [calls_withDefaults settings base hR] at hrun
  have hpoised : Retry.Poised (settings.withDefaults base).retry.normalize 0
      (settings.withDefaults base).retry.normalize.initialBackoff none := rfl
  have hstops : ∀ i, Retry.stops Http.tooManyRequests (Http.reply name decode (replies i)) = ((replies i).1 != 429) :=
    fun i => stops_reply name decode (replies i)
  -- the call ends on reply `k`, the first that is not a 429
  have hended : ∀ k ≤ R, (replies k).1 ≠ 429 → (∀ i < k, (replies i).1 = 429) →
      run.1 = Http.reply name decode (replies k) ∧ run.2.sent = k + 1 := by
    intro k hk hne hbefore
    have hfirst : Retry.firstStop (fun i => Retry.stops Http.tooManyRequests (Http.reply name decode (replies i)))
        0 (R + 1) = some k :=
      Retry.firstStop_of_first (by simp [hstops, hne]) (Nat.zero_le k) (by omega)
        fun i _ hi => by simp [hstops, hbefore i hi]
    rw [Retry.spec_of_stop _ _ _ hpoised (fun i h₁ h₂ => hwait i h₁ (by omega)) hfirst] at hrun
    rw [hrun]
    exact ⟨rateLimitedOf_reply name decode _, rfl⟩
  -- every try of the budget is a 429
  have hspent : (∀ i ≤ R, (replies i).1 = 429) → run.2.sent = R + 1 ∧
      ∃ e, run.1 = .error e ∧ e.has .rateLimited = true ∧ e.has .retriesExhausted = true ∧
        e.runKind = "rate_limited" := by
    intro hall
    have hnone : Retry.firstStop (fun i => Retry.stops Http.tooManyRequests (Http.reply name decode (replies i)))
        0 (R + 1) = none :=
      Retry.firstStop_none fun i _ hi => by simp [hstops, hall i (by omega)]
    obtain ⟨l, hl⟩ := Retry.spec_of_none (settings.withDefaults base).retry.normalize Http.tooManyRequests
      (fun i => Http.reply name decode (replies i)) hpoised (fun i h₁ h₂ => hwait i h₁ (by omega)) hnone
    rw [hl] at hrun
    rw [hrun]
    exact ⟨by simp, rateLimitedOf_exhausted name (settings.withDefaults base).retry.normalize l⟩
  refine ⟨by rw [hrun]; simp, ?_, hspent, ?_⟩
  · intro k hne hbefore
    by_cases hk : k ≤ R
    · rw [(hended k hk hne hbefore).2]
      omega
    · rw [(hspent fun i hi => hbefore i (by omega)).1]
      omega
  · intro k hk hne hbefore
    obtain ⟨hreply, -⟩ := hended k hk hne hbefore
    refine ⟨hreply, ?_, ?_, ?_⟩
    · intro hn
      have hs : (replies k).1 < 200 ∨ (replies k).1 ≥ 300 := by
        simp [Failure.noRouteStatus] at hn
        omega
      rw [hreply, Http.reply_of_status hs]
      exact ⟨_, rfl, Http.statusFailure_noRoute _ hn⟩
    · intro hs hn
      rw [hreply, Http.reply_of_status hs]
      exact ⟨rfl, by simp [Http.statusFailure_conditions, hn]⟩
    · intro hs
      rw [hreply, Http.reply_of_success hs]

/-- The address must be a request: one that is not sends nothing, whatever the retry count,
and the call fails at once with the build error, which the observer hears. -/
theorem send_of_unbuildable (R : Nat)
    (hR : (if settings.retry.initialBackoff = 0 ∧ settings.retry.maxRetries = 0 then 2 else settings.retry.maxRetries) = R)
    {err : String} (hurl : Url.parse url = .error err) :
    ((onScript name settings base headers replies draw).send method url body decode).run ⟨0, []⟩ =
      (.error (.plain (name ++ ": build request: " ++ err)),
        ⟨0, [(name, .error (.plain (name ++ ": build request: " ++ err)))]⟩) := by
  unfold send retryWithin
  simp only [run_bind]
  dsimp only [onScript, JsonClient.new]
  rw [calls_withDefaults settings base hR]
  -- the first try fails before any request, and that failure is not retried
  simp only [Retry.loop, Retry.before, run_bind, once, hurl]
  rfl

/-- With the standard two retries, a server that asks twice to slow down and then has no route
gets three requests, and the call fails with an unavailable quote. -/
theorem no_route_after_two_slow_downs :
    (if RetryPolicy.standard.initialBackoff = 0 ∧ RetryPolicy.standard.maxRetries = 0 then 2
      else RetryPolicy.standard.maxRetries) = ((2 : Nat) : Int) ∧
    (∀ k, 1 ≤ k → k ≤ 2 →
      (ClientSettings.withDefaults ⟨"https://q.test", .standard⟩ "").retry.normalize.CanWait k) ∧
    (Url.parse "https://q.test/1/quote").isOk = true ∧
      let run := ((onScript "1inch" ⟨"https://q.test", .standard⟩ "" []
        (fun n => if n < 2 then (429, "") else (404, "")) (fun _ => 0)).send "GET" "https://q.test/1/quote" none
          (fun _ => (.ok () : Except String Unit))).run ⟨0, []⟩
      run.2.sent = 3 ∧ ∃ e, run.1 = .error e ∧ e.runKind = "quote_unavailable" := by
  have hR : (if RetryPolicy.standard.initialBackoff = 0 ∧ RetryPolicy.standard.maxRetries = 0 then 2
      else RetryPolicy.standard.maxRetries) = ((2 : Nat) : Int) := by decide
  have hwait : ∀ k, 1 ≤ k → k ≤ 2 →
      (ClientSettings.withDefaults ⟨"https://q.test", .standard⟩ "").retry.normalize.CanWait k :=
    fun k _ _ => RetryPolicy.canWait_of_jitter_off rfl k
  have hurl : (Url.parse "https://q.test/1/quote").isOk = true := by decide +kernel
  refine ⟨hR, hwait, hurl, ?_⟩
  obtain ⟨-, hcount, -, hreply⟩ := send_on_script "1inch" ⟨"https://q.test", .standard⟩ "" []
    (fun n => if n < 2 then (429, "") else (404, "")) (fun _ => 0) "GET" "https://q.test/1/quote" none
    (fun _ => (.ok () : Except String Unit)) 2 hR hwait hurl
  have hbefore : ∀ i < 2, (if i < 2 then (429, "") else (404, "")).1 = 429 := fun i hi => by simp [hi]
  obtain ⟨-, hnoRoute, -⟩ := hreply 2 (Nat.le_refl 2) (by decide) hbefore
  obtain ⟨e, he, -, hkind⟩ := hnoRoute (by decide)
  exact ⟨hcount 2 (by decide) hbefore, e, he, hkind⟩

/-- A client whose policy has jitter and a first pause of 1 ns that halves: the pause before
the second retry truncates to 0 ns, where the draw panics, so against a server that keeps asking
to slow down the call ends after two requests with that panic, where its budget allows three. -/
theorem jittered_client_panics_after_two_requests :
    let run := ((onScript "kyber" ⟨"https://q.test", ⟨2, 1, 1, 0.5, true⟩⟩ "" [] (fun _ => (429, "")) (fun _ => 0)).send
      "GET" "https://q.test/routes" none (fun _ => (.ok () : Except String Unit))).run ⟨0, []⟩
    run.2.sent = 2 ∧ run.1 = .error RetryPolicy.badDraw := by
  have hurl : (Url.parse "https://q.test/routes").isOk = true := by decide +kernel
  intro run
  have hrun : run = _ := send_run "kyber" ⟨"https://q.test", ⟨2, 1, 1, 0.5, true⟩⟩ "" [] (fun _ => (429, ""))
    (fun _ => 0) "GET" "https://q.test/routes" none (fun _ => (.ok () : Except String Unit)) hurl ⟨0, []⟩
  rw [hrun]
  decide +kernel

end JsonClient

end QuoteKeeper
