import QuoteKeeper.Proofs.EngineSubmission
/-
  QuoteKeeper.Proofs.LendingCalculator — explicit bounds win, and gate what the calculator asks.

  A calculator asks up to three collaborators, in this order: the market's annual rate, the
  holding-period source, the market's mid price. Each is an action on a world `σ`
  (`StateM σ`), so it may answer anything and change anything. To see what a run asks, the
  calculator is run over its world and a journal (`Calculator.observe`): each question adds
  itself, with the answer it got, to the journal (`Asked`), and the log sink adds nothing.

  What the run answers is read back stage by stage, as in `Proofs.EngineStages`: `withMin_ok`,
  `withMax_ok` and `bounds_ok` say where each field of a successful answer comes from; they
  hold over every world, the journal's included.

  Proved:
  (1) `bounds_ok`, `withMin_ok`, `withMax_ok`: a successful answer echoes the input, or is
      derived from an annual rate, a minimum stage and a maximum stage; `bounds_keeps_explicit`:
      a bound given in the input comes back as it was.
  (2) `holdingPeriod_observe`, `withMin_observe`, `withMax_observe`, `bounds_observe`: what a
      run asks (`Asks`): the rate only when a bound is missing and there is a market, the
      holding period only for a missing minimum with no period given or configured, the mid
      only for a missing maximum; no active market gives back the input's bounds; every other
      error ends the run with that error, under its context.
  (3) `run_explicit_ignores_lending`: a run with explicit prices is the same whatever lending
      calculator the engine has, so it never asks one.
  (4) `explicit_bounds_gate_lending`: all of it.
-/

namespace QuoteKeeper

namespace Lending

/-- The bounds a run answers when it derives nothing: the input's, and zero elsewhere. -/
def Input.echo (inp : Input) : Bounds := { Bounds.none with minBuy := inp.minBuy, maxBuy := inp.maxBuy }

/-- The bounds a run starts deriving from, once the market's annual rate is known. -/
def Input.rated (inp : Input) (apr : Float) : Bounds :=
  { inp.echo with apr := apr, apy := apy apr, derived := true }

/-- The mid price a run can take from a market: the market's own, or the input's reference
mid when the market has none. -/
def MidRead {σ : Type} (mk : LendingMarket (StateM σ)) (inp : Input) (mid : Price) : Prop :=
  Answers mk.midPrice (.ok mid) ∨ ∃ e, Answers mk.midPrice (.error e) ∧ e.has .noMidPrice ∧ mid = inp.referenceMid

/-! ## (1) Where a successful answer comes from -/

namespace Calculator

variable {σ : Type} {c : Calculator (StateM σ)} {inp : Input} {out b : Bounds}

/-- The minimum stage keeps a minimum already there, and otherwise derives it from the
holding period it reads; it touches nothing else. -/
theorem withMin_ok (h : Answers (c.withMin inp out) (.ok b)) :
    let floor := Price.ofDecimal (inp.floor.getD c.config.minBuyFloor) priceScale
    (out.minBuy.valid = true ∧ b = out) ∨
    (out.minBuy.valid = false ∧ ∃ hp, b = { out with holdingPeriod := hp, minBuy := minBuyPrice out.apy hp floor }) := by
  unfold withMin at h
  cases hv : out.minBuy.valid
  · simp only [hv, Bool.false_eq_true, if_false] at h
    obtain ⟨ho, -, h⟩ := h.of_bind
    cases ho with
    | error e => cases h.of_pure
    | ok hp =>
      cases h.of_pure
      exact .inr ⟨rfl, hp, rfl⟩
  · simp only [hv, if_true] at h
    exact .inl ⟨rfl, (Except.ok.inj h.of_pure)⟩

/-- The maximum stage keeps a maximum already there; otherwise it reads a mid, keeps the
bounds when that mid is unset, and else takes the maximum and the contradiction flag
`maxBuyPrice` gives for it. It never touches the minimum. -/
theorem withMax_ok {mk : LendingMarket (StateM σ)} (h : Answers (c.withMax mk inp out) (.ok b)) :
    let premium := inp.premium.getD c.config.maxBuyPremium
    (out.maxBuy.valid = true ∧ b = out) ∨
    (out.maxBuy.valid = false ∧ ∃ mid, MidRead mk inp mid ∧
      ((mid.valid = false ∧ b = out) ∨
       (mid.valid = true ∧ maxBuyPrice mid out.minBuy premium = .ok (b.maxBuy, b.contradiction) ∧
         b = { out with maxBuy := b.maxBuy, contradiction := b.contradiction }))) := by
  unfold withMax at h
  cases hv : out.maxBuy.valid
  · simp only [hv, Bool.false_eq_true, if_false] at h
    refine .inr ⟨rfl, ?_⟩
    obtain ⟨mo, hmo, h⟩ := h.of_bind
    simp only [pure_bind] at h
    rcases mo with e | p
    all_goals dsimp only at h
    -- the mid: the market's own, or the reference mid when the market has none
    case' error =>
      by_cases hnm : e.has .noMidPrice = true
      case' neg =>
        rw [if_neg hnm] at h
        cases h.of_pure
      rw [if_pos hnm] at h
      refine ⟨inp.referenceMid, .inr ⟨e, hmo, hnm, rfl⟩, ?_⟩
      generalize inp.referenceMid = p at h ⊢
    case' ok => refine ⟨p, .inl hmo, ?_⟩
    -- from here on both are the same: the mid decides, then `maxBuyPrice`
    all_goals
      cases hu : p.valid
      · simp only [hu, Bool.not_false, if_true] at h
        exact .inl ⟨rfl, Except.ok.inj h.of_pure⟩
      · simp only [hu, Bool.not_true, Bool.false_eq_true, if_false] at h
        rcases hm : maxBuyPrice p out.minBuy (inp.premium.getD c.config.maxBuyPremium) with e' | ⟨mb, contra⟩
        · rw [hm] at h
          cases h.of_pure
        · rw [hm] at h
          -- the debug line for a contradiction answers nothing
          have hb : b = { out with maxBuy := mb, contradiction := contra } := by
            dsimp only at h
            split at h
            · obtain ⟨_, -, h⟩ := h.of_bind
              exact Except.ok.inj h.of_pure
            · exact Except.ok.inj h.of_pure
          subst hb
          exact .inr ⟨rfl, rfl, rfl⟩
  · simp only [hv, if_true] at h
    exact .inl ⟨rfl, (Except.ok.inj h.of_pure)⟩

theorem withMin_maxBuy (h : Answers (c.withMin inp out) (.ok b)) : b.maxBuy = out.maxBuy := by
  rcases withMin_ok h with ⟨-, rfl⟩ | ⟨-, hp, rfl⟩ <;> rfl

theorem withMax_minBuy {mk : LendingMarket (StateM σ)} (h : Answers (c.withMax mk inp out) (.ok b)) :
    b.minBuy = out.minBuy := by
  rcases withMax_ok h with ⟨-, rfl⟩ | ⟨-, mid, -, ⟨-, rfl⟩ | ⟨-, -, hb⟩⟩
  · rfl
  · rfl
  · rw [hb]

/-- A successful run echoes the input's bounds, or derives them: it read an annual rate from
the market, then the minimum stage and the maximum stage answered in turn. -/
theorem bounds_ok {cal : Option (Calculator (StateM σ))} (h : Answers (bounds cal inp) (.ok b)) :
    b = inp.echo ∨
    ∃ c mk apr out, cal = some c ∧ c.market = some mk ∧ (inp.minBuy.valid && inp.maxBuy.valid) = false ∧
      Answers mk.annualRate (.ok apr) ∧ Answers (c.withMin inp (inp.rated apr)) (.ok out) ∧
      Answers (c.withMax mk inp out) (.ok b) := by
  unfold bounds at h
  cases hboth : (inp.minBuy.valid && inp.maxBuy.valid)
  · rw [if_neg (by simp [hboth])] at h
    cases cal with
    | none => exact .inl (Except.ok.inj h.of_pure)
    | some c =>
      cases hm : c.market with
      | none =>
        simp only [hm] at h
        exact .inl (Except.ok.inj h.of_pure)
      | some mk =>
        simp only [hm] at h
        obtain ⟨ro, hr, h⟩ := h.of_bind
        cases ro with
        | error e =>
          dsimp only at h
          -- no active market: the input's bounds, after a log line
          split at h
          · obtain ⟨_, -, h⟩ := h.of_bind
            exact .inl (Except.ok.inj h.of_pure)
          · cases h.of_pure
        | ok apr =>
          obtain ⟨mo, hmin, h⟩ := h.of_bind
          cases mo with
          | error e => cases h.of_pure
          | ok out => exact .inr ⟨c, mk, apr, out, rfl, hm, rfl, hr, hmin, h⟩
  · rw [if_pos (by simp [hboth])] at h
    exact .inl (Except.ok.inj h.of_pure)

/-- A bound the input gives comes back as it was. -/
theorem bounds_keeps_explicit {cal : Option (Calculator (StateM σ))} (h : Answers (bounds cal inp) (.ok b)) :
    (inp.minBuy.valid = true → b.minBuy = inp.minBuy) ∧ (inp.maxBuy.valid = true → b.maxBuy = inp.maxBuy) := by
  rcases bounds_ok h with rfl | ⟨c, mk, apr, out, -, -, -, -, hmin, hmax⟩
  · exact ⟨fun _ => rfl, fun _ => rfl⟩
  · refine ⟨fun hv => ?_, fun hv => ?_⟩
    · -- a minimum given stays through both stages
      rw [withMax_minBuy hmax]
      rcases withMin_ok hmin with ⟨-, rfl⟩ | ⟨hinv, -⟩
      · rfl
      · exact absurd hv (by simpa [Input.rated, Input.echo] using hinv)
    · -- so does a maximum
      have hout : out.maxBuy = inp.maxBuy := withMin_maxBuy hmin
      rcases withMax_ok hmax with ⟨-, rfl⟩ | ⟨hinv, -⟩
      · exact hout
      · rw [hout] at hinv
        exact absurd hv (by simp [hinv])

end Calculator

/-! ## (2) What a run asks -/

/-- A question a calculator asks one of its collaborators, with the answer it got. -/
inductive Asked where
  | rate (answer : Outcome Float)
  | holding (answer : Outcome Int)
  | mid (answer : Outcome Price)

/-- The failure a run ends with once it got this answer, when the answer ends it: the
collaborator's error under the context of what was asked, except for the two errors that
only mean there is nothing to derive from. -/
def Asked.failure : Asked → Option Failure
  | .rate (.error e) => if e.has .noActiveMarket then none else some (e.wrap "lending rate")
  | .holding (.error e) => some (e.wrap "holding period")
  | .mid (.error e) => if e.has .noMidPrice then none else some (e.wrap "lending mid price")
  | _ => none

/-- A failing answer among `calls` is what the run answered. -/
def Ends {α : Type} (calls : List Asked) (o : Outcome α) : Prop :=
  ∀ a ∈ calls, ∀ f, a.failure = some f → o = .error f

/-- When a run may ask what it asked: the rate when a bound is missing and there is a market;
the holding period for a missing minimum when neither the input nor the configuration gives a
period and there is a source; the mid for a missing maximum. -/
def Allowed {m : Type → Type} (cal : Option (Calculator m)) (inp : Input) : Asked → Prop
  | .rate _ => (inp.minBuy.valid = false ∨ inp.maxBuy.valid = false) ∧ ∃ c ∈ cal, c.market.isSome
  | .holding _ =>
    inp.minBuy.valid = false ∧ inp.holdingPeriod ≤ 0 ∧
      ∃ c ∈ cal, c.config.holdingPeriod ≤ 0 ∧ c.holding.isSome
  | .mid _ => inp.maxBuy.valid = false

/-- What a run that asked `calls` and answered `o` did: it asked only what it was allowed to,
an inactive market gave back the input's bounds, and a failing answer ended the run. -/
structure Asks {m : Type → Type} (cal : Option (Calculator m)) (inp : Input) (calls : List Asked)
    (o : Outcome Bounds) : Prop where
  allowed : ∀ a ∈ calls, Allowed cal inp a
  inactive : ∀ e, .rate (.error e) ∈ calls → e.has .noActiveMarket → o = .ok inp.echo
  fails : Ends calls o

theorem Asks.nil {m : Type → Type} {cal : Option (Calculator m)} {inp : Input} {o : Outcome Bounds} :
    Asks cal inp [] o :=
  ⟨nofun, nofun, nofun⟩

section Journal

variable {σ α β : Type}

/-- `x` on the world, with its answer added to the journal as `note` writes it. -/
def asking (note : Outcome α → Asked) (x : StateM σ (Outcome α)) : StateM (σ × List Asked) (Outcome α) :=
  fun s => ((x.run s.1).1, (x.run s.1).2, s.2 ++ [note (x.run s.1).1])

/-- `x` on the world, beside a journal it leaves alone. -/
def unasked (x : StateM σ α) : StateM (σ × List Asked) α :=
  fun s => ((x.run s.1).1, (x.run s.1).2, s.2)

theorem run_asking_bind (note : Outcome α → Asked) (x : StateM σ (Outcome α))
    (f : Outcome α → StateM (σ × List Asked) β) (s : σ × List Asked) :
    (asking note x >>= f).run s = (f (x.run s.1).1).run ((x.run s.1).2, s.2 ++ [note (x.run s.1).1]) :=
  rfl

/-- From every state, `x` adds to the journal only questions that `P` allows, and a failing
answer among them is what `x` answers. -/
def AsksOnly (P : Asked → Prop) (x : StateM (σ × List Asked) (Outcome α)) : Prop :=
  ∀ s, ∃ calls, (x.run s).2.2 = s.2 ++ calls ∧ (∀ a ∈ calls, P a) ∧ Ends calls (x.run s).1

variable {P Q : Asked → Prop}

theorem AsksOnly.pure (o : Outcome α) : AsksOnly P (pure o : StateM (σ × List Asked) (Outcome α)) :=
  fun s => ⟨[], (List.append_nil s.2).symm, nofun, nofun⟩

theorem AsksOnly.mono {x : StateM (σ × List Asked) (Outcome α)} (hx : AsksOnly P x) (h : ∀ a, P a → Q a) :
    AsksOnly Q x := by
  intro s
  obtain ⟨calls, hj, hP, he⟩ := hx s
  exact ⟨calls, hj, fun a ha => h a (hP a ha), he⟩

/-- A step whose failure the rest of the run passes on as it is. -/
theorem AsksOnly.bind_ok {x : StateM (σ × List Asked) (Outcome α)} {f : Outcome α → StateM (σ × List Asked) (Outcome β)}
    (hx : AsksOnly P x) (herr : ∀ e, f (.error e) = Pure.pure (.error e))
    (hok : ∀ a, Answers x (.ok a) → AsksOnly P (f (.ok a))) : AsksOnly P (x >>= f) := by
  intro s
  obtain ⟨calls₁, hj₁, hP₁, he₁⟩ := hx s
  have hans := answers_run x s
  rw [run_bind]
  generalize x.run s = r at hj₁ he₁ hans
  obtain ⟨o, s'⟩ := r
  cases o with
  | error e =>
    rw [herr]
    refine ⟨calls₁, hj₁, hP₁, fun a ha f hf => ?_⟩
    obtain rfl : e = f := Except.error.inj (he₁ a ha f hf)
    rfl
  | ok a =>
    obtain ⟨calls₂, hj₂, hP₂, he₂⟩ := hok a hans s'
    refine ⟨calls₁ ++ calls₂, by rw [hj₂, hj₁, List.append_assoc], ?_, ?_⟩
    · simpa only [List.mem_append, or_imp, forall_and] using ⟨hP₁, hP₂⟩
    · -- the first step succeeded, so no answer it got was a failing one
      intro a ha f hf
      rcases List.mem_append.1 ha with ha | ha
      · cases he₁ a ha f hf
      · exact he₂ a ha f hf

end Journal

namespace LendingMarket

variable {σ : Type}

/-- The market asked through the journal. -/
def observe (mk : LendingMarket (StateM σ)) : LendingMarket (StateM (σ × List Asked)) :=
  ⟨asking .rate mk.annualRate, asking .mid mk.midPrice⟩

@[simp] theorem observe_annualRate (mk : LendingMarket (StateM σ)) :
    mk.observe.annualRate = asking .rate mk.annualRate := rfl

@[simp] theorem observe_midPrice (mk : LendingMarket (StateM σ)) :
    mk.observe.midPrice = asking .mid mk.midPrice := rfl

end LendingMarket

namespace Calculator

variable {σ : Type}

/-- The calculator run beside a journal of what it asks; its log lines add nothing. -/
def observe (c : Calculator (StateM σ)) : Calculator (StateM (σ × List Asked)) :=
  ⟨c.market.map LendingMarket.observe, c.holding.map (asking .holding), c.config,
    c.logger.mapSink fun e => unasked (c.logger.sink e)⟩

@[simp] theorem observe_market (c : Calculator (StateM σ)) :
    c.observe.market = c.market.map LendingMarket.observe := rfl

@[simp] theorem observe_holding (c : Calculator (StateM σ)) :
    c.observe.holding = c.holding.map (asking .holding) := rfl

@[simp] theorem observe_config (c : Calculator (StateM σ)) : c.observe.config = c.config := rfl

/-- The holding period is asked of the source only when neither the run nor the configuration
gives a positive one. -/
theorem holdingPeriod_observe (c : Calculator (StateM σ)) (override : Int) :
    AsksOnly (fun a => (∃ x, a = .holding x) ∧ override ≤ 0 ∧ c.config.holdingPeriod ≤ 0 ∧ c.holding.isSome)
      (c.observe.holdingPeriod override) := by
  unfold holdingPeriod
  by_cases ho : override > 0
  · rw [if_pos ho]
    exact AsksOnly.pure _
  rw [if_neg ho, observe_config]
  by_cases hc : c.config.holdingPeriod > 0
  · rw [if_pos hc]
    exact AsksOnly.pure _
  rw [if_neg hc, observe_holding]
  cases hh : c.holding with
  | none => exact AsksOnly.pure _
  | some h =>
    -- the one question: its answer, passed on under its context when it fails
    intro s
    simp only [Option.map_some]
    rw [run_asking_bind]
    generalize h.run s.1 = p
    obtain ⟨o, w⟩ := p
    have hP : (∃ x, Asked.holding o = .holding x) ∧ override ≤ 0 ∧ c.config.holdingPeriod ≤ 0 ∧
        (some h).isSome := ⟨⟨o, rfl⟩, by omega, by omega, rfl⟩
    cases o with
    | error e =>
      refine ⟨[.holding (.error e)], rfl, by simpa using hP, ?_⟩
      simp only [Ends, List.mem_singleton, forall_eq, Asked.failure, Option.some.injEq]
      rintro f rfl
      rfl
    | ok d => exact ⟨[.holding (.ok d)], rfl, by simpa using hP, by simp [Ends, Asked.failure]⟩

/-- The minimum stage asks only for a missing minimum, and only what the holding period asks. -/
theorem withMin_observe (c : Calculator (StateM σ)) (inp : Input) (out : Bounds) :
    AsksOnly (fun a => (∃ x, a = .holding x) ∧ out.minBuy.valid = false ∧ inp.holdingPeriod ≤ 0 ∧
      c.config.holdingPeriod ≤ 0 ∧ c.holding.isSome) (c.observe.withMin inp out) := by
  unfold withMin
  cases hv : out.minBuy.valid
  · simp only [Bool.false_eq_true, if_false]
    refine ((holdingPeriod_observe c inp.holdingPeriod).mono ?_).bind_ok (fun _ => rfl) fun _ _ => AsksOnly.pure _
    rintro a ⟨hk, ho, hc, hs⟩
    exact ⟨hk, trivial, ho, hc, hs⟩
  · simp only [if_true]
    exact AsksOnly.pure _

/-- The maximum stage asks the mid only for a missing maximum, and nothing else. -/
theorem withMax_observe (c : Calculator (StateM σ)) (mk : LendingMarket (StateM σ)) (inp : Input)
    (out : Bounds) :
    AsksOnly (fun a => (∃ x, a = .mid x) ∧ out.maxBuy.valid = false) (c.observe.withMax mk.observe inp out) := by
  unfold withMax
  cases hv : out.maxBuy.valid
  · simp only [Bool.false_eq_true, if_false, LendingMarket.observe_midPrice]
    intro s
    rw [run_asking_bind]
    generalize mk.midPrice.run s.1 = p
    obtain ⟨o, w⟩ := p
    rcases o with e | p
    all_goals dsimp only
    case' error =>
      by_cases hnm : e.has .noMidPrice = true
      case' neg =>
        -- any other error ends the stage, under its context
        rw [if_neg hnm]
        refine ⟨[.mid (.error e)], rfl, by simp, ?_⟩
        simp only [Ends, List.mem_singleton, forall_eq, Asked.failure, hnm, Bool.false_eq_true, if_false,
          Option.some.injEq]
        rintro f rfl
        rfl
      rw [if_pos hnm]
      refine ⟨[.mid (.error e)], ?_, by simp, by simp [Ends, Asked.failure, hnm]⟩
      -- no mid from the market: the stage goes on with the reference mid
      generalize inp.referenceMid = p
    case' ok => refine ⟨[.mid (.ok p)], ?_, by simp, by simp [Ends, Asked.failure]⟩
    -- from here on the stage only logs, whatever the mid
    all_goals
      generalize s.2 ++ _ = J
      simp only [pure_bind]
      split
      · rfl
      · split
        · rfl
        · -- the debug line for a contradiction goes to the sink, not the journal
          split <;> rfl
  · simp only [if_true]
    exact AsksOnly.pure _

/-- A run that got an allowed rate, and then asked only allowed questions other than the rate. -/
theorem asks_of_rate_ok {cal : Option (Calculator (StateM σ))} {inp : Input} {apr : Float}
    {x : StateM (σ × List Asked) (Outcome Bounds)} (hx : AsksOnly (fun a => Allowed cal inp a ∧ ∀ y, a ≠ .rate y) x)
    (hr : Allowed cal inp (.rate (.ok apr))) (s : σ × List Asked) (w : σ) :
    ∃ calls, (x.run (w, s.2 ++ [.rate (.ok apr)])).2.2 = s.2 ++ calls ∧
      Asks cal inp calls (x.run (w, s.2 ++ [.rate (.ok apr)])).1 := by
  obtain ⟨calls, hj, hP, he⟩ := hx (w, s.2 ++ [.rate (.ok apr)])
  refine ⟨.rate (.ok apr) :: calls, by rw [hj]; simp, ⟨?_, ?_, ?_⟩⟩
  · simp only [List.mem_cons, forall_eq_or_imp]
    exact ⟨hr, fun a ha => (hP a ha).1⟩
  · -- the one rate asked answered, so no failed rate is among the calls
    intro e he' _
    rcases List.mem_cons.1 he' with h | h
    · cases h
    · exact absurd rfl ((hP _ h).2 (.error e))
  · intro a ha f hf
    rcases List.mem_cons.1 ha with rfl | h
    · simp [Asked.failure] at hf
    · exact he a h f hf

/-- What a whole run asks (`Asks`); it only ever adds to the journal. -/
theorem bounds_observe (cal : Option (Calculator (StateM σ))) (inp : Input) (s : σ × List Asked) :
    ∃ calls, ((bounds (cal.map observe) inp).run s).2.2 = s.2 ++ calls ∧
      Asks cal inp calls ((bounds (cal.map observe) inp).run s).1 := by
  unfold bounds
  cases hboth : (inp.minBuy.valid && inp.maxBuy.valid)
  case true =>
    simp only [if_true]
    exact ⟨[], (List.append_nil _).symm, Asks.nil⟩
  simp only [Bool.false_eq_true, if_false]
  cases cal with
  | none => exact ⟨[], (List.append_nil _).symm, Asks.nil⟩
  | some c =>
    simp only [Option.map_some, observe_market]
    cases hm : c.market with
    | none => exact ⟨[], (List.append_nil _).symm, Asks.nil⟩
    | some mk =>
      simp only [Option.map_some, LendingMarket.observe_annualRate]
      rw [run_asking_bind]
      generalize mk.annualRate.run s.1 = p
      obtain ⟨o, w⟩ := p
      -- the rate is allowed: a bound is missing and there is a market
      have hrate : ∀ y, Allowed (some c) inp (.rate y) := fun _ =>
        ⟨by simpa only [Bool.and_eq_false_iff] using hboth, c, rfl, by simp [hm]⟩
      rcases o with e | apr
      all_goals dsimp only
      case error =>
        by_cases hna : e.has .noActiveMarket = true
        · -- no active market: the input's bounds, after a log line
          rw [if_pos hna]
          exact ⟨[.rate (.error e)], rfl, by simpa using hrate _, fun _ _ _ => rfl,
            by simp [Ends, Asked.failure, hna]⟩
        · -- any other error ends the run, under its context
          rw [if_neg hna]
          refine ⟨[.rate (.error e)], rfl, by simpa using hrate _, ?_, ?_⟩
          · intro e' he' hna'
            obtain rfl : e' = e := by simpa using he'
            exact absurd hna' hna
          · simp only [Ends, List.mem_singleton, forall_eq, Asked.failure, hna, Bool.false_eq_true, if_false,
              Option.some.injEq]
            rintro f rfl
            rfl
      case ok =>
        -- then the minimum stage and the maximum stage, each asking only its own question
        refine asks_of_rate_ok ?_ (hrate _) s w
        apply AsksOnly.bind_ok
        · refine (withMin_observe c inp _).mono ?_
          rintro a ⟨⟨y, rfl⟩, hv, ho, hc, hs⟩
          exact ⟨⟨hv, ho, c, rfl, hc, hs⟩, fun _ => nofun⟩
        · intro e
          rfl
        · intro out hout
          refine (withMax_observe c mk inp out).mono ?_
          rintro a ⟨⟨y, rfl⟩, hv⟩
          refine ⟨?_, fun _ => nofun⟩
          show inp.maxBuy.valid = false
          rw [← show out.maxBuy = inp.maxBuy from withMin_maxBuy hout]
          exact hv

end Calculator

end Lending

/-! ## (3) A run with explicit prices never asks the lending calculator -/

namespace Engine

variable {m : Type → Type} {opts : PricingOptions}

theorem range_of_explicit (e : Engine m) (h : opts.hasExplicitPair = true) (b : Lending.Bounds) :
    e.range opts b = opts.range := by
  simp [range, h]

variable [Monad m]

theorem lendingBounds_of_explicit (e : Engine m) (h : opts.hasExplicitPair = true) (q : Quote) :
    e.lendingBounds opts q = pure (.ok Lending.Bounds.none) := by
  unfold lendingBounds
  rw [h]

/-- With explicit prices the run is the same action whatever lending calculator the engine
holds, so it never asks one. -/
theorem run_explicit_ignores_lending (e : Engine m) (h : opts.hasExplicitPair = true)
    (lending : Option (Lending.Input → m (Outcome Lending.Bounds))) :
    ({ e with lending := lending } : Engine m).run opts = e.run opts := by
  -- the plan is the only stage that reads the calculator, through the bounds and the range
  have hplan : ∀ c q, ({ e with lending := lending } : Engine m).plan opts c q = e.plan opts c q := by
    intro c q
    unfold plan
    simp only [lendingBounds_of_explicit _ h, range_of_explicit _ h]
    rfl
  unfold run attempt prepare
  simp only [hplan]
  rfl

end Engine

/-! ## (4) Explicit bounds win and gate what the calculator asks -/

section Gate

open Lending

/-- Explicit bounds win and gate the collaborators. A bound the input gives comes back as it
was. A run asks the market's rate only when a bound is missing and there is a market, the
holding-period source only for a missing minimum when neither the input nor the configuration
gives a period, and the market's mid only for a missing maximum; an inactive market gives back
the input's bounds, underived and without error, and any other failing answer ends the run
with that failure under its context. An engine run with explicit prices is the same whatever
lending calculator the engine holds. -/
theorem explicit_bounds_gate_lending :
    (∀ {σ : Type} (cal : Option (Calculator (StateM σ))) (inp : Input) (b : Bounds),
      Answers (Calculator.bounds cal inp) (.ok b) →
      (inp.minBuy.valid = true → b.minBuy = inp.minBuy) ∧ (inp.maxBuy.valid = true → b.maxBuy = inp.maxBuy)) ∧
    (∀ {σ : Type} (cal : Option (Calculator (StateM σ))) (inp : Input) (s : σ × List Asked),
      ∃ calls, ((Calculator.bounds (cal.map Calculator.observe) inp).run s).2.2 = s.2 ++ calls ∧
        Asks cal inp calls ((Calculator.bounds (cal.map Calculator.observe) inp).run s).1) ∧
    (∀ {m : Type → Type} [Monad m] (e : Engine m) (opts : PricingOptions), opts.hasExplicitPair = true →
      ∀ lending, ({ e with lending := lending } : Engine m).run opts = e.run opts) :=
  ⟨fun _ _ _ h => Calculator.bounds_keeps_explicit h, Calculator.bounds_observe,
    fun e _ h lending => e.run_explicit_ignores_lending h lending⟩

/-- A calculator with a market at 5% and a mid of 2 keeps a given minimum of 3 and derives the
maximum 2.00002; a run of the fixed engine with explicit prices is the same without its
calculator. -/
theorem explicit_minimum_beside_derived_maximum :
    let cal : Option (Calculator (StateM Unit)) :=
      some ⟨some ⟨pure (.ok 0.05), pure (.ok (.set 2 0))⟩, none, ⟨0, defaultFloor, defaultPremium⟩, Logger.nop⟩
    let inp : Input := ⟨.set 3 0, .unset, .unset, 0, none, none⟩
    let b : Bounds := ⟨.set 3 0, .set 2000020000000000000000000000000000000 36, 0.05, apy 0.05, 0, true, false⟩
    let opts : PricingOptions :=
      { feeOptions with buyPrice := some (Decimal.ofInt 2), sellPrice := some (Decimal.ofInt 3) }
    (Answers (Calculator.bounds cal inp) (.ok b) ∧ opts.hasExplicitPair = true) ∧
      (b.minBuy = inp.minBuy ∧
        ∃ calls, ((Calculator.bounds (cal.map Calculator.observe) inp).run ((), [])).2.2 = [] ++ calls ∧
          Asks cal inp calls ((Calculator.bounds (cal.map Calculator.observe) inp).run ((), [])).1) ∧
      ({ fixedEngine with lending := none } : Engine (StateM Unit)).run opts = fixedEngine.run opts := by
  intro cal inp b opts
  have hmax : maxBuyPrice (.set 2 0) (.set 3 0) defaultPremium = .ok (.set 2000020000000000000000000000000000000 36, false) := by
    rfl
  have hb : Answers (Calculator.bounds cal inp) (.ok b) := ⟨(), by
    simp only [cal, inp, b, Calculator.bounds, Calculator.withMin, Calculator.withMax, pure_bind, hmax, Price.valid,
      Bool.and_false, Bool.false_eq_true, if_false, if_true, Option.getD_none, Bool.not_true]
    rfl⟩
  have hx : opts.hasExplicitPair = true := rfl
  exact ⟨⟨hb, hx⟩, ⟨(explicit_bounds_gate_lending.1 cal inp b hb).1 rfl, explicit_bounds_gate_lending.2.1 cal inp ((), [])⟩,
    explicit_bounds_gate_lending.2.2 fixedEngine opts hx none⟩

end Gate

end QuoteKeeper
