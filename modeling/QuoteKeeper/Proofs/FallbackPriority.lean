import Mathlib
import QuoteKeeper.Reference.Fallback
import QuoteKeeper.Proofs.EngineStages
/-
  QuoteKeeper.Proofs.FallbackPriority — the fallback provider chooses by priority, whatever
  order its providers answer in.

  The fallback asks all its providers at once. Each fetch writes its provider's result into
  that provider's own slot of a slice of zero results, so once every fetch has finished the
  slice is the same whatever order they finished in (`slice`), and it is the list that
  `Fallback.fetchAll` answers. The providers act on a world `σ`, may change it as they like,
  and each answers one fixed outcome from every state of it (`Yields`, from
  `Proofs.EngineStages`): a list of such providers with their answers is a list of stubs.

  The choice then scans the results in provider order. An error that carries
  `quoteUnavailable` (`Fallback.unavailable`) is passed over with a warning, the first success
  is the answer, and the first other error is the answer as it is.

  Proved:
  (1) `getElem?_fill`, `slice_of_perm`: after the fetches finish in any order, each slot
      holds its own provider's result.
  (2) `fetchAll_yields`: the fetch answers one result per provider, in provider order, with
      the provider's name and answer.
  (3) `pick_skips_unavailable`, `pick_ok_head`, `pick_hard_head`, `pick_all_unavailable`:
      the scan, one lemma per case of `Fallback.pick`.
  (4) `getPrice_by_priority`: the whole rule, for every list of stubs and every order of
      completion; `getPrice_passes_over_unavailable` runs it on two stubs.
-/

namespace QuoteKeeper

/-- The zero result a slot holds until its fetch writes it. -/
def FetchResult.zero : FetchResult := ⟨"", .ok Quote.empty⟩

namespace Fallback

/-- An answer the fallback passes over: an error that carries `quoteUnavailable`. -/
def unavailable : Outcome Quote → Bool
  | .error e => e.has .quoteUnavailable
  | .ok _ => false

/-- The slice `s` after the fetches listed in `order` have finished, in that order, each one
writing its result into its own provider's slot. -/
def fill (results : List FetchResult) (order : List (Fin results.length)) (s : List FetchResult) :
    List FetchResult :=
  order.foldl (fun s (i : Fin results.length) => s.set i results[i]) s

/-- The slice of zero results once the fetches have finished in the order `order`. -/
def slice (results : List FetchResult) (order : List (Fin results.length)) : List FetchResult :=
  fill results order (List.replicate results.length FetchResult.zero)

/-- The result each stub's fetch records: the provider's name and its answer. -/
def recorded {m : Type → Type} (stubs : List (Provider m × Outcome Quote)) : List FetchResult :=
  stubs.map fun s => ⟨s.1.name, s.2⟩

/-! ## (1) Each fetch writes its own slot -/

section Slots

variable (results : List FetchResult)

theorem length_fill (order : List (Fin results.length)) (s : List FetchResult) :
    (fill results order s).length = s.length := by
  induction order generalizing s with
  | nil => rfl
  | cons k order ih => exact (ih _).trans List.length_set

/-- A slot holds its provider's result once that provider's fetch is among those finished,
and what it held before otherwise. -/
theorem getElem?_fill (order : List (Fin results.length)) (s : List FetchResult)
    (hs : s.length = results.length) (i : Fin results.length) :
    (fill results order s)[(i : Nat)]? = if i ∈ order then some results[i] else s[(i : Nat)]? := by
  induction order generalizing s with
  | nil => simp [fill]
  | cons k order ih =>
    have hset : (s.set k results[k]).length = results.length := List.length_set.trans hs
    -- the write of `k` lands in slot `k` only; the later writes are the induction
    show (fill results order (s.set k results[k]))[(i : Nat)]? = _
    rw [ih _ hset, List.getElem?_set]
    by_cases hki : k = i
    · subst hki
      simp [hs]
    · have hval : (k : Nat) ≠ i := fun h => hki (Fin.ext h)
      simp [hval, Ne.symm hki]

/-- Once all fetches have finished, in any order, the slice holds each provider's result in
its provider's place. -/
theorem slice_of_perm {order : List (Fin results.length)} (h : order.Perm (List.finRange results.length)) :
    slice results order = results := by
  have hlen : (List.replicate results.length FetchResult.zero).length = results.length :=
    List.length_replicate
  apply List.ext_getElem?
  intro j
  by_cases hj : j < results.length
  · have hmem : (⟨j, hj⟩ : Fin results.length) ∈ order := h.mem_iff.mpr (List.mem_finRange _)
    rw [slice, getElem?_fill results order _ hlen ⟨j, hj⟩, if_pos hmem]
    simp
  · have hslice : (slice results order).length = results.length := (length_fill _ _ _).trans hlen
    rw [List.getElem?_eq_none (by omega), List.getElem?_eq_none (by omega)]

end Slots

variable {σ : Type} (log : Logger (StateM σ))

/-! ## (2) The fetch -/

/-- Asking stubs answers one result per provider, in provider order. -/
theorem fetchAll_yields (stubs : List (Provider (StateM σ) × Outcome Quote)) (pair : Pair)
    (amount : Option Int) (h : ∀ s ∈ stubs, Yields (s.1.getPrice pair amount) s.2) :
    Yields (fetchAll (stubs.map Prod.fst) pair amount) (recorded stubs) := by
  induction stubs with
  | nil => exact Yields.pure []
  | cons s stubs ih =>
    have hs : Yields (s.1.getPrice pair amount) s.2 := h s List.mem_cons_self
    have hrest := ih fun s' hs' => h s' (List.mem_cons_of_mem s hs')
    -- the head's fetch, the rest's, and the two put together
    simp only [fetchAll, List.map_cons, List.mapM_cons] at hrest ⊢
    exact Yields.bind (Yields.bind hs (Yields.pure _)) (Yields.bind hrest (Yields.pure _))

/-! ## (3) The scan -/

/-- Unavailable answers before `rest` are passed over. -/
theorem pick_skips_unavailable {pre rest : List FetchResult} {o : Outcome Quote}
    (hpre : ∀ r ∈ pre, unavailable r.outcome) (h : Yields (pick log rest) o) :
    Yields (pick log (pre ++ rest)) o := by
  induction pre with
  | nil => exact h
  | cons r pre ih =>
    have hrest := ih fun r' hr' => hpre r' (List.mem_cons_of_mem r hr')
    have hr := hpre r List.mem_cons_self
    -- the head is an unavailable error: its warning, then the rest of the scan
    rcases hout : r.outcome with e | q
    · have he : e.has .quoteUnavailable := by simpa [unavailable, hout] using hr
      simp only [List.cons_append, pick, hout, he, if_true]
      exact Yields.bind_any fun _ => hrest
    · simp [unavailable, hout] at hr

theorem pick_ok_head {r : FetchResult} {q : Quote} (hr : r.outcome = .ok q) (rest : List FetchResult) :
    Yields (pick log (r :: rest)) (.ok q) := by
  simp only [pick, hr]
  exact Yields.pure _

theorem pick_hard_head {r : FetchResult} {e : Failure} (hr : r.outcome = .error e)
    (he : e.has .quoteUnavailable = false) (rest : List FetchResult) :
    Yields (pick log (r :: rest)) (.error e) := by
  simp only [pick, hr, he]
  exact Yields.pure _

theorem pick_all_unavailable {rs : List FetchResult} (h : ∀ r ∈ rs, unavailable r.outcome) :
    Yields (pick log rs) (.error (Failure.because "all reference providers" .quoteUnavailable)) := by
  rw [← List.append_nil rs]
  exact pick_skips_unavailable log h (Yields.pure _)

/-! ## (4) The fallback's answer -/

theorem getPrice_nil (pair : Pair) (amount : Option Int) :
    Yields (getPrice log [] pair amount) (.error (Failure.because "no reference providers" .quoteUnavailable)) :=
  Yields.pure _

theorem getPrice_yields {ps : List (Provider (StateM σ))} {pair : Pair} {amount : Option Int}
    {rs : List FetchResult} {o : Outcome Quote} (hne : ps ≠ []) (hf : Yields (fetchAll ps pair amount) rs)
    (hp : Yields (pick log rs) o) : Yields (getPrice log ps pair amount) o := by
  have hempty : ps.isEmpty = false := List.isEmpty_eq_false_iff.mpr hne
  simp only [getPrice, hempty]
  exact Yields.bind hf hp

theorem unavailable_recorded {stubs : List (Provider (StateM σ) × Outcome Quote)}
    (h : ∀ s ∈ stubs, unavailable s.2) : ∀ r ∈ recorded stubs, unavailable r.outcome := by
  intro r hr
  obtain ⟨s, hs, rfl⟩ := List.mem_map.mp hr
  exact h s hs

/-- The fallback over stubs answers by priority: the first success when every provider
before it was unavailable, the first other error as it is when every provider before it
was unavailable, and a `quoteUnavailable` error when all were unavailable or there were
none. Its fetch answers each provider's name and answer in provider order, and this is the
slice the concurrent fetches leave, whatever order they finished in. -/
theorem getPrice_by_priority (stubs : List (Provider (StateM σ) × Outcome Quote)) (pair : Pair)
    (amount : Option Int) (h : ∀ s ∈ stubs, Yields (s.1.getPrice pair amount) s.2) :
    (∀ order : List (Fin (recorded stubs).length), order.Perm (List.finRange (recorded stubs).length) →
      slice (recorded stubs) order = recorded stubs) ∧
    Yields (fetchAll (stubs.map Prod.fst) pair amount) (stubs.map fun s => ⟨s.1.name, s.2⟩) ∧
    (∀ pre p q post, stubs = pre ++ (p, .ok q) :: post → (∀ s ∈ pre, unavailable s.2) →
      Yields (getPrice log (stubs.map Prod.fst) pair amount) (.ok q)) ∧
    (∀ pre p e post, stubs = pre ++ (p, .error e) :: post → e.has .quoteUnavailable = false →
      (∀ s ∈ pre, unavailable s.2) → Yields (getPrice log (stubs.map Prod.fst) pair amount) (.error e)) ∧
    ((∀ s ∈ stubs, unavailable s.2) →
      ∃ e, Yields (getPrice log (stubs.map Prod.fst) pair amount) (.error e) ∧ e.has .quoteUnavailable) := by
  have hf := fetchAll_yields stubs pair amount h
  refine ⟨fun order ho => slice_of_perm _ ho, hf, ?_, ?_, ?_⟩
  · intro pre p q post hstubs hpre
    have hne : stubs.map Prod.fst ≠ [] := by simp [hstubs]
    -- the scan passes over the unavailable ones and stops at the success
    refine getPrice_yields log hne hf ?_
    rw [hstubs, recorded, List.map_append, List.map_cons]
    exact pick_skips_unavailable log (unavailable_recorded hpre) (pick_ok_head log rfl _)
  · intro pre p e post hstubs he hpre
    have hne : stubs.map Prod.fst ≠ [] := by simp [hstubs]
    refine getPrice_yields log hne hf ?_
    rw [hstubs, recorded, List.map_append, List.map_cons]
    exact pick_skips_unavailable log (unavailable_recorded hpre) (pick_hard_head log rfl he _)
  · intro hall
    cases stubs with
    | nil => exact ⟨_, getPrice_nil log pair amount, rfl⟩
    | cons s rest =>
      exact ⟨_, getPrice_yields log (List.cons_ne_nil _ _) hf (pick_all_unavailable log
        (unavailable_recorded hall)), rfl⟩

/-- Two stubs on a world with one state: `a` is unavailable, `b` answers a quote. -/
def twoStubs : List (Provider (StateM Unit) × Outcome Quote) :=
  [(⟨"a", fun _ _ => pure (.error (Failure.of .quoteUnavailable))⟩, .error (Failure.of .quoteUnavailable)),
   (⟨"b", fun _ _ => pure (.ok ⟨"b", .set 2 0, .unset, .unset⟩)⟩, .ok ⟨"b", .set 2 0, .unset, .unset⟩)]

theorem getPrice_passes_over_unavailable :
    (∀ s ∈ twoStubs, Yields (s.1.getPrice ⟨Address.zero, Address.zero⟩ none) s.2) ∧
    Yields (getPrice Logger.nop (twoStubs.map Prod.fst) ⟨Address.zero, Address.zero⟩ none)
      (.ok ⟨"b", .set 2 0, .unset, .unset⟩) := by
  have h : ∀ s ∈ twoStubs, Yields (s.1.getPrice ⟨Address.zero, Address.zero⟩ none) s.2 := by
    intro s hs
    simp only [twoStubs, List.mem_cons, List.not_mem_nil, or_false] at hs
    rcases hs with rfl | rfl <;> exact Yields.pure _
  exact ⟨h, (getPrice_by_priority Logger.nop twoStubs _ none h).2.2.1 [twoStubs[0]] _ _ [] rfl
    (by simp [unavailable, twoStubs, Failure.has, Failure.of, Failure.conditions])⟩

end Fallback

end QuoteKeeper
