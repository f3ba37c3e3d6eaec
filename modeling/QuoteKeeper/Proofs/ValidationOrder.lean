import Mathlib.Data.List.Sort
import Mathlib.Data.String.Basic
import QuoteKeeper.Config.Validate
import QuoteKeeper.Proofs.ValidatedConversions
/-
  QuoteKeeper.Proofs.ValidationOrder — how far a configuration's verdict depends on the order in
  which its maps are read.

  The ARMs, an ARM's Curve coins and its infrastructure fees are maps: their entries come in no
  order of their own. Validation visits the ARMs by name, so their order never matters while each
  name is given once (`validate_perm_arms`). Within one ARM the checks run first failure wins,
  and the coins and the fees are each searched in the order given: another order finds a problem
  exactly when this one does (`problem_isSome_of_perm`), and the same problem when at most one
  coin and at most one fee fail (`problem_eq_of_perm`). With two bad coins the first one met is
  reported, so the text of the error follows the order (`coin_order_changes_the_report`).

  Past the global checks, the error is every failing ARM's first problem in name order, one per
  line, each an invalid configuration (`validate_of_globalProblem`, `join_invalid`), and each
  problem names its ARM (`names_problem`).

  Proved:
  (1) `findSome?_isSome_of_perm`, `findSome?_eq_of_perm`: the first hit in another order.
  (2) `lookup_perm`, `sortedNames_perm`, `armProblems_perm`, `validate_perm_arms`: the ARMs.
  (3) `sourceProblem_isSome_of_perm`, `problem_isSome_of_perm`, `problem_eq_of_perm`: the coins
      and the fees.
  (4) `join_invalid`, `validate_of_globalProblem`, `mem_armProblems`, `names_problem`: the report.
  (5) `validation_ignores_arm_order`: all of it.
-/

namespace QuoteKeeper

namespace Config

section FirstFound

variable {α β : Type} {f g : α → Option β} {l l' : List α}

theorem findSome?_isSome_of_perm (h : l.Perm l') : (l.findSome? f).isSome = (l'.findSome? f).isSome := by
  rw [List.isSome_findSome?, List.isSome_findSome?]
  exact h.any_eq

theorem findSome?_isSome_congr (h : ∀ x ∈ l, (f x).isSome = (g x).isSome) :
    (l.findSome? f).isSome = (l.findSome? g).isSome := by
  rw [List.isSome_findSome?, List.isSome_findSome?, Bool.eq_iff_iff, List.any_eq_true, List.any_eq_true]
  constructor
  · rintro ⟨x, hx, hs⟩
    exact ⟨x, hx, (h x hx) ▸ hs⟩
  · rintro ⟨x, hx, hs⟩
    exact ⟨x, hx, (h x hx).symm ▸ hs⟩

/-- When every hit gives the same answer, the first hit is the same in any order. -/
theorem findSome?_eq_of_perm (h : l.Perm l')
    (hu : ∀ x ∈ l, ∀ y ∈ l, (f x).isSome → (f y).isSome → f x = f y) :
    l.findSome? f = l'.findSome? f := by
  cases hl : l.findSome? f with
  | none =>
    rw [eq_comm, List.findSome?_eq_none_iff]
    rw [List.findSome?_eq_none_iff] at hl
    exact fun x hx => hl x (h.mem_iff.mpr hx)
  | some b =>
    obtain ⟨x, hx, hfx⟩ := List.exists_of_findSome?_eq_some hl
    have hs : (l'.findSome? f).isSome := by
      rw [← findSome?_isSome_of_perm h, hl]
      rfl
    obtain ⟨b', hb'⟩ := Option.isSome_iff_exists.mp hs
    obtain ⟨y, hy, hfy⟩ := List.exists_of_findSome?_eq_some hb'
    rw [hb', ← hfy, ← hfx]
    exact hu x hx y (h.mem_iff.mpr hy) (by rw [hfx]; rfl) (by rw [hfy]; rfl)

end FirstFound

theorem isSome_orElse {β : Type} (x y : Option β) : (x <|> y).isSome = (x.isSome || y.isSome) := by
  cases x <;> rfl

/-! ## The order of the ARMs -/

section Lookup

variable {β : Type} {l l' : List (String × β)}

theorem lookup_eq_some_iff_mem (hl : (l.map Prod.fst).Nodup) {k : String} {b : β} :
    l.lookup k = some b ↔ (k, b) ∈ l := by
  induction l with
  | nil => simp
  | cons p rest ih =>
    obtain ⟨k', b'⟩ := p
    simp only [List.map_cons, List.nodup_cons, List.mem_map] at hl
    obtain ⟨hk', hrest⟩ := hl
    rw [List.lookup_cons, List.mem_cons]
    by_cases hk : k = k'
    · subst hk
      -- a later entry cannot have the first entry's name
      have hnot : (k, b) ∉ rest := fun hm => hk' ⟨(k, b), hm, rfl⟩
      simp [hnot, eq_comm]
    · have hne : (k, b) ≠ (k', b') := fun he => hk (congrArg Prod.fst he)
      have hb : (k == k') = false := beq_eq_false_iff_ne.mpr hk
      simp only [hb, ih hrest, hne, false_or]

/-- With distinct names, looking a name up does not depend on the order of the entries. -/
theorem lookup_perm (hl : (l.map Prod.fst).Nodup) (h : l.Perm l') (k : String) :
    l.lookup k = l'.lookup k := by
  have hl' : (l'.map Prod.fst).Nodup := (h.map Prod.fst).nodup_iff.mp hl
  apply Option.ext
  intro b
  rw [lookup_eq_some_iff_mem hl, lookup_eq_some_iff_mem hl']
  exact h.mem_iff

end Lookup

theorem sortedNames_perm {β : Type} {l l' : List (String × β)} (h : l.Perm l') :
    sortedNames l = sortedNames l' :=
  List.Perm.eq_of_sortedLE List.sortedLE_mergeSort List.sortedLE_mergeSort
    ((List.mergeSort_perm _ _).trans ((h.map Prod.fst).trans (List.mergeSort_perm _ _).symm))

theorem armProblems_perm {arms arms' : List (String × ArmSettings)} (hn : (arms.map Prod.fst).Nodup)
    (h : arms.Perm arms') : armProblems arms = armProblems arms' := by
  unfold armProblems
  rw [sortedNames_perm h]
  congr 1
  funext name
  rw [lookup_perm hn h]

theorem globalProblem_arms {c : AppSettings} {arms' : List (String × ArmSettings)}
    (h : (c.arms.getD []).Perm arms') : { c with arms := some arms' }.globalProblem = c.globalProblem := by
  simp only [AppSettings.globalProblem, Option.getD_some, h.isEmpty_eq]

theorem validate_perm_arms {c : AppSettings} {arms' : List (String × ArmSettings)}
    (hn : ((c.arms.getD []).map Prod.fst).Nodup) (h : (c.arms.getD []).Perm arms') :
    { c with arms := some arms' }.validate = c.validate := by
  unfold AppSettings.validate
  rw [globalProblem_arms h]
  simp only [Option.getD_some, armProblems_perm hn h]

/-! ## The order of an ARM's coins and fees -/

/-- The ARM with the given Curve coins and infrastructure fees. -/
def ArmSettings.withMaps (a : ArmSettings) (coins : List (String × Int)) (fees : List (String × String)) :
    ArmSettings :=
  { a with curve := { a.curve with coins := some coins }, feeBps := some fees }

section Maps

variable (a : ArmSettings) (arm : String) {cs cs' : List (String × Int)} {fs fs' : List (String × String)}

theorem coinProblem_isSome (coin : String) : (coinProblem arm coin).isSome = !isHexAddress coin := by
  unfold coinProblem
  split <;> simp_all

theorem feeProblem_isSome (src fee : String) : (feeProblem arm src fee).isSome = !(nonNegative fee).isOk := by
  unfold feeProblem
  split <;> simp_all [Except.isOk, Except.toBool]

theorem sourceProblem_withMaps (s : String) :
    (a.withMaps cs fs).sourceProblem arm s =
      if !knownSources.contains s then some (arm ++ "unknown source " ++ Text.quoted s)
      else if s == "curve" then
        if a.curve.pool == "" || cs.length < 2 then some (arm ++ "curve source needs curve.pool and two coins")
        else cs.findSome? fun c => coinProblem arm c.1
      else none := rfl

theorem sourceProblem_isSome_of_perm (hc : cs.Perm cs') (s : String) :
    ((a.withMaps cs fs).sourceProblem arm s).isSome = ((a.withMaps cs' fs').sourceProblem arm s).isSome := by
  rw [sourceProblem_withMaps, sourceProblem_withMaps, hc.length_eq]
  -- the two sides now differ only in the order of the coins searched
  split_ifs
  · rfl
  · rfl
  · exact findSome?_isSome_of_perm hc
  · rfl

theorem problem_isSome_of_perm (name : String) (hc : cs.Perm cs') (hf : fs.Perm fs') :
    ((a.withMaps cs fs).problem name).isSome = ((a.withMaps cs' fs').problem name).isSome := by
  simp only [ArmSettings.problem, isSome_orElse]
  rw [findSome?_isSome_congr (fun s _ => sourceProblem_isSome_of_perm a _ hc s)]
  simp only [ArmSettings.withMaps, Option.getD_some, findSome?_isSome_of_perm hf]
  rfl

variable {a arm}

/-- At most one coin name is not a hex address. -/
def OneBadCoin (cs : List (String × Int)) : Prop :=
  ∀ x ∈ cs, ∀ y ∈ cs, isHexAddress x.1 = false → isHexAddress y.1 = false → x.1 = y.1

/-- At most one fee entry is not a decimal at least zero. -/
def OneBadFee (fs : List (String × String)) : Prop :=
  ∀ x ∈ fs, ∀ y ∈ fs, (nonNegative x.2).isOk = false → (nonNegative y.2).isOk = false → x = y

theorem sourceProblem_eq_of_perm (hc : cs.Perm cs') (hu : OneBadCoin cs) (s : String) :
    (a.withMaps cs fs).sourceProblem arm s = (a.withMaps cs' fs').sourceProblem arm s := by
  rw [sourceProblem_withMaps, sourceProblem_withMaps, hc.length_eq]
  split_ifs
  · rfl
  · rfl
  · apply findSome?_eq_of_perm hc
    intro x hx y hy hsx hsy
    rw [coinProblem_isSome, Bool.not_eq_true'] at hsx hsy
    rw [hu x hx y hy hsx hsy]
  · rfl

theorem feeProblems_eq_of_perm (hf : fs.Perm fs') (hu : OneBadFee fs) :
    fs.findSome? (fun f => feeProblem arm f.1 f.2) = fs'.findSome? (fun f => feeProblem arm f.1 f.2) := by
  apply findSome?_eq_of_perm hf
  intro x hx y hy hsx hsy
  rw [feeProblem_isSome, Bool.not_eq_true'] at hsx hsy
  rw [hu x hx y hy hsx hsy]

theorem problem_eq_of_perm (name : String) (hc : cs.Perm cs') (hf : fs.Perm fs') (hcu : OneBadCoin cs)
    (hfu : OneBadFee fs) : (a.withMaps cs fs).problem name = (a.withMaps cs' fs').problem name := by
  have hsrc : (a.withMaps cs fs).sourceProblem ("arm " ++ name ++ " ") =
      (a.withMaps cs' fs').sourceProblem ("arm " ++ name ++ " ") :=
    funext (sourceProblem_eq_of_perm hc hcu)
  simp only [ArmSettings.problem, hsrc]
  rw [show (a.withMaps cs fs).feeBps = some fs from rfl, show (a.withMaps cs' fs').feeBps = some fs' from rfl,
    Option.getD_some, Option.getD_some, feeProblems_eq_of_perm hf hfu]
  rfl

end Maps

/-! ## The report -/

/-- Invalid-configuration failures join to their messages, one per line, each with its
condition. -/
theorem join_invalid (ps : List String) :
    Failure.join (ps.map invalid) = .error ("\n".intercalate ps) (List.replicate ps.length .invalidConfig) := by
  have hnp : (ps.map invalid).find? Failure.isPanic = none := by
    rw [List.find?_eq_none]
    intro f hf
    obtain ⟨p, -, rfl⟩ := List.mem_map.mp hf
    simp [invalid, Failure.isPanic]
  -- one condition per failure
  have hrep : ps.flatMap (fun _ => [Condition.invalidConfig]) = List.replicate ps.length .invalidConfig :=
    (List.flatMap_pure_eq_map (fun _ => Condition.invalidConfig) ps).trans List.map_const'
  rw [Failure.join, hnp]
  simp [invalid, Failure.message, Failure.conditions, Function.comp_def, List.flatMap_map, hrep]

/-- Past the global checks, validation fails exactly when some ARM does, with every failing ARM's
first problem. -/
theorem validate_of_globalProblem {c : AppSettings} (hg : c.globalProblem = none) :
    c.validate =
      if armProblems (c.arms.getD []) = [] then .ok ()
      else .error (.error ("\n".intercalate (armProblems (c.arms.getD [])))
        (List.replicate (armProblems (c.arms.getD [])).length .invalidConfig)) := by
  unfold AppSettings.validate
  rw [hg]
  simp only [List.isEmpty_iff, join_invalid]

theorem mem_armProblems {arms : List (String × ArmSettings)} {m : String} :
    m ∈ armProblems arms ↔ ∃ n a, arms.lookup n = some a ∧ a.problem n = some m := by
  unfold armProblems
  rw [List.mem_filterMap]
  constructor
  · rintro ⟨n, -, h⟩
    obtain ⟨a, ha, hp⟩ := Option.bind_eq_some_iff.mp h
    exact ⟨n, a, ha, hp⟩
  · rintro ⟨n, a, ha, hp⟩
    exact ⟨n, mem_sortedNames ha, by rw [ha, Option.bind_some, hp]⟩

/-- Every message of `o` begins with `arm`. -/
def Names (arm : String) (o : Option String) : Prop := ∀ m ∈ o, ∃ rest, m = arm ++ rest

section Names

variable {arm : String}

theorem Names.none : Names arm none := by
  intro m hm
  cases hm

theorem Names.append (rest : String) : Names arm (some (arm ++ rest)) := by
  intro m hm
  cases hm
  exact ⟨rest, rfl⟩

theorem Names.orElse {x y : Option String} (hx : Names arm x) (hy : Names arm y) : Names arm (x <|> y) := by
  cases x with
  | none => exact hy
  | some m => exact hx

theorem Names.findSome? {α : Type} {f : α → Option String} {l : List α} (h : ∀ x ∈ l, Names arm (f x)) :
    Names arm (l.findSome? f) := by
  intro m hm
  obtain ⟨x, hx, hfx⟩ := List.exists_of_findSome?_eq_some hm
  exact h x hx m hfx

theorem names_addressProblem (field v : String) : Names arm (addressProblem arm field v) := by
  unfold addressProblem
  simp only [String.append_assoc]
  split
  · exact Names.append _
  · exact Names.none

theorem names_coinProblem (coin : String) : Names arm (coinProblem arm coin) := by
  unfold coinProblem
  simp only [String.append_assoc]
  split
  · exact Names.append _
  · exact Names.none

theorem names_feeProblem (src fee : String) : Names arm (feeProblem arm src fee) := by
  unfold feeProblem
  simp only [String.append_assoc]
  split
  · exact Names.append _
  · exact Names.none

theorem names_sourceProblem (a : ArmSettings) (s : String) : Names arm (a.sourceProblem arm s) := by
  unfold ArmSettings.sourceProblem
  simp only [String.append_assoc]
  split
  · exact Names.append _
  · split
    · split
      · exact Names.append _
      · exact Names.findSome? fun c _ => names_coinProblem c.1
    · exact Names.none

theorem names_settingsProblem (a : ArmSettings) : Names arm (a.settingsProblem arm) := by
  unfold ArmSettings.settingsProblem
  simp only [String.append_assoc]
  -- past the two reads that can fail, every failed check answers the prefix and a text
  cases a.lending.marketPriceAmount <;> cases a.pricingOptions <;> dsimp only <;> split_ifs <;>
    first | exact Names.none | exact Names.append _

end Names

/-- Every problem of an ARM names it first. -/
theorem names_problem (a : ArmSettings) (name : String) : Names ("arm " ++ name ++ " ") (a.problem name) := by
  unfold ArmSettings.problem
  dsimp only
  generalize "arm " ++ name ++ " " = arm
  refine Names.orElse ?_ (Names.orElse ?_ (Names.orElse ?_ (Names.orElse ?_ (names_settingsProblem a))))
  · simp only [String.append_assoc]
    split
    · exact Names.none
    · exact Names.append _
  · exact Names.findSome? fun f _ => names_addressProblem f.1 f.2
  · exact Names.findSome? fun s _ => names_sourceProblem a s
  · exact Names.findSome? fun f _ => names_feeProblem f.1 f.2

end Config

open Config in
/-- Validation does not depend on the order of the ARMs, each named once. An ARM's Curve coins and
infrastructure fees in another order fail or pass alike, and report the same problem when at most
one coin and at most one fee fail. Past the global checks, validation joins, one per line, every
failing ARM's first problem in name order, each an invalid configuration and each naming its
ARM. -/
theorem validation_ignores_arm_order (c : AppSettings) (arms' : List (String × ArmSettings)) (a : ArmSettings)
    (name m : String) (cs cs' : List (String × Int)) (fs fs' : List (String × String)) :
    ((((c.arms.getD []).map Prod.fst).Nodup → (c.arms.getD []).Perm arms' →
      { c with arms := some arms' }.validate = c.validate) ∧
    (cs.Perm cs' → fs.Perm fs' →
      ((a.withMaps cs fs).problem name).isSome = ((a.withMaps cs' fs').problem name).isSome) ∧
    (cs.Perm cs' → fs.Perm fs' → OneBadCoin cs → OneBadFee fs →
      (a.withMaps cs fs).problem name = (a.withMaps cs' fs').problem name) ∧
    (c.globalProblem = none → c.validate =
      if armProblems (c.arms.getD []) = [] then .ok ()
      else .error (.error ("\n".intercalate (armProblems (c.arms.getD [])))
        (List.replicate (armProblems (c.arms.getD [])).length .invalidConfig))) ∧
    (m ∈ armProblems (c.arms.getD []) ↔ ∃ n b, (c.arms.getD []).lookup n = some b ∧ b.problem n = some m) ∧
    (a.problem name = some m → ∃ rest, m = "arm " ++ name ++ " " ++ rest)) :=
  ⟨validate_perm_arms, problem_isSome_of_perm a name, problem_eq_of_perm name, validate_of_globalProblem,
    mem_armProblems, names_problem a name m⟩

open Config in
/-- Two Curve coins that are not hex addresses: the ARM's report names the one met first, so the
order of the coins decides the text of the error. -/
theorem coin_order_changes_the_report :
    let cfg : List (String × Int) → AppSettings := fun coins =>
      { AppSettings.zero with
        env := "dev"
        chain := ⟨"http://x", "", 0⟩
        arms := some [("a", { ArmSettings.zero with
          address := "0x85B78AcA6Deae198fBF201c82DAF6Ca21942acc6"
          source := "curve"
          curve := ⟨"0xDC24316b9AE028F1497c275EB9192a3Ea0f67022", some coins⟩ })] }
    (cfg [("weth", 0), ("usdc", 1)]).validate = .error (invalid "arm a curve coin \"weth\" is not a hex address") ∧
      (cfg [("usdc", 1), ("weth", 0)]).validate = .error (invalid "arm a curve coin \"usdc\" is not a hex address") := by
  intro cfg
  -- one ARM, named "a": the report is its first problem alone
  have hsorted : ∀ coins, sortedNames ((cfg coins).arms.getD []) = ["a"] := fun coins => by
    simp [cfg, sortedNames]
  constructor
  · rw [validate_of_globalProblem (by dsimp only [cfg]; rfl), armProblems, hsorted]
    dsimp only [cfg]
    rfl
  · rw [validate_of_globalProblem (by dsimp only [cfg]; rfl), armProblems, hsorted]
    dsimp only [cfg]
    rfl

end QuoteKeeper
