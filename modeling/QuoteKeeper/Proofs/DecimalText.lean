import Mathlib
import QuoteKeeper.Proofs.FeeStrategy
/-
  QuoteKeeper.Proofs.DecimalText — the texts a decimal is read from, and the text it is
  written as.

  The reader (`Decimal.ofString?`) takes a *numeral*: a sign (none, `+` or `-`) and a nonempty
  run of ASCII digits, with at most one point placed anywhere among those characters (even in
  front of the sign), then an optional exponent: `e` or `E`, a sign and digits, its value in
  32 bits. A numeral stands for its signed digits times ten to the written exponent less the
  number of characters after the point, and that exponent fits in 32 bits too. `Numeral`
  carries these conditions in its fields, so that every numeral is a text the reader takes.

  (1) `ofString?_numeral`, `ofString?_eq_ok`, `ofString?_eq_ok_iff`: the reader reads exactly
      the numerals, each as the decimal it spells; every other text is an error.
  (2) `toString_numeral_whole`, `toString_numeral_fraction`, `toString_numeral`: the writer
      writes a plain numeral (`Numeral.Plain`: no `+`, no exponent, a point only between
      digits and no trailing zero after it, a minus only on a nonzero number) worth the
      decimal, at an exponent between the decimal's own and zero.
  (3) `toString_zero_coef`, `toString_of_exp_nonneg`: zero is written `0`, and a whole number
      with a nonnegative exponent as its coefficient followed by that many zeros.
-/

namespace QuoteKeeper.Decimal

/-! ## (1) Numerals -/

/-- The sign written before a run of digits. -/
inductive Sign where
  | none
  | plus
  | minus
  deriving DecidableEq, Repr

def Sign.chars : Sign → List Char
  | .none => []
  | .plus => ['+']
  | .minus => ['-']

/-- The integer a sign makes of a natural number. -/
def Sign.apply : Sign → Nat → Int
  | .minus, n => -(n : Int)
  | _, n => n

/-- A nonempty run of ASCII digits. -/
structure DigitRun where
  chars : List Char
  ne_nil : chars ≠ []
  isDigit : ∀ c ∈ chars, c.isDigit

/-- The number a run of digits spells, most significant digit first. -/
def DigitRun.value (r : DigitRun) : Nat := Nat.ofDigitChars 10 r.chars 0

/-- A written exponent: `e` or `E` (`upper`), a sign and digits, its value in 32 bits. -/
structure ExponentText where
  upper : Bool
  sign : Sign
  digits : DigitRun
  fits : expFits (sign.apply digits.value)

def ExponentText.value (x : ExponentText) : Int := x.sign.apply x.digits.value

def ExponentText.chars (x : ExponentText) : List Char :=
  (if x.upper then 'E' else 'e') :: x.sign.chars ++ x.digits.chars

def exponentChars : Option ExponentText → List Char
  | none => []
  | some x => x.chars

def exponentValue : Option ExponentText → Int
  | none => 0
  | some x => x.value

/-- How many of `len` characters stand after a point put after the first `p`, if any. -/
def placesAfter (len : Nat) : Option Nat → Nat
  | none => 0
  | some p => len - p

/-- A decimal as the reader takes it: a sign and digits, a point after the first `p` of those
characters or none, and an exponent or none; the exponent it stands for fits in 32 bits. -/
structure Numeral where
  sign : Sign
  digits : DigitRun
  point : Option Nat
  point_le : ∀ p ∈ point, p ≤ sign.chars.length + digits.chars.length
  exponent : Option ExponentText
  fits : expFits (exponentValue exponent -
    placesAfter (sign.chars.length + digits.chars.length) point)

namespace Numeral

/-- The sign and digits, without the point. -/
def body (n : Numeral) : List Char := n.sign.chars ++ n.digits.chars

def mantissa (n : Numeral) : List Char :=
  match n.point with
  | none => n.body
  | some p => n.body.take p ++ '.' :: n.body.drop p

def text (n : Numeral) : List Char := n.mantissa ++ exponentChars n.exponent

def value (n : Numeral) : Decimal :=
  ⟨n.sign.apply n.digits.value, exponentValue n.exponent - placesAfter n.body.length n.point⟩

end Numeral

/-! ### Digits and signs -/

theorem digitValue?_eq (c : Char) :
    digitValue? c = if c.isDigit then some (c.toNat - 48) else none := by
  simp [digitValue?, Char.isDigit, Char.le_def]

section DigitLoop

variable {c : Char} (cs : List Char) (acc : Nat)

/-- One step of the reader's digit loop: a digit moves the accumulator on. -/
theorem foldlM_digitValue_digit (hc : c.isDigit) :
    (c :: cs).foldlM (fun acc d => (digitValue? d).map (acc * 10 + ·)) acc =
      cs.foldlM (fun acc d => (digitValue? d).map (acc * 10 + ·)) (acc * 10 + (c.toNat - 48)) := by
  rw [List.foldlM_cons, digitValue?_eq]
  simp [hc]

/-- One step of the reader's digit loop: anything else stops it. -/
theorem foldlM_digitValue_other (hc : c.isDigit = false) :
    (c :: cs).foldlM (fun acc d => (digitValue? d).map (acc * 10 + ·)) acc = none := by
  rw [List.foldlM_cons, digitValue?_eq]
  simp [hc]

end DigitLoop

/-- The reader's digit loop, from any accumulator: it fails at the first non-digit. -/
theorem foldlM_digitValue (cs : List Char) (acc : Nat) :
    cs.foldlM (fun acc d => (digitValue? d).map (acc * 10 + ·)) acc =
      if ∀ c ∈ cs, c.isDigit then some (Nat.ofDigitChars 10 cs acc) else none := by
  induction cs generalizing acc with
  | nil => simp
  | cons c cs ih =>
    by_cases hc : c.isDigit
    · have hstep : Nat.ofDigitChars 10 (c :: cs) acc =
          Nat.ofDigitChars 10 cs (acc * 10 + (c.toNat - 48)) := by
        rw [Nat.ofDigitChars_cons, Nat.mul_comm]
        rfl
      rw [foldlM_digitValue_digit cs acc hc, ih, hstep]
      simp only [List.forall_mem_cons, hc, true_and]
    · rw [foldlM_digitValue_other cs acc (by simpa using hc)]
      simp [hc]

theorem natOfDigits?_run (r : DigitRun) : natOfDigits? r.chars = some r.value := by
  obtain ⟨cs, hne, hd⟩ := r
  cases cs with
  | nil => exact absurd rfl hne
  | cons c cs =>
    simp only [natOfDigits?]
    rw [foldlM_digitValue, if_pos hd]
    rfl

theorem natOfDigits?_eq_some {cs : List Char} {v : Nat} (h : natOfDigits? cs = some v) :
    ∃ r : DigitRun, r.chars = cs ∧ r.value = v := by
  cases cs with
  | nil => simp [natOfDigits?] at h
  | cons c cs =>
    simp only [natOfDigits?] at h
    rw [foldlM_digitValue] at h
    split at h
    · exact ⟨⟨c :: cs, List.cons_ne_nil _ _, ‹_›⟩, rfl, Option.some.inj h⟩
    · cases h

theorem DigitRun.head_isDigit (r : DigitRun) : ∃ c cs, r.chars = c :: cs ∧ c.isDigit := by
  obtain ⟨cs, hne, hd⟩ := r
  cases cs with
  | nil => exact absurd rfl hne
  | cons c cs => exact ⟨c, cs, rfl, hd c (List.mem_cons_self ..)⟩

theorem intOfText?_sign (s : Sign) (r : DigitRun) :
    intOfText? (s.chars ++ r.chars) = some (s.apply r.value) := by
  cases s with
  | plus => simp [Sign.chars, Sign.apply, intOfText?, natOfDigits?_run]
  | minus => simp [Sign.chars, Sign.apply, intOfText?, natOfDigits?_run]
  | none =>
    -- a run of digits starts with neither sign
    obtain ⟨c, cs, hcs, hc⟩ := r.head_isDigit
    have hv := natOfDigits?_run r
    rw [hcs] at hv
    simp only [Sign.chars, Sign.apply, List.nil_append, hcs]
    unfold intOfText?
    split
    · rename_i h; simp only [List.cons.injEq] at h; simp [h.1] at hc
    · rename_i h; simp only [List.cons.injEq] at h; simp [h.1] at hc
    · simp [hv]

theorem intOfText?_eq_some {cs : List Char} {c : Int} (h : intOfText? cs = some c) :
    ∃ (s : Sign) (r : DigitRun), cs = s.chars ++ r.chars ∧ c = s.apply r.value := by
  unfold intOfText? at h
  split at h
  next rest =>
    cases hr : natOfDigits? rest <;> simp [hr] at h
    obtain ⟨r, rfl, rfl⟩ := natOfDigits?_eq_some hr
    exact ⟨.plus, r, rfl, h.symm⟩
  next rest =>
    cases hr : natOfDigits? rest <;> simp [hr] at h
    obtain ⟨r, rfl, rfl⟩ := natOfDigits?_eq_some hr
    exact ⟨.minus, r, rfl, h.symm⟩
  next =>
    cases hr : natOfDigits? cs <;> simp [hr] at h
    obtain ⟨r, rfl, rfl⟩ := natOfDigits?_eq_some hr
    exact ⟨.none, r, rfl, h.symm⟩

/-! ### The exponent -/

theorem splitExponent_append (src : String) {mant : List Char}
    (hm : ∀ c ∈ mant, (c == 'e' || c == 'E') = false) (x : Option ExponentText) :
    splitExponent src (mant ++ exponentChars x) = .ok (mant, exponentValue x) := by
  cases x with
  | none =>
    simp only [exponentChars, exponentValue, List.append_nil, splitExponent]
    rw [List.findIdx?_eq_none_iff.mpr hm]
  | some x =>
    -- the first marker is the exponent's own
    have hidx : (mant ++ x.chars).findIdx? (fun c => c == 'e' || c == 'E') = some mant.length := by
      rw [List.findIdx?_append, List.findIdx?_eq_none_iff.mpr hm]
      cases hu : x.upper <;> simp [ExponentText.chars, hu, List.findIdx?_cons]
    have hrest : (mant ++ x.chars).drop (mant.length + 1) = x.sign.chars ++ x.digits.chars := by
      rw [List.drop_append]
      simp [ExponentText.chars]
    simp only [exponentChars, exponentValue, splitExponent, hidx, hrest, intOfText?_sign,
      List.take_left' rfl]
    rw [if_pos x.fits]
    rfl

theorem splitExponent_eq_ok {src : String} {cs mant : List Char} {e : Int}
    (h : splitExponent src cs = .ok (mant, e)) :
    ∃ x, cs = mant ++ exponentChars x ∧ e = exponentValue x ∧
      ∀ c ∈ mant, (c == 'e' || c == 'E') = false := by
  unfold splitExponent at h
  split at h
  next hnone =>
    cases h
    exact ⟨none, by simp [exponentChars], rfl, List.findIdx?_eq_none_iff.mp hnone⟩
  next i hi =>
    obtain ⟨hlt, hmark, hbefore⟩ := List.findIdx?_eq_some_iff_getElem.mp hi
    split at h
    · cases h
    next x hx =>
      split at h
      next hfits =>
        cases h
        obtain ⟨s, r, hrest, rfl⟩ := intOfText?_eq_some hx
        refine ⟨some ⟨cs[i] == 'E', s, r, hfits⟩, ?_, rfl, ?_⟩
        · have hm : (if (cs[i] == 'E') = true then 'E' else 'e') = cs[i] := by
            simp only [Bool.or_eq_true, beq_iff_eq] at hmark
            rcases hmark with h | h <;> simp [h]
          show cs = cs.take i ++ ((if (cs[i] == 'E') = true then 'E' else 'e') :: s.chars ++ r.chars)
          rw [hm, List.cons_append, ← hrest, ← List.drop_eq_getElem_cons hlt, List.take_append_drop]
        · intro c hc
          obtain ⟨j, hj, rfl⟩ := List.mem_take_iff_getElem.mp hc
          simpa using hbefore j (by omega)
      · cases h

/-! ### The mantissa -/

namespace Numeral

variable (n : Numeral)

theorem length_body : n.body.length = n.sign.chars.length + n.digits.chars.length := by
  simp [body]

theorem mem_body {c : Char} (h : c ∈ n.body) : c = '+' ∨ c = '-' ∨ c.isDigit := by
  rcases List.mem_append.mp h with h | h
  · cases hs : n.sign <;> simp [hs, Sign.chars] at h <;> simp [h]
  · exact .inr (.inr (n.digits.isDigit c h))

theorem point_not_mem_body : '.' ∉ n.body := fun h => by
  rcases n.mem_body h with h | h | h <;> simp at h

theorem mem_mantissa {c : Char} (h : c ∈ n.mantissa) : c = '.' ∨ c ∈ n.body := by
  unfold mantissa at h
  split at h
  · exact .inr h
  · simp only [List.mem_append, List.mem_cons] at h
    rcases h with h | h | h
    · exact .inr (List.mem_of_mem_take h)
    · exact .inl h
    · exact .inr (List.mem_of_mem_drop h)

theorem mantissa_no_marker : ∀ c ∈ n.mantissa, (c == 'e' || c == 'E') = false := by
  intro c hc
  rcases n.mem_mantissa hc with rfl | hc
  · rfl
  · rcases n.mem_body hc with rfl | rfl | hd
    · rfl
    · rfl
    · have he : c ≠ 'e' := by rintro rfl; simp at hd
      have hE : c ≠ 'E' := by rintro rfl; simp at hd
      simp [he, hE]

/-- Any part of the sign and digits has no point. -/
theorem filter_point_of_subset {l : List Char} (h : ∀ c ∈ l, c ∈ n.body) :
    l.filter (· == '.') = [] :=
  List.filter_eq_nil_iff.mpr fun c hc hp => n.point_not_mem_body (by simpa [eq_of_beq hp] using h c hc)

theorem mantissa_points_lt : (n.mantissa.filter (· == '.')).length < 2 := by
  unfold mantissa
  split
  · simp [n.filter_point_of_subset fun _ => id]
  next p _ =>
    have ht := n.filter_point_of_subset fun _ => List.mem_of_mem_take (i := p)
    have hd := n.filter_point_of_subset fun _ => List.mem_of_mem_drop (i := p)
    simp [List.filter_append, ht, hd]

theorem idxOf?_mantissa : n.mantissa.idxOf? '.' = n.point := by
  unfold mantissa
  split
  next h => rw [h]; exact List.idxOf?_eq_none_iff.mpr n.point_not_mem_body
  next p h =>
    have hp : p ≤ n.body.length := n.length_body ▸ n.point_le p (by simp [h])
    rw [h, List.idxOf?, List.findIdx?_append, List.findIdx?_eq_none_iff.mpr, List.findIdx?_cons]
    · simp [Nat.min_eq_left hp]
    · intro c hc
      have : c ≠ '.' := fun e => n.point_not_mem_body (e ▸ List.mem_of_mem_take hc)
      simpa using this

/-- Taking the point out of the mantissa gives the sign and digits back, and the characters
after it are those the numeral counts. -/
theorem erase_point {p : Nat} (h : n.point = some p) :
    n.mantissa.take p ++ n.mantissa.drop (p + 1) = n.body ∧
      n.mantissa.length - p - 1 = n.body.length - p := by
  have hp : p ≤ n.body.length := n.length_body ▸ n.point_le p (by simp [h])
  have hlen : (n.body.take p).length = p := by simp [Nat.min_eq_left hp]
  simp only [mantissa, h]
  refine ⟨?_, ?_⟩
  · have h0 : (n.body.take p).drop (p + 1) = [] := List.drop_eq_nil_of_le (by omega)
    rw [List.take_left' hlen, List.drop_append, hlen, h0]
    simp
  · simp only [List.length_append, List.length_cons, List.length_drop, hlen]
    omega

theorem intOfText?_body : intOfText? n.body = some (n.sign.apply n.digits.value) :=
  intOfText?_sign _ _

theorem value_fits : expFits n.value.exp := by
  simpa [value, length_body] using n.fits

end Numeral

/-- Taking out the first point of a text and putting it back after as many characters. -/
theorem restore_point {mant : List Char} {p : Nat} (h : mant.idxOf? '.' = some p) :
    p ≤ (mant.take p ++ mant.drop (p + 1)).length ∧
      (mant.take p ++ mant.drop (p + 1)).length = mant.length - 1 ∧
      (mant.take p ++ mant.drop (p + 1)).take p ++ '.' :: (mant.take p ++ mant.drop (p + 1)).drop p =
        mant := by
  obtain ⟨hlt, hpt, -⟩ := List.idxOf?_eq_some_iff.mp h
  have hlen : (mant.take p).length = p := by simp; omega
  refine ⟨by simp; omega, by simp; omega, ?_⟩
  rw [List.take_left' hlen, List.drop_left' hlen, ← hpt, ← List.drop_eq_getElem_cons hlt,
    List.take_append_drop]

/-! ### Reading -/

/-- Every numeral reads as the decimal it spells. -/
theorem ofString?_numeral (n : Numeral) : ofString? (String.ofList n.text) = .ok n.value := by
  have hsplit : splitExponent (String.ofList n.text) n.text =
      .ok (n.mantissa, exponentValue n.exponent) :=
    splitExponent_append _ n.mantissa_no_marker n.exponent
  have hpoints := n.mantissa_points_lt
  have hfits := n.value_fits
  simp only [ofString?, String.toList_ofList, hsplit, bind, Except.bind]
  rw [if_neg (by omega), n.idxOf?_mantissa]
  cases hp : n.point with
  | none =>
    have hm : n.mantissa = n.body := by simp [Numeral.mantissa, hp]
    have hv : n.value = ⟨n.sign.apply n.digits.value, exponentValue n.exponent⟩ := by
      simp [Numeral.value, hp, placesAfter]
    rw [hv] at hfits ⊢
    simp [hm, n.intOfText?_body, hfits, pure, Except.pure]
  | some p =>
    obtain ⟨he, hl⟩ := n.erase_point hp
    have hv : n.value = ⟨n.sign.apply n.digits.value,
        exponentValue n.exponent - ((n.body.length - p : Nat) : Int)⟩ := by
      simp [Numeral.value, hp, placesAfter]
    rw [hv] at hfits ⊢
    simp [he, hl, n.intOfText?_body, hfits, pure, Except.pure]

/-- A text that reads is a numeral, and reads as the decimal it spells. The check for a second
point only picks the message: two points already leave a point among the digits. -/
theorem ofString?_eq_ok {s : String} {d : Decimal} (h : ofString? s = .ok d) :
    ∃ n : Numeral, s.toList = n.text ∧ n.value = d := by
  simp only [ofString?, bind, Except.bind] at h
  split at h
  · cases h
  next v hsplit =>
  obtain ⟨mant, e0⟩ := v
  obtain ⟨x, hs, rfl, -⟩ := splitExponent_eq_ok hsplit
  split at h
  · cases h
  cases hi : mant.idxOf? '.' with
  | none =>
    simp only [hi] at h
    split at h
    · cases h
    next c hc =>
      split at h
      next hfits =>
        cases h
        obtain ⟨sg, r, rfl, rfl⟩ := intOfText?_eq_some hc
        refine ⟨⟨sg, r, none, by simp, x, by simpa [placesAfter] using hfits⟩, ?_, ?_⟩
        · simpa [Numeral.text, Numeral.mantissa, Numeral.body] using hs
        · simp [Numeral.value, placesAfter]
      · cases h
  | some p =>
    simp only [hi] at h
    obtain ⟨hp, hlen, hback⟩ := restore_point hi
    split at h
    · cases h
    next c hc =>
      split at h
      next hfits =>
        cases h
        obtain ⟨sg, r, hbody, rfl⟩ := intOfText?_eq_some hc
        rw [hbody] at hp hlen hback
        have hplaces : mant.length - p - 1 = (sg.chars ++ r.chars).length - p := by omega
        refine ⟨⟨sg, r, some p, by simpa using hp, x, ?_⟩, ?_, ?_⟩
        · simpa [placesAfter, hplaces] using hfits
        · rw [hs]
          simp only [Numeral.text, Numeral.mantissa, Numeral.body, hback]
        · simp [Numeral.value, placesAfter, Numeral.body, hplaces]
      · cases h

theorem ofString?_eq_ok_iff (s : String) (d : Decimal) :
    ofString? s = .ok d ↔ ∃ n : Numeral, s.toList = n.text ∧ n.value = d := by
  refine ⟨ofString?_eq_ok, ?_⟩
  rintro ⟨n, hs, rfl⟩
  rw [← String.ofList_toList (s := s), hs, ofString?_numeral]

/-! ## (2) Writing -/

/-- A minus sign before a negative number, and none before any other. -/
def Sign.ofInt (i : Int) : Sign := if i < 0 then .minus else .none

theorem Sign.apply_ofInt (i : Int) : (Sign.ofInt i).apply i.natAbs = i := by
  unfold Sign.ofInt
  split <;> rename_i h <;> simp only [Sign.apply]
  · rw [Int.ofNat_natAbs_of_nonpos (by omega), Int.neg_neg]
  · exact Int.natAbs_of_nonneg (by omega)

theorem Sign.apply_mul (s : Sign) (a b : Nat) : s.apply (a * b) = a * s.apply b := by
  cases s <;> simp [Sign.apply]

theorem Sign.ofInt_ne_plus (i : Int) : Sign.ofInt i ≠ .plus := by
  unfold Sign.ofInt
  split <;> simp

theorem Sign.ofInt_eq_minus {i : Int} (h : Sign.ofInt i = .minus) : i < 0 := by
  unfold Sign.ofInt at h
  split at h
  · assumption
  · cases h

theorem digit_of_mem_toDigits {m : Nat} {c : Char} (h : c ∈ Nat.toDigits 10 m) : c.isDigit :=
  Nat.isDigit_of_mem_toDigits (by decide) (by decide) h

theorem intText_toList (i : Int) :
    (intText i).toList = (Sign.ofInt i).chars ++ Nat.toDigits 10 i.natAbs := by
  unfold intText Sign.ofInt natText
  split <;> simp [Sign.chars]

/-- Positional text: a sign, a whole part and a fraction after a point, with no point when
there is no fraction. -/
def Numeral.positional (sign : Sign) (whole frac : List Char) (hw : whole ≠ [])
    (hd : ∀ c ∈ whole ++ frac, c.isDigit) (hf : frac.length ≤ 2147483648) : Numeral where
  sign := sign
  digits := ⟨whole ++ frac, by simp [hw], hd⟩
  point := if frac = [] then none else some (sign.chars.length + whole.length)
  point_le := by split <;> simp
  exponent := none
  fits := by
    split
    · simp [exponentValue, placesAfter, expFits]
    · simp only [exponentValue, placesAfter, expFits, List.length_append]
      simp
      omega

/-- Positional text as the writer makes it: no `+`, no exponent, a point only with a digit on
each side and the fraction not ending in `0`, and a minus sign only on a nonzero number. -/
structure Numeral.Plain (n : Numeral) : Prop where
  no_plus : n.sign ≠ .plus
  no_exponent : n.exponent = none
  point_inside : ∀ p ∈ n.point, n.sign.chars.length < p ∧ p < n.body.length
  no_trailing_zero : n.point ≠ none → n.digits.chars.getLast? ≠ some '0'
  minus_nonzero : n.sign = .minus → n.digits.value ≠ 0

section Positional

variable {sign : Sign} {whole frac : List Char} (hw : whole ≠ [])
  (hd : ∀ c ∈ whole ++ frac, c.isDigit) (hf : frac.length ≤ 2147483648)
include hw hd hf

theorem text_positional :
    (Numeral.positional sign whole frac hw hd hf).text =
      sign.chars ++ if frac = [] then whole else whole ++ '.' :: frac := by
  by_cases h : frac = []
  · subst h
    simp [Numeral.positional, Numeral.text, Numeral.mantissa, Numeral.body, exponentChars]
  · have hlen : (sign.chars ++ whole).length = sign.chars.length + whole.length := by simp
    simp only [Numeral.positional, Numeral.text, Numeral.mantissa, Numeral.body, exponentChars, h,
      if_false, ← List.append_assoc, List.take_left' hlen, List.drop_left' hlen, List.append_nil]

theorem value_positional :
    (Numeral.positional sign whole frac hw hd hf).value =
      ⟨sign.apply (Nat.ofDigitChars 10 (whole ++ frac) 0), -(frac.length : Int)⟩ := by
  by_cases h : frac = []
  · subst h
    simp [Numeral.positional, Numeral.value, exponentValue, placesAfter, DigitRun.value]
  · simp [Numeral.positional, Numeral.value, Numeral.body, exponentValue, placesAfter,
      DigitRun.value, h]

theorem plain_positional (hplus : sign ≠ .plus) (hlast : frac.getLast? ≠ some '0')
    (hminus : sign = .minus → Nat.ofDigitChars 10 (whole ++ frac) 0 ≠ 0) :
    (Numeral.positional sign whole frac hw hd hf).Plain where
  no_plus := hplus
  no_exponent := rfl
  point_inside := by
    have hw0 : 0 < whole.length := List.length_pos_iff.mpr hw
    by_cases h : frac = []
    · simp [Numeral.positional, h]
    · have hf0 : 0 < frac.length := List.length_pos_iff.mpr h
      simp [Numeral.positional, Numeral.body, h]
      omega
  no_trailing_zero := by
    by_cases h : frac = []
    · simp [Numeral.positional, h]
    · obtain ⟨x, hx⟩ := Option.ne_none_iff_exists'.mp (mt List.getLast?_eq_none_iff.mp h)
      rw [hx] at hlast
      simpa [Numeral.positional, List.getLast?_append, hx, h] using hlast
  minus_nonzero := hminus

end Positional

/-- The digits of `m` cut `k` places from the right, with zeros put in front when `m` has no
more than `k` digits: a nonempty whole part and a fraction of `k` digits that spell `m`. -/
theorem cut_digits {m k : Nat} {ds whole frac : List Char} (hds : Nat.toDigits 10 m = ds)
    (h : (if k < ds.length then (ds.take (ds.length - k), ds.drop (ds.length - k))
      else (['0'], List.replicate (k - ds.length) '0' ++ ds)) = (whole, frac)) :
    whole ≠ [] ∧ (∀ c ∈ whole ++ frac, c.isDigit) ∧ frac.length = k ∧
      Nat.ofDigitChars 10 (whole ++ frac) 0 = m := by
  subst hds
  have hpos : 0 < (Nat.toDigits 10 m).length := Nat.length_toDigits_pos
  by_cases hk : k < (Nat.toDigits 10 m).length
  · rw [if_pos hk, Prod.mk.injEq] at h
    obtain ⟨rfl, rfl⟩ := h
    have hw : ((Nat.toDigits 10 m).take ((Nat.toDigits 10 m).length - k)).length =
        (Nat.toDigits 10 m).length - k := by simp
    rw [List.take_append_drop]
    exact ⟨List.ne_nil_of_length_pos (by omega), fun c => digit_of_mem_toDigits, by simp; omega,
      Nat.ofDigitChars_ten_toDigits⟩
  · rw [if_neg hk, Prod.mk.injEq] at h
    obtain ⟨rfl, rfl⟩ := h
    refine ⟨by simp, ?_, by simp; omega, ?_⟩
    · intro c hc
      simp only [List.mem_append, List.mem_singleton, List.mem_replicate] at hc
      rcases hc with rfl | ⟨-, rfl⟩ | hc
      · rfl
      · rfl
      · exact digit_of_mem_toDigits hc
    · -- zeros in front add nothing
      rw [← List.append_assoc, Nat.ofDigitChars_append, List.singleton_append, ← List.replicate_succ,
        Nat.ofDigitChars_replicate_zero, Nat.mul_zero, Nat.ofDigitChars_ten_toDigits]

/-- Trailing zeros dropped: what is left does not end in `0`, and the zeros put back give the
list. -/
theorem trim_zeros (l : List Char) :
    ∃ t : Nat, l = (l.reverse.dropWhile (· == '0')).reverse ++ List.replicate t '0' ∧
      (l.reverse.dropWhile (· == '0')).reverse.getLast? ≠ some '0' := by
  -- the zeros taken off the end, read from the end
  obtain ⟨t, hz⟩ : ∃ t, l.reverse.takeWhile (· == '0') = List.replicate t '0' :=
    ⟨_, List.eq_replicate_iff.mpr ⟨rfl, fun c hc => by
      simpa using List.all_eq_true.mp List.all_takeWhile c hc⟩⟩
  refine ⟨t, ?_, ?_⟩
  · calc l = (l.reverse.takeWhile (· == '0') ++ l.reverse.dropWhile (· == '0')).reverse := by
          rw [List.takeWhile_append_dropWhile, List.reverse_reverse]
      _ = _ := by rw [List.reverse_append, hz, List.reverse_replicate]
  · -- what `dropWhile` leaves does not start with a zero
    rw [List.getLast?_reverse]
    intro h0
    have := List.head?_dropWhile_not (· == '0') l.reverse
    rw [h0] at this
    simp at this

/-- A whole number is written as the integer it is. -/
theorem toString_numeral_whole (d : Decimal) (he : 0 ≤ d.exp) :
    ∃ n : Numeral, (toString d).toList = n.text ∧ n.Plain ∧ n.value.val = d.val ∧
      min d.exp 0 ≤ n.value.exp ∧ n.value.exp ≤ 0 := by
  set i := d.coef * Int.pow 10 d.exp.toNat with hi
  have hdig : ∀ c ∈ Nat.toDigits 10 i.natAbs ++ [], c.isDigit := fun c hc =>
    digit_of_mem_toDigits (by simpa using hc)
  refine ⟨Numeral.positional (Sign.ofInt i) (Nat.toDigits 10 i.natAbs) [] Nat.toDigits_ne_nil
    hdig (by simp), ?_, ?_, ?_, ?_, ?_⟩
  · rw [toString, if_pos he, text_positional, intText_toList, if_pos rfl]
  · refine plain_positional _ _ _ (Sign.ofInt_ne_plus i) (by simp) fun hm => ?_
    have := Sign.ofInt_eq_minus hm
    simp
    omega
  · rw [value_positional]
    simp only [List.append_nil, Nat.ofDigitChars_ten_toDigits, Sign.apply_ofInt, val, hi,
      Int.cast_mul, cast_intPow, List.length_nil, Nat.cast_zero, neg_zero, zpow_zero, mul_one]
    rw [← zpow_natCast, Int.toNat_of_nonneg he]
  · rw [value_positional]; simp
  · rw [value_positional]; simp

/-- A decimal with a negative exponent is written with a point `-exp` digits from the right,
the fraction's trailing zeros dropped. -/
theorem toString_numeral_fraction (d : Decimal) (h : -2147483648 ≤ d.exp) (he : d.exp < 0) :
    ∃ n : Numeral, (toString d).toList = n.text ∧ n.Plain ∧ n.value.val = d.val ∧
      min d.exp 0 ≤ n.value.exp ∧ n.value.exp ≤ 0 := by
  rw [toString, if_neg (by omega)]
  dsimp only
  generalize hds : Nat.toDigits 10 d.coef.natAbs = ds
  generalize hk : (-d.exp).toNat = k
  generalize hwf : (if k < ds.length then (ds.take (ds.length - k), ds.drop (ds.length - k))
    else (['0'], List.replicate (k - ds.length) '0' ++ ds)) = wf
  obtain ⟨whole, frac⟩ := wf
  obtain ⟨hw, hdig, hlen, hval⟩ := cut_digits hds hwf
  obtain ⟨t, hfrac, hlast⟩ := trim_zeros frac
  generalize (frac.reverse.dropWhile (· == '0')).reverse = frac' at hfrac hlast ⊢
  have hdig' : ∀ c ∈ whole ++ frac', c.isDigit := fun c hc =>
    hdig c (by rw [hfrac, ← List.append_assoc]; exact List.mem_append_left _ hc)
  have hflen : frac'.length + t = k := by rw [← hlen, hfrac]; simp
  have hexp : d.exp = -(frac'.length : Int) - t := by omega
  -- the digits written are the coefficient's, less the `t` zeros dropped
  have hV : 10 ^ t * Nat.ofDigitChars 10 (whole ++ frac') 0 = d.coef.natAbs := by
    rw [← hval, hfrac, ← List.append_assoc, eq_comm, Nat.ofDigitChars_append,
      Nat.ofDigitChars_replicate_zero]
  refine ⟨Numeral.positional (Sign.ofInt d.coef) whole frac' hw hdig' (by omega),
    ?_, ?_, ?_, ?_, ?_⟩
  · rw [text_positional]
    unfold Sign.ofInt
    by_cases hc : d.coef < 0 <;> simp [hc, Sign.chars, List.isEmpty_iff]
  · refine plain_positional _ _ _ (Sign.ofInt_ne_plus _) hlast fun hm hz => ?_
    have := Sign.ofInt_eq_minus hm
    rw [hz, Nat.mul_zero] at hV
    omega
  · have hc : (d.coef : ℚ) = 10 ^ t * ((Sign.ofInt d.coef).apply
        (Nat.ofDigitChars 10 (whole ++ frac') 0) : Int) := by
      conv_lhs => rw [← Sign.apply_ofInt d.coef, ← hV, Sign.apply_mul]
      push_cast
      rfl
    rw [value_positional]
    simp only [val]
    rw [hc, hexp, zpow_sub₀ (by norm_num), zpow_natCast]
    field_simp
  · rw [value_positional]; simp; omega
  · rw [value_positional]; simp

/-- What the writer writes is a plain numeral worth the decimal, at an exponent between the
decimal's own (or zero) and zero. -/
theorem toString_numeral (d : Decimal) (h : -2147483648 ≤ d.exp) :
    ∃ n : Numeral, (toString d).toList = n.text ∧ n.Plain ∧ n.value.val = d.val ∧
      min d.exp 0 ≤ n.value.exp ∧ n.value.exp ≤ 0 := by
  by_cases he : 0 ≤ d.exp
  · exact toString_numeral_whole d he
  · exact toString_numeral_fraction d h (by omega)

/-! ## (3) Zeros -/

theorem toDigits_mul_pow (n k : Nat) (hn : 0 < n) :
    Nat.toDigits 10 (n * 10 ^ k) = Nat.toDigits 10 n ++ List.replicate k '0' := by
  induction k with
  | zero => simp
  | succ k ih =>
    have h := Nat.toDigits_append_toDigits (b := 10) (d := 0) (by decide)
      (Nat.mul_pos hn (Nat.pow_pos (by decide) : 0 < 10 ^ k)) (by decide)
    rw [ih, Nat.toDigits_zero, Nat.add_zero] at h
    rw [Nat.pow_succ, ← Nat.mul_assoc, Nat.mul_comm _ 10, ← h, List.replicate_succ',
      List.append_assoc]

/-- A nonzero whole number with a nonnegative exponent is written as its coefficient followed
by that many zeros. -/
theorem toString_of_exp_nonneg {c : Int} {e : Int} (hc : c ≠ 0) (he : 0 ≤ e) :
    (toString ⟨c, e⟩).toList = (intText c).toList ++ List.replicate e.toNat '0' := by
  have hpos : (0 : Int) < Int.pow 10 e.toNat := Int.pow_pos (by decide)
  have hsign : Sign.ofInt (c * Int.pow 10 e.toNat) = Sign.ofInt c := by
    unfold Sign.ofInt
    by_cases h : c < 0
    · rw [if_pos h, if_pos (Int.mul_neg_of_neg_of_pos h hpos)]
    · rw [if_neg h, if_neg (by have := Int.mul_nonneg (by omega : 0 ≤ c) hpos.le; omega)]
  have habs : (c * Int.pow 10 e.toNat).natAbs = c.natAbs * 10 ^ e.toNat := by
    rw [Int.natAbs_mul]
    rfl
  rw [toString, if_pos he]
  dsimp only
  rw [intText_toList, intText_toList, hsign, habs, toDigits_mul_pow _ _ (Int.natAbs_pos.mpr hc),
    List.append_assoc]

/-- Zero is written `0`, whatever its exponent. -/
theorem toString_zero_coef (e : Int) : toString ⟨0, e⟩ = "0" := by
  by_cases he : 0 ≤ e
  · simp [toString, he, intText, natText]
  · simp [toString, he]

end QuoteKeeper.Decimal
