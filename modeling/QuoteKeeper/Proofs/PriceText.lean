import QuoteKeeper.Proofs.DecimalText
/-
  QuoteKeeper.Proofs.PriceText — a price's text, and reading a price from text.

  A set price `set v s` is written as the decimal `v · 10^e`, `e` being the exponent `-s`
  kept in 32 bits (`wrapExp`). Text is read as a decimal, moved to scale `k` by adding `k`
  to its exponent, again in 32 bits, and truncated toward zero. While the exponents stay in
  32 bits neither wrap does anything: the text is worth the price, and reading at scale `k`
  truncates the text's value times `10^k`. Since both wraps drop the same multiples of
  `2^32`, reading a price's text at its own scale gives the price back for every scale but
  those `2^31` past a multiple of `2^32`.

  (1) `parse_numeral`, `parse_numeral_of_fits`, `parse_error`: every numeral reads at every
      scale, as its coefficient times ten to its exponent plus the scale, that sum kept in
      32 bits, truncated; any other text is an error that quotes it.
  (2) `toString_set_numeral`, `toString_set_zero`, `toString_of_neg_scale`: the text of a
      price is a plain numeral; zero is `0`, and a negative scale writes the integer and as
      many zeros.
  (3) `parse_toString`, `ofDecimal_toDecimal`: the round trips.
  (4) `price_text_round_trip`: all of it for one price and every text. Outside 32 bits the
      wrap shows: `parse_wraps_scale` reads `1` at scale `-(2^32 - 1)`, which is `1` in 32 bits,
      and gets `10` where truncating `1 · 10^-(2^32 - 1)` gives `0`.
-/

namespace QuoteKeeper

namespace Decimal

theorem wrapExp_fits (x : Int) : expFits (wrapExp x) := by
  simp only [expFits, wrapExp]
  split <;> simp <;> omega

theorem wrapExp_of_fits {x : Int} (h : expFits x) : wrapExp x = x := by
  simp only [expFits, decide_eq_true_eq] at h
  simp only [wrapExp]
  split <;> omega

/-- Adding a scale to an exponent that was written at minus that scale, both in 32 bits: the
two wraps cancel unless minus the scale wraps to `-2^31`. -/
theorem wrapExp_add_of_le {s e : Int} (hs : s % 4294967296 ≠ 2147483648)
    (h1 : min (wrapExp (-s)) 0 ≤ e) (h2 : e ≤ 0) : wrapExp (e + s) = e - wrapExp (-s) := by
  simp only [wrapExp] at h1 ⊢
  split_ifs at h1 ⊢ <;> omega

end Decimal

namespace Price

theorem toString_set (v s : Int) :
    (set v s).toString = Decimal.toString ⟨v, Decimal.wrapExp (-s)⟩ := rfl

/-! ## (1) Reading -/

/-- Every numeral reads at every scale `k`: its coefficient times ten to its exponent plus `k`,
that sum kept in 32 bits, truncated toward zero. -/
theorem parse_numeral (n : Decimal.Numeral) (k : Int) :
    parse (String.ofList n.text) k =
      .ok (.set (towardZero ((n.value.coef : ℚ) * 10 ^ Decimal.wrapExp (n.value.exp + k))) k) := by
  rw [parse, Decimal.ofString?_numeral]
  simp only [ofDecimal, Decimal.shift, Decimal.trunc_eq_towardZero, Decimal.val]

/-- Within 32 bits, reading at scale `k` truncates the numeral's value times `10^k`. -/
theorem parse_numeral_of_fits (n : Decimal.Numeral) {k : Int}
    (h : Decimal.expFits (n.value.exp + k)) :
    parse (String.ofList n.text) k = .ok (.set (towardZero (n.value.val * 10 ^ k)) k) := by
  rw [parse_numeral, Decimal.wrapExp_of_fits h, zpow_add₀ (by norm_num), ← mul_assoc]
  rfl

/-- A text that is no numeral is an error naming it, at every scale. -/
theorem parse_error {text : String} (h : ¬∃ n : Decimal.Numeral, text.toList = n.text)
    (k : Int) :
    ∃ msg, parse text k = .error (.plain ("parse price " ++ Text.quoted text ++ ": " ++ msg)) := by
  unfold parse
  split
  next d hd =>
    obtain ⟨n, hn, -⟩ := Decimal.ofString?_eq_ok hd
    exact absurd ⟨n, hn⟩ h
  next e _ => exact ⟨e.message, rfl⟩

/-! ## (2) Writing -/

/-- A price's text is a plain numeral worth `v` times ten to the exponent `-s` in 32 bits. -/
theorem toString_set_numeral (v s : Int) :
    ∃ n : Decimal.Numeral, (set v s).toString.toList = n.text ∧ n.Plain ∧
      n.value.val = v * 10 ^ Decimal.wrapExp (-s) ∧
      min (Decimal.wrapExp (-s)) 0 ≤ n.value.exp ∧ n.value.exp ≤ 0 := by
  have hlo : -2147483648 ≤ Decimal.wrapExp (-s) := by
    have := Decimal.wrapExp_fits (-s)
    simp only [Decimal.expFits, decide_eq_true_eq] at this
    exact this.1
  exact Decimal.toString_numeral ⟨v, Decimal.wrapExp (-s)⟩ hlo

theorem toString_set_zero (s : Int) : (set 0 s).toString = "0" := by
  rw [toString_set, Decimal.toString_zero_coef]

/-- At a negative scale, a nonzero price is written as its integer and `-s` zeros. -/
theorem toString_of_neg_scale {v s : Int} (hv : v ≠ 0) (hs : s < 0) (hs' : -s ≤ 2147483647) :
    (set v s).toString = intText v ++ String.ofList (List.replicate (-s).toNat '0') := by
  have hw : Decimal.wrapExp (-s) = -s :=
    Decimal.wrapExp_of_fits (by simp only [Decimal.expFits, decide_eq_true_eq]; omega)
  rw [toString_set, hw, ← String.toList_inj, Decimal.toString_of_exp_nonneg hv (by omega),
    String.toList_append, String.toList_ofList]

/-! ## (3) Round trips -/

/-- Reading a price's text at its scale gives the price back, unless `-s` wraps to `-2^31`. -/
theorem parse_toString {v s : Int} (hs : s % 4294967296 ≠ 2147483648) :
    parse (set v s).toString s = .ok (.set v s) := by
  obtain ⟨n, htext, -, hval, hlo, hhi⟩ := toString_set_numeral v s
  have hstr : (set v s).toString = String.ofList n.text := by
    rw [← htext, String.ofList_toList]
  -- the text is `v · 10^w` written at exponent `e`, read back at `e - w`
  have hv : (n.value.coef : ℚ) * 10 ^ (n.value.exp - Decimal.wrapExp (-s)) = v := by
    have hval' : (n.value.coef : ℚ) * 10 ^ n.value.exp = v * 10 ^ Decimal.wrapExp (-s) := hval
    rw [zpow_sub₀ (by norm_num), ← mul_div_assoc, hval']
    field_simp
  rw [hstr, parse_numeral, Decimal.wrapExp_add_of_le hs hlo hhi, hv, towardZero_intCast]

/-- A price's decimal, truncated back to the price's scale, is the price: the two 32-bit wraps
of the scale cancel. -/
theorem ofDecimal_toDecimal (v s : Int) : ofDecimal (set v s).toDecimal s = .set v s := by
  simp only [toDecimal, ofDecimal, Decimal.shift, Decimal.wrapExp_add_wrapExp, neg_add_cancel]
  simp [Decimal.trunc, Decimal.wrapExp, Int.pow]

/-! ## (4) Text and reading together -/

theorem price_text_round_trip (v s : Int) :
    let p := Price.set v s
    -- writing: a plain numeral worth `v · 10^w`, `w` the exponent `-s` in 32 bits
    (∃ n : Decimal.Numeral, p.toString.toList = n.text ∧ n.Plain ∧
        n.value.val = v * 10 ^ Decimal.wrapExp (-s) ∧
        (Decimal.expFits (-s) → n.value.val = p.val)) ∧
    (v = 0 → p.toString = "0") ∧
    (v ≠ 0 → s < 0 → -s ≤ 2147483647 →
        p.toString = intText v ++ String.ofList (List.replicate (-s).toNat '0')) ∧
    -- reading back
    (s % 4294967296 ≠ 2147483648 → parse p.toString s = .ok p) ∧
    ofDecimal p.toDecimal s = p ∧
    -- reading any text
    (∀ (n : Decimal.Numeral) (k : Int),
        parse (String.ofList n.text) k =
          .ok (.set (towardZero ((n.value.coef : ℚ) * 10 ^ Decimal.wrapExp (n.value.exp + k))) k) ∧
        (Decimal.expFits (n.value.exp + k) →
          parse (String.ofList n.text) k = .ok (.set (towardZero (n.value.val * 10 ^ k)) k))) ∧
    (∀ (text : String) (k : Int), (¬∃ n : Decimal.Numeral, text.toList = n.text) →
        ∃ msg, parse text k = .error (.plain ("parse price " ++ Text.quoted text ++ ": " ++ msg))) := by
  intro p
  obtain ⟨n, htext, hplain, hval, -⟩ := toString_set_numeral v s
  refine ⟨⟨n, htext, hplain, hval, fun hfits => ?_⟩, ?_, fun hv hs hs' => toString_of_neg_scale hv hs hs',
    parse_toString, ofDecimal_toDecimal v s,
    fun n k => ⟨parse_numeral n k, parse_numeral_of_fits n⟩, fun text k h => parse_error h k⟩
  · rw [hval, Decimal.wrapExp_of_fits hfits, val_set]
  · rintro rfl
    exact toString_set_zero s

/-- `0.9995` at scale 36: written as `0.9995` and read back at that scale. -/
theorem price_text_at_price_scale :
    (Price.set 999500000000000000000000000000000000 36).toString = "0.9995" ∧
      parse "0.9995" 36 = .ok (.set 999500000000000000000000000000000000 36) := by
  have htext : (Price.set 999500000000000000000000000000000000 36).toString = "0.9995" := by
    decide
  have hback := (price_text_round_trip 999500000000000000000000000000000000 36).2.2.2.1
    (by decide)
  rw [htext] at hback
  exact ⟨htext, hback⟩

/-- Reading `1` at scale `-(2^32 - 1)`: that scale is `1` in 32 bits, so the integer read is
`10`, where truncating the text's value `1` times `10^-(2^32 - 1)` gives `0`. -/
theorem parse_wraps_scale :
    (∃ n : Decimal.Numeral, "1".toList = n.text ∧ n.value.val = 1) ∧
      parse "1" (-4294967295) = .ok (.set 10 (-4294967295)) ∧
      towardZero (1 * 10 ^ (-4294967295 : Int)) = 0 := by
  refine ⟨?_, by rfl, ?_⟩
  · obtain ⟨n, hn, hd⟩ := Decimal.ofString?_eq_ok (s := "1") (d := ⟨1, 0⟩) (by rfl)
    exact ⟨n, hn, by rw [hd]; simp [Decimal.val]⟩
  · have hpos : (0 : ℚ) ≤ 1 * 10 ^ (-4294967295 : Int) := by positivity
    have hlt : (1 : ℚ) * 10 ^ (-4294967295 : Int) < 1 := by
      rw [one_mul]
      exact zpow_lt_one_of_neg₀ (by norm_num) (by norm_num)
    rw [towardZero, if_pos hpos, Int.floor_eq_zero_iff]
    exact ⟨hpos, hlt⟩

end Price

end QuoteKeeper
