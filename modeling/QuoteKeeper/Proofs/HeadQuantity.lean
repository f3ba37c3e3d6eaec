import QuoteKeeper.Chain.Head
import Mathlib
/-
  QuoteKeeper.Proofs.HeadQuantity — which block numbers a head notification is read from.

  A node writes a quantity as `0x` and the hex numeral of the number: no leading zeros, `0`
  for zero (`Quantity.encode`). Reading accepts the prefix in either case and the digits in
  either case, and nothing else: the text must spell a number below `2^bits` that way
  (`Quantity.Spells`). The numeral printed by `Nat.toDigits` is the yardstick, so the accepted
  language is said without the reader.

  The reader's digit loop goes left to right while numerals are built right to left; the two
  meet through `digits_append`. A digit's value does not depend on its case
  (`value?_toLower`), so reading may be compared with the lowercase numeral.

  Proved:
  (1) `value?_eq`, `toNat_toLower`, `value?_toLower`, `toLower_of_value?`: hex digits, by code.
  (2) `digits_cons_eq_ok`: one step of the digit loop. `digits_append`, `digits_toDigits`,
      `toDigits_of_digits`: reading a numeral gives its number, and a digit string read without
      leading zero is the numeral of what it gives.
  (3) `decode_eq_ok_iff`: reading accepts exactly the texts that spell a number in range;
      `decode_encode`: it reads back every number it could have written.
  (4) `Spells.digits`, `spells_of_digits`: the spelt texts are `0x`/`0X` and 1 to 16 hex digits
      without a leading zero, and every such text spells a 64-bit number.
  (5) `head_parse_canonical`: a notification's block number and timestamp.
-/

namespace QuoteKeeper

namespace Quantity

/-- `text` spells `n` as a quantity of at most `bits` bits: `0x` or `0X`, then the hex
numeral of `n` (no leading zero, `0` for zero), its letters in either case. -/
def Spells (bits : Nat) (text : String) (n : Nat) : Prop :=
  n < Nat.pow 2 bits ∧ ∃ x ds, text.toList = '0' :: x :: ds ∧ (x = 'x' ∨ x = 'X') ∧
    ds.map Char.toLower = Nat.toDigits 16 n

/-! ## (1) Hex digits, by code -/

theorem value?_eq (c : Char) :
    Hex.value? c =
      if 48 ≤ c.toNat ∧ c.toNat ≤ 57 then some (c.toNat - 48)
      else if 97 ≤ c.toNat ∧ c.toNat ≤ 102 then some (c.toNat - 87)
      else if 65 ≤ c.toNat ∧ c.toNat ≤ 70 then some (c.toNat - 55) else none := by
  simp [Hex.value?, Char.le_def, UInt32.le_iff_toNat_le, Char.toNat_val]

theorem toNat_toLower (c : Char) :
    c.toLower.toNat = if 65 ≤ c.toNat ∧ c.toNat ≤ 90 then c.toNat + 32 else c.toNat := by
  have hrange : (c.val ≥ 'A'.val ∧ c.val ≤ 'Z'.val) ↔ 65 ≤ c.toNat ∧ c.toNat ≤ 90 := by
    simp [UInt32.le_iff_toNat_le, Char.toNat_val]
  unfold Char.toLower
  split
  · rename_i h
    rw [if_pos (hrange.mp h)]
    have := hrange.mp h
    simp [Char.toNat_mk, UInt32.toNat_add]
    omega
  · rename_i h
    rw [if_neg (mt hrange.mpr h)]

theorem toNat_digitChar : ∀ d < 16, (Nat.digitChar d).toNat = if d < 10 then 48 + d else 87 + d := by
  decide

/-- A digit's value does not depend on its case. -/
theorem value?_toLower (c : Char) : Hex.value? c.toLower = Hex.value? c := by
  rw [value?_eq, value?_eq, toNat_toLower]
  split_ifs <;> first | omega | rfl

/-- A hex digit is, in lower case, the numeral digit of its value. -/
theorem toLower_of_value? {c : Char} {d : Nat} (h : Hex.value? c = some d) :
    d < 16 ∧ c.toLower = Nat.digitChar d := by
  rw [← value?_toLower, value?_eq, toNat_toLower] at h
  have hd : d < 16 := by split_ifs at h <;> cases h <;> omega
  refine ⟨hd, Char.toNat_inj.mp ?_⟩
  rw [toNat_toLower, toNat_digitChar d hd]
  split_ifs at h ⊢ <;> cases h <;> omega

theorem toLower_eq_zero {c : Char} : c.toLower = '0' ↔ c = '0' := by
  constructor
  · intro h
    have h' := congrArg Char.toNat h
    rw [toNat_toLower] at h'
    apply Char.toNat_inj.mp
    have h0 : '0'.toNat = 48 := rfl
    split_ifs at h' <;> omega
  · rintro rfl
    rfl

theorem toLower_digitChar {d : Nat} (hd : d < 16) : (Nat.digitChar d).toLower = Nat.digitChar d := by
  apply Char.toNat_inj.mp
  rw [toNat_toLower, toNat_digitChar d hd]
  split_ifs <;> omega

theorem value?_digitChar {d : Nat} (hd : d < 16) : Hex.value? (Nat.digitChar d) = some d := by
  rw [value?_eq, toNat_digitChar d hd]
  split_ifs <;> (congr 1; omega)

theorem isSome_value?_iff (c : Char) : (Hex.value? c).isSome ↔ c.isHexDigit := by
  rw [value?_eq]
  simp only [Char.isHexDigit, Char.isDigit, UInt32.le_iff_toNat_le, Char.toNat_val]
  split_ifs <;> simp <;> omega

/-! ## (2) The digit loop and numerals -/

section Digits

variable (bits : Nat)

theorem digits_append (acc : Nat) (l₁ l₂ : List Char) :
    digits bits acc (l₁ ++ l₂) = (digits bits acc l₁).bind fun m => digits bits m l₂ := by
  induction l₁ generalizing acc with
  | nil => rfl
  | cons c cs ih =>
    simp only [List.cons_append, digits]
    split
    · rfl
    · split
      · rfl
      · exact ih _

theorem digits_singleton (acc : Nat) (c : Char) :
    digits bits acc [c] =
      match Hex.value? c with
      | none => .error .badDigit
      | some d => if acc * 16 + d ≥ Nat.pow 2 bits then .error (.range bits) else .ok (acc * 16 + d) :=
  rfl

/-- One step of the digit loop: the digit has a value, the number stays in range, and reading
goes on from it. -/
theorem digits_cons_eq_ok {acc n : Nat} {c : Char} {cs : List Char} :
    digits bits acc (c :: cs) = .ok n ↔
      ∃ d, Hex.value? c = some d ∧ acc * 16 + d < Nat.pow 2 bits ∧ digits bits (acc * 16 + d) cs = .ok n := by
  simp only [digits]
  split
  · rename_i hc
    simp [hc]
  · rename_i d hc
    constructor
    · intro h
      split at h
      · cases h
      · exact ⟨d, hc, by omega, h⟩
    · rintro ⟨d', hd', hlt, h⟩
      cases hc.symm.trans hd'
      rw [if_neg (by omega)]
      exact h

theorem digits_map_toLower (acc : Nat) (ds : List Char) :
    digits bits acc (ds.map Char.toLower) = digits bits acc ds := by
  induction ds generalizing acc with
  | nil => rfl
  | cons c cs ih => simp only [List.map_cons, digits, value?_toLower, ih]

/-- Reading the numeral of a number in range gives the number. -/
theorem digits_toDigits (n : Nat) (hn : n < Nat.pow 2 bits) : digits bits 0 (Nat.toDigits 16 n) = .ok n := by
  induction n using Nat.strongRecOn with
  | ind n ih =>
    rw [Nat.toDigits_eq_if (by decide)]
    split
    · rename_i hlt
      rw [digits_singleton, value?_digitChar hlt]
      simp only [Nat.zero_mul, Nat.zero_add]
      rw [if_neg (by omega)]
    · rename_i hge
      -- the leading digits give `n / 16`, and the last one brings it to `n`
      rw [digits_append, ih (n / 16) (by omega) (by omega)]
      simp only [Except.bind, digits_singleton, value?_digitChar (Nat.mod_lt n (by decide))]
      rw [if_neg (by omega)]
      congr 1
      omega

/-- A digit string that reads to a value ends in range. -/
theorem digits_lt {acc n : Nat} {ds : List Char} (h : digits bits acc ds = .ok n) (hne : ds ≠ []) :
    n < Nat.pow 2 bits := by
  induction ds generalizing acc with
  | nil => exact absurd rfl hne
  | cons c cs ih =>
    obtain ⟨d, -, hlt, h⟩ := (digits_cons_eq_ok bits).mp h
    cases cs with
    | nil =>
      cases h
      exact hlt
    | cons c' cs => exact ih h (List.cons_ne_nil c' cs)

theorem toDigits_head_zero (n : Nat) : (Nat.toDigits 16 n).head? = some '0' → n = 0 := by
  induction n using Nat.strongRecOn with
  | ind n ih =>
    rw [Nat.toDigits_eq_if (by decide)]
    split
    · simp
    · rename_i hge
      intro h
      rw [List.head?_append, Option.or_of_isSome (by simp)] at h
      have := ih (n / 16) (by omega) h
      omega

/-- A numeral has no leading zero. -/
theorem toDigits_ne_leading_zero (n : Nat) (c : Char) (r : List Char) : Nat.toDigits 16 n ≠ '0' :: c :: r := by
  intro h
  have hn := toDigits_head_zero n (by simp [h])
  rw [hn, Nat.toDigits_zero] at h
  cases h

theorem map_toLower_toDigits (n : Nat) : (Nat.toDigits 16 n).map Char.toLower = Nat.toDigits 16 n := by
  induction n using Nat.strongRecOn with
  | ind n ih =>
    rw [Nat.toDigits_eq_if (by decide)]
    split
    · rename_i hlt
      simp [toLower_digitChar hlt]
    · rw [List.map_append, ih (n / 16) (by omega), List.map_singleton,
        toLower_digitChar (Nat.mod_lt n (by decide))]

theorem exists_digitChar_of_mem_toDigits {n : Nat} {c : Char} (h : c ∈ Nat.toDigits 16 n) :
    ∃ d < 16, c = Nat.digitChar d := by
  induction n using Nat.strongRecOn with
  | ind n ih =>
    rw [Nat.toDigits_eq_if (by decide)] at h
    split at h
    · exact ⟨n, by omega, List.mem_singleton.mp h⟩
    · rcases List.mem_append.mp h with h | h
      · exact ih (n / 16) (by omega) h
      · exact ⟨n % 16, Nat.mod_lt n (by decide), List.mem_singleton.mp h⟩

/-- Reading on from `acc > 0` extends its numeral: the digits read are, in lower case, the
numeral's continuation. -/
theorem toDigits_append_digits {acc n : Nat} {ds : List Char} (h : digits bits acc ds = .ok n) (hacc : 0 < acc) :
    Nat.toDigits 16 acc ++ ds.map Char.toLower = Nat.toDigits 16 n := by
  induction ds generalizing acc with
  | nil =>
    cases h
    simp
  | cons c cs ih =>
    obtain ⟨d, hc, -, h⟩ := (digits_cons_eq_ok bits).mp h
    obtain ⟨hd, hlow⟩ := toLower_of_value? hc
    -- the digit just read moves the numeral of `acc` to that of `16 acc + d`
    have hstep : Nat.toDigits 16 acc ++ [c.toLower] = Nat.toDigits 16 (acc * 16 + d) := by
      rw [hlow, ← Nat.toDigits_of_lt_base hd, Nat.toDigits_append_toDigits (by decide) hacc hd,
        Nat.mul_comm]
    calc Nat.toDigits 16 acc ++ (c :: cs).map Char.toLower
        = (Nat.toDigits 16 acc ++ [c.toLower]) ++ cs.map Char.toLower := by simp
      _ = Nat.toDigits 16 n := by rw [hstep]; exact ih h (by omega)

/-- A digit string without leading zero that reads to `n` is, in lower case, the numeral of
`n`. -/
theorem toDigits_of_digits {n : Nat} {ds : List Char} (h : digits bits 0 ds = .ok n) (hne : ds ≠ [])
    (hlead : ∀ c r, ds ≠ '0' :: c :: r) : ds.map Char.toLower = Nat.toDigits 16 n := by
  obtain ⟨c, cs, rfl⟩ := List.exists_cons_of_ne_nil hne
  obtain ⟨d, hc, -, h⟩ := (digits_cons_eq_ok bits).mp h
  obtain ⟨hd, hlow⟩ := toLower_of_value? hc
  simp only [Nat.zero_mul, Nat.zero_add] at h
  rcases Nat.eq_zero_or_pos d with rfl | hpos
  · -- a zero digit stands alone
    have hc0 : c = '0' := toLower_eq_zero.mp hlow
    obtain rfl : cs = [] := by
      cases cs with
      | nil => rfl
      | cons c' r => exact absurd (by rw [hc0]) (hlead c' r)
    cases h
    simp [hlow, Nat.toDigits_zero]
  · have := toDigits_append_digits bits h hpos
    rwa [Nat.toDigits_of_lt_base hd, ← hlow] at this

/-- Hex digits read from `acc` stay in range when `acc` followed by as many digits `f` does. -/
theorem digits_of_hex {acc : Nat} {ds : List Char} (hhex : ∀ c ∈ ds, c.isHexDigit)
    (hroom : (acc + 1) * 16 ^ ds.length ≤ Nat.pow 2 bits) : ∃ n, digits bits acc ds = .ok n := by
  induction ds generalizing acc with
  | nil => exact ⟨acc, rfl⟩
  | cons c cs ih =>
    obtain ⟨d, hc⟩ := Option.isSome_iff_exists.mp ((isSome_value?_iff c).mpr (hhex c (by simp)))
    have hd := (toLower_of_value? hc).1
    have hP : 0 < 16 ^ cs.length := Nat.pow_pos (by decide)
    -- one more digit needs sixteen times the room
    have hroom' : (acc * 16 + d + 1) * 16 ^ cs.length ≤ Nat.pow 2 bits := by
      calc (acc * 16 + d + 1) * 16 ^ cs.length ≤ ((acc + 1) * 16) * 16 ^ cs.length :=
            Nat.mul_le_mul_right _ (by omega)
        _ = (acc + 1) * 16 ^ (cs.length + 1) := by rw [Nat.pow_succ]; ac_rfl
        _ ≤ Nat.pow 2 bits := by simpa using hroom
    have hlt : acc * 16 + d < Nat.pow 2 bits := by
      have := Nat.le_mul_of_pos_right (acc * 16 + d + 1) hP
      omega
    obtain ⟨n, hn⟩ := ih (fun c' h' => hhex c' (by simp [h'])) hroom'
    exact ⟨n, (digits_cons_eq_ok bits).mpr ⟨d, hc, hlt, hn⟩⟩

end Digits

/-! ## (3) Reading a quantity -/

/-- Reading accepts exactly the texts that spell a number in range, and gives that number. -/
theorem decode_eq_ok_iff (bits : Nat) (text : String) (n : Nat) : decode bits text = .ok n ↔ Spells bits text n := by
  constructor
  · intro h
    unfold decode at h
    split at h
    · cases h
    · rename_i x rest htext
      split at h
      · rename_i hx
        split at h
        · cases h
        · cases h
        · rename_i _ hnil hlead
          exact ⟨digits_lt bits h hnil, x, rest, htext, hx, toDigits_of_digits bits h hnil hlead⟩
      · cases h
    · cases h
  · rintro ⟨hn, x, ds, htext, hx, hds⟩
    have hne : ds ≠ [] := by
      rintro rfl
      exact Nat.toDigits_ne_nil hds.symm
    have hlead : ∀ c r, ds ≠ '0' :: c :: r := by
      rintro c r rfl
      exact toDigits_ne_leading_zero n c.toLower (r.map Char.toLower) hds.symm
    unfold decode
    rw [htext]
    simp only [if_pos hx]
    rw [← digits_map_toLower, hds, digits_toDigits bits n hn]

theorem spells_encode {n : Nat} (hn : n < Nat.pow 2 64) : Spells 64 (encode n) n :=
  ⟨hn, 'x', Nat.toDigits 16 n, by simp [encode], .inl rfl, map_toLower_toDigits n⟩

/-- Every number a node could write is read back. -/
theorem decode_encode {n : Nat} (hn : n < Nat.pow 2 64) : decode64 (encode n) = .ok n :=
  (decode_eq_ok_iff 64 _ n).mpr (spells_encode hn)

theorem decode64_eq_ok_iff (text : String) (n : Nat) : decode64 text = .ok n ↔ Spells 64 text n :=
  decode_eq_ok_iff 64 text n

/-- A text spells at most one number. -/
theorem Spells.unique {bits : Nat} {text : String} {n m : Nat} (hn : Spells bits text n) (hm : Spells bits text m) :
    n = m := by
  rw [← decode_eq_ok_iff] at hn hm
  rw [hn] at hm
  cases hm
  rfl

/-! ## (4) The spelt texts, digit by digit -/

/-- A spelt 64-bit quantity is `0x` or `0X` and 1 to 16 hex digits, with no leading zero
unless the digit is the only one. -/
theorem Spells.digits {text : String} {n : Nat} (h : Spells 64 text n) :
    ∃ x ds, text.toList = '0' :: x :: ds ∧ (x = 'x' ∨ x = 'X') ∧ 1 ≤ ds.length ∧ ds.length ≤ 16 ∧
      (∀ c ∈ ds, c.isHexDigit) ∧ (ds.head? = some '0' → ds = ['0']) := by
  obtain ⟨hn, x, ds, htext, hx, hds⟩ := h
  have hlen : ds.length = (Nat.toDigits 16 n).length := by rw [← hds, List.length_map]
  have hfit : (Nat.toDigits 16 n).length ≤ 16 := (Nat.length_toDigits_le_iff (by decide) (by decide)).mpr hn
  refine ⟨x, ds, htext, hx, hlen ▸ Nat.length_toDigits_pos, by omega, fun c hc => ?_, fun h0 => ?_⟩
  · -- a digit of the numeral in lower case: its value makes it a hex digit
    obtain ⟨d, hd, hcd⟩ := exists_digitChar_of_mem_toDigits (hds ▸ List.mem_map_of_mem hc)
    rw [← isSome_value?_iff, ← value?_toLower, hcd, value?_digitChar hd]
    rfl
  · obtain ⟨r, rfl⟩ : ∃ r, ds = '0' :: r := by
      cases ds with
      | nil => cases h0
      | cons c r => exact ⟨r, by simpa using h0⟩
    have hn0 : n = 0 := toDigits_head_zero n (by rw [← hds]; rfl)
    rw [hn0, Nat.toDigits_zero] at hds
    simp only [List.map_cons, List.cons.injEq, List.map_eq_nil_iff] at hds
    rw [hds.2]

/-- Every text of `0x` or `0X` and 1 to 16 hex digits without a leading zero spells a 64-bit
number. -/
theorem spells_of_digits {x : Char} {ds : List Char} (hx : x = 'x' ∨ x = 'X') (hlen₁ : 1 ≤ ds.length)
    (hlen₂ : ds.length ≤ 16) (hhex : ∀ c ∈ ds, c.isHexDigit) (hlead : ds.head? = some '0' → ds = ['0']) :
    ∃ n, Spells 64 (String.ofList ('0' :: x :: ds)) n := by
  have hroom : (0 + 1) * 16 ^ ds.length ≤ Nat.pow 2 64 :=
    calc (0 + 1) * 16 ^ ds.length ≤ 16 ^ 16 := by simpa using Nat.pow_le_pow_right (by decide) hlen₂
      _ = Nat.pow 2 64 := by decide
  obtain ⟨n, hn⟩ := digits_of_hex 64 hhex hroom
  refine ⟨n, (decode_eq_ok_iff 64 _ n).mp ?_⟩
  simp only [decode, String.toList_ofList, if_pos hx]
  split
  · simp at hlen₁
  · rename_i c r
    have := hlead rfl
    simp at this
  · exact hn

end Quantity

/-! ## (5) Head notifications -/

namespace Head

/-- The timestamp field as a notification's block carries it: its value when it spells a
64-bit quantity, and zero otherwise. -/
theorem timestamp_of_spells {text : String} {t : Nat} (h : Quantity.Spells 64 text t) :
    (if text.isEmpty then 0 else
      match Quantity.decode64 text with
      | .ok t => t
      | .error _ => 0) = t := by
  have hne : text.isEmpty = false := by
    obtain ⟨-, x, ds, htext, -⟩ := h
    simp [← String.toList_inj, htext]
  rw [hne, if_neg (by simp), (Quantity.decode64_eq_ok_iff text t).mpr h]

theorem timestamp_of_not_spells {text : String} (h : ∀ t, ¬ Quantity.Spells 64 text t) :
    (if text.isEmpty then 0 else
      match Quantity.decode64 text with
      | .ok t => t
      | .error _ => 0) = 0 := by
  split
  · rfl
  · split
    · rename_i t ht
      exact absurd ((Quantity.decode64_eq_ok_iff text t).mp ht) (h t)
    · rfl

/-- What a block read from a notification holds: the number its number field spells, the
hash as written, and the timestamp as its field gives it. -/
def Reads (f : HeadFields) (h : Head) : Prop :=
  Quantity.Spells 64 f.number h.number ∧ h.hash = f.hash ∧
    (∀ t, Quantity.Spells 64 f.timestamp t → h.timestamp = t) ∧
    ((∀ t, ¬ Quantity.Spells 64 f.timestamp t) → h.timestamp = 0)

theorem reads_of_ofFields {f : HeadFields} {h : Head} (hok : Head.ofFields f = .ok h) : Reads f h := by
  unfold ofFields at hok
  split at hok
  · cases hok
  · rename_i n hn
    rw [Quantity.decode64_eq_ok_iff] at hn
    cases hok
    exact ⟨hn, rfl, fun t ht => timestamp_of_spells ht, fun ht => timestamp_of_not_spells ht⟩

/-- The fields fix the block: a number spells one value, and the timestamp field either
spells one or none. -/
theorem Reads.unique {f : HeadFields} {h h' : Head} (hr : Reads f h) (hr' : Reads f h') : h = h' := by
  obtain ⟨number, hash, timestamp⟩ := h
  obtain ⟨number', hash', timestamp'⟩ := h'
  obtain ⟨hn, hh, ht, ht0⟩ := hr
  obtain ⟨hn', hh', ht', ht0'⟩ := hr'
  simp only at hn hh ht ht0 hn' hh' ht' ht0'
  have hts : timestamp = timestamp' := by
    by_cases hs : ∃ t, Quantity.Spells 64 f.timestamp t
    · obtain ⟨t, hst⟩ := hs
      rw [ht t hst, ht' t hst]
    · simp only [not_exists] at hs
      rw [ht0 hs, ht0' hs]
  rw [hn.unique hn', hh, hh', hts]

/-- A block is read whenever its number spells a 64-bit quantity. -/
theorem ofFields_ok_of_spells {f : HeadFields} {n : Nat} (hn : Quantity.Spells 64 f.number n) :
    ∃ h, Head.ofFields f = .ok h := by
  unfold ofFields
  rw [(Quantity.decode64_eq_ok_iff _ _).mpr hn]
  exact ⟨_, rfl⟩

/-- A notification's block is read exactly when its number spells a 64-bit quantity: the
number is that quantity, the hash is kept as written, and the timestamp is its value when it
spells one and zero otherwise. -/
theorem ofFields_eq_ok_iff (f : HeadFields) (h : Head) : Head.ofFields f = .ok h ↔ Reads f h := by
  refine ⟨reads_of_ofFields, fun hr => ?_⟩
  obtain ⟨h', hok⟩ := ofFields_ok_of_spells hr.1
  rw [hok, (reads_of_ofFields hok).unique hr]

end Head

/-- Head notifications are read from canonical quantities only. A block is read exactly when
its number is `0x` or `0X` followed by the hex numeral of a number below `2^64` (1 to 16 hex
digits of either case, no leading zero unless it is `0x0`); its number is that value, its hash
is kept as written, and its timestamp is the value of the timestamp field when that is such a
quantity and zero otherwise. Every number below `2^64`, written as a node writes it, is read
back. -/
theorem head_parse_canonical :
    (∀ (f : HeadFields) (h : Head), Head.ofFields f = .ok h ↔
      Quantity.Spells 64 f.number h.number ∧ h.hash = f.hash ∧
        (∀ t, Quantity.Spells 64 f.timestamp t → h.timestamp = t) ∧
        ((∀ t, ¬ Quantity.Spells 64 f.timestamp t) → h.timestamp = 0)) ∧
    (∀ f : HeadFields, (∃ h, Head.ofFields f = .ok h) ↔ ∃ n, Quantity.Spells 64 f.number n) ∧
    (∀ (text : String) (n : Nat), Quantity.Spells 64 text n →
      ∃ x ds, text.toList = '0' :: x :: ds ∧ (x = 'x' ∨ x = 'X') ∧ 1 ≤ ds.length ∧ ds.length ≤ 16 ∧
        (∀ c ∈ ds, c.isHexDigit) ∧ (ds.head? = some '0' → ds = ['0'])) ∧
    (∀ (x : Char) (ds : List Char), (x = 'x' ∨ x = 'X') → 1 ≤ ds.length → ds.length ≤ 16 →
      (∀ c ∈ ds, c.isHexDigit) → (ds.head? = some '0' → ds = ['0']) →
      ∃ n, Quantity.Spells 64 (String.ofList ('0' :: x :: ds)) n) ∧
    (∀ (n : Nat) (hash timestamp : String), n < Nat.pow 2 64 →
      ∃ h, Head.ofFields ⟨Quantity.encode n, hash, timestamp⟩ = .ok h ∧ h.number = n) := by
  refine ⟨Head.ofFields_eq_ok_iff, fun f => ⟨?_, ?_⟩, fun _ _ h => Quantity.Spells.digits h,
    fun _ _ hx h₁ h₂ hhex hlead => Quantity.spells_of_digits hx h₁ h₂ hhex hlead, fun n hash ts hn => ?_⟩
  · rintro ⟨h, hok⟩
    exact ⟨h.number, ((Head.ofFields_eq_ok_iff f h).mp hok).1⟩
  · rintro ⟨n, hn⟩
    exact Head.ofFields_ok_of_spells hn
  · -- the number field spells `n`, so the block read carries `n`
    have hs : Quantity.Spells 64 (Quantity.encode n) n := Quantity.spells_encode hn
    obtain ⟨h, hok⟩ : ∃ h, Head.ofFields ⟨Quantity.encode n, hash, ts⟩ = .ok h := Head.ofFields_ok_of_spells hs
    exact ⟨h, hok, ((Head.reads_of_ofFields hok).1).unique hs⟩

/-- The block number `0x1234` is read back from its own text, and `0x1f` spells a quantity. -/
theorem head_number_read_back :
    (∃ h, Head.ofFields ⟨Quantity.encode 4660, "0xab", "0x10"⟩ = .ok h ∧ h.number = 4660) ∧
    ∃ n, Quantity.Spells 64 (String.ofList ['0', 'x', '1', 'f']) n :=
  ⟨head_parse_canonical.2.2.2.2 4660 "0xab" "0x10" (by decide +kernel),
    head_parse_canonical.2.2.2.1 'x' ['1', 'f'] (Or.inl rfl) (by decide) (by decide) (List.all_eq_true.mp rfl)
      (by decide)⟩

end QuoteKeeper
