import QuoteKeeper.Proofs.RateInversion
/-
  QuoteKeeper.Proofs.ContractReads — the calling convention, read both ways.

  A value fits a type when the codec can carry it: an unsigned number below `2^bits`, a signed
  one within `[-2^(bits-1), 2^(bits-1))`, an address below `2^160`, at widths up to 256 bits.
  Each such value is one 32-byte word that reads back as itself: unsigned words are read whole,
  a signed word of a negative number is at least `2^255` and reads back by subtracting `2^256`,
  and an address sits in the low 20 bytes.

  A contract sees a call the other way round: the first four bytes must be the method's
  selector, and the rest reads back, with the same codec, as the method's inputs
  (`AbiMethod.decodeCall`). `Contract.Answers c meth args out` says the endpoint answers `out`
  to every call data carrying `args` to `meth`, which is how a contract computing its outputs
  from its arguments behaves. The readers' own call data carries their arguments, so an
  endpoint that answers the encoding of fitting outputs is read back exactly.

  Proved:
  (1) `Abi.decode_encode`: every fitting value's word reads back as the value.
  (2) `AbiMethod.unpack_encode`: outputs encoded word by word, with whole words after them,
      unpack to the outputs; `AbiMethod.unpack_short`: fewer bytes than the outputs take fail,
      with go-ethereum's message for whole words.
  (3) `AbiMethod.decodeCall_pack`: the call data of fitting arguments decodes back to them.
  (4) `Contract.call_of_answers`, `Contract.call_of_short`: a call reads back fitting outputs,
      and fails with `unpack <method>` on a short answer; the one-output readers pass both on.
  (5) The readers of the ARM, of tokens, of a Curve pool and of withdrawal liquidity.
  (6) `readers_invert_abi_encoding`: all of it.
-/

namespace QuoteKeeper

/-! ## (1) One word per value -/

namespace AbiType

/-- The values the codec carries at type `t`. -/
def Fits : AbiType → AbiValue → Prop
  | .uint b, .num n => b ≤ 256 ∧ 0 ≤ n ∧ n < 2 ^ b
  | .int b, .num n => b ≤ 256 ∧ -2 ^ (b - 1) ≤ n ∧ n < 2 ^ (b - 1)
  | .address, .addr a => a.val < 2 ^ 160
  | _, _ => False

instance decFits : (t : AbiType) → (v : AbiValue) → Decidable (Fits t v)
  | .uint _, .num _ => inferInstanceAs (Decidable (_ ∧ _ ∧ _))
  | .int _, .num _ => inferInstanceAs (Decidable (_ ∧ _ ∧ _))
  | .address, .addr _ => inferInstanceAs (Decidable (_ < _))
  | .uint _, .addr _ | .int _, .addr _ | .address, .num _ => isFalse id

end AbiType

/-- The arguments of a Curve `get_dy`: two coin indices, then an amount. -/
example : List.Forall₂ AbiType.Fits Abi.getDy.inputs [.num (-1), .num 2, .num (2 ^ 256 - 1)] := by
  decide

theorem natOfBytes_word (n : Int) : (Hex.natOfBytes (Abi.word n) : Int) = n % 2 ^ 256 := by
  have h0 : 0 ≤ n % 2 ^ 256 := Int.emod_nonneg _ (by norm_num)
  have hlt : n % 2 ^ 256 < 2 ^ 256 := Int.emod_lt_of_pos _ (by norm_num)
  rw [Abi.word, natOfBytes_bytesOfNat, show Int.pow 2 256 = 2 ^ 256 from rfl, Nat.mod_eq_of_lt (by omega),
    Int.toNat_of_nonneg h0]

namespace Abi

@[simp] theorem length_word (n : Int) : (word n).length = wordSize := by
  simp [word, wordSize]

@[simp] theorem length_encode (v : AbiValue) : (encode v).length = wordSize := by
  cases v <;> simp [encode, Address.bytes, wordSize]

theorem length_flatMap_encode (vs : List AbiValue) : (vs.flatMap encode).length = vs.length * wordSize := by
  induction vs with
  | nil => rfl
  | cons v vs ih => simp [List.flatMap_cons, ih, Nat.succ_mul, Nat.add_comm]

theorem decode_uint_word (b : Nat) {n : Int} (h0 : 0 ≤ n) (hn : n < 2 ^ 256) :
    decode (.uint b) (word n) = .num n := by
  have hw := natOfBytes_word n
  rw [Int.emod_eq_of_lt h0 hn] at hw
  simp [decode, hw]

/-- A negative number's word is at least `2^255`, and reading it subtracts `2^256`. -/
theorem decode_int_word (b : Nat) {n : Int} (hlo : -2 ^ 255 ≤ n) (hhi : n < 2 ^ 255) :
    decode (.int b) (word n) = .num n := by
  have hw := natOfBytes_word n
  simp only [decode, AbiValue.num.injEq, show Nat.pow 2 255 = 2 ^ 255 from rfl,
    show Int.pow 2 256 = 2 ^ 256 from rfl]
  norm_num at hw hlo hhi ⊢
  split_ifs with hge <;> omega

theorem decode_addr {a : Address} (ha : a.val < 2 ^ 160) : decode .address (encode (.addr a)) = .addr a := by
  simp only [decode, encode, Address.ofBytes, Address.bytes, List.drop_left', List.length_replicate,
    length_bytesOfNat, Nat.sub_self, List.drop_zero, natOfBytes_bytesOfNat]
  rw [show Nat.pow 2 160 = 256 ^ 20 from rfl, Nat.mod_mod, Nat.mod_eq_of_lt (by simpa using ha)]

theorem decode_encode {t : AbiType} {v : AbiValue} (h : t.Fits v) : decode t (encode v) = v := by
  match t, v, h with
  | .uint b, .num n, ⟨hb, h0, hn⟩ =>
    exact decode_uint_word b h0 (lt_of_lt_of_le hn (pow_le_pow_right₀ (by norm_num) hb))
  | .int b, .num n, ⟨hb, hlo, hhi⟩ =>
    -- the width is at most 256 bits, so the bounds are within `2^255`
    have hcap : (2 : Int) ^ (b - 1) ≤ 2 ^ 255 := pow_le_pow_right₀ (by norm_num) (by omega)
    exact decode_int_word b (by omega) (by omega)
  | .address, .addr a, ha => exact decode_addr ha

end Abi

/-! ## (2) Reading outputs -/

namespace AbiMethod

section Words

variable {data : List UInt8} {F : AbiType × Nat → Except String AbiValue}

/-- Outputs `ts` read from the words of `data` from the `k`-th on, where those words encode the
fitting values `vs`: the reading step is abstract, so this is the loop of `unpack` alone. -/
theorem mapM_read_encode
    (hF : ∀ x : AbiType × Nat, (x.2 + 1) * Abi.wordSize ≤ data.length →
      F x = .ok (Abi.decode x.1 ((data.drop (x.2 * Abi.wordSize)).take Abi.wordSize)))
    {ts : List AbiType} {vs : List AbiValue} (hfit : List.Forall₂ AbiType.Fits ts vs) (k : Nat)
    {rest : List UInt8} (hdata : data.drop (k * Abi.wordSize) = vs.flatMap Abi.encode ++ rest) :
    (ts.zip (List.range' k ts.length)).mapM F = .ok vs := by
  induction hfit generalizing k with
  | nil => rfl
  | @cons t v ts vs hv _ ih =>
    -- the `k`-th word is `v`'s, and the words after it start the rest
    have hword : (data.drop (k * Abi.wordSize)).take Abi.wordSize = Abi.encode v := by
      rw [hdata, List.flatMap_cons, List.append_assoc, List.take_left' (Abi.length_encode v)]
    have hlen : (k + 1) * Abi.wordSize ≤ data.length := by
      have h := congrArg List.length hdata
      simp [Abi.wordSize] at h ⊢
      omega
    have hnext : data.drop ((k + 1) * Abi.wordSize) = vs.flatMap Abi.encode ++ rest := by
      rw [Nat.succ_mul, ← List.drop_drop, hdata, List.flatMap_cons, List.append_assoc,
        List.drop_left' (Abi.length_encode v)]
    simp [List.range'_succ, List.mapM_cons, hF (t, k) hlen, hword, Abi.decode_encode hv,
      ih (k + 1) hnext, bind, Except.bind, pure, Except.pure]

/-- Reading stops at the first missing word, the `data.length / 32`-th. -/
theorem mapM_read_short
    (hok : ∀ x : AbiType × Nat, (x.2 + 1) * Abi.wordSize ≤ data.length → ∃ v, F x = .ok v)
    {why : Nat → String}
    (herr : ∀ x : AbiType × Nat, data.length < (x.2 + 1) * Abi.wordSize → F x = .error (why x.2))
    (ts : List AbiType) (k : Nat) (hk : k * Abi.wordSize ≤ data.length)
    (hshort : data.length < (k + ts.length) * Abi.wordSize) :
    (ts.zip (List.range' k ts.length)).mapM F = .error (why (data.length / Abi.wordSize)) := by
  induction ts generalizing k with
  | nil => simp at hshort; omega
  | cons t ts ih =>
    by_cases hfull : (k + 1) * Abi.wordSize ≤ data.length
    · obtain ⟨v, hv⟩ := hok (t, k) hfull
      have hrest := ih (k + 1) hfull (by simp [Abi.wordSize] at hshort ⊢; omega)
      simp [List.range'_succ, List.mapM_cons, hv, hrest, bind, Except.bind]
    · -- the `k`-th word is the first one missing
      have hmissing := herr (t, k) (Nat.lt_of_not_le hfull)
      have hk' : data.length / Abi.wordSize = k := by simp [Abi.wordSize] at hk hfull ⊢; omega
      simp [List.range'_succ, List.mapM_cons, hmissing, hk', bind, Except.bind]

end Words

/-- Fitting outputs, encoded word by word and followed by whole words, unpack to themselves. -/
theorem unpack_encode {m : AbiMethod} {vs : List AbiValue} (hfit : List.Forall₂ AbiType.Fits m.outputs vs)
    {rest : List UInt8} (hrest : rest.length % Abi.wordSize = 0) :
    m.unpack (vs.flatMap Abi.encode ++ rest) = .ok vs := by
  have hlen : (vs.flatMap Abi.encode ++ rest).length = vs.length * Abi.wordSize + rest.length := by
    rw [List.length_append, Abi.length_flatMap_encode]
  simp only [unpack]
  rw [if_neg (by simp [hlen, Abi.wordSize] at hrest ⊢; omega)]
  by_cases hnil : vs.flatMap Abi.encode ++ rest = []
  · -- nothing came back, so nothing was expected
    obtain ⟨henc, rfl⟩ := List.append_eq_nil_iff.mp hnil
    have hvs : vs = [] := by
      have h := Abi.length_flatMap_encode vs
      rw [henc] at h
      simpa [Abi.wordSize, eq_comm] using h
    subst hvs
    simp [List.forall₂_nil_right_iff.mp hfit]
  · rw [if_neg (by simpa using hnil), List.range_eq_range']
    refine mapM_read_encode (fun x hx => ?_) hfit 0
      (show (vs.flatMap Abi.encode ++ rest).drop (0 * Abi.wordSize) = vs.flatMap Abi.encode ++ rest by simp)
    simp only [gt_iff_lt]
    rw [if_neg (Nat.not_lt.mpr hx)]

theorem unpack_flatMap_encode {m : AbiMethod} {vs : List AbiValue}
    (hfit : List.Forall₂ AbiType.Fits m.outputs vs) : m.unpack (vs.flatMap Abi.encode) = .ok vs := by
  simpa using unpack_encode hfit (show ([] : List UInt8).length % Abi.wordSize = 0 from rfl)

/-- Fewer bytes than the outputs take do not unpack. On whole words the reason is go-ethereum's:
an empty answer where outputs are expected, or the first word missing. -/
theorem unpack_short {m : AbiMethod} {data : List UInt8}
    (hshort : data.length < m.outputs.length * Abi.wordSize) :
    ∃ why, m.unpack data = .error why ∧
      (data.length % Abi.wordSize = 0 → why =
        if data = [] then "abi: attempting to unmarshal an empty string while arguments are expected"
        else "abi: cannot marshal in to go type: length insufficient " ++ natText data.length ++
          " require " ++ natText (data.length + Abi.wordSize)) := by
  by_cases hwhole : data.length % Abi.wordSize = 0
  · by_cases hnil : data = []
    · -- no bytes at all, where outputs are expected
      have hout : m.outputs.isEmpty = false := by
        cases h : m.outputs <;> simp_all
      exact ⟨_, by rw [unpack, if_neg (by simp [hnil]), if_pos (by simp [hnil]), if_neg (by simp [hout])],
        fun _ => (if_pos hnil).symm⟩
    · -- whole words, too few of them: the first one missing is named
      refine ⟨_, ?_, fun _ => (if_neg hnil).symm⟩
      simp only [unpack, hwhole, ne_eq, not_true_eq_false, if_false, List.isEmpty_iff, hnil, gt_iff_lt,
        List.range_eq_range']
      refine Eq.trans (@mapM_read_short data _ ?_ (fun i => "abi: cannot marshal in to go type: length insufficient " ++
        natText data.length ++ " require " ++ natText ((i + 1) * Abi.wordSize)) ?_ m.outputs 0 (by simp)
        (by simpa using hshort)) ?_
      · intro x hx
        exact ⟨_, if_neg (Nat.not_lt.mpr hx)⟩
      · intro x hx
        exact if_pos hx
      · have hnext : (data.length / Abi.wordSize + 1) * Abi.wordSize = data.length + Abi.wordSize := by
          simp [Abi.wordSize] at hwhole ⊢
          omega
        rw [hnext]
  · exact ⟨_, by rw [unpack, if_pos hwhole], fun h => absurd h hwhole⟩

end AbiMethod

/-! ## (3) Call data -/

theorem length_keccak256 (msg : List UInt8) : (keccak256 msg).length = 32 := by
  simp [keccak256, Keccak.bytesOfLane]

namespace AbiMethod

theorem length_selector (m : AbiMethod) : m.selector.length = 4 := by
  simp [selector, length_keccak256]

/-- The arguments call data carries to `m`, as the called contract reads them: the first four
bytes are `m`'s selector, and the rest unpacks as `m`'s inputs. -/
def decodeCall (m : AbiMethod) (data : List UInt8) : Option (List AbiValue) :=
  if data.take 4 = m.selector then ({ m with outputs := m.inputs }.unpack (data.drop 4)).toOption
  else none

theorem decodeCall_pack {m : AbiMethod} {args : List AbiValue}
    (hfit : List.Forall₂ AbiType.Fits m.inputs args) : m.decodeCall (m.pack args) = some args := by
  have hargs : ({ m with outputs := m.inputs } : AbiMethod).unpack (args.flatMap Abi.encode) = .ok args :=
    unpack_flatMap_encode hfit
  simp [decodeCall, pack, List.take_left' (length_selector m), List.drop_left' (length_selector m), hargs,
    Except.toOption]

end AbiMethod

/-! ## (4) Calls -/

namespace Contract

variable {m : Type → Type} [Monad m]

/-- `c` answers `out` to every call of `meth` whose call data carries `args`, as a contract that
computes its outputs from the arguments it reads does. -/
def Answers (c : Contract m) (meth : AbiMethod) (args : List AbiValue) (out : List UInt8) : Prop :=
  ∀ data, meth.decodeCall data = some args → c.endpoint c.address data = pure (.ok out)

variable {c : Contract m} {meth : AbiMethod} {args : List AbiValue}

/-- A reader's own call data carries its arguments, so the reader gets the answer. -/
theorem Answers.endpoint_pack {out : List UInt8} (h : c.Answers meth args out)
    (hargs : List.Forall₂ AbiType.Fits meth.inputs args) :
    c.endpoint c.address (meth.pack args) = pure (.ok out) :=
  h _ (AbiMethod.decodeCall_pack hargs)

variable [LawfulMonad m]

theorem call_of_answers {outs : List AbiValue} (h : c.Answers meth args (outs.flatMap Abi.encode))
    (hargs : List.Forall₂ AbiType.Fits meth.inputs args)
    (houts : List.Forall₂ AbiType.Fits meth.outputs outs) :
    c.call meth args = pure (.ok outs) := by
  simp [call, h.endpoint_pack hargs, AbiMethod.unpack_flatMap_encode houts]

theorem call_of_short {out : List UInt8} (h : c.Answers meth args out)
    (hargs : List.Forall₂ AbiType.Fits meth.inputs args)
    (hshort : out.length < meth.outputs.length * Abi.wordSize) :
    ∃ why, c.call meth args = pure (.error (.plain ("unpack " ++ meth.name ++ ": " ++ why))) := by
  obtain ⟨why, hwhy, -⟩ := AbiMethod.unpack_short hshort
  exact ⟨why, by simp [call, h.endpoint_pack hargs, hwhy]⟩

/-- A failed call is the failure of the one-output readers, with no value read. -/
theorem callNum_of_call_error {e : Failure} (h : c.call meth args = pure (.error e)) :
    c.callNum meth args = pure (.error e) := by
  simp [callNum, h]

theorem callAddress_of_call_error {e : Failure} (h : c.call meth args = pure (.error e)) :
    c.callAddress meth args = pure (.error e) := by
  simp [callAddress, h]

theorem callNum_of_answers {n : Int} (hout : meth.outputs = [.uint 256]) (h : c.Answers meth args (Abi.word n))
    (hargs : List.Forall₂ AbiType.Fits meth.inputs args) (h0 : 0 ≤ n) (hn : n < 2 ^ 256) :
    c.callNum meth args = pure (.ok n) := by
  have hfit : List.Forall₂ AbiType.Fits meth.outputs [.num n] := by
    rw [hout]
    exact .cons ⟨le_refl _, h0, hn⟩ .nil
  have hcall : c.call meth args = pure (.ok [.num n]) :=
    call_of_answers (by simpa [Abi.encode] using h) hargs hfit
  simp [callNum, hcall]

theorem callAddress_of_answers {a : Address} (hout : meth.outputs = [.address])
    (h : c.Answers meth args (Abi.encode (.addr a))) (hargs : List.Forall₂ AbiType.Fits meth.inputs args)
    (ha : a.val < 2 ^ 160) : c.callAddress meth args = pure (.ok a) := by
  have hfit : List.Forall₂ AbiType.Fits meth.outputs [.addr a] := by
    rw [hout]
    exact .cons ha .nil
  have hcall : c.call meth args = pure (.ok [.addr a]) := call_of_answers (by simpa using h) hargs hfit
  simp [callAddress, hcall]

end Contract

/-! ## (5) The readers -/

section Readers

variable {m : Type → Type} [Monad m] [LawfulMonad m]

namespace ArmContract

variable {c : Contract m}

theorem buyPrice_of_answers {n : Int} (h : c.Answers Abi.traderate1 [] (Abi.word n)) (h0 : 0 ≤ n)
    (hn : n < 2 ^ 256) : buyPrice c = pure (.ok (.set n priceScale)) := by
  simp [buyPrice, Contract.callNum_of_answers rfl h .nil h0 hn, Except.map]

theorem crossPrice_of_answers {n : Int} (h : c.Answers Abi.crossPrice [] (Abi.word n)) (h0 : 0 ≤ n)
    (hn : n < 2 ^ 256) : crossPrice c = pure (.ok (.set n priceScale)) := by
  simp [crossPrice, Contract.callNum_of_answers rfl h .nil h0 hn, Except.map]

theorem outstandingWithdrawals_of_answers {queued claimed : Int}
    (hq : c.Answers Abi.withdrawsQueued [] (Abi.word queued)) (hc : c.Answers Abi.withdrawsClaimed [] (Abi.word claimed))
    (hq0 : 0 ≤ queued) (hqn : queued < 2 ^ 256) (hc0 : 0 ≤ claimed) (hcn : claimed < 2 ^ 256) :
    outstandingWithdrawals c = pure (.ok (queued - claimed)) := by
  simp [outstandingWithdrawals, Contract.callNum_of_answers rfl hq .nil hq0 hqn,
    Contract.callNum_of_answers rfl hc .nil hc0 hcn]

end ArmContract

namespace TokenContract

variable {c : Contract m}

theorem balanceOf_of_answers {owner : Address} {b : Int} (h : c.Answers Abi.balanceOf [.addr owner] (Abi.word b))
    (howner : owner.val < 2 ^ 160) (h0 : 0 ≤ b) (hb : b < 2 ^ 256) : balanceOf c owner = pure (.ok b) :=
  Contract.callNum_of_answers rfl h (.cons howner .nil) h0 hb

/-- The vault is asked what one whole share, `10^18`, converts to. -/
theorem exchangeRate_of_answers {x : Int} (h : c.Answers Abi.convertToAssets [.num (10 ^ 18)] (Abi.word x))
    (h0 : 0 ≤ x) (hx : x < 2 ^ 256) : exchangeRate c = pure (.ok (.set x tokenScale)) := by
  have hone : pow10 tokenScale = 10 ^ 18 := pow10_natCast 18
  have hshare : AbiType.Fits (.uint 256) (.num (10 ^ 18)) := by decide
  have hread := Contract.callNum_of_answers rfl h (.cons hshare .nil) h0 hx
  simp only [exchangeRate, hone, hread, pure_bind, Except.map]

end TokenContract

namespace CurvePool

variable {p : CurvePool m}

/-- Two coins of the pool are quoted by their indices, which travel as `int128`. -/
theorem quoteSwap_of_answers {tokenIn tokenOut : Address} {i j dx dy : Int}
    (hi : p.coins.lookup tokenIn = some i) (hj : p.coins.lookup tokenOut = some j)
    (hfit : List.Forall₂ AbiType.Fits Abi.getDy.inputs [.num i, .num j, .num dx])
    (h : p.contract.Answers Abi.getDy [.num i, .num j, .num dx] (Abi.word dy)) (h0 : 0 ≤ dy)
    (hdy : dy < 2 ^ 256) : p.quoteSwap tokenIn tokenOut (some dx) = pure (.ok dy) := by
  simp [quoteSwap, hi, hj, Contract.callNum_of_answers rfl h hfit h0 hdy]

end CurvePool

namespace VaultLiquidity

variable {v : VaultLiquidity m}

/-- Available is the liquidity token the vault holds, pending claims are the vault's queued
minus claimed, and required is the ARM's base balance less its own outstanding withdrawals,
never below zero. -/
theorem read_of_answers {available queued claimable claimed next base armQueued armClaimed : Int}
    (hvault : v.vault.address.val < 2 ^ 160) (harm : v.arm.address.val < 2 ^ 160)
    (havailable : v.liquidityToken.Answers Abi.balanceOf [.addr v.vault.address] (Abi.word available))
    (hmeta : v.vault.Answers Abi.withdrawalQueueMetadata []
      (Abi.word queued ++ Abi.word claimable ++ Abi.word claimed ++ Abi.word next))
    (hbase : v.baseToken.Answers Abi.balanceOf [.addr v.arm.address] (Abi.word base))
    (hqueued : v.arm.Answers Abi.withdrawsQueued [] (Abi.word armQueued))
    (hclaimed : v.arm.Answers Abi.withdrawsClaimed [] (Abi.word armClaimed))
    (hwords : ∀ x ∈ [available, base, armQueued, armClaimed], 0 ≤ x ∧ x < 2 ^ 256)
    (hfields : ∀ x ∈ [queued, claimable, claimed, next], 0 ≤ x ∧ x < 2 ^ 128) :
    v.read = pure (.ok ⟨some available, some (max 0 (base - (armQueued - armClaimed))),
      some (queued - claimed)⟩) := by
  simp only [List.mem_cons, List.not_mem_nil, or_false, forall_eq_or_imp, forall_eq] at hwords hfields
  -- the four `uint128` fields fit their words
  have hmetaFit : List.Forall₂ AbiType.Fits Abi.withdrawalQueueMetadata.outputs
      [.num queued, .num claimable, .num claimed, .num next] := by
    obtain ⟨hq, hc, hd, hn⟩ := hfields
    exact .cons ⟨by norm_num, hq⟩ (.cons ⟨by norm_num, hc⟩ (.cons ⟨by norm_num, hd⟩ (.cons ⟨by norm_num, hn⟩ .nil)))
  have hmetaRead := Contract.call_of_answers (by simpa [Abi.encode] using hmeta) .nil hmetaFit
  simp [read, TokenContract.balanceOf_of_answers havailable hvault hwords.1.1 hwords.1.2, hmetaRead,
    TokenContract.balanceOf_of_answers hbase harm hwords.2.1.1 hwords.2.1.2,
    ArmContract.outstandingWithdrawals_of_answers hqueued hclaimed hwords.2.2.1.1 hwords.2.2.1.2 hwords.2.2.2.1
      hwords.2.2.2.2]

end VaultLiquidity

end Readers

/-! ## (6) All of it -/

/-- The readers invert the encoding of their calls and of their results. Outputs that fit their
types, encoded one word each (whole words after them ignored), unpack to themselves; the call
data of fitting arguments decodes back to them; an answer shorter than the outputs take is an
`unpack <method>` failure, passed on by the one-output readers with nothing read. Against
endpoints that answer the encoding of fitting results, the ARM, token, vault, market, pool and
liquidity readers return exactly those results: a number in `[0, 2^256)`, an address below
`2^160`, the sell price inverted from `traderate0`, queued minus claimed, and the liquidity
snapshot with required clamped at zero. -/
theorem readers_invert_abi_encoding {m : Type → Type} [Monad m] [LawfulMonad m] :
    (∀ (meth : AbiMethod) (outs : List AbiValue) (rest : List UInt8),
      List.Forall₂ AbiType.Fits meth.outputs outs → rest.length % 32 = 0 →
        meth.unpack (outs.flatMap Abi.encode ++ rest) = .ok outs) ∧
    (∀ (meth : AbiMethod) (args : List AbiValue), List.Forall₂ AbiType.Fits meth.inputs args →
      meth.decodeCall (meth.pack args) = some args) ∧
    (∀ (c : Contract m) (meth : AbiMethod) (args : List AbiValue) (out : List UInt8),
      List.Forall₂ AbiType.Fits meth.inputs args → c.Answers meth args out →
      out.length < meth.outputs.length * 32 →
      ∃ why, c.call meth args = pure (.error (.plain ("unpack " ++ meth.name ++ ": " ++ why))) ∧
        c.callNum meth args = pure (.error (.plain ("unpack " ++ meth.name ++ ": " ++ why))) ∧
        c.callAddress meth args = pure (.error (.plain ("unpack " ++ meth.name ++ ": " ++ why)))) ∧
    (∀ (c : Contract m) (n : Int), 0 ≤ n → n < 2 ^ 256 →
      (c.Answers Abi.traderate1 [] (Abi.word n) → ArmContract.buyPrice c = pure (.ok (.set n priceScale))) ∧
      (c.Answers Abi.crossPrice [] (Abi.word n) →
        ArmContract.crossPrice c = pure (.ok (.set n priceScale))) ∧
      (0 < n → c.Answers Abi.traderate0 [] (Abi.word n) →
        ArmContract.sellPrice c = pure (.ok (.set (10 ^ 72 / n) priceScale)))) ∧
    (∀ (c : Contract m) (a : Address), a.val < 2 ^ 160 →
      (c.Answers Abi.liquidityAsset [] (Abi.encode (.addr a)) → ArmContract.liquidityAsset c = pure (.ok a)) ∧
      (c.Answers Abi.baseAsset [] (Abi.encode (.addr a)) → ArmContract.baseAsset c = pure (.ok a)) ∧
      (c.Answers Abi.activeMarket [] (Abi.encode (.addr a)) → ArmContract.activeMarket c = pure (.ok a)) ∧
      (c.Answers Abi.vault [] (Abi.encode (.addr a)) → ArmContract.vault c = pure (.ok a)) ∧
      (c.Answers Abi.market [] (Abi.encode (.addr a)) → TokenContract.market c = pure (.ok a))) ∧
    (∀ (c : Contract m) (queued claimed : Int), 0 ≤ queued → queued < 2 ^ 256 → 0 ≤ claimed →
      claimed < 2 ^ 256 → c.Answers Abi.withdrawsQueued [] (Abi.word queued) →
      c.Answers Abi.withdrawsClaimed [] (Abi.word claimed) →
      ArmContract.outstandingWithdrawals c = pure (.ok (queued - claimed))) ∧
    (∀ (c : Contract m) (owner : Address) (b : Int), owner.val < 2 ^ 160 → 0 ≤ b → b < 2 ^ 256 →
      c.Answers Abi.balanceOf [.addr owner] (Abi.word b) → TokenContract.balanceOf c owner = pure (.ok b)) ∧
    (∀ (c : Contract m) (x : Int), 0 ≤ x → x < 2 ^ 256 →
      c.Answers Abi.convertToAssets [.num (10 ^ 18)] (Abi.word x) →
      TokenContract.exchangeRate c = pure (.ok (.set x tokenScale))) ∧
    (∀ (p : CurvePool m) (tokenIn tokenOut : Address) (i j dx dy : Int),
      p.coins.lookup tokenIn = some i → p.coins.lookup tokenOut = some j →
      -2 ^ 127 ≤ i → i < 2 ^ 127 → -2 ^ 127 ≤ j → j < 2 ^ 127 → 0 ≤ dx → dx < 2 ^ 256 →
      0 ≤ dy → dy < 2 ^ 256 → p.contract.Answers Abi.getDy [.num i, .num j, .num dx] (Abi.word dy) →
      p.quoteSwap tokenIn tokenOut (some dx) = pure (.ok dy)) ∧
    (∀ (v : VaultLiquidity m) (available queued claimable claimed next base armQueued armClaimed : Int),
      v.vault.address.val < 2 ^ 160 → v.arm.address.val < 2 ^ 160 →
      v.liquidityToken.Answers Abi.balanceOf [.addr v.vault.address] (Abi.word available) →
      v.vault.Answers Abi.withdrawalQueueMetadata []
        (Abi.word queued ++ Abi.word claimable ++ Abi.word claimed ++ Abi.word next) →
      v.baseToken.Answers Abi.balanceOf [.addr v.arm.address] (Abi.word base) →
      v.arm.Answers Abi.withdrawsQueued [] (Abi.word armQueued) →
      v.arm.Answers Abi.withdrawsClaimed [] (Abi.word armClaimed) →
      (∀ x ∈ [available, base, armQueued, armClaimed], 0 ≤ x ∧ x < 2 ^ 256) →
      (∀ x ∈ [queued, claimable, claimed, next], 0 ≤ x ∧ x < 2 ^ 128) →
      v.read = pure (.ok ⟨some available, some (max 0 (base - (armQueued - armClaimed))),
        some (queued - claimed)⟩)) := by
  refine ⟨fun _ _ _ hfit hrest => AbiMethod.unpack_encode hfit hrest,
    fun _ _ hfit => AbiMethod.decodeCall_pack hfit, ?short, ?arm, ?addresses,
    fun c _ _ hq0 hqn hc0 hcn hq hc => ArmContract.outstandingWithdrawals_of_answers hq hc hq0 hqn hc0 hcn,
    fun c _ _ howner h0 hb h => TokenContract.balanceOf_of_answers h howner h0 hb,
    fun c _ h0 hx h => TokenContract.exchangeRate_of_answers h h0 hx, ?pool,
    fun v _ _ _ _ _ _ _ _ hvault harm havailable hmeta hbase hqueued hclaimed hwords hfields =>
      VaultLiquidity.read_of_answers hvault harm havailable hmeta hbase hqueued hclaimed hwords hfields⟩
  case short =>
    intro c meth args out hargs h hshort
    obtain ⟨why, hcall⟩ := Contract.call_of_short h hargs hshort
    exact ⟨why, hcall, Contract.callNum_of_call_error hcall, Contract.callAddress_of_call_error hcall⟩
  case arm =>
    intro c n h0 hn
    exact ⟨fun h => ArmContract.buyPrice_of_answers h h0 hn, fun h => ArmContract.crossPrice_of_answers h h0 hn,
      fun hpos h => sellPrice_of_read c hpos hn (h.endpoint_pack .nil)⟩
  case addresses =>
    intro c a ha
    -- each address reader is `callAddress` of a method with no inputs and one address output
    have read : ∀ {meth : AbiMethod}, meth.inputs = [] → meth.outputs = [.address] →
        c.Answers meth [] (Abi.encode (.addr a)) → c.callAddress meth [] = pure (.ok a) :=
      fun hin hout h => Contract.callAddress_of_answers hout h (hin ▸ .nil) ha
    exact ⟨read rfl rfl, read rfl rfl, read rfl rfl, read rfl rfl, read rfl rfl⟩
  case pool =>
    intro p _ _ i j dx _ hi hj hilo hihi hjlo hjhi hdx0 hdx h0 hdy h
    -- coin indices travel as `int128`, the amount as `uint256`
    have hfit : List.Forall₂ AbiType.Fits Abi.getDy.inputs [.num i, .num j, .num dx] :=
      .cons ⟨by norm_num, hilo, hihi⟩ (.cons ⟨by norm_num, hjlo, hjhi⟩ (.cons ⟨by norm_num, hdx0, hdx⟩ .nil))
    exact CurvePool.quoteSwap_of_answers hi hj hfit h h0 hdy

/-- A vault holding 7 with 3 queued and 1 claimed, beside an ARM holding 4 with as many
withdrawals claimed as queued; and the call data of `get_dy(-1, 2, 2^256 - 1)`, which carries
the sign bit and the top of the range. -/
theorem liquidity_read_from_encoded_answers :
    (⟨⟨⟨1⟩, fun _ _ => pure (.ok (Abi.word 5))⟩,
      ⟨⟨2⟩, fun _ _ => pure (.ok (Abi.word 3 ++ Abi.word 0 ++ Abi.word 1 ++ Abi.word 9))⟩,
      ⟨⟨3⟩, fun _ _ => pure (.ok (Abi.word 7))⟩, ⟨⟨4⟩, fun _ _ => pure (.ok (Abi.word 4))⟩⟩ :
        VaultLiquidity Id).read = pure (.ok ⟨some 7, some (max 0 (4 - (5 - 5))), some (3 - 1)⟩) ∧
    Abi.getDy.decodeCall (Abi.getDy.pack [.num (-1), .num 2, .num (2 ^ 256 - 1)]) =
      some [.num (-1), .num 2, .num (2 ^ 256 - 1)] :=
  ⟨(@readers_invert_abi_encoding Id _ _).2.2.2.2.2.2.2.2.2 _ 7 3 0 1 9 4 5 5 (by decide) (by decide)
      (fun _ _ => rfl) (fun _ _ => rfl) (fun _ _ => rfl) (fun _ _ => rfl) (fun _ _ => rfl) (by decide) (by decide),
    (@readers_invert_abi_encoding Id _ _).2.1 _ _ (by decide)⟩

end QuoteKeeper
