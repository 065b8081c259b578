import BtcVM.Wire.MsgTx

/-!
# Transaction round trip

`MsgTx.btcDecode (tx.btcEncode ++ rest) = some (tx, rest)` for every transaction with at
least one input whose counts and script lengths are within the decoder's bounds
(`btcDecode_btcEncode`). The proof follows the decoder field by field; each field has its
own prefix lemma, and lists of fields are handled once by `readN_flatMap`.

A transaction with no inputs is the exception the first hypothesis excludes: its input
count `0x00` is read as the segwit marker.

The decoder reads a prefix of its input (`btcDecode_suffix`) and never looks past it: bytes
appended to an input it accepts are left unread (`btcDecode_prefixStable`).
-/

namespace BtcVM.Wire

/-- Reading `as.length` values back from their concatenated encodings. The reader may
normalise each value (`f`): `readTxIn` drops the witness, which is read later. -/
theorem readN_flatMap {α : Type} {read : List UInt8 → Option (α × List UInt8)}
    {write : α → List UInt8} {f : α → α} {as : List α}
    (h : ∀ a ∈ as, ∀ rest, read (write a ++ rest) = some (f a, rest)) (rest : List UInt8) :
    readN read as.length (as.flatMap write ++ rest) = some (as.map f, rest) := by
  induction as with
  | nil => rfl
  | cons a as ih =>
    have ha := h a (List.mem_cons_self a as)
    have has := ih fun b hb => h b (List.mem_cons_of_mem a hb)
    simp [readN, List.append_assoc, ha, has]

/-- `readN` leaves a suffix of its input when each read does. -/
theorem readN_suffix {α : Type} {read : List UInt8 → Option (α × List UInt8)}
    (hread : ∀ {bs v r}, read bs = some (v, r) → r <:+ bs) {n : Nat} {bs r : List UInt8}
    {vs : List α} (h : readN read n bs = some (vs, r)) : r <:+ bs := by
  induction n generalizing bs vs with
  | zero => simp only [readN, Option.some.injEq, Prod.mk.injEq] at h; rw [h.2]
  | succ n ih =>
    simp only [readN, Option.bind_eq_bind, Option.bind_eq_some] at h
    obtain ⟨⟨a, bs₁⟩, h₁, ⟨as, bs₂⟩, h₂, he⟩ := h
    cases he
    exact (ih h₂).trans (hread h₁)

/-- The input with its witness stack emptied: what `readTxIn` returns. -/
def TxIn.stripWitness (ti : TxIn) : TxIn := { ti with witness := [] }

/-- An input is read back with its witness dropped, when its signature script is within
`maxScriptSize`. -/
theorem readTxIn_append (ti : TxIn) (rest : List UInt8)
    (h : ti.signatureScript.length ≤ maxScriptSize) :
    readTxIn (writeTxIn ti ++ rest) = some (ti.stripWitness, rest) := by
  have h64 : ti.signatureScript.length < 2 ^ 64 :=
    lt_of_le_of_lt h (by simp [maxScriptSize])
  simp [readTxIn, writeTxIn, List.append_assoc, readHash_append, readUint32_append,
    readScript_append _ h h64, TxIn.stripWitness]

/-- An output is read back, when its public-key script is within `maxScriptSize`. -/
theorem readTxOut_append (o : TxOut) (rest : List UInt8)
    (h : o.pkScript.length ≤ maxScriptSize) :
    readTxOut (writeTxOut o ++ rest) = some (o, rest) := by
  have h64 : o.pkScript.length < 2 ^ 64 := lt_of_le_of_lt h (by simp [maxScriptSize])
  simp [readTxOut, writeTxOut, List.append_assoc, readUint64_append, readScript_append _ h h64]

/-- A witness stack is read back, within the item count and item size bounds. -/
theorem readWitness_append (wit : List (List UInt8)) (rest : List UInt8)
    (hlen : wit.length ≤ maxWitnessItemsPerInput)
    (hitem : ∀ w ∈ wit, w.length ≤ maxWitnessItemSize) :
    readWitness (writeTxWitness wit ++ rest) = some (wit, rest) := by
  have h64 : wit.length < 2 ^ 64 := lt_of_le_of_lt hlen (by simp [maxWitnessItemsPerInput])
  have hitems : readN (readScript maxWitnessItemSize) wit.length
      (wit.flatMap writeVarBytes ++ rest) = some (wit.map id, rest) :=
    readN_flatMap (fun w hw rest => readScript_append rest (hitem w hw)
      (lt_of_le_of_lt (hitem w hw) (by simp [maxWitnessItemSize]))) rest
  rw [List.map_id] at hitems
  simp [readWitness, writeTxWitness, List.append_assoc, readVarInt_append _ h64,
    not_lt.mpr hlen, hitems]

/-- The inputs' witness stacks, read after the outputs, restore the witnesses `readTxIn`
dropped. -/
theorem readWitnesses_append (tis : List TxIn) (rest : List UInt8)
    (hlen : ∀ ti ∈ tis, ti.witness.length ≤ maxWitnessItemsPerInput)
    (hitem : ∀ ti ∈ tis, ∀ w ∈ ti.witness, w.length ≤ maxWitnessItemSize) :
    readWitnesses (tis.map TxIn.stripWitness)
      (tis.flatMap (fun ti => writeTxWitness ti.witness) ++ rest) = some (tis, rest) := by
  induction tis with
  | nil => rfl
  | cons ti tis ih =>
    have hw := readWitness_append ti.witness
      (tis.flatMap (fun ti => writeTxWitness ti.witness) ++ rest)
      (hlen ti (List.mem_cons_self _ _)) (hitem ti (List.mem_cons_self _ _))
    have ht := ih (fun t ht => hlen t (List.mem_cons_of_mem _ ht))
      (fun t ht => hitem t (List.mem_cons_of_mem _ ht))
    simp [readWitnesses, List.append_assoc, hw, ht, TxIn.stripWitness]

/-- Without witness data, stripping the (empty) witnesses changes nothing. -/
theorem map_stripWitness_of_not_hasWitness {tx : MsgTx} (h : tx.hasWitness = false) :
    tx.txIn.map TxIn.stripWitness = tx.txIn := by
  simp only [MsgTx.hasWitness, List.any_eq_false, Bool.not_eq_true', List.isEmpty_eq_false,
    not_not] at h
  conv_rhs => rw [← List.map_id tx.txIn]
  refine List.map_congr_left fun ti hti => ?_
  have := h ti hti
  cases ti; simp_all [TxIn.stripWitness]

/-- The input count bound fits a var-int. -/
private theorem maxTxInPerMessage_lt : maxTxInPerMessage < 2 ^ 64 := by decide

/-- The output count bound fits a var-int. -/
private theorem maxTxOutPerMessage_lt : maxTxOutPerMessage < 2 ^ 64 := by decide

/-- The transaction codec round-trips on every transaction with an input, within the
decoder's bounds, whatever bytes follow it. -/
theorem btcDecode_btcEncode (tx : MsgTx) (rest : List UInt8) (hin : tx.txIn ≠ [])
    (hlim : tx.WithinLimits) :
    MsgTx.btcDecode (tx.btcEncode ++ rest) = some (tx, rest) := by
  have hinLt : tx.txIn.length < 2 ^ 64 := lt_of_le_of_lt hlim.txIn_length maxTxInPerMessage_lt
  have houtLt : tx.txOut.length < 2 ^ 64 :=
    lt_of_le_of_lt hlim.txOut_length maxTxOutPerMessage_lt
  have hins : ∀ rest, readN readTxIn tx.txIn.length (tx.txIn.flatMap writeTxIn ++ rest) =
      some (tx.txIn.map TxIn.stripWitness, rest) := fun rest =>
    readN_flatMap (fun ti hti rest => readTxIn_append ti rest (hlim.signatureScript_length ti hti))
      rest
  have houts : ∀ rest, readN readTxOut tx.txOut.length (tx.txOut.flatMap writeTxOut ++ rest) =
      some (tx.txOut.map id, rest) := fun rest =>
    readN_flatMap (fun o ho rest => readTxOut_append o rest (hlim.pkScript_length o ho)) rest
  simp only [List.map_id] at houts
  have hwits := fun rest =>
    readWitnesses_append tx.txIn rest hlim.witness_length hlim.witness_item_length
  have hcount : tx.txIn.length ≠ 0 := by simpa using hin
  cases hw : tx.hasWitness <;>
    simp [MsgTx.btcDecode, MsgTx.btcEncode, MsgTx.encode, hw, List.append_assoc,
      readUint32_append, readVarInt_append _ hinLt, readVarInt_append _ houtLt, readFlagAndCount,
      readVarInt_zero, hcount, not_lt.mpr hlim.txIn_length, not_lt.mpr hlim.txOut_length, hins,
      houts, hwits, map_stripWitness_of_not_hasWitness]

/-! ## The decoder reads a prefix -/

/-- `readTxIn` consumes a prefix of its input. -/
theorem readTxIn_suffix {bs r : List UInt8} {ti : TxIn} (h : readTxIn bs = some (ti, r)) :
    r <:+ bs := by
  simp only [readTxIn, Option.bind_eq_bind, Option.bind_eq_some, Option.some.injEq] at h
  obtain ⟨⟨_, b₁⟩, h₁, ⟨_, b₂⟩, h₂, ⟨_, b₃⟩, h₃, ⟨_, b₄⟩, h₄, he⟩ := h
  cases he
  exact (readUint32_suffix h₄).trans <| (readScript_suffix h₃).trans <|
    (readUint32_suffix h₂).trans (readHash_suffix h₁)

/-- `readTxOut` consumes a prefix of its input. -/
theorem readTxOut_suffix {bs r : List UInt8} {o : TxOut} (h : readTxOut bs = some (o, r)) :
    r <:+ bs := by
  simp only [readTxOut, Option.bind_eq_bind, Option.bind_eq_some, Option.some.injEq] at h
  obtain ⟨⟨_, b₁⟩, h₁, ⟨_, b₂⟩, h₂, he⟩ := h
  cases he
  exact (readScript_suffix h₂).trans (readUint64_suffix h₁)

/-- `readWitness` consumes a prefix of its input. -/
theorem readWitness_suffix {bs r : List UInt8} {w : List (List UInt8)}
    (h : readWitness bs = some (w, r)) : r <:+ bs := by
  simp only [readWitness, Option.bind_eq_bind, Option.bind_eq_some] at h
  obtain ⟨⟨_, b₁⟩, h₁, h₂⟩ := h
  split_ifs at h₂
  exact (readN_suffix readScript_suffix h₂).trans (readVarInt_suffix h₁)

/-- `readWitnesses` consumes a prefix of its input. -/
theorem readWitnesses_suffix {tis : List TxIn} {bs r : List UInt8} {tis' : List TxIn}
    (h : readWitnesses tis bs = some (tis', r)) : r <:+ bs := by
  induction tis generalizing bs tis' with
  | nil => simp only [readWitnesses, Option.some.injEq, Prod.mk.injEq] at h; rw [h.2]
  | cons ti tis ih =>
    simp only [readWitnesses, Option.bind_eq_bind, Option.bind_eq_some, Option.some.injEq] at h
    obtain ⟨⟨_, b₁⟩, h₁, ⟨_, b₂⟩, h₂, he⟩ := h
    cases he
    exact (ih h₂).trans (readWitness_suffix h₁)

/-- Reading the segwit marker and flag consumes a prefix of the input. -/
theorem readFlagAndCount_suffix {count : Nat} {bs r : List UInt8} {v : UInt8 × Nat}
    (h : readFlagAndCount count bs = some (v, r)) : r <:+ bs := by
  unfold readFlagAndCount at h
  split_ifs at h
  · match bs, h with
    | f :: bs, h =>
      simp only at h
      split_ifs at h
      obtain ⟨⟨_, b₁⟩, h₁, he⟩ := Option.map_eq_some'.mp h
      cases he
      exact (readVarInt_suffix h₁).trans (List.suffix_cons f bs)
  · cases h; exact List.suffix_refl _

/-- Everything a successful `MsgTx.btcDecode` read, in order. -/
theorem btcDecode_eq_some {bs r : List UInt8} {tx : MsgTx} (h : MsgTx.btcDecode bs = some (tx, r)) :
    ∃ version b₁ count₀ b₂ flag count b₃ txIn b₄ outCount b₅ txOut b₆ txIn' b₇ lockTime,
      readUint32 bs = some (version, b₁) ∧ readVarInt b₁ = some (count₀, b₂) ∧
      readFlagAndCount count₀ b₂ = some ((flag, count), b₃) ∧ ¬count > maxTxInPerMessage ∧
      readN readTxIn count b₃ = some (txIn, b₄) ∧ readVarInt b₄ = some (outCount, b₅) ∧
      ¬outCount > maxTxOutPerMessage ∧ readN readTxOut outCount b₅ = some (txOut, b₆) ∧
      (if flag ≠ 0 then readWitnesses txIn b₆ else some (txIn, b₆)) = some (txIn', b₇) ∧
      readUint32 b₇ = some (lockTime, r) ∧ tx = { version, txIn := txIn', txOut, lockTime } := by
  simp only [MsgTx.btcDecode, Option.bind_eq_bind, Option.bind_eq_some] at h
  obtain ⟨⟨_, b₁⟩, h₁, ⟨_, b₂⟩, h₂, ⟨⟨flag, count⟩, b₃⟩, h₃, h⟩ := h
  dsimp only at h h₂ h₃
  by_cases hc : count > maxTxInPerMessage
  · rw [if_pos hc] at h; cases h
  rw [if_neg hc] at h
  simp only [Option.pure_def, Option.some_bind, Option.bind_eq_some] at h
  obtain ⟨⟨_, b₄⟩, h₄, ⟨outCount, b₅⟩, h₅, h⟩ := h
  dsimp only at h h₅
  by_cases ho : outCount > maxTxOutPerMessage
  · rw [if_pos ho] at h; cases h
  rw [if_neg ho] at h
  simp only [Option.pure_def, Option.some_bind, Option.bind_eq_some] at h
  obtain ⟨⟨_, b₆⟩, h₆, h⟩ := h
  dsimp only at h
  split at h <;> rename_i hf
  · obtain ⟨⟨_, _⟩, h₇, h⟩ := Option.bind_eq_some.mp h
    obtain ⟨⟨_, _⟩, h₈, he⟩ := Option.bind_eq_some.mp h
    cases he
    exact ⟨_, _, _, _, _, _, _, _, _, _, _, _, _, _, _, _, h₁, h₂, h₃, hc, h₄, h₅, ho, h₆,
      by rwa [if_pos hf], h₈, rfl⟩
  · obtain ⟨⟨_, _⟩, h₈, he⟩ := Option.bind_eq_some.mp h
    cases he
    exact ⟨_, _, _, _, _, _, _, _, _, _, _, _, _, _, _, _, h₁, h₂, h₃, hc, h₄, h₅, ho, h₆,
      by rw [if_neg hf], h₈, rfl⟩

/-- `MsgTx.btcDecode` consumes a prefix of its input. -/
theorem btcDecode_suffix {bs r : List UInt8} {tx : MsgTx} (h : MsgTx.btcDecode bs = some (tx, r)) :
    r <:+ bs := by
  obtain ⟨_, _, _, _, _, _, _, _, _, _, _, _, b₆, _, b₇, _, h₁, h₂, h₃, -, h₄, h₅, -, h₆, h₇, h₈, -⟩ :=
    btcDecode_eq_some h
  have hw : b₇ <:+ b₆ := by
    split at h₇
    · exact readWitnesses_suffix h₇
    · cases h₇; exact List.suffix_refl _
  exact (readUint32_suffix h₈).trans <| hw.trans <| (readN_suffix readTxOut_suffix h₆).trans <|
    (readVarInt_suffix h₅).trans <| (readN_suffix readTxIn_suffix h₄).trans <|
    (readFlagAndCount_suffix h₃).trans <| (readVarInt_suffix h₂).trans (readUint32_suffix h₁)

/-! ## The decoder ignores what follows -/

/-- `readN` ignores what follows the bytes it reads, when each read does. -/
theorem readN_prefixStable {α : Type} {read : List UInt8 → Option (α × List UInt8)}
    (hread : PrefixStable read) (n : Nat) : PrefixStable (readN read n) := fun {bs r vs} t h => by
  induction n generalizing bs r vs with
  | zero => simp only [readN, Option.some.injEq, Prod.mk.injEq] at h ⊢; rw [h.1, h.2]; simp
  | succ n ih =>
    simp only [readN, Option.bind_eq_bind, Option.bind_eq_some, Option.some.injEq] at h
    obtain ⟨⟨a, bs₁⟩, h₁, ⟨as, bs₂⟩, h₂, he⟩ := h
    cases he
    simp only [readN, Option.bind_eq_bind, hread t h₁, Option.some_bind, ih h₂]

/-- `readTxIn` ignores what follows the bytes it reads. -/
theorem readTxIn_prefixStable : PrefixStable readTxIn := fun t h => by
  simp only [readTxIn, Option.bind_eq_bind, Option.bind_eq_some, Option.some.injEq] at h
  obtain ⟨⟨_, b₁⟩, h₁, ⟨_, b₂⟩, h₂, ⟨_, b₃⟩, h₃, ⟨_, b₄⟩, h₄, he⟩ := h
  cases he
  simp only [readTxIn, Option.bind_eq_bind, readHash_prefixStable t h₁, Option.some_bind,
    readUint32_prefixStable t h₂, readScript_prefixStable _ t h₃, readUint32_prefixStable t h₄]

/-- `readTxOut` ignores what follows the bytes it reads. -/
theorem readTxOut_prefixStable : PrefixStable readTxOut := fun t h => by
  simp only [readTxOut, Option.bind_eq_bind, Option.bind_eq_some, Option.some.injEq] at h
  obtain ⟨⟨_, b₁⟩, h₁, ⟨_, b₂⟩, h₂, he⟩ := h
  cases he
  simp only [readTxOut, Option.bind_eq_bind, readUint64_prefixStable t h₁, Option.some_bind,
    readScript_prefixStable _ t h₂]

/-- `readWitness` ignores what follows the bytes it reads. -/
theorem readWitness_prefixStable : PrefixStable readWitness := fun t h => by
  simp only [readWitness, Option.bind_eq_bind, Option.bind_eq_some] at h
  obtain ⟨⟨_, b₁⟩, h₁, h₂⟩ := h
  split_ifs at h₂ with hc
  simp only [readWitness, Option.bind_eq_bind, readVarInt_prefixStable t h₁, Option.some_bind,
    if_neg hc]
  exact readN_prefixStable (readScript_prefixStable _) _ t h₂

/-- `readWitnesses` ignores what follows the bytes it reads. -/
theorem readWitnesses_prefixStable (tis : List TxIn) : PrefixStable (readWitnesses tis) :=
  fun {bs r tis'} t h => by
  induction tis generalizing bs r tis' with
  | nil => simp only [readWitnesses, Option.some.injEq, Prod.mk.injEq] at h ⊢; rw [h.1, h.2]; simp
  | cons ti tis ih =>
    simp only [readWitnesses, Option.bind_eq_bind, Option.bind_eq_some, Option.some.injEq] at h
    obtain ⟨⟨_, b₁⟩, h₁, ⟨_, b₂⟩, h₂, he⟩ := h
    cases he
    simp only [readWitnesses, Option.bind_eq_bind, readWitness_prefixStable t h₁, Option.some_bind,
      ih h₂]

/-- Reading the segwit marker and flag ignores what follows the bytes it reads. -/
theorem readFlagAndCount_prefixStable (count : Nat) : PrefixStable (readFlagAndCount count) :=
  fun {bs _ _} t h => by
  unfold readFlagAndCount at h ⊢
  split_ifs at h ⊢
  · match bs, h with
    | f :: bs, h =>
      simp only at h
      split_ifs at h with hf
      obtain ⟨⟨_, b₁⟩, h₁, he⟩ := Option.map_eq_some'.mp h
      cases he
      simp only [List.cons_append, if_neg hf, readVarInt_prefixStable t h₁, Option.map_some']
  · cases h; rfl

/-- `MsgTx.btcDecode` ignores what follows the transaction it reads. -/
theorem btcDecode_prefixStable : PrefixStable MsgTx.btcDecode := fun t h => by
  obtain ⟨_, _, _, _, flag, _, _, _, _, _, _, _, _, _, _, _, h₁, h₂, h₃, hc, h₄, h₅, ho, h₆, h₇, h₈, rfl⟩ :=
    btcDecode_eq_some h
  simp only [MsgTx.btcDecode, Option.bind_eq_bind, readUint32_prefixStable t h₁, Option.some_bind,
    readVarInt_prefixStable t h₂, readFlagAndCount_prefixStable _ t h₃, if_neg hc,
    readN_prefixStable readTxIn_prefixStable _ t h₄, readVarInt_prefixStable t h₅, if_neg ho,
    readN_prefixStable readTxOut_prefixStable _ t h₆]
  by_cases hf : flag ≠ 0
  · rw [if_pos hf] at h₇ ⊢
    simp only [readWitnesses_prefixStable _ t h₇, Option.some_bind, readUint32_prefixStable t h₈]
  · rw [if_neg hf] at h₇ ⊢
    cases h₇
    simp only [readUint32_prefixStable t h₈, Option.some_bind]

end BtcVM.Wire
