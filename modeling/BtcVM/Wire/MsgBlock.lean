import BtcVM.Wire.MsgTxRoundTrip

/-!
# Blocks on the wire

`BlockHeader` and `MsgBlock` with their `BtcEncode`/`BtcDecode`, block and transaction
hashes, and the block round trip.

The header timestamp is a `time.Time` in the source; we keep its Unix seconds as an `Int`.
The encoder writes `uint32(Timestamp.Unix())`, so a decoded header can differ from the one
that was encoded (`BlockHeader.normalize`), while its serialisation, and hence its hash, is
the same. The round trip is therefore stated on serialisations:
`serialize (decode (serialize b ++ rest)) = serialize b` (`btcDecode_btcEncode_block`).
-/

namespace BtcVM.Wire

/-- `maxTxPerBlock = MaxBlockPayload / minTxPayload + 1 = 4000000 / 10 + 1`. -/
def maxTxPerBlock : Nat := 4000000 / 10 + 1

/-- `BlockHeader`; `timestamp` is Unix seconds. -/
structure BlockHeader where
  version : UInt32
  prevBlock : Hash
  merkleRoot : Hash
  timestamp : Int
  bits : UInt32
  nonce : UInt32
  deriving DecidableEq, Repr

/-- `MsgBlock`. -/
structure MsgBlock where
  header : BlockHeader
  transactions : List MsgTx
  deriving DecidableEq, Repr

/-- `uint32(t.Unix())`: the low 32 bits of the Unix time. -/
def timestampBits (t : Int) : UInt32 := (t % 2 ^ 32).toNat.toUInt32

/-- `writeBlockHeader`: the 80 header bytes. -/
def BlockHeader.serialize (h : BlockHeader) : List UInt8 :=
  putUint32 h.version ++ h.prevBlock.bytes ++ h.merkleRoot.bytes ++
    putUint32 (timestampBits h.timestamp) ++ putUint32 h.bits ++ putUint32 h.nonce

/-- `readBlockHeader`; the timestamp comes back as `time.Unix(int64(sec), 0)`. -/
def readBlockHeader (bs : List UInt8) : Option (BlockHeader × List UInt8) := do
  let (version, bs) ← readUint32 bs
  let (prevBlock, bs) ← readHash bs
  let (merkleRoot, bs) ← readHash bs
  let (sec, bs) ← readUint32 bs
  let (bits, bs) ← readUint32 bs
  let (nonce, bs) ← readUint32 bs
  some ({ version, prevBlock, merkleRoot, timestamp := sec.toNat, bits, nonce }, bs)

/-- Modelled from the spec: `MsgBlock.BtcEncode(w, 0, WitnessEncoding)` of the ledger engine's
wire package (not under `src/`), which is also `MsgBlock.Serialize`. -/
def MsgBlock.btcEncode (b : MsgBlock) : List UInt8 :=
  b.header.serialize ++ writeVarInt b.transactions.length ++ b.transactions.flatMap MsgTx.btcEncode

/-- Modelled from the spec: `MsgBlock.BtcDecode(r, 0, WitnessEncoding)` of the ledger engine's
wire package (not under `src/`), returning the unread rest of the input. -/
def MsgBlock.btcDecode (bs : List UInt8) : Option (MsgBlock × List UInt8) := do
  let (header, bs) ← readBlockHeader bs
  let (txCount, bs) ← readVarInt bs
  if txCount > maxTxPerBlock then none else do
  let (transactions, bs) ← readN MsgTx.btcDecode txCount bs
  some ({ header, transactions }, bs)

section Hashes

variable (doubleHashH : List UInt8 → Hash)

/-- `BlockHeader.BlockHash`: `chainhash.DoubleHashH` of the 80 header bytes. `btcutil.Block`'s
`Hash` is this hash of its header. -/
def BlockHeader.blockHash (h : BlockHeader) : Hash := doubleHashH h.serialize

/-- `MsgTx.TxHash`: `chainhash.DoubleHashH` of the serialisation without witness data. -/
def MsgTx.txHash (tx : MsgTx) : Hash := doubleHashH tx.serializeNoWitness

end Hashes

/-! ## Round trip -/

/-- The header `readBlockHeader` returns for the bytes of `h`. -/
def BlockHeader.normalize (h : BlockHeader) : BlockHeader :=
  { h with timestamp := (timestampBits h.timestamp).toNat }

/-- A header is 80 bytes on the wire. -/
@[simp] theorem length_serialize (h : BlockHeader) : h.serialize.length = 80 := by
  simp [BlockHeader.serialize, h.prevBlock.length_eq, h.merkleRoot.length_eq]

/-- A timestamp that fits 32 bits keeps its value through `timestampBits`. -/
theorem timestampBits_toNat (u : UInt32) : timestampBits (u.toNat : Int) = u := by
  have hu : u.toNat < 2 ^ 32 := u.val.isLt
  apply UInt32.toNat.inj
  simp only [timestampBits, Int.emod_eq_of_lt (Int.ofNat_nonneg _) (by omega : (u.toNat : Int) < 2 ^ 32),
    Int.toNat_ofNat]
  exact UInt32.toNat_ofNat_of_lt hu

/-- Normalising the timestamp does not change the header's bytes. -/
@[simp] theorem serialize_normalize (h : BlockHeader) : h.normalize.serialize = h.serialize := by
  simp [BlockHeader.normalize, BlockHeader.serialize, timestampBits_toNat]

/-- Normalising the timestamp does not change the block hash. -/
@[simp] theorem blockHash_normalize (doubleHashH : List UInt8 → Hash) (h : BlockHeader) :
    h.normalize.blockHash doubleHashH = h.blockHash doubleHashH := by
  simp [BlockHeader.blockHash]

/-- A header is read back from its 80 bytes, its timestamp cut to 32 bits. -/
theorem readBlockHeader_append (h : BlockHeader) (rest : List UInt8) :
    readBlockHeader (h.serialize ++ rest) = some (h.normalize, rest) := by
  simp [readBlockHeader, BlockHeader.serialize, List.append_assoc, readUint32_append,
    readHash_append, BlockHeader.normalize]

/-- `readBlockHeader` consumes a prefix of its input. -/
theorem readBlockHeader_suffix {bs r : List UInt8} {h : BlockHeader}
    (hr : readBlockHeader bs = some (h, r)) : r <:+ bs := by
  simp only [readBlockHeader, Option.bind_eq_bind, Option.bind_eq_some, Option.some.injEq] at hr
  obtain ⟨⟨_, b₁⟩, h₁, ⟨_, b₂⟩, h₂, ⟨_, b₃⟩, h₃, ⟨_, b₄⟩, h₄, ⟨_, b₅⟩, h₅, ⟨_, b₆⟩, h₆, he⟩ := hr
  cases he
  exact (readUint32_suffix h₆).trans <| (readUint32_suffix h₅).trans <|
    (readUint32_suffix h₄).trans <| (readHash_suffix h₃).trans <| (readHash_suffix h₂).trans <|
    readUint32_suffix h₁

/-- `MsgBlock.btcDecode` consumes a prefix of its input: what it leaves unread is a suffix. -/
theorem btcDecode_block_suffix {bs r : List UInt8} {b : MsgBlock}
    (h : MsgBlock.btcDecode bs = some (b, r)) : r <:+ bs := by
  simp only [MsgBlock.btcDecode, Option.bind_eq_bind, Option.bind_eq_some] at h
  obtain ⟨⟨_, b₁⟩, h₁, ⟨txCount, b₂⟩, h₂, h⟩ := h
  dsimp only at h h₂
  by_cases hc : txCount > maxTxPerBlock
  · rw [if_pos hc] at h; cases h
  rw [if_neg hc] at h
  simp only [Option.pure_def, Option.some_bind, Option.bind_eq_some, Option.some.injEq] at h
  obtain ⟨⟨_, b₃⟩, h₃, he⟩ := h
  cases he
  exact (readN_suffix btcDecode_suffix h₃).trans <| (readVarInt_suffix h₂).trans <|
    readBlockHeader_suffix h₁

/-- `readBlockHeader` ignores what follows the bytes it reads. -/
theorem readBlockHeader_prefixStable : PrefixStable readBlockHeader := fun t hr => by
  simp only [readBlockHeader, Option.bind_eq_bind, Option.bind_eq_some, Option.some.injEq] at hr
  obtain ⟨⟨_, b₁⟩, h₁, ⟨_, b₂⟩, h₂, ⟨_, b₃⟩, h₃, ⟨_, b₄⟩, h₄, ⟨_, b₅⟩, h₅, ⟨_, b₆⟩, h₆, he⟩ := hr
  cases he
  simp only [readBlockHeader, Option.bind_eq_bind, readUint32_prefixStable t h₁, Option.some_bind,
    readHash_prefixStable t h₂, readHash_prefixStable t h₃, readUint32_prefixStable t h₄,
    readUint32_prefixStable t h₅, readUint32_prefixStable t h₆]

/-- `MsgBlock.btcDecode` never looks past what it reads: appended bytes are left unread. -/
theorem btcDecode_block_prefixStable : PrefixStable MsgBlock.btcDecode := fun t h => by
  simp only [MsgBlock.btcDecode, Option.bind_eq_bind, Option.bind_eq_some] at h
  obtain ⟨⟨_, b₁⟩, h₁, ⟨txCount, b₂⟩, h₂, h⟩ := h
  dsimp only at h h₂
  by_cases hc : txCount > maxTxPerBlock
  · rw [if_pos hc] at h; cases h
  rw [if_neg hc] at h
  simp only [Option.pure_def, Option.some_bind, Option.bind_eq_some, Option.some.injEq] at h
  obtain ⟨⟨_, b₃⟩, h₃, he⟩ := h
  cases he
  simp only [MsgBlock.btcDecode, Option.bind_eq_bind, readBlockHeader_prefixStable t h₁,
    Option.some_bind, readVarInt_prefixStable t h₂, if_neg hc,
    readN_prefixStable btcDecode_prefixStable _ t h₃]

/-- The block with its header as the decoder returns it. -/
def MsgBlock.normalize (b : MsgBlock) : MsgBlock := { b with header := b.header.normalize }

/-- Normalising the header does not change the block's bytes. -/
@[simp] theorem btcEncode_normalize (b : MsgBlock) : b.normalize.btcEncode = b.btcEncode := by
  simp [MsgBlock.normalize, MsgBlock.btcEncode]

/-- The bounds `MsgBlock.BtcDecode` checks, and an input in every transaction, without which
the transaction codec does not round-trip. -/
structure MsgBlock.WellFormed (b : MsgBlock) : Prop where
  transactions_length : b.transactions.length ≤ maxTxPerBlock
  txIn_ne_nil : ∀ tx ∈ b.transactions, tx.txIn ≠ []
  withinLimits : ∀ tx ∈ b.transactions, tx.WithinLimits

instance (b : MsgBlock) : Decidable b.WellFormed :=
  decidable_of_iff (b.transactions.length ≤ maxTxPerBlock ∧ (∀ tx ∈ b.transactions, tx.txIn ≠ []) ∧
      ∀ tx ∈ b.transactions, tx.WithinLimits)
    ⟨fun ⟨a, b, c⟩ => ⟨a, b, c⟩, fun ⟨a, b, c⟩ => ⟨a, b, c⟩⟩

/-- The transaction count bound fits a var-int. -/
private theorem maxTxPerBlock_lt : maxTxPerBlock < 2 ^ 64 := by decide

/-- The block codec round-trips on every well-formed block, up to the timestamp's width. -/
theorem btcDecode_btcEncode_block (b : MsgBlock) (rest : List UInt8) (hb : b.WellFormed) :
    MsgBlock.btcDecode (b.btcEncode ++ rest) = some (b.normalize, rest) := by
  have hlt : b.transactions.length < 2 ^ 64 := lt_of_le_of_lt hb.transactions_length maxTxPerBlock_lt
  have htxs : ∀ rest, readN MsgTx.btcDecode b.transactions.length
      (b.transactions.flatMap MsgTx.btcEncode ++ rest) = some (b.transactions.map id, rest) :=
    fun rest => readN_flatMap (fun tx htx rest =>
      btcDecode_btcEncode tx rest (hb.txIn_ne_nil tx htx) (hb.withinLimits tx htx)) rest
  simp only [List.map_id] at htxs
  simp [MsgBlock.btcDecode, MsgBlock.btcEncode, List.append_assoc, readBlockHeader_append,
    readVarInt_append _ hlt, not_lt.mpr hb.transactions_length, htxs, MsgBlock.normalize]

end BtcVM.Wire
