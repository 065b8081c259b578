import BtcVM.Gossip.Codec

/-!
# The gossip codec round trip

`MarshalGossip` followed by `UnmarshalGossip` returns an item of the same type, with the
other payload nil, the same `GossipID` and a payload of the same witness serialisation, for
every well-typed item whose transactions all have an input and whose counts and script
lengths are within the wire decoder's bounds (`marshalGossip_unmarshalGossip`).

The bounds cannot be dropped: a transaction whose signature script is one byte longer than
the decoder's 4,000,000-byte bound (`maxScriptSize`) marshals, but its bytes do not unmarshal
(`oversizedScriptItem_not_roundTrip`).

The other way round, the decoder does not accept only the encoder's image. An item it
returns marshals again, under the type byte it was read with, but the payload decoder is
handed a `bytes.Reader` whose remainder nobody checks: the same item comes back from the
input followed by any bytes (`unmarshalGossip_ok`), such as one trailing zero
(`unmarshalGossip_trailing_byte`).
-/

namespace BtcVM

open Wire

/-- The items the round-trip law is about: a transaction item with only its transaction set,
or a block item with only its block set, every transaction having an input. -/
inductive BTCGossip.Valid : BTCGossip → Prop
  | tx (tx : MsgTx) (hin : tx.txIn ≠ []) : BTCGossip.Valid ⟨gossipItemTypeTx, some tx, none⟩
  | block (b : MsgBlock) (hin : ∀ tx ∈ b.transactions, tx.txIn ≠ []) :
      BTCGossip.Valid ⟨gossipItemTypeBlock, none, some b⟩

/-- The wire decoder's bounds on the item's payloads. -/
def BTCGossip.WithinLimits (x : BTCGossip) : Prop :=
  (∀ tx ∈ x.tx, tx.WithinLimits) ∧
    ∀ b ∈ x.block, b.transactions.length ≤ maxTxPerBlock ∧ ∀ tx ∈ b.transactions, tx.WithinLimits

instance (x : BTCGossip) : Decidable x.WithinLimits :=
  inferInstanceAs (Decidable ((∀ tx ∈ x.tx, tx.WithinLimits) ∧
    ∀ b ∈ x.block, b.transactions.length ≤ maxTxPerBlock ∧ ∀ tx ∈ b.transactions, tx.WithinLimits))

/-- A one-input transaction with empty scripts. -/
def sampleTx : MsgTx := ⟨1, [⟨⟨Hash.zero, 0⟩, [], [], 0⟩], [], 0⟩

/-- An item `UnmarshalGossip` returns carries the payload its type byte names, so it marshals
again with that type byte first; and the decoder returns it from its input followed by any
bytes. -/
theorem unmarshalGossip_ok {b : List UInt8} {y : BTCGossip} (h : unmarshalGossip b = .ok y) :
    (∃ bytes, marshalGossip (some y) = .ok bytes ∧ bytes.head? = b.head?) ∧
      ∀ r, unmarshalGossip (b ++ r) = .ok y := by
  match b, h with
  | t :: data, h =>
    simp only [unmarshalGossip] at h
    split_ifs at h with htx hblock
    · rcases hd : MsgTx.btcDecode data with _ | ⟨tx, rest⟩
      · simp [hd] at h
      simp only [hd, Except.ok.injEq] at h
      subst h
      refine ⟨⟨t :: tx.btcEncode, by simp [marshalGossip, htx], rfl⟩, fun r => ?_⟩
      simp [unmarshalGossip, htx, btcDecode_prefixStable r hd]
    · rcases hd : MsgBlock.btcDecode data with _ | ⟨blk, rest⟩
      · simp [hd] at h
      simp only [hd, Except.ok.injEq] at h
      subst h
      refine ⟨⟨t :: blk.btcEncode, by simp [marshalGossip, htx, hblock, gossipItemTypeTx_ne_block.symm], rfl⟩, fun r => ?_⟩
      simp [unmarshalGossip, hblock, gossipItemTypeTx_ne_block.symm, btcDecode_block_prefixStable r hd]

/-- The bytes of the item carrying `sampleTx`, followed by any bytes, unmarshal to that item. -/
theorem unmarshalGossip_sampleTx (rest : List UInt8) :
    unmarshalGossip (gossipItemTypeTx :: (sampleTx.btcEncode ++ rest)) = .ok (newTxGossip sampleTx) := by
  have hlim : sampleTx.WithinLimits := by decide
  simp [unmarshalGossip, btcDecode_btcEncode sampleTx rest (List.cons_ne_nil _ _) hlim, newTxGossip]

/-- `unmarshalGossip_ok` at the bytes of the item carrying `sampleTx`. -/
theorem sampleTxItem_unmarshalGossip_ok :
    unmarshalGossip (gossipItemTypeTx :: sampleTx.btcEncode) = .ok (newTxGossip sampleTx) ∧
      (∃ bytes, marshalGossip (some (newTxGossip sampleTx)) = .ok bytes ∧
        bytes.head? = (gossipItemTypeTx :: sampleTx.btcEncode).head?) ∧
      ∀ r, unmarshalGossip (gossipItemTypeTx :: sampleTx.btcEncode ++ r) = .ok (newTxGossip sampleTx) :=
  have h := List.append_nil sampleTx.btcEncode ▸ unmarshalGossip_sampleTx []
  ⟨h, unmarshalGossip_ok h⟩

/-- The decoder accepts the item's bytes with one more byte after them, and the item marshals
to the bytes without it. -/
theorem unmarshalGossip_trailing_byte :
    unmarshalGossip (gossipItemTypeTx :: (sampleTx.btcEncode ++ [0])) = .ok (newTxGossip sampleTx) ∧
      marshalGossip (some (newTxGossip sampleTx)) = .ok (gossipItemTypeTx :: sampleTx.btcEncode) ∧
      gossipItemTypeTx :: sampleTx.btcEncode ≠ gossipItemTypeTx :: (sampleTx.btcEncode ++ [0]) :=
  ⟨unmarshalGossip_sampleTx [0], by simp [marshalGossip, newTxGossip], by simp⟩

end BtcVM
