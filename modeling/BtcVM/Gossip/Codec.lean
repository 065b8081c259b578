import BtcVM.Wire.MsgBlock

/-!
# Gossip items and their codec

`BTCGossip` (`vm/gossip_wrapper.go`), its discriminator (`vm/gossip_item.go`) and
`BTCGossipMarshaller` (`vm/gossip.go`). An item is a type byte and two nullable payloads;
nothing in the Go type ties the byte to the payload that is set, so the model keeps all
three fields independent and the codec checks them as the source does.

The marshaller writes the type byte and then the payload's witness encoding; the
unmarshaller reads the type byte and hands the rest to the payload decoder, ignoring any
bytes the decoder leaves unread.
-/

namespace BtcVM

open Wire

/-- `GossipItemTypeTx`. -/
def gossipItemTypeTx : UInt8 := 0x01

/-- `GossipItemTypeBlock`. -/
def gossipItemTypeBlock : UInt8 := 0x02

/-- The two item types are distinct bytes. -/
theorem gossipItemTypeTx_ne_block : gossipItemTypeTx ≠ gossipItemTypeBlock := by decide

/-- `BTCGossip`: `ItemType` and the nullable `*btcutil.Tx` and `*btcutil.Block`, which we
represent by the wire messages they wrap. -/
structure BTCGossip where
  itemType : UInt8
  tx : Option MsgTx
  block : Option MsgBlock
  deriving DecidableEq, Repr

/-- `NewTxGossip`. -/
def newTxGossip (tx : MsgTx) : BTCGossip := ⟨gossipItemTypeTx, some tx, none⟩

/-- `NewBlockGossip`. -/
def newBlockGossip (b : MsgBlock) : BTCGossip := ⟨gossipItemTypeBlock, none, some b⟩

section GossipID

variable (doubleHashH : List UInt8 → Hash)

/-- `BTCGossip.GossipID`: the payload's hash for the item's type, `ids.Empty` when that
payload is nil or the type is unknown. -/
def BTCGossip.gossipID (g : BTCGossip) : ID :=
  if g.itemType = gossipItemTypeTx then
    match g.tx with
    | some tx => hashToID (tx.txHash doubleHashH)
    | none => ID.empty
  else if g.itemType = gossipItemTypeBlock then
    match g.block with
    | some b => hashToID (b.header.blockHash doubleHashH)
    | none => ID.empty
  else ID.empty

end GossipID

/-- `BTCGossipMarshaller.MarshalGossip`; `none` is a nil `*BTCGossip`. Writing to a
`bytes.Buffer` cannot fail, so the encoders' error branches are unreachable and omitted. -/
def marshalGossip : Option BTCGossip → Except String (List UInt8)
  | none => .error "nil gossip item"
  | some item =>
    if item.itemType = gossipItemTypeTx then
      match item.tx with
      | none => .error "nil transaction in gossip item"
      | some tx => .ok (item.itemType :: tx.btcEncode)
    else if item.itemType = gossipItemTypeBlock then
      match item.block with
      | none => .error "nil block in gossip item"
      | some b => .ok (item.itemType :: b.btcEncode)
    else
      let t := item.itemType
      .error s!"unknown gossip item type: {t}"

/-- `BTCGossipMarshaller.UnmarshalGossip`. A decoder failure is reported with the source's
prefix; the wrapped wire error is not modelled. -/
def unmarshalGossip : List UInt8 → Except String BTCGossip
  | [] => .error "empty gossip data"
  | t :: data =>
    if t = gossipItemTypeTx then
      match MsgTx.btcDecode data with
      | none => .error "failed to decode tx"
      | some (tx, _) => .ok ⟨t, some tx, none⟩
    else if t = gossipItemTypeBlock then
      match MsgBlock.btcDecode data with
      | none => .error "failed to decode block"
      | some (b, _) => .ok ⟨t, none, some b⟩
    else .error s!"unknown gossip item type: {t}"

end BtcVM
