import BtcVM.Gossip.Codec

/-!
# The gossip set

`UnifiedBTCSet` (`vm/gossip.go`), the set the gossip drivers consult. It stores no items:
`Add` routes an item into the ledger engine and marks its `GossipID` in the bloom filter,
`Has` asks the engine, `Iterate` walks the mempool's transactions, and `GetFilter` serves the
filter.

The ledger engine (btcd's mempool and block chain) and the bloom filter (metalgo's
`gossip.BloomFilter`) are not under `src/`. The engine is a record of the capabilities the
set calls, over any state type (`Ledger`), so what is proved holds for every engine. The
filter keeps its salt, the count bound metalgo derives from its parameters, and the IDs
added to the current generation.
-/

namespace BtcVM

open Wire

/-- Modelled from the spec: the ledger engine's capabilities the gossip set calls (btcd's
`TxMemPool` and `BlockChain`, not under `src/`), over engine states `σ`. A call that fails
may still have changed the state. -/
structure Ledger (σ : Type) where
  /-- `TxMemPool.HaveTransaction`. -/
  haveTransaction : σ → Hash → Bool
  /-- `TxMemPool.ProcessTransaction(tx, false, false, 0)`: the transactions of the
  `TxDesc`s it accepted, or its rejection. -/
  processTransaction : σ → MsgTx → Except String (List MsgTx) × σ
  /-- The transactions of `TxMemPool.TxDescs()`, in its order. -/
  txDescs : σ → List MsgTx
  /-- `BlockChain.HaveBlock`, which fails on a database error. -/
  haveBlock : σ → Hash → Except String Bool
  /-- `BlockChain.ProcessBlock(block, BFNone)`: `isMainChain` and `isOrphan`, or an error. -/
  processBlock : σ → MsgBlock → Except String (Bool × Bool) × σ

/-- Modelled from the spec: metalgo's `gossip.BloomFilter` (not under `src/`). A generation is
identified by its salt, and a reset draws a new one. `maxCount` is the number of additions
at which the estimated false-positive rate reaches the reset threshold; metalgo computes it
in floating point from `BloomFilterSize`, `BloomFalsePositiveRate` and `BloomResetThreshold`.
`added` holds the IDs added to this generation, latest first. -/
structure BloomFilter where
  salt : Nat
  maxCount : Nat
  added : List ID
  deriving DecidableEq, Repr

/-- `BloomFilter.Add`. -/
def BloomFilter.add (f : BloomFilter) (id : ID) : BloomFilter := { f with added := id :: f.added }

/-- `bloom.Count()`: the additions to this generation. -/
def BloomFilter.count (f : BloomFilter) : Nat := f.added.length

/-- `BloomFilter.Has` on an added ID; false positives are not modelled. -/
def BloomFilter.has (f : BloomFilter) (id : ID) : Bool := f.added.contains id

/-- `Add` keeps the filter's salt. -/
@[simp] theorem BloomFilter.add_salt (f : BloomFilter) (id : ID) : (f.add id).salt = f.salt := rfl

/-- `Add` keeps the reset count. -/
@[simp] theorem BloomFilter.add_maxCount (f : BloomFilter) (id : ID) :
    (f.add id).maxCount = f.maxCount := rfl

/-- `Add` puts the ID in front of this generation's additions. -/
@[simp] theorem BloomFilter.add_added (f : BloomFilter) (id : ID) :
    (f.add id).added = id :: f.added := rfl

/-- An added ID is found: the filter has no false negatives. -/
theorem BloomFilter.has_add (f : BloomFilter) (id : ID) : (f.add id).has id = true := by
  simp [BloomFilter.has]

/-- What `UnifiedBTCSet`'s methods read and write: the engine behind `s.vm`, the filter, the
outbound queue of `vm.pushGossiper` (`none` while it is nil), and the lists the `OnTxRelay`
callback was called with, oldest first. -/
structure BTCSet (σ : Type) where
  ledger : σ
  bloom : BloomFilter
  pushQueue : Option (List BTCGossip)
  txRelays : List (List MsgTx)

section Set

variable {σ : Type} (doubleHashH : List UInt8 → Hash) (L : Ledger σ)

/-- `s.bloom.Add(item)`: the item's `GossipID` goes into the filter. -/
def BTCSet.markKnown (s : BTCSet σ) (item : BTCGossip) : BTCSet σ :=
  { s with bloom := s.bloom.add (item.gossipID doubleHashH) }

/-- Marking an item known leaves the engine alone. -/
@[simp] theorem BTCSet.markKnown_ledger (s : BTCSet σ) (item : BTCGossip) :
    (s.markKnown doubleHashH item).ledger = s.ledger := rfl

/-- Marking an item known adds its `GossipID` to the filter. -/
@[simp] theorem BTCSet.markKnown_bloom (s : BTCSet σ) (item : BTCGossip) :
    (s.markKnown doubleHashH item).bloom = s.bloom.add (item.gossipID doubleHashH) := rfl

/-- Marking an item known queues nothing. -/
@[simp] theorem BTCSet.markKnown_pushQueue (s : BTCSet σ) (item : BTCGossip) :
    (s.markKnown doubleHashH item).pushQueue = s.pushQueue := rfl

/-- Marking an item known calls no `OnTxRelay`. -/
@[simp] theorem BTCSet.markKnown_txRelays (s : BTCSet σ) (item : BTCGossip) :
    (s.markKnown doubleHashH item).txRelays = s.txRelays := rfl

/-- The `OnTxRelay` callback `Initialize` installs: each accepted transaction, wrapped by
`NewTxGossip`, goes to the push gossiper when there is one. The push gossiper's `Add` is
modelled from the spec: it enqueues into the outbound queue. -/
def BTCSet.onTxRelay (s : BTCSet σ) (txns : List MsgTx) : BTCSet σ :=
  { s with pushQueue := s.pushQueue.map (· ++ txns.map newTxGossip),
           txRelays := s.txRelays ++ [txns] }

/-- The `OnTxRelay` callback leaves the engine alone. -/
@[simp] theorem BTCSet.onTxRelay_ledger (s : BTCSet σ) (txns : List MsgTx) :
    (s.onTxRelay txns).ledger = s.ledger := rfl

/-- The `OnTxRelay` callback leaves the filter alone: relayed transactions are not marked. -/
@[simp] theorem BTCSet.onTxRelay_bloom (s : BTCSet σ) (txns : List MsgTx) :
    (s.onTxRelay txns).bloom = s.bloom := rfl

/-- The `OnTxRelay` callback logs its transactions. -/
@[simp] theorem BTCSet.onTxRelay_txRelays (s : BTCSet σ) (txns : List MsgTx) :
    (s.onTxRelay txns).txRelays = s.txRelays ++ [txns] := rfl

/-- `UnifiedBTCSet.Add`; `none` is a nil item. `OnTxRelay` is never nil once `Initialize` has
run, which it has before the set exists. -/
def BTCSet.add (s : BTCSet σ) : Option BTCGossip → Except String Unit × BTCSet σ
  | none => (.error "nil gossip item", s)
  | some item =>
    if item.itemType = gossipItemTypeTx then
      match item.tx with
      | none => (.error "nil transaction in gossip item", s)
      | some tx =>
        if L.haveTransaction s.ledger (tx.txHash doubleHashH) then
          (.ok (), s.markKnown doubleHashH item)
        else
          match L.processTransaction s.ledger tx with
          | (.error e, ledger) => (.error e, { s with ledger })
          | (.ok acceptedTxs, ledger) =>
            let s' := ({ s with ledger } : BTCSet σ).markKnown doubleHashH item
            (.ok (), if acceptedTxs ≠ [] then s'.onTxRelay acceptedTxs else s')
    else if item.itemType = gossipItemTypeBlock then
      match item.block with
      | none => (.error "nil block in gossip item", s)
      | some b =>
        match L.haveBlock s.ledger (b.header.blockHash doubleHashH) with
        | .error e => (.error e, s)
        | .ok true => (.ok (), s.markKnown doubleHashH item)
        | .ok false =>
          (.ok (), ({ s with ledger := (L.processBlock s.ledger b).2 } : BTCSet σ).markKnown
            doubleHashH item)
    else
      let t := item.itemType
      (.error s!"unknown gossip item type: {t}", s)

/-- `UnifiedBTCSet.Has`: the pool has the transaction or the engine has the block; a failed
block lookup counts as absent. -/
def BTCSet.has (s : BTCSet σ) (id : ID) : Bool :=
  L.haveTransaction s.ledger (idToHash id) ||
    match L.haveBlock s.ledger (idToHash id) with
    | .ok b => b
    | .error _ => false

/-- The loop of `UnifiedBTCSet.Iterate` over a snapshot of the pool: each transaction,
wrapped as a transaction item, goes to the visitor, and the loop returns after the first
`false`. The visitor carries its own state `β`. The result logs each call with its answer,
and the visitor's final state. -/
def iterateDescs {β : Type} (f : β → BTCGossip → Bool × β) :
    List MsgTx → β → List (BTCGossip × Bool) × β
  | [], b => ([], b)
  | tx :: txs, b =>
    match f b (newTxGossip tx) with
    | (true, b) => let r := iterateDescs f txs b; ((newTxGossip tx, true) :: r.1, r.2)
    | (false, b) => ([(newTxGossip tx, false)], b)

/-- `UnifiedBTCSet.Iterate`: only the pool's transactions; blocks are left to push gossip. -/
def BTCSet.iterate {β : Type} (s : BTCSet σ) (f : β → BTCGossip → Bool × β) (b : β) :
    List (BTCGossip × Bool) × β :=
  iterateDescs f (L.txDescs s.ledger) b

/-- `UnifiedBTCSet.GetFilter`: the filter and its salt, as `BloomFilter.Marshal` serialises
them. -/
def BTCSet.getFilter (s : BTCSet σ) : BloomFilter := s.bloom

/-- A call on the set. -/
inductive SetOp
  | add (item : Option BTCGossip)
  | has (id : ID)
  | iterate
  | getFilter

/-- The state after one call. `Has`, `Iterate` and `GetFilter` hold only the read lock and
write nothing. -/
def BTCSet.exec (s : BTCSet σ) : SetOp → BTCSet σ
  | .add item => (s.add doubleHashH L item).2
  | .has _ | .iterate | .getFilter => s

/-- The state after the calls in turn. -/
def BTCSet.run : BTCSet σ → List SetOp → BTCSet σ
  | s, [] => s
  | s, op :: ops => (s.exec doubleHashH L op).run ops

end Set

end BtcVM
