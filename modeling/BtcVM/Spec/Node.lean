import BtcVM.Spec.Store
import BtcVM.Gossip.Set

/-!
# The VM and its gossip set over one engine

`UnifiedBTCSet` reaches the ledger engine through the VM it belongs to: the block branch of
`Add`, and `Has`, ask `s.vm.chain`, the same `BlockChain` that `BuildBlock`, `ParseBlock` and
`GetBlock` use. A node is the VM's state together with the set's. Its actions
are the consensus engine's VM operations and the gossip drivers' calls on the set, in any
interleaving (`NodeOp`, `Node.run`).

Every action leaves the engine as it was or applies one `ProcessBlock`, which, whatever it
returns, only appends to the block index; so along every interleaving the engine keeps each
stored block at its node (`Node.extends_run`). From that:

* once `ParseBlock` or `BuildBlock` has returned an adapter, `GetBlock` of its ID returns
  that adapter in every later state (`getBlock_run_of_parsed`, `getBlock_run_of_built`);
* once gossip has delivered a block that the engine then stores, the `Add` returned nil,
  `Has` of its ID holds in every later state (`has_run_of_gossiped`), and a repeat `Add` of
  it only marks the filter (`add_run_of_gossiped`). A new block whose parent is stored and
  which passes the engine's sanity and context checks is stored one above its parent, and
  `GetBlock` returns it from then on (`getBlock_run_of_gossiped`);
* but `ParseBlock` of a stored gossiped block's bytes fails in every later state
  (`parseBlock_run_of_gossiped`): the engine rejects the block as a duplicate, so the
  consensus engine cannot parse a block that gossip delivered first.

A block the engine rejects (a failed check, or `HaveBlock`'s database error) is not stored,
and none of these hold of it.

Consensus decisions never reach the engine. A run reaches the node that the same run with
every `SetPreference`, `Accept` and `Reject` left out reaches, but for the preference and the
last accepted block (`Node.run_filter_decisions`). So `GetBlockIDAtHeight` answers as if no
block had been accepted, and finds an accepted block at its height only while the engine's
main chain holds it there (`getBlockIDAtHeight_eq_ok_iff`).
-/

namespace BtcVM

open Wire Chain

/-- Modelled from the spec: btcd's `TxMemPool` as the set calls it (not under `src/`), over
pool states `π`. -/
structure Mempool (π : Type) where
  haveTransaction : π → Hash → Bool
  processTransaction : π → MsgTx → Except String (List MsgTx) × π
  txDescs : π → List MsgTx

/-- The VM with its gossip set. The set's engine state is the pool beside `vm.chain`. -/
structure Node (π : Type) where
  vm : VM
  pool : π
  bloom : BloomFilter
  pushQueue : Option (List BTCGossip)
  txRelays : List (List MsgTx)

/-- An action of the node: a VM operation of the consensus engine, or a call of a gossip
driver on the set. -/
inductive NodeOp
  | vm (op : VMOp)
  | gossip (op : SetOp)

section Steps

variable (doubleHashH : List UInt8 → Hash)

/-- `c'` is `c`, or `c` after one `processBlock`, whatever that returned. -/
def ChainStep (c c' : BlockChain) : Prop :=
  c' = c ∨ ∃ b, (processBlock doubleHashH c b).2 = c'

/-- The state a `processBlock` leaves is one step on. -/
theorem chainStep_of_processBlock {c c' : BlockChain} {b : MsgBlock}
    {x : Except String ProcessResult} (h : processBlock doubleHashH c b = (x, c')) :
    ChainStep doubleHashH c c' :=
  .inr ⟨b, by rw [h]⟩

/-- A step only appends to the index. -/
theorem ChainStep.indexGrows {c c' : BlockChain} (h : ChainStep doubleHashH c c') :
    c.index <+: c'.index := by
  rcases h with rfl | ⟨b, rfl⟩
  · exact List.prefix_refl _
  · exact processBlock_indexGrows doubleHashH c b

end Steps

section Node

variable {π : Type} (doubleHashH : List UInt8 → Hash) (gen : TemplateGenerator) (M : Mempool π)

/-- The engine behind the set: the pool (`s.vm.btcdAdapter.TxMemPool()`), and the VM's block
chain (`s.vm.chain`) with the engine model's `HaveBlock`, which fails on a database error, and
`ProcessBlock`, whose changes stay whether it succeeds or not. -/
def engineLedger : Ledger (π × BlockChain) where
  haveTransaction e h := M.haveTransaction e.1 h
  processTransaction e tx :=
    ((M.processTransaction e.1 tx).1, ((M.processTransaction e.1 tx).2, e.2))
  txDescs e := M.txDescs e.1
  haveBlock e h := haveBlock doubleHashH e.2 h
  processBlock e b :=
    ((processBlock doubleHashH e.2 b).1.map fun r => (r.isMainChain, r.isOrphan),
      (e.1, (processBlock doubleHashH e.2 b).2))

/-- The gossip set's view of the node. -/
def Node.gossipSet (n : Node π) : BTCSet (π × BlockChain) :=
  ⟨(n.pool, n.vm.chain), n.bloom, n.pushQueue, n.txRelays⟩

/-- The node once a call on the set has left the set in `s`. -/
def Node.withSet (n : Node π) (s : BTCSet (π × BlockChain)) : Node π :=
  ⟨{ n.vm with chain := s.ledger.2 }, s.ledger.1, s.bloom, s.pushQueue, s.txRelays⟩

/-- `UnifiedBTCSet.Add` on the node. -/
def Node.add (n : Node π) (item : Option BTCGossip) : Except String Unit × Node π :=
  ((n.gossipSet.add doubleHashH (engineLedger doubleHashH M) item).1,
    n.withSet (n.gossipSet.add doubleHashH (engineLedger doubleHashH M) item).2)

/-- `UnifiedBTCSet.Has` on the node. -/
def Node.has (n : Node π) (id : ID) : Bool := n.gossipSet.has (engineLedger doubleHashH M) id

/-- The node after one action. -/
def Node.exec (n : Node π) : NodeOp → Node π
  | .vm op => { n with vm := n.vm.exec doubleHashH gen op }
  | .gossip op => n.withSet (n.gossipSet.exec doubleHashH (engineLedger doubleHashH M) op)

/-- The node after the actions in turn. -/
def Node.run : Node π → List NodeOp → Node π
  | n, [] => n
  | n, op :: ops => (n.exec doubleHashH gen M op).run ops

/-- A call on the set changes only the VM's chain. -/
@[simp] theorem Node.withSet_vm (n : Node π) (s : BTCSet (π × BlockChain)) :
    (n.withSet s).vm = { n.vm with chain := s.ledger.2 } := rfl

/-- The set's engine is the pool beside the VM's chain. -/
@[simp] theorem Node.gossipSet_ledger (n : Node π) : n.gossipSet.ledger = (n.pool, n.vm.chain) :=
  rfl

/-- A run is its first action followed by the rest. -/
@[simp] theorem Node.run_cons (n : Node π) (op : NodeOp) (ops : List NodeOp) :
    n.run doubleHashH gen M (op :: ops) = (n.exec doubleHashH gen M op).run doubleHashH gen M ops :=
  rfl

end Node

section Steps

variable {π : Type} (doubleHashH : List UInt8 → Hash) (gen : TemplateGenerator) (M : Mempool π)

/-- `NewBlockAdapterFromBytes` leaves the engine as it was or one `processBlock` on. -/
theorem newBlockAdapterFromBytes_chainStep (vm : VM) (bytes : List UInt8) :
    ChainStep doubleHashH vm.chain (newBlockAdapterFromBytes doubleHashH vm bytes).2.chain := by
  unfold newBlockAdapterFromBytes
  split
  · exact .inl rfl
  · split
    · exact chainStep_of_processBlock doubleHashH ‹_›
    · dsimp only
      split <;> exact chainStep_of_processBlock doubleHashH ‹_›

/-- Every VM operation leaves the engine as it was or applies one `processBlock`. -/
theorem exec_chainStep (vm : VM) (op : VMOp) :
    ChainStep doubleHashH vm.chain (vm.exec doubleHashH gen op).chain := by
  cases op with
  | buildBlock =>
    show ChainStep doubleHashH vm.chain (vm.buildBlock doubleHashH gen).2.chain
    unfold VM.buildBlock VM.buildOnTemplate
    repeat' split
    all_goals try (dsimp only; repeat' split)
    all_goals first
      | exact .inl rfl
      | exact chainStep_of_processBlock doubleHashH ‹processBlock doubleHashH _ _ = _›
  | parseBlock bytes =>
    show ChainStep doubleHashH vm.chain (vm.parseBlock doubleHashH bytes).2.chain
    have hx := newBlockAdapterFromBytes_chainStep doubleHashH vm bytes
    unfold VM.parseBlock
    split
    · exact .inl rfl
    · split <;> rename_i he <;> rwa [he] at hx
  | setPreference blockID => exact .inl (VM.setPreference_chain vm blockID)
  | accept a => exact .inl rfl
  | reject a => exact .inl rfl

/-- A transaction call on the set leaves the chain alone. -/
@[simp] theorem engineLedger_processTransaction_chain (e : π × BlockChain) (tx : MsgTx) :
    ((engineLedger doubleHashH M).processTransaction e tx).2.2 = e.2 := rfl

/-- Every call on the set leaves the engine's chain as it was or applies one
`processBlock`. -/
theorem add_chainStep (s : BTCSet (π × BlockChain)) (item : Option BTCGossip) :
    ChainStep doubleHashH s.ledger.2
      (s.add doubleHashH (engineLedger doubleHashH M) item).2.ledger.2 := by
  unfold BTCSet.add
  repeat' split
  all_goals first
    | exact .inl rfl
    | exact .inr ⟨_, rfl⟩
    | exact .inl (by
        simpa using
          (congrArg (·.2.2) ‹(engineLedger doubleHashH M).processTransaction _ _ = _›).symm)

end Steps

section Runs

variable {π : Type} (doubleHashH : List UInt8 → Hash) (gen : TemplateGenerator) (M : Mempool π)

/-- `n'` has the initialisation flag of `n`, and its engine's index extends that of `n`. -/
structure Node.Extends (n n' : Node π) : Prop where
  initialized : n'.vm.initialized = n.vm.initialized
  grows : n.vm.chain.index <+: n'.vm.chain.index

/-- `Node.Extends` composes. -/
theorem Node.Extends.trans {n₁ n₂ n₃ : Node π} (h₁ : n₁.Extends n₂) (h₂ : n₂.Extends n₃) :
    n₁.Extends n₃ :=
  ⟨h₂.initialized.trans h₁.initialized, h₁.grows.trans h₂.grows⟩

/-- A block stored in `n` is stored at the same node in every extension of `n`. -/
theorem Node.Extends.stored {n n' : Node π} (hx : n.Extends n') {h : Hash} {nd : BlockNode}
    (hl : lookupNode doubleHashH n.vm.chain h = some nd) :
    lookupNode doubleHashH n'.vm.chain h = some nd :=
  lookupNode_of_prefix doubleHashH hx.grows hl

/-- Every action keeps the initialisation flag and only appends to the index. -/
theorem Node.exec_extends (n : Node π) (op : NodeOp) : n.Extends (n.exec doubleHashH gen M op) := by
  cases op with
  | vm op =>
    exact ⟨(BtcVM.exec_extends doubleHashH gen n.vm op).initialized,
      (exec_chainStep doubleHashH gen n.vm op).indexGrows⟩
  | gossip op =>
    cases op with
    | add item => exact ⟨rfl, (add_chainStep doubleHashH M n.gossipSet item).indexGrows⟩
    | has _ | iterate | getFilter => exact ⟨rfl, List.prefix_refl _⟩

/-- Along every interleaving of VM operations and gossip calls, the engine's index only grows
and the initialisation flag stays as it was. -/
theorem Node.extends_run (n : Node π) (ops : List NodeOp) :
    n.Extends (n.run doubleHashH gen M ops) := by
  induction ops generalizing n with
  | nil => exact ⟨rfl, List.prefix_refl _⟩
  | cons op ops ih => exact (n.exec_extends doubleHashH gen M op).trans (ih _)

/-- `GetBlock` returns the adapter of a block the engine stores, at the engine's height. -/
theorem getBlock_of_lookupNode {vm : VM} {h : Hash} {n : BlockNode} (hi : vm.initialized = true)
    (hl : lookupNode doubleHashH vm.chain h = some n) :
    vm.getBlock doubleHashH (hashToID h) = .ok (newBlockAdapter doubleHashH n.block n.height) := by
  simp [VM.getBlock, hi, blockByHashAny, hl]

/-- A block that an action on an initialised VM leaves in the engine is returned by `GetBlock`
after every run that follows. -/
theorem getBlock_run_of_stored (n : Node π) (op : NodeOp) (ops : List NodeOp) {c : BlockChain}
    {h : Hash} {node : BlockNode} (hi : n.vm.initialized = true)
    (hs : (n.exec doubleHashH gen M op).vm = { n.vm with chain := c })
    (hl : lookupNode doubleHashH c h = some node) :
    (n.run doubleHashH gen M (op :: ops)).vm.getBlock doubleHashH (hashToID h) =
      .ok (newBlockAdapter doubleHashH node.block node.height) :=
  have hx := (n.exec doubleHashH gen M op).extends_run doubleHashH gen M ops
  getBlock_of_lookupNode doubleHashH (hx.initialized.trans (hs ▸ hi))
    (hx.stored doubleHashH (hs ▸ hl))

/-- Once `ParseBlock` has returned an adapter, `GetBlock` of the adapter's ID returns that
adapter in every later state, whatever VM operations and gossip calls come in between. -/
theorem getBlock_run_of_parsed (n : Node π) {bytes : List UInt8} {a : BlockAdapter}
    (hp : (n.vm.parseBlock doubleHashH bytes).1 = .ok a) (ops : List NodeOp) :
    (n.run doubleHashH gen M (.vm (.parseBlock bytes) :: ops)).vm.getBlock doubleHashH a.id =
      .ok a := by
  obtain ⟨hi, blk, -, r, c, -, -, height, hl, rfl, hvm⟩ :=
    parseBlock_eq_ok doubleHashH (Prod.ext hp rfl)
  exact getBlock_run_of_stored doubleHashH gen M n (.vm (.parseBlock bytes)) ops hi hvm hl

/-- Once `BuildBlock` has returned an adapter on an initialised VM, `GetBlock` of the
adapter's ID returns that adapter in every later state. -/
theorem getBlock_run_of_built (n : Node π) {a : BlockAdapter} (hi : n.vm.initialized = true)
    (hb : (n.vm.buildBlock doubleHashH gen).1 = .ok a) (ops : List NodeOp) :
    (n.run doubleHashH gen M (.vm .buildBlock :: ops)).vm.getBlock doubleHashH a.id = .ok a := by
  obtain ⟨_, _, r, c, -, hp, ho, rfl, hvm⟩ := buildBlock_eq_ok doubleHashH (Prod.ext hb rfl)
  obtain ⟨height, hl, hh⟩ := processBlock_lookupNode doubleHashH hp ho
  rw [hh]
  exact getBlock_run_of_stored doubleHashH gen M n (.vm .buildBlock) ops hi hvm hl

/-! ## Gossiped blocks -/

/-- `Has` holds of the ID of a block the engine stores. -/
theorem Node.has_of_lookupNode (n : Node π) {h : Hash} {nd : BlockNode}
    (hl : lookupNode doubleHashH n.vm.chain h = some nd) :
    n.has doubleHashH M (hashToID h) = true := by
  simp [Node.has, BTCSet.has, engineLedger, Node.gossipSet, haveBlock_of_lookupNode doubleHashH hl]

/-- The block branch of `Add` on the node: `HaveBlock`'s error is returned and nothing changes;
otherwise the filter is marked, after `ProcessBlock` for a block `HaveBlock` does not find,
whatever `ProcessBlock` returns. -/
theorem Node.add_newBlockGossip (n : Node π) (b : MsgBlock) :
    n.add doubleHashH M (some (newBlockGossip b)) =
      match haveBlock doubleHashH n.vm.chain (blockHash doubleHashH b) with
      | .error e => (.error e, n)
      | .ok true => (.ok (), { n with bloom := n.bloom.add ((newBlockGossip b).gossipID doubleHashH) })
      | .ok false =>
        (.ok (), { n with vm := { n.vm with chain := (processBlock doubleHashH n.vm.chain b).2 },
                          bloom := n.bloom.add ((newBlockGossip b).gossipID doubleHashH) }) := by
  rcases hb : haveBlock doubleHashH n.vm.chain (blockHash doubleHashH b) with e | _ | _ <;>
    simp only [blockHash] at hb <;>
    simp [Node.add, BTCSet.add, newBlockGossip, engineLedger, Node.gossipSet, Node.withSet,
      gossipItemTypeTx, gossipItemTypeBlock, hb]

/-- The block branch of `Add` on a block `HaveBlock` finds only marks the filter. -/
theorem Node.add_of_haveBlock (n : Node π) (b : MsgBlock)
    (hb : haveBlock doubleHashH n.vm.chain (blockHash doubleHashH b) = .ok true) :
    n.add doubleHashH M (some (newBlockGossip b)) =
      (.ok (), { n with bloom := n.bloom.add ((newBlockGossip b).gossipID doubleHashH) }) := by
  rw [n.add_newBlockGossip, hb]

/-- The block branch of `Add` on a block `HaveBlock` does not find hands it to
`ProcessBlock` and marks the filter, whatever `ProcessBlock` returns. -/
theorem Node.add_of_new (n : Node π) (b : MsgBlock)
    (hnew : haveBlock doubleHashH n.vm.chain (blockHash doubleHashH b) = .ok false) :
    n.add doubleHashH M (some (newBlockGossip b)) =
      (.ok (), { n with vm := { n.vm with chain := (processBlock doubleHashH n.vm.chain b).2 },
                        bloom := n.bloom.add ((newBlockGossip b).gossipID doubleHashH) }) := by
  rw [n.add_newBlockGossip, hnew]

/-- The block branch of `Add` fails only with `HaveBlock`'s error, and then changes nothing. -/
theorem Node.add_block_error (n : Node π) (b : MsgBlock) {e : String}
    (h : (n.add doubleHashH M (some (newBlockGossip b))).1 = .error e) :
    haveBlock doubleHashH n.vm.chain (blockHash doubleHashH b) = .error e ∧
      (n.add doubleHashH M (some (newBlockGossip b))).2 = n := by
  rw [n.add_newBlockGossip] at h ⊢
  rcases hb : haveBlock doubleHashH n.vm.chain (blockHash doubleHashH b) with e' | _ | _ <;>
    rw [hb] at h <;> cases h
  exact ⟨rfl, rfl⟩

/-- The block branch of `Add` returns nil when the engine stores the block after it. -/
theorem Node.add_ok_of_stored (n : Node π) (b : MsgBlock) {nd : BlockNode}
    (hst : lookupNode doubleHashH (n.add doubleHashH M (some (newBlockGossip b))).2.vm.chain
      (blockHash doubleHashH b) = some nd) :
    (n.add doubleHashH M (some (newBlockGossip b))).1 = .ok () := by
  rcases h : (n.add doubleHashH M (some (newBlockGossip b))).1 with e | _
  · obtain ⟨hb, hn⟩ := n.add_block_error doubleHashH M b h
    rw [hn] at hst
    rw [haveBlock_of_lookupNode doubleHashH hst] at hb
    cases hb
  · rfl

/-- A block the engine stores after gossip delivered it stays stored, at the same node, in
every later state. -/
theorem lookupNode_run_of_gossiped (n : Node π) (b : MsgBlock) (ops : List NodeOp)
    {nd : BlockNode}
    (hst : lookupNode doubleHashH (n.add doubleHashH M (some (newBlockGossip b))).2.vm.chain
      (blockHash doubleHashH b) = some nd) :
    lookupNode doubleHashH
      (n.run doubleHashH gen M (.gossip (.add (some (newBlockGossip b))) :: ops)).vm.chain
      (blockHash doubleHashH b) = some nd :=
  (Node.extends_run doubleHashH gen M (n.add doubleHashH M (some (newBlockGossip b))).2 ops).stored
    doubleHashH hst

/-- Once gossip has delivered a block that the engine then stores, the `Add` returned nil, and
`Has` of the block's `GossipID` holds in every later state, whatever VM operations and gossip
calls come in between. -/
theorem has_run_of_gossiped (n : Node π) (b : MsgBlock) (ops : List NodeOp) {nd : BlockNode}
    (hst : lookupNode doubleHashH (n.add doubleHashH M (some (newBlockGossip b))).2.vm.chain
      (blockHash doubleHashH b) = some nd) :
    (n.add doubleHashH M (some (newBlockGossip b))).1 = .ok () ∧
      (n.run doubleHashH gen M (.gossip (.add (some (newBlockGossip b))) :: ops)).has doubleHashH M
        ((newBlockGossip b).gossipID doubleHashH) = true :=
  ⟨n.add_ok_of_stored doubleHashH M b hst,
    Node.has_of_lookupNode doubleHashH M _ (lookupNode_run_of_gossiped doubleHashH gen M n b ops hst)⟩

/-- Once gossip has delivered a block that the engine then stores, a repeat `Add` of it in any
later state returns nil and only marks the filter: the block never reaches `ProcessBlock`
again. -/
theorem add_run_of_gossiped (n : Node π) (b : MsgBlock) (ops : List NodeOp) {nd : BlockNode}
    (hst : lookupNode doubleHashH (n.add doubleHashH M (some (newBlockGossip b))).2.vm.chain
      (blockHash doubleHashH b) = some nd) :
    let m := n.run doubleHashH gen M (.gossip (.add (some (newBlockGossip b))) :: ops)
    m.add doubleHashH M (some (newBlockGossip b)) =
      (.ok (), { m with bloom := m.bloom.add ((newBlockGossip b).gossipID doubleHashH) }) :=
  Node.add_of_haveBlock doubleHashH M _ b
    (haveBlock_of_lookupNode doubleHashH (lookupNode_run_of_gossiped doubleHashH gen M n b ops hst))

/-- Once gossip has delivered a new block whose parent the engine stores and which passes the
engine's sanity and context checks, `GetBlock` of its `GossipID` returns its adapter, one
above its parent, in every later state. -/
theorem getBlock_run_of_gossiped (n : Node π) (b : MsgBlock) {parent : BlockNode}
    (hi : n.vm.initialized = true)
    (hnew : haveBlock doubleHashH n.vm.chain (blockHash doubleHashH b) = .ok false)
    (hp : lookupNode doubleHashH n.vm.chain b.header.prevBlock = some parent)
    (hs : n.vm.chain.backend.sanity b = none) (hc : n.vm.chain.backend.context parent b = none)
    (ops : List NodeOp) :
    (n.run doubleHashH gen M (.gossip (.add (some (newBlockGossip b))) :: ops)).vm.getBlock
        doubleHashH ((newBlockGossip b).gossipID doubleHashH) =
      .ok (newBlockAdapter doubleHashH b (parent.height + 1 : Nat)) := by
  have hs' : (n.exec doubleHashH gen M (.gossip (.add (some (newBlockGossip b))))).vm =
      { n.vm with chain := (processBlock doubleHashH n.vm.chain b).2 } := by
    show (n.add doubleHashH M (some (newBlockGossip b))).2.vm = _
    rw [n.add_of_new doubleHashH M b hnew]
  exact getBlock_run_of_stored doubleHashH gen M n _ ops hi hs'
    (processBlock_stores doubleHashH hnew hp hs hc)

/-- Once gossip has delivered a block that the engine then stores, `ParseBlock` of any bytes
that decode to a block of the same hash fails in every later state with the engine's
duplicate error, naming the hash, and leaves the state as it was. -/
theorem parseBlock_run_of_gossiped (n : Node π) (b : MsgBlock) (hi : n.vm.initialized = true)
    {bytes rest : List UInt8} {blk : MsgBlock} (hd : MsgBlock.btcDecode bytes = some (blk, rest))
    (hh : blockHash doubleHashH blk = blockHash doubleHashH b) (ops : List NodeOp)
    {nd : BlockNode}
    (hst : lookupNode doubleHashH (n.add doubleHashH M (some (newBlockGossip b))).2.vm.chain
      (blockHash doubleHashH b) = some nd) :
    let m := n.run doubleHashH gen M (.gossip (.add (some (newBlockGossip b))) :: ops)
    m.vm.parseBlock doubleHashH bytes =
      (.error ("failed to parse block: failed to process block: already have block " ++
        Hash.toHex (blockHash doubleHashH b)), m.vm) := by
  have hx := Node.extends_run doubleHashH gen M (n.add doubleHashH M (some (newBlockGossip b))).2 ops
  have h := parseBlock_of_lookupNode doubleHashH (hx.initialized.trans hi) hd
    (hh ▸ lookupNode_run_of_gossiped doubleHashH gen M n b ops hst)
  rwa [hh] at h

end Runs

/-! ## Consensus decisions -/

/-- A consensus decision: it tells the VM only what the consensus engine prefers or accepts. -/
def NodeOp.isDecision : NodeOp → Bool
  | .vm (.setPreference _) | .vm (.accept _) | .vm (.reject _) => true
  | _ => false

/-- The VM with the consensus engine's preference and last accepted block replaced. -/
def VM.withPrefs (vm : VM) (p l : ID) : VM := { vm with preferred := p, lastAccepted := l }

/-- The node with the VM's preference and last accepted block replaced. -/
def Node.withPrefs {π : Type} (n : Node π) (p l : ID) : Node π := { n with vm := n.vm.withPrefs p l }

/-- Replacing them twice keeps the second. -/
@[simp] theorem Node.withPrefs_withPrefs {π : Type} (n : Node π) (p l p' l' : ID) :
    (n.withPrefs p l).withPrefs p' l' = n.withPrefs p' l' := rfl

section Decisions

variable {π : Type} (doubleHashH : List UInt8 → Hash) (gen : TemplateGenerator) (M : Mempool π)

/-- `NewBlockAdapterFromBytes` reads neither the preference nor the last accepted block, and
leaves them alone. -/
theorem newBlockAdapterFromBytes_withPrefs (vm : VM) (p l : ID) (bytes : List UInt8) :
    newBlockAdapterFromBytes doubleHashH (vm.withPrefs p l) bytes =
      ((newBlockAdapterFromBytes doubleHashH vm bytes).1,
        (newBlockAdapterFromBytes doubleHashH vm bytes).2.withPrefs p l) := by
  simp only [newBlockAdapterFromBytes, VM.withPrefs]
  repeat' split
  all_goals simp_all

/-- `BuildBlock` reads neither the preference nor the last accepted block, and leaves them
alone. -/
theorem VM.buildBlock_withPrefs (vm : VM) (p l : ID) :
    (vm.withPrefs p l).buildBlock doubleHashH gen =
      ((vm.buildBlock doubleHashH gen).1, (vm.buildBlock doubleHashH gen).2.withPrefs p l) := by
  simp only [VM.buildBlock, VM.getCurrentBlock, VM.buildOnTemplate, VM.withPrefs]
  repeat' split
  all_goals simp_all

/-- `ParseBlock` reads neither the preference nor the last accepted block, and leaves them
alone. -/
theorem VM.parseBlock_withPrefs (vm : VM) (p l : ID) (bytes : List UInt8) :
    (vm.withPrefs p l).parseBlock doubleHashH bytes =
      ((vm.parseBlock doubleHashH bytes).1, (vm.parseBlock doubleHashH bytes).2.withPrefs p l) := by
  unfold VM.parseBlock
  rw [newBlockAdapterFromBytes_withPrefs]
  obtain ⟨c, ha, _ | _, pr, la, ma⟩ := vm
  all_goals rcases newBlockAdapterFromBytes doubleHashH _ bytes with ⟨_ | _, _⟩ <;> rfl

/-- An action other than a decision reads neither the preference nor the last accepted
block, and leaves them alone. -/
theorem Node.exec_withPrefs (n : Node π) (p l : ID) {op : NodeOp} (hop : op.isDecision = false) :
    (n.withPrefs p l).exec doubleHashH gen M op = (n.exec doubleHashH gen M op).withPrefs p l := by
  rcases op with (_ | bytes | _ | _ | _) | op
  · show { n.withPrefs p l with vm := ((n.vm.withPrefs p l).buildBlock doubleHashH gen).2 } = _
    rw [VM.buildBlock_withPrefs]; rfl
  · show { n.withPrefs p l with vm := ((n.vm.withPrefs p l).parseBlock doubleHashH bytes).2 } = _
    rw [VM.parseBlock_withPrefs]; rfl
  all_goals first | rfl | cases hop

/-- A decision changes only the preference and the last accepted block. -/
theorem Node.exec_decision (n : Node π) {op : NodeOp} (hop : op.isDecision = true) :
    ∃ p l, n.exec doubleHashH gen M op = n.withPrefs p l := by
  rcases op with (_ | _ | blockID | a | a) | op
  all_goals try cases hop
  · cases hi : n.vm.initialized
    · exact ⟨n.vm.preferred, n.vm.lastAccepted, by
        simp [Node.exec, VM.exec, VM.setPreference, hi]; rfl⟩
    · exact ⟨blockID, n.vm.lastAccepted, by
        simp [Node.exec, VM.exec, VM.setPreference, hi, Node.withPrefs, VM.withPrefs]⟩
  · exact ⟨a.id, a.id, rfl⟩
  · exact ⟨n.vm.preferred, n.vm.lastAccepted, rfl⟩

/-- A run without decisions commutes with replacing the preference and the last accepted
block. -/
theorem Node.run_withPrefs (p l : ID) : ∀ (n : Node π) {ops : List NodeOp},
    (∀ op ∈ ops, op.isDecision = false) →
      (n.withPrefs p l).run doubleHashH gen M ops = (n.run doubleHashH gen M ops).withPrefs p l
  | _, [], _ => rfl
  | n, op :: ops, h => by
    rw [Node.run_cons, n.exec_withPrefs doubleHashH gen M p l (h op (List.mem_cons_self _ _))]
    exact Node.run_withPrefs p l _ fun op' h' => h op' (List.mem_cons_of_mem _ h')

/-- Leaving the decisions out of a run changes only the preference and the last accepted
block of the node it reaches. -/
theorem Node.run_filter_decisions : ∀ (n : Node π) (ops : List NodeOp), ∃ p l,
    n.run doubleHashH gen M ops =
      (n.run doubleHashH gen M (ops.filter fun op => !op.isDecision)).withPrefs p l
  | n, [] => ⟨n.vm.preferred, n.vm.lastAccepted, rfl⟩
  | n, op :: ops => by
    obtain ⟨p, l, h⟩ := Node.run_filter_decisions (n.exec doubleHashH gen M op) ops
    refine ⟨p, l, ?_⟩
    cases hop : op.isDecision
    · simp only [List.filter_cons, hop, Bool.not_false, if_true, Node.run_cons]
      exact h
    · obtain ⟨p₀, l₀, he⟩ := n.exec_decision doubleHashH gen M hop
      have hnd : ∀ op ∈ ops.filter (fun op => !op.isDecision), op.isDecision = false := by
        intro op hm; simpa using (List.mem_filter.1 hm).2
      simp only [List.filter_cons, hop, Bool.not_true, Bool.false_eq_true, if_false, Node.run_cons]
      rw [h, he, Node.run_withPrefs doubleHashH gen M p₀ l₀ n hnd, Node.withPrefs_withPrefs]

/-- Consensus decisions never reach the engine: along every interleaving of VM operations and
gossip calls, `GetBlockIDAtHeight` answers as it would had no `SetPreference`, `Accept` or
`Reject` been called; and an adapter at an `int32` height, accepted or not, is found there
exactly while the engine's main chain holds the adapter's block at that height. -/
theorem getBlockIDAtHeight_eq_ok_iff (n : Node π) (ops : List NodeOp) (a : BlockAdapter)
    (height : Nat) (hi : n.vm.initialized = true) (hh : height < 2 ^ 31)
    (ha : a.height = uint64OfInt32 height) :
    (n.run doubleHashH gen M ops).vm.getBlockIDAtHeight a.height =
        (n.run doubleHashH gen M (ops.filter fun op => !op.isDecision)).vm.getBlockIDAtHeight
          a.height ∧
      ((n.run doubleHashH gen M ops).vm.getBlockIDAtHeight a.height = .ok a.id ↔
        (n.run doubleHashH gen M ops).vm.chain.mainChain.get? height = some (idToHash a.id)) := by
  obtain ⟨p, l, h⟩ := n.run_filter_decisions doubleHashH gen M ops
  refine ⟨by rw [h]; rfl, ?_⟩
  exact getBlockIDAtHeight_ok_iff_mainChain _ a height
    ((Node.extends_run doubleHashH gen M n ops).initialized.trans hi) hh ha

end Decisions

/-! ## The genesis node -/

/-- A pool that accepts every transaction and relays it. -/
def listMempool : Mempool (List MsgTx) where
  haveTransaction pool h := pool.any fun tx => tx.txHash toyHash = h
  processTransaction pool tx := (.ok [tx], pool ++ [tx])
  txDescs pool := pool

/-- The genesis VM with an empty pool, a fresh filter and a push gossiper. -/
def genesisNode : Node (List MsgTx) := ⟨genesisVM, [], ⟨0, 2, []⟩, some [], []⟩

/-- `getBlock_run_of_parsed` for `childA`, with `childB` gossiped and a block built after. -/
theorem genesisNode_getBlock_parsed :
    (genesisNode.vm.parseBlock toyHash childA.btcEncode).1 =
        .ok (newBlockAdapter toyHash childA 1) ∧
      (genesisNode.run toyHash tipGenerator listMempool
          [.vm (.parseBlock childA.btcEncode), .gossip (.add (some (newBlockGossip childB))),
            .vm .buildBlock]).vm.getBlock toyHash (newBlockAdapter toyHash childA 1).id =
        .ok (newBlockAdapter toyHash childA 1) :=
  have hp : (genesisNode.vm.parseBlock toyHash childA.btcEncode).1 =
      .ok (newBlockAdapter toyHash childA 1) := rfl
  ⟨hp, getBlock_run_of_parsed toyHash tipGenerator listMempool genesisNode hp _⟩

/-- `getBlock_run_of_built` for the block the genesis node builds, with `childA` gossiped
after. -/
theorem genesisNode_getBlock_built :
    genesisNode.vm.initialized = true ∧
      (genesisNode.vm.buildBlock toyHash tipGenerator).1 =
        .ok (newBlockAdapter toyHash builtChild 1) ∧
      (genesisNode.run toyHash tipGenerator listMempool
          [.vm .buildBlock, .gossip (.add (some (newBlockGossip childA)))]).vm.getBlock toyHash
          (newBlockAdapter toyHash builtChild 1).id =
        .ok (newBlockAdapter toyHash builtChild 1) :=
  have hb : (genesisNode.vm.buildBlock toyHash tipGenerator).1 =
      .ok (newBlockAdapter toyHash builtChild 1) := rfl
  ⟨rfl, hb, getBlock_run_of_built toyHash tipGenerator listMempool genesisNode rfl hb _⟩

/-- Gossip delivers `childA` to the genesis node, which stores it one above the genesis
block. -/
theorem genesisNode_stores_childA :
    lookupNode toyHash
      (genesisNode.add toyHash listMempool (some (newBlockGossip childA))).2.vm.chain
      (blockHash toyHash childA) = some ⟨childA, 1⟩ := by
  decide

/-- `has_run_of_gossiped` for `childA`, gossiped to the genesis node, with `childB` parsed
after. -/
theorem genesisNode_has_gossiped :
    lookupNode toyHash
        (genesisNode.add toyHash listMempool (some (newBlockGossip childA))).2.vm.chain
        (blockHash toyHash childA) = some ⟨childA, 1⟩ ∧
      (genesisNode.add toyHash listMempool (some (newBlockGossip childA))).1 = .ok () ∧
      (genesisNode.run toyHash tipGenerator listMempool
          [.gossip (.add (some (newBlockGossip childA))), .vm (.parseBlock childB.btcEncode)]).has
        toyHash listMempool ((newBlockGossip childA).gossipID toyHash) = true :=
  ⟨genesisNode_stores_childA,
    has_run_of_gossiped toyHash tipGenerator listMempool genesisNode childA _
      genesisNode_stores_childA⟩

/-- `add_run_of_gossiped` for `childA`, gossiped to the genesis node and gossiped again after
a block is built. -/
theorem genesisNode_add_gossiped :
    lookupNode toyHash
        (genesisNode.add toyHash listMempool (some (newBlockGossip childA))).2.vm.chain
        (blockHash toyHash childA) = some ⟨childA, 1⟩ ∧
      let m := genesisNode.run toyHash tipGenerator listMempool
        [.gossip (.add (some (newBlockGossip childA))), .vm .buildBlock]
      m.add toyHash listMempool (some (newBlockGossip childA)) =
        (.ok (), { m with bloom := m.bloom.add ((newBlockGossip childA).gossipID toyHash) }) :=
  ⟨genesisNode_stores_childA,
    add_run_of_gossiped toyHash tipGenerator listMempool genesisNode childA _
      genesisNode_stores_childA⟩

/-- `getBlock_run_of_gossiped` for `childA`, gossiped to the genesis node, with `childB`
parsed after. -/
theorem genesisNode_getBlock_gossiped :
    genesisNode.vm.initialized = true ∧
      haveBlock toyHash genesisNode.vm.chain (blockHash toyHash childA) = .ok false ∧
      lookupNode toyHash genesisNode.vm.chain childA.header.prevBlock =
        some ⟨genesisBlock, 0⟩ ∧
      genesisNode.vm.chain.backend.sanity childA = none ∧
      genesisNode.vm.chain.backend.context ⟨genesisBlock, 0⟩ childA = none ∧
      (genesisNode.run toyHash tipGenerator listMempool
          [.gossip (.add (some (newBlockGossip childA))),
            .vm (.parseBlock childB.btcEncode)]).vm.getBlock toyHash
          ((newBlockGossip childA).gossipID toyHash) =
        .ok (newBlockAdapter toyHash childA (0 + 1 : Nat)) :=
  have hnew : haveBlock toyHash genesisNode.vm.chain (blockHash toyHash childA) = .ok false := rfl
  have hp : lookupNode toyHash genesisNode.vm.chain childA.header.prevBlock =
      some ⟨genesisBlock, 0⟩ := by decide
  ⟨rfl, hnew, hp, rfl, rfl,
    getBlock_run_of_gossiped toyHash tipGenerator listMempool genesisNode childA rfl hnew hp rfl
      rfl _⟩

/-- `parseBlock_run_of_gossiped` for the encoding of `childA`, gossiped to the genesis node. -/
theorem genesisNode_parseBlock_gossiped :
    genesisNode.vm.initialized = true ∧
      MsgBlock.btcDecode childA.btcEncode = some (childA, []) ∧
      lookupNode toyHash
        (genesisNode.add toyHash listMempool (some (newBlockGossip childA))).2.vm.chain
        (blockHash toyHash childA) = some ⟨childA, 1⟩ ∧
      (genesisNode.run toyHash tipGenerator listMempool
          [.gossip (.add (some (newBlockGossip childA)))]).vm.parseBlock toyHash childA.btcEncode =
        (.error ("failed to parse block: failed to process block: already have block " ++
          Hash.toHex (blockHash toyHash childA)),
          (genesisNode.run toyHash tipGenerator listMempool
            [.gossip (.add (some (newBlockGossip childA)))]).vm) :=
  have hd : MsgBlock.btcDecode childA.btcEncode = some (childA, []) := by decide
  ⟨rfl, hd, genesisNode_stores_childA,
    parseBlock_run_of_gossiped toyHash tipGenerator listMempool genesisNode childA rfl hd rfl []
      genesisNode_stores_childA⟩

/-- The genesis node parses `childA` and then `childB`, and the consensus engine accepts
`childB`. -/
def acceptChildBOps : List NodeOp :=
  [.vm (.parseBlock childA.btcEncode), .vm (.parseBlock childB.btcEncode),
    .vm (.accept (newBlockAdapter toyHash childB 1))]

/-- `getBlockIDAtHeight_eq_ok_iff` along `acceptChildBOps`, for the adapter of `childB`. -/
theorem acceptChildB_getBlockIDAtHeight :
    genesisNode.vm.initialized = true ∧ 1 < 2 ^ 31 ∧
      (newBlockAdapter toyHash childB 1).height = uint64OfInt32 1 ∧
      (genesisNode.run toyHash tipGenerator listMempool acceptChildBOps).vm.getBlockIDAtHeight
          (newBlockAdapter toyHash childB 1).height =
        (genesisNode.run toyHash tipGenerator listMempool
          (acceptChildBOps.filter fun op => !op.isDecision)).vm.getBlockIDAtHeight
          (newBlockAdapter toyHash childB 1).height ∧
      ((genesisNode.run toyHash tipGenerator listMempool acceptChildBOps).vm.getBlockIDAtHeight
          (newBlockAdapter toyHash childB 1).height = .ok (newBlockAdapter toyHash childB 1).id ↔
        (genesisNode.run toyHash tipGenerator listMempool acceptChildBOps).vm.chain.mainChain.get?
          1 = some (idToHash (newBlockAdapter toyHash childB 1).id)) :=
  ⟨rfl, by decide, rfl,
    getBlockIDAtHeight_eq_ok_iff toyHash tipGenerator listMempool genesisNode acceptChildBOps _ 1
      rfl (by decide) rfl⟩

end BtcVM
