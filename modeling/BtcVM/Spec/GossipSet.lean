import BtcVM.Gossip.Set
import BtcVM.Spec.GossipRoundTrip
import BtcVM.Spec.ParseBlock

/-!
# What the gossip set does

* The filter is never reset: `GossipConfig` documents `BloomResetThreshold` as "the false
  positive rate that triggers a bloom filter reset", and `initializeGossip` passes it to
  `NewBloomFilter`, but nothing under `src/` calls `ResetBloomFilterIfNeeded`. Along every run
  of the set's calls the filter keeps its salt and only grows. A transaction already in the
  pool, gossiped `maxCount + 1` times, takes it past the bound the threshold sets, and
  `GetFilter` serves that generation (`bloom_never_reset`).
* `Add` fails exactly on a nil item or payload, an unknown type, a new transaction the pool
  rejects, or a failed `HaveBlock`. A failure leaves the filter and the relays alone; a
  success marks the item's `GossipID`, relays exactly the transactions the pool accepted,
  and leaves a transaction visible to `Has` (`add_contract`).
* `Iterate` calls the visitor on the pool's transactions in order, as transaction items,
  threading its state, logs the visitor's own answers, returns its last state, and stops at
  the first `false` (`iterate_visits`).
-/

namespace BtcVM

open Wire

section Runs

variable {σ : Type} (doubleHashH : List UInt8 → Hash) (L : Ledger σ)

/-- `f'` is a later state of the filter `f` in the same generation: same salt and bound, and
every addition to `f` still there. -/
def BloomFilter.Grows (f f' : BloomFilter) : Prop :=
  f'.salt = f.salt ∧ f'.maxCount = f.maxCount ∧ f.added <:+ f'.added

/-- A filter grows into itself. -/
theorem BloomFilter.Grows.refl (f : BloomFilter) : f.Grows f := ⟨rfl, rfl, List.suffix_refl _⟩

/-- Growth of a filter composes. -/
theorem BloomFilter.Grows.trans {f₁ f₂ f₃ : BloomFilter} (h₁ : f₁.Grows f₂) (h₂ : f₂.Grows f₃) :
    f₁.Grows f₃ :=
  ⟨h₂.1.trans h₁.1, h₂.2.1.trans h₁.2.1, h₁.2.2.trans h₂.2.2⟩

/-- `Add` grows the filter. -/
theorem BloomFilter.grows_add (f : BloomFilter) (id : ID) : f.Grows (f.add id) :=
  ⟨rfl, rfl, List.suffix_cons _ _⟩

/-- `Add` leaves the filter in its generation: unchanged, or with the item's ID added. -/
theorem BTCSet.add_bloom (s : BTCSet σ) (x : Option BTCGossip) :
    (s.add doubleHashH L x).2.bloom = s.bloom ∨
      ∃ item, x = some item ∧ (s.add doubleHashH L x).2.bloom = s.bloom.add (item.gossipID doubleHashH) := by
  unfold BTCSet.add
  repeat' split
  all_goals first
    | exact .inl rfl
    | exact .inr ⟨_, rfl, rfl⟩

/-- Every call on the set grows its filter. -/
theorem BTCSet.exec_bloom_grows (s : BTCSet σ) (op : SetOp) :
    s.bloom.Grows (s.exec doubleHashH L op).bloom := by
  cases op with
  | add x =>
    rcases s.add_bloom doubleHashH L x with h | ⟨_, -, h⟩
    · exact h ▸ .refl _
    · exact h ▸ s.bloom.grows_add _
  | has | iterate | getFilter => exact .refl _

/-- No run of the set's calls resets its filter. -/
theorem BTCSet.run_bloom_grows (s : BTCSet σ) (ops : List SetOp) :
    s.bloom.Grows (s.run doubleHashH L ops).bloom := by
  induction ops generalizing s with
  | nil => exact .refl _
  | cons op ops ih => exact (s.exec_bloom_grows doubleHashH L op).trans (ih _)

/-- A transaction already in the pool is only marked known. -/
theorem BTCSet.add_known_tx (s : BTCSet σ) (tx : MsgTx)
    (hknown : L.haveTransaction s.ledger (tx.txHash doubleHashH) = true) :
    s.add doubleHashH L (some (newTxGossip tx)) = (.ok (), s.markKnown doubleHashH (newTxGossip tx)) := by
  simp [BTCSet.add, newTxGossip, hknown]

/-- Gossiping a pooled transaction `n` times adds its ID `n` times, in the same generation. -/
theorem BTCSet.run_add_known_tx (s : BTCSet σ) (tx : MsgTx)
    (hknown : L.haveTransaction s.ledger (tx.txHash doubleHashH) = true) (n : Nat) :
    (s.run doubleHashH L (List.replicate n (.add (some (newTxGossip tx))))).bloom =
      ⟨s.bloom.salt, s.bloom.maxCount,
        List.replicate n ((newTxGossip tx).gossipID doubleHashH) ++ s.bloom.added⟩ := by
  induction n generalizing s with
  | zero => rfl
  | succ n ih =>
    rw [List.replicate_succ, BTCSet.run, BTCSet.exec, s.add_known_tx doubleHashH L tx hknown]
    rw [ih (s.markKnown doubleHashH (newTxGossip tx)) hknown]
    simp [BloomFilter.add, List.replicate_succ']

/-- Nothing resets the filter: along every run it keeps its generation. A transaction already
in the pool, gossiped `maxCount + 1` times, takes the generation `GetFilter` serves past the
count at which its false-positive rate reaches the reset threshold. -/
theorem bloom_never_reset (s : BTCSet σ) (tx : MsgTx)
    (hknown : L.haveTransaction s.ledger (tx.txHash doubleHashH) = true) :
    (∀ ops, (s.run doubleHashH L ops).getFilter.salt = s.bloom.salt) ∧
      (s.run doubleHashH L (List.replicate (s.bloom.maxCount + 1) (.add (some (newTxGossip tx))))).getFilter.salt =
        s.bloom.salt ∧
      s.bloom.maxCount <
        (s.run doubleHashH L (List.replicate (s.bloom.maxCount + 1) (.add (some (newTxGossip tx))))).getFilter.count := by
  have hrun := s.run_add_known_tx doubleHashH L tx hknown (s.bloom.maxCount + 1)
  refine ⟨fun ops => (s.run_bloom_grows doubleHashH L ops).1, by simp [BTCSet.getFilter, hrun], ?_⟩
  simp only [BTCSet.getFilter, hrun, BloomFilter.count, List.length_append, List.length_replicate]
  omega

end Runs

/-! ## One `Add` -/

section Add

variable {σ : Type} (doubleHashH : List UInt8 → Hash) (L : Ledger σ)

/-- When `Add` fails, as the set's contract lists the cases: a nil item, a nil payload for the
item's type, a type neither `Tx` nor `Block`, a transaction not yet in the pool that
`ProcessTransaction` rejects, or a `HaveBlock` lookup that fails. -/
def BTCSet.AddRejects (s : BTCSet σ) (x : Option BTCGossip) : Prop :=
  x = none ∨ ∃ item, x = some item ∧
    ((item.itemType = gossipItemTypeTx ∧ item.tx = none) ∨
      (item.itemType = gossipItemTypeBlock ∧ item.block = none) ∨
      (item.itemType ≠ gossipItemTypeTx ∧ item.itemType ≠ gossipItemTypeBlock) ∨
      (∃ tx, item.itemType = gossipItemTypeTx ∧ item.tx = some tx ∧
        L.haveTransaction s.ledger (tx.txHash doubleHashH) = false ∧
        ∃ e, (L.processTransaction s.ledger tx).1 = .error e) ∨
      (∃ b, item.itemType = gossipItemTypeBlock ∧ item.block = some b ∧
        ∃ e, L.haveBlock s.ledger (b.header.blockHash doubleHashH) = .error e))

/-- The transactions `ProcessTransaction` reports accepted when `Add` submits `x`; `[]` when
`Add` does not submit it or the pool rejects it. -/
def BTCSet.engineAccepted (s : BTCSet σ) : Option BTCGossip → List MsgTx
  | some item =>
    if item.itemType = gossipItemTypeTx then
      match item.tx with
      | some tx =>
        if L.haveTransaction s.ledger (tx.txHash doubleHashH) then []
        else match (L.processTransaction s.ledger tx).1 with
          | .ok acc => acc
          | .error _ => []
      | none => []
    else []
  | none => []

/-- `Add` fails exactly in the cases `AddRejects` lists, and then leaves the filter, the push
queue and the relays as they were. When it succeeds the filter holds the item's `GossipID`
(for a block whatever `ProcessBlock` reported), `OnTxRelay` got exactly the transactions the
pool accepted if there were any, and, for a pool in which an accepted transaction is present,
`Has` finds a transaction item afterwards. -/
theorem add_contract (s : BTCSet σ) (x : Option BTCGossip)
    (hpool : ∀ ledger tx acc ledger', L.processTransaction ledger tx = (.ok acc, ledger') →
      L.haveTransaction ledger' (tx.txHash doubleHashH) = true) :
    ((∃ e, (s.add doubleHashH L x).1 = .error e) ↔ s.AddRejects doubleHashH L x) ∧
      (∀ e, (s.add doubleHashH L x).1 = .error e →
        (s.add doubleHashH L x).2.bloom = s.bloom ∧
        (s.add doubleHashH L x).2.pushQueue = s.pushQueue ∧
        (s.add doubleHashH L x).2.txRelays = s.txRelays) ∧
      ((s.add doubleHashH L x).1 = .ok () → ∃ item, x = some item ∧
        (s.add doubleHashH L x).2.bloom.has (item.gossipID doubleHashH) = true ∧
        (s.add doubleHashH L x).2.txRelays = s.txRelays ++
          (if s.engineAccepted doubleHashH L x = [] then [] else [s.engineAccepted doubleHashH L x]) ∧
        (item.itemType = gossipItemTypeTx →
          (s.add doubleHashH L x).2.has L (item.gossipID doubleHashH) = true)) := by
  rcases x with _ | ⟨t, txo, blk⟩
  · simp [BTCSet.add, BTCSet.AddRejects]
  by_cases ht : t = gossipItemTypeTx
  · subst ht
    cases txo with
    | none => simp [BTCSet.add, BTCSet.AddRejects, BTCSet.engineAccepted]
    | some tx =>
      cases hk : L.haveTransaction s.ledger (tx.txHash doubleHashH)
      · rcases hp : L.processTransaction s.ledger tx with ⟨_ | acc, ledger'⟩
        · simp [BTCSet.add, BTCSet.AddRejects, BTCSet.engineAccepted, hk, hp,
            gossipItemTypeTx_ne_block]
        · have hin := hpool _ _ _ _ hp
          by_cases hacc : acc = [] <;>
            simp [BTCSet.add, BTCSet.AddRejects, BTCSet.engineAccepted, hk, hp, hacc,
              BloomFilter.has_add, BTCSet.has, BTCGossip.gossipID, hin, gossipItemTypeTx_ne_block]
      · simp [BTCSet.add, BTCSet.AddRejects, BTCSet.engineAccepted, hk, BloomFilter.has_add,
          BTCSet.has, BTCGossip.gossipID, gossipItemTypeTx_ne_block]
  by_cases hb : t = gossipItemTypeBlock
  · subst hb
    cases blk with
    | none => simp [BTCSet.add, BTCSet.AddRejects, BTCSet.engineAccepted, ht]
    | some b =>
      rcases hh : L.haveBlock s.ledger (b.header.blockHash doubleHashH) with e | _ | _ <;>
        simp [BTCSet.add, BTCSet.AddRejects, BTCSet.engineAccepted, ht, hh, BloomFilter.has_add]
  · simp [BTCSet.add, BTCSet.AddRejects, BTCSet.engineAccepted, ht, hb]

end Add

/-! ## `Iterate` -/

/-- The loop's log: its items are the first transactions of the snapshot in order, wrapped as
transaction items; every answer but the last is `true`; and a log shorter than the snapshot
ends with a `false`. -/
theorem iterateDescs_log {β : Type} (f : β → BTCGossip → Bool × β) :
    ∀ (txs : List MsgTx) (b : β),
      (iterateDescs f txs b).1.map Prod.fst =
          (txs.take (iterateDescs f txs b).1.length).map newTxGossip ∧
        (∀ p ∈ (iterateDescs f txs b).1.dropLast, p.2 = true) ∧
        ((iterateDescs f txs b).1.length < txs.length →
          ∃ item, (iterateDescs f txs b).1.getLast? = some (item, false))
  | [], b => by simp [iterateDescs]
  | tx :: txs, b => by
    rcases hf : f b (newTxGossip tx) with ⟨_ | _, b'⟩
    · simp [iterateDescs, hf]
    · obtain ⟨h₁, h₂, h₃⟩ := iterateDescs_log f txs b'
      simp only [iterateDescs, hf]
      refine ⟨by simp [h₁], fun p hp => ?_, fun hlt => ?_⟩
      · rcases hl : (iterateDescs f txs b').1 with _ | ⟨q, l⟩
        · simp [hl] at hp
        · rw [hl, List.dropLast_cons_of_ne_nil (List.cons_ne_nil q l)] at hp
          rcases List.mem_cons.1 hp with rfl | hp
          · rfl
          · exact h₂ p (hl ▸ hp)
      · obtain ⟨item, hi⟩ := h₃ (by simpa using hlt)
        exact ⟨item, by rw [List.getLast?_cons, hi]; rfl⟩

/-- The loop threads the visitor's state: there are states `bs`, one after each logged call,
such that each call maps the state before it (`b` for the first) and its item to its logged
answer and the state after it, and the loop returns the last of them. -/
theorem iterateDescs_threads {β : Type} (f : β → BTCGossip → Bool × β) :
    ∀ (txs : List MsgTx) (b : β), ∃ bs : List β,
      bs.length = (iterateDescs f txs b).1.length ∧
        (b :: bs).getLast? = some (iterateDescs f txs b).2 ∧
        ∀ bi x a bi', (bi, (x, a), bi') ∈ (b :: bs).zip ((iterateDescs f txs b).1.zip bs) →
          f bi x = (a, bi')
  | [], b => ⟨[], rfl, rfl, by simp⟩
  | tx :: txs, b => by
    rcases hf : f b (newTxGossip tx) with ⟨_ | _, b'⟩
    · refine ⟨[b'], by simp [iterateDescs, hf], by simp [iterateDescs, hf], ?_⟩
      simp only [iterateDescs, hf, List.zip_cons_cons, List.zip_nil_right, List.mem_singleton,
        Prod.mk.injEq]
      rintro bi x a bi' ⟨rfl, ⟨rfl, rfl⟩, rfl⟩
      exact hf
    · obtain ⟨bs, hlen, hlast, hstep⟩ := iterateDescs_threads f txs b'
      refine ⟨b' :: bs, by simp [iterateDescs, hf, hlen], by simp [iterateDescs, hf, hlast], ?_⟩
      simp only [iterateDescs, hf, List.zip_cons_cons, List.mem_cons, Prod.mk.injEq]
      rintro bi x a bi' (⟨rfl, ⟨rfl, rfl⟩, rfl⟩ | hm)
      · exact hf
      · exact hstep _ _ _ _ hm

section Iterate

variable {σ : Type} (L : Ledger σ)

/-- `Iterate` calls the visitor on the pool's transactions in order, each as a transaction
item with no block, and on nothing else. Each logged answer is the visitor's own answer at the
state threaded through the calls before it, and `Iterate` returns the visitor's state after
its last call. Every call but the last was answered `true`, and the calls stop short of the
end of the pool only after a `false`. -/
theorem iterate_visits {β : Type} (s : BTCSet σ) (f : β → BTCGossip → Bool × β) (b : β) :
    (s.iterate L f b).1.map Prod.fst =
        ((L.txDescs s.ledger).take (s.iterate L f b).1.length).map newTxGossip ∧
      (∀ p ∈ (s.iterate L f b).1, p.1.itemType = gossipItemTypeTx ∧ p.1.block = none) ∧
      (∃ bs : List β, bs.length = (s.iterate L f b).1.length ∧
        (b :: bs).getLast? = some (s.iterate L f b).2 ∧
        ∀ bi x a bi', (bi, (x, a), bi') ∈ (b :: bs).zip ((s.iterate L f b).1.zip bs) →
          f bi x = (a, bi')) ∧
      (∀ p ∈ (s.iterate L f b).1.dropLast, p.2 = true) ∧
      ((s.iterate L f b).1.length < (L.txDescs s.ledger).length →
        ∃ item, (s.iterate L f b).1.getLast? = some (item, false)) := by
  obtain ⟨h₁, h₂, h₃⟩ := iterateDescs_log f (L.txDescs s.ledger) b
  refine ⟨h₁, fun p hp => ?_, iterateDescs_threads f _ b, h₂, h₃⟩
  obtain ⟨tx, -, htx⟩ := List.mem_map.1 (h₁ ▸ List.mem_map_of_mem Prod.fst hp)
  simp [← htx, newTxGossip]

end Iterate

/-! ## A pool -/

/-- A pool that accepts every new transaction and keeps it, beside a block engine that has no
block and puts every block on the main chain. -/
def poolLedger (doubleHashH : List UInt8 → Hash) : Ledger (List MsgTx) where
  haveTransaction pool h := pool.any fun tx => tx.txHash doubleHashH = h
  processTransaction pool tx := (.ok [tx], pool ++ [tx])
  txDescs pool := pool
  haveBlock _ _ := .ok false
  processBlock pool _ := (.ok (true, false), pool)

/-- The pool holds every transaction it accepted. -/
theorem poolLedger_processTransaction (doubleHashH : List UInt8 → Hash)
    (ledger : List MsgTx) (tx : MsgTx) (acc ledger' : List MsgTx)
    (h : (poolLedger doubleHashH).processTransaction ledger tx = (.ok acc, ledger')) :
    (poolLedger doubleHashH).haveTransaction ledger' (tx.txHash doubleHashH) = true := by
  simp only [poolLedger, Prod.mk.injEq] at h
  simp [poolLedger, ← h.2]

/-- A set over an empty pool, with a fresh filter and a push gossiper. -/
def emptyPoolSet : BTCSet (List MsgTx) := ⟨[], ⟨0, 2, []⟩, some [], []⟩

/-- A set whose pool holds `sampleTx`, with a fresh filter that reaches its reset threshold
after two additions. -/
def pooledSet : BTCSet (List MsgTx) := ⟨[sampleTx], ⟨0, 2, []⟩, some [], []⟩

/-- `add_contract` for `sampleTx` sent to the empty pool: it is relayed once and `Has` finds
it. -/
theorem emptyPoolSet_add_sampleTx :
    (∀ ledger tx acc ledger', (poolLedger toyHash).processTransaction ledger tx = (.ok acc, ledger') →
        (poolLedger toyHash).haveTransaction ledger' (tx.txHash toyHash) = true) ∧
      (emptyPoolSet.add toyHash (poolLedger toyHash) (some (newTxGossip sampleTx))).2.txRelays =
        [[sampleTx]] ∧
      (emptyPoolSet.add toyHash (poolLedger toyHash) (some (newTxGossip sampleTx))).2.has
        (poolLedger toyHash) ((newTxGossip sampleTx).gossipID toyHash) = true := by
  have hpool := poolLedger_processTransaction toyHash
  obtain ⟨-, -, hok⟩ := add_contract toyHash (poolLedger toyHash) emptyPoolSet (some (newTxGossip sampleTx)) hpool
  obtain ⟨item, hx, -, hrel, hhas⟩ := hok rfl
  cases hx
  exact ⟨hpool, hrel.trans rfl, hhas rfl⟩

/-- `bloom_never_reset` at `pooledSet`: three gossips of the pooled `sampleTx` take the
filter past its bound of two, and it keeps its salt. -/
theorem pooledSet_bloom_saturated :
    (poolLedger toyHash).haveTransaction pooledSet.ledger (sampleTx.txHash toyHash) = true ∧
      (pooledSet.run toyHash (poolLedger toyHash)
        (List.replicate 3 (.add (some (newTxGossip sampleTx))))).getFilter.salt = 0 ∧
      2 < (pooledSet.run toyHash (poolLedger toyHash)
        (List.replicate 3 (.add (some (newTxGossip sampleTx))))).getFilter.count := by
  have hk : (poolLedger toyHash).haveTransaction pooledSet.ledger (sampleTx.txHash toyHash) = true := by
    simp [poolLedger, pooledSet]
  exact ⟨hk, (bloom_never_reset toyHash (poolLedger toyHash) pooledSet sampleTx hk).2⟩

end BtcVM
