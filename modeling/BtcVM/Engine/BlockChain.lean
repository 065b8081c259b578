import BtcVM.Wire.MsgBlock

/-!
# The ledger engine's block store

The VM drives btcd's `blockchain.BlockChain`, which is not under `src/`. The spec names the
capabilities the VM consumes (`processBlock`, `haveBlock`, `blockByHash`, the any-branch block
store, `bestSnapshot`, the block hash at a height); this module models them from those words,
from the glossary's notions of main and side branches and orphan blocks, and from the order in
which btcd v0.25's `ProcessBlock` makes its checks:

* the block index holds every block stored with a known parent, on any branch, in the order
  it was stored;
* the orphan pool holds blocks whose parent was unknown, oldest first, at most
  `maxOrphanBlocks` of them;
* the main chain lists the hashes of the best branch by height;
* what the VM cannot see is an input, the `Backend`: the consensus checks, each returning the
  error it rejects a block with, and the database, which may fail a read.

`processBlock` rejects a block it already has (in the index, with the block's hash in the
error, or in the orphan pool), fails with the database's error, rejects a block that fails
`checkBlockSanity`, parks an orphan, and otherwise hands the block to `maybeAcceptBlock`, which
checks it against its parent, stores it, and lets `connectBestChain` extend the main chain,
reorganise onto a longer side branch, or leave it on its side branch. A block that fails the
connect check stays stored. The orphans waiting on an accepted block are then accepted in
turn (`processOrphans`), and the first failure among them is `processBlock`'s error, after the
block itself was stored.

Every call only appends to the index (`processBlock_indexGrows`), so a hash the index resolves
resolves to the same node after any call, successful or not (`lookupNode_processBlock`).

The chain is a record with the main chain's non-emptiness (the genesis block is always
there) as a field, so `bestHash` needs no `Option`.
-/

namespace BtcVM.Chain

open Wire

/-- A block in the index together with its height. -/
structure BlockNode where
  block : MsgBlock
  height : Nat
  deriving DecidableEq, Repr

/-- Modelled from the spec: the engine's consensus checks and its database, which the VM
reaches only through `ProcessBlock` and `HaveBlock`. A check returns the error it rejects a
block with, or `none`; the database returns the error a read of a hash fails with. -/
structure Backend where
  /-- `checkBlockSanity`: the checks a block passes on its own. -/
  sanity : MsgBlock → Option String
  /-- `checkBlockContext`, and the rejection of a child of a known-invalid block: the checks
  against the parent. -/
  context : BlockNode → MsgBlock → Option String
  /-- `checkConnectBlock`: the checks a block passes as it joins the main chain. -/
  connect : BlockNode → Option String
  /-- A database read for a hash the index does not hold. -/
  dbError : Hash → Option String

/-- The backend that passes every block and whose database never fails. -/
def Backend.permissive : Backend := ⟨fun _ => none, fun _ _ => none, fun _ => none, fun _ => none⟩

/-- The engine's chain state. -/
structure BlockChain where
  backend : Backend
  index : List BlockNode
  orphans : List MsgBlock
  mainChain : List Hash
  mainChain_ne_nil : mainChain ≠ []

/-- `maxOrphanBlocks`. -/
def maxOrphanBlocks : Nat := 100

section Engine

variable (doubleHashH : List UInt8 → Hash)

/-- `btcutil.Block.Hash`. -/
def blockHash (b : MsgBlock) : Hash := b.header.blockHash doubleHashH

/-- Index lookup by hash, on any branch: the first node stored with that hash. -/
def lookupNode (c : BlockChain) (h : Hash) : Option BlockNode :=
  c.index.find? fun n => blockHash doubleHashH n.block = h

/-- `blockExists`: the index, then the database, whose read may fail. -/
def blockExists (c : BlockChain) (h : Hash) : Except String Bool :=
  if (lookupNode doubleHashH c h).isSome then .ok true else
  match c.backend.dbError h with
  | some e => .error e
  | none => .ok false

/-- `BlockChain.HaveBlock`: `blockExists`, or a known orphan. -/
def haveBlock (c : BlockChain) (h : Hash) : Except String Bool :=
  match blockExists doubleHashH c h with
  | .error e => .error e
  | .ok e => .ok (e || c.orphans.any fun o => blockHash doubleHashH o = h)

/-- `BestSnapshot().Hash`: the main chain's tip. -/
def BlockChain.bestHash (c : BlockChain) : Hash := c.mainChain.getLast c.mainChain_ne_nil

/-- `BestSnapshot().Height`. -/
def BlockChain.bestHeight (c : BlockChain) : Nat := c.mainChain.length - 1

/-- `BlockChain.BlockByHash`: a block of the main chain. -/
def blockByHash (c : BlockChain) (h : Hash) : Option BlockNode :=
  if h ∈ c.mainChain then lookupNode doubleHashH c h else none

/-- `BlockChain.BlockByHashAny`: a block of any branch. -/
def blockByHashAny (c : BlockChain) (h : Hash) : Option BlockNode := lookupNode doubleHashH c h

/-- `BlockChain.BlockHashByHeight`: the main chain's block at an `int32` height. -/
def blockHashByHeight (c : BlockChain) (height : Int) : Option Hash :=
  if height < 0 then none else c.mainChain.get? height.toNat

/-- The hashes from the branch's first block up to `h`, following parents through the index
for at most `fuel` steps. -/
def pathTo (c : BlockChain) : Nat → Hash → List Hash
  | 0, h => [h]
  | fuel + 1, h =>
    match lookupNode doubleHashH c h with
    | some n => pathTo c fuel n.block.header.prevBlock ++ [h]
    | none => [h]

/-- A path ends at its hash, so it is never empty. -/
theorem pathTo_ne_nil (c : BlockChain) (fuel : Nat) (h : Hash) : pathTo doubleHashH c fuel h ≠ [] := by
  cases fuel with
  | zero => simp [pathTo]
  | succ fuel => simp only [pathTo]; split <;> simp

/-- What `ProcessBlock` reports: its two flags and the height it sets on the block
(`btcutil.Block.SetHeight`; `BlockHeightUnknown = -1` for an orphan). -/
structure ProcessResult where
  isMainChain : Bool
  isOrphan : Bool
  height : Int

/-- `addOrphanBlock`: the block joins the pool, after the oldest orphan leaves a full pool.
The expiry of orphans by time is not modelled. -/
def BlockChain.addOrphanBlock (c : BlockChain) (b : MsgBlock) : BlockChain :=
  { c with orphans := (if maxOrphanBlocks < c.orphans.length + 1 then c.orphans.tail
                       else c.orphans) ++ [b] }

/-- `maybeAcceptBlock`, for a block whose parent is in the index: the context check, then the
block is stored one above its parent, and `connectBestChain` decides. A block on the tip
extends the main chain, and one whose branch becomes the longest becomes the tip of the main
chain reorganised onto its branch, each after the connect check; a block that fails it stays
stored, off the main chain. Any other block waits on its side branch. Work is measured by
height, as for blocks of one difficulty. Reports whether the block joined the main chain. -/
def maybeAcceptBlock (c : BlockChain) (b : MsgBlock) (parent : BlockNode) :
    Except String Bool × BlockChain :=
  match c.backend.context parent b with
  | some e => (.error e, c)
  | none =>
    let h := blockHash doubleHashH b
    let node : BlockNode := ⟨b, parent.height + 1⟩
    let stored : BlockChain := { c with index := c.index ++ [node] }
    if b.header.prevBlock = c.bestHash ∨ c.bestHeight < node.height then
      match c.backend.connect node with
      | some e => (.error e, stored)
      | none =>
        if b.header.prevBlock = c.bestHash then
          (.ok true, { stored with mainChain := c.mainChain ++ [h], mainChain_ne_nil := by simp })
        else
          (.ok true, { stored with mainChain := pathTo doubleHashH stored node.height h
                                   mainChain_ne_nil := pathTo_ne_nil doubleHashH _ _ _ })
    else (.ok false, stored)

/-- `processOrphans`: the orphans waiting on an accepted block leave the pool, oldest first,
and are accepted in turn, and then those waiting on them; the first that fails stops it with
its error. The queue holds the accepted blocks' nodes. `fuel` bounds the rounds: each takes an
orphan out of the pool or a node off the queue, and a node joins the queue only with an
orphan taken out, so twice the pool's size and one more is enough. -/
def processOrphans : Nat → BlockChain → List BlockNode → Except String Unit × BlockChain
  | 0, c, _ => (.ok (), c)
  | _ + 1, c, [] => (.ok (), c)
  | fuel + 1, c, p :: ps =>
    match c.orphans.find? (fun o => o.header.prevBlock = blockHash doubleHashH p.block) with
    | none => processOrphans fuel c ps
    | some o =>
      match maybeAcceptBlock doubleHashH { c with orphans := c.orphans.erase o } o p with
      | (.error e, c') => (.error e, c')
      | (.ok _, c') => processOrphans fuel c' (p :: ps ++ [⟨o, p.height + 1⟩])

/-- Modelled from the spec: `BlockChain.ProcessBlock`, in the order btcd makes its checks
(btcd's `blockchain` package is not under `src/`). -/
def processBlock (c : BlockChain) (b : MsgBlock) : Except String ProcessResult × BlockChain :=
  let h := blockHash doubleHashH b
  match blockExists doubleHashH c h with
  | .error e => (.error e, c)
  | .ok true => (.error ("already have block " ++ Hash.toHex h), c)
  | .ok false =>
    if c.orphans.any (fun o => blockHash doubleHashH o = h) then
      (.error ("already have block (orphan) " ++ Hash.toHex h), c)
    else
    match c.backend.sanity b with
    | some e => (.error e, c)
    | none =>
      match lookupNode doubleHashH c b.header.prevBlock with
      | none =>
        match c.backend.dbError b.header.prevBlock with
        | some e => (.error e, c)
        | none => (.ok ⟨false, true, -1⟩, c.addOrphanBlock b)
      | some parent =>
        match maybeAcceptBlock doubleHashH c b parent with
        | (.error e, c₁) => (.error e, c₁)
        | (.ok isMainChain, c₁) =>
          match processOrphans doubleHashH (2 * c₁.orphans.length + 1) c₁
              [⟨b, parent.height + 1⟩] with
          | (.error e, c₂) => (.error e, c₂)
          | (.ok (), c₂) => (.ok ⟨isMainChain, false, parent.height + 1⟩, c₂)

/-- The chain holding only a genesis block, over a backend. -/
def genesis (backend : Backend) (g : MsgBlock) : BlockChain :=
  ⟨backend, [⟨g, 0⟩], [], [blockHash doubleHashH g], by simp⟩

/-! ## The index only grows -/

/-- A lookup that succeeds keeps its answer once nodes are stored after the index. -/
theorem lookupNode_of_prefix {c c' : BlockChain} (hc : c.index <+: c'.index) {h : Hash}
    {n : BlockNode} (hn : lookupNode doubleHashH c h = some n) :
    lookupNode doubleHashH c' h = some n := by
  obtain ⟨ns, he⟩ := hc
  simp only [lookupNode, ← he, List.find?_append]
  simp only [lookupNode] at hn
  rw [hn]; rfl

/-- `maybeAcceptBlock` only stores its block after the index, and leaves the pool alone. -/
theorem maybeAcceptBlock_index (c : BlockChain) (b : MsgBlock) (parent : BlockNode) :
    c.index <+: (maybeAcceptBlock doubleHashH c b parent).2.index ∧
      (maybeAcceptBlock doubleHashH c b parent).2.orphans = c.orphans := by
  unfold maybeAcceptBlock
  split
  · exact ⟨List.prefix_refl _, rfl⟩
  · dsimp only
    split_ifs
    all_goals first
      | exact ⟨List.prefix_append _ _, rfl⟩
      | split <;> exact ⟨List.prefix_append _ _, rfl⟩

/-- A successful `maybeAcceptBlock` stored its block one above its parent, last in the index. -/
theorem maybeAcceptBlock_eq_ok {c c' : BlockChain} {b : MsgBlock} {parent : BlockNode}
    {main : Bool} (h : maybeAcceptBlock doubleHashH c b parent = (.ok main, c')) :
    c'.index = c.index ++ [⟨b, parent.height + 1⟩] := by
  unfold maybeAcceptBlock at h
  split at h
  · cases h
  · dsimp only at h
    split_ifs at h
    all_goals (try split at h) <;> cases h; rfl

/-- `processOrphans` only appends to the index. -/
theorem processOrphans_index (fuel : Nat) (c : BlockChain) (ps : List BlockNode) :
    c.index <+: (processOrphans doubleHashH fuel c ps).2.index := by
  induction fuel generalizing c ps with
  | zero => exact List.prefix_refl _
  | succ fuel ih =>
    cases ps with
    | nil => exact List.prefix_refl _
    | cons p ps =>
      simp only [processOrphans]
      split
      · exact ih c ps
      · rename_i o _
        have hacc := (maybeAcceptBlock_index doubleHashH { c with orphans := c.orphans.erase o } o p).1
        split
        · rename_i he; rw [he] at hacc; exact hacc
        · rename_i he; rw [he] at hacc; exact hacc.trans (ih _ _)

/-- No orphan waits on the queue: `processOrphans` changes nothing. -/
theorem processOrphans_nil (fuel : Nat) (c : BlockChain) :
    processOrphans doubleHashH fuel c [] = (.ok (), c) := by
  cases fuel <;> rfl

/-- `processBlock` only appends to the index, whatever it returns. -/
theorem processBlock_indexGrows (c : BlockChain) (b : MsgBlock) :
    c.index <+: (processBlock doubleHashH c b).2.index := by
  unfold processBlock
  dsimp only
  split
  · exact List.prefix_refl _
  · exact List.prefix_refl _
  split_ifs
  · exact List.prefix_refl _
  split
  · exact List.prefix_refl _
  split
  · split <;> exact List.prefix_refl _
  rename_i parent _
  have hacc := (maybeAcceptBlock_index doubleHashH c b parent).1
  rcases hm : maybeAcceptBlock doubleHashH c b parent with ⟨_ | main, c₁⟩
  · rw [hm] at hacc; exact hacc
  rw [hm] at hacc
  have hpo := processOrphans_index doubleHashH (2 * c₁.orphans.length + 1) c₁
    [⟨b, parent.height + 1⟩]
  dsimp only
  rcases hpr : processOrphans doubleHashH (2 * c₁.orphans.length + 1) c₁ [⟨b, parent.height + 1⟩]
    with ⟨_ | _, c₂⟩
  all_goals rw [hpr] at hpo; exact hacc.trans hpo

/-- `processBlock` never drops or changes a stored block: a hash the index resolves before
the call resolves to the same node after it, whatever the call returns. -/
theorem lookupNode_processBlock {c : BlockChain} {b : MsgBlock} {h : Hash} {n : BlockNode}
    (hn : lookupNode doubleHashH c h = some n) :
    lookupNode doubleHashH (processBlock doubleHashH c b).2 h = some n :=
  lookupNode_of_prefix doubleHashH (processBlock_indexGrows doubleHashH c b) hn

/-! ## What `processBlock` does -/

/-- A block already in the index is rejected as a duplicate, with its hash in the error, and
the chain is left as it was. -/
theorem processBlock_of_lookupNode {c : BlockChain} {b : MsgBlock} {n : BlockNode}
    (h : lookupNode doubleHashH c (blockHash doubleHashH b) = some n) :
    processBlock doubleHashH c b =
      (.error ("already have block " ++ Hash.toHex (blockHash doubleHashH b)), c) := by
  simp [processBlock, blockExists, h]

/-- `HaveBlock` answers `false` without error exactly for a block that is in neither the
index nor the pool and whose database read succeeds. -/
theorem haveBlock_eq_ok_false {c : BlockChain} {h : Hash} :
    haveBlock doubleHashH c h = .ok false ↔
      lookupNode doubleHashH c h = none ∧ c.backend.dbError h = none ∧
        (c.orphans.any fun o => blockHash doubleHashH o = h) = false := by
  unfold haveBlock blockExists
  by_cases hl : (lookupNode doubleHashH c h).isSome
  · simp [hl, Option.isSome_iff_ne_none.mp hl]
  · rw [Option.not_isSome_iff_eq_none] at hl
    cases hd : c.backend.dbError h <;> simp [hl, hd]

/-- A block in the index is one `HaveBlock` has. -/
theorem haveBlock_of_lookupNode {c : BlockChain} {h : Hash} {n : BlockNode}
    (hn : lookupNode doubleHashH c h = some n) : haveBlock doubleHashH c h = .ok true := by
  simp [haveBlock, blockExists, hn]

/-- A new block whose parent is in the index, and which passes the sanity and context checks,
is stored one above its parent, whatever `processBlock` then returns: a later failure (the
connect check, or an orphan waiting on it) comes after the block was stored. -/
theorem processBlock_stores {c : BlockChain} {b : MsgBlock} {parent : BlockNode}
    (hnew : haveBlock doubleHashH c (blockHash doubleHashH b) = .ok false)
    (hp : lookupNode doubleHashH c b.header.prevBlock = some parent)
    (hs : c.backend.sanity b = none) (hc : c.backend.context parent b = none) :
    lookupNode doubleHashH (processBlock doubleHashH c b).2 (blockHash doubleHashH b) =
      some ⟨b, parent.height + 1⟩ := by
  obtain ⟨hl, hd, ho⟩ := (haveBlock_eq_ok_false doubleHashH).1 hnew
  -- After `maybeAcceptBlock` the block is the index's only node with its hash.
  have stored : ∀ c₁ main, maybeAcceptBlock doubleHashH c b parent = (.ok main, c₁) →
      lookupNode doubleHashH c₁ (blockHash doubleHashH b) = some ⟨b, parent.height + 1⟩ := by
    intro c₁ main he
    simp only [lookupNode, maybeAcceptBlock_eq_ok doubleHashH he, List.find?_append]
    simp only [lookupNode] at hl
    simp [hl]
  have hconn : ∀ e c₁, maybeAcceptBlock doubleHashH c b parent = (.error e, c₁) →
      lookupNode doubleHashH c₁ (blockHash doubleHashH b) = some ⟨b, parent.height + 1⟩ := by
    intro e c₁ he
    unfold maybeAcceptBlock at he
    simp only [hc] at he
    split_ifs at he
    all_goals (try split at he) <;> cases he
    all_goals simp only [lookupNode] at hl; simp [lookupNode, List.find?_append, hl]
  simp only [processBlock, blockExists, hl, Option.isSome_none, Bool.false_eq_true, if_false,
    hd, ho, hs, hp]
  rcases hm : maybeAcceptBlock doubleHashH c b parent with ⟨_ | main, c₁⟩
  · exact hconn _ _ hm
  · have h₁ := stored c₁ main hm
    have hpo := processOrphans_index doubleHashH (2 * c₁.orphans.length + 1) c₁
      [⟨b, parent.height + 1⟩]
    dsimp only
    rcases hpr : processOrphans doubleHashH (2 * c₁.orphans.length + 1) c₁
      [⟨b, parent.height + 1⟩] with ⟨_ | _, c₂⟩
    all_goals rw [hpr] at hpo; exact lookupNode_of_prefix doubleHashH hpo h₁

/-- Everything a successful `processBlock` can do: the block was new, and it was either
parked as an orphan with its parent unknown, or stored one above its parent. -/
theorem processBlock_eq_ok {c c' : BlockChain} {b : MsgBlock} {r : ProcessResult}
    (h : processBlock doubleHashH c b = (.ok r, c')) :
    lookupNode doubleHashH c (blockHash doubleHashH b) = none ∧
      ((lookupNode doubleHashH c b.header.prevBlock = none ∧ r.isOrphan = true ∧
          c' = c.addOrphanBlock b) ∨
        ∃ parent, lookupNode doubleHashH c b.header.prevBlock = some parent ∧
          r.isOrphan = false ∧ r.height = parent.height + 1 ∧
          lookupNode doubleHashH c' (blockHash doubleHashH b) = some ⟨b, parent.height + 1⟩) := by
  have hc' : (processBlock doubleHashH c b).2 = c' := by rw [h]
  unfold processBlock at h
  dsimp only at h
  -- Only a new block gets past the duplicate and database checks.
  have hnew : haveBlock doubleHashH c (blockHash doubleHashH b) = .ok false := by
    unfold haveBlock
    revert h
    rcases blockExists doubleHashH c (blockHash doubleHashH b) with _ | _ | _ <;> intro h
    all_goals first | cases h | (split_ifs at h with ho <;> simp_all)
  obtain ⟨hl, hd, ho⟩ := (haveBlock_eq_ok_false doubleHashH).1 hnew
  refine ⟨hl, ?_⟩
  simp only [blockExists, hl, hd, ho, Option.isSome_none, Bool.false_eq_true, if_false] at h
  rcases hs : c.backend.sanity b with _ | e
  swap
  · simp [hs] at h
  rcases hp : lookupNode doubleHashH c b.header.prevBlock with _ | parent <;> simp only [hs, hp] at h
  · -- An unknown parent: the block is parked as an orphan.
    split at h
    · cases h
    · cases h; exact .inl ⟨rfl, rfl, rfl⟩
  · -- A known parent: `maybeAcceptBlock` stored the block, whatever follows.
    rcases hm : maybeAcceptBlock doubleHashH c b parent with ⟨_ | main, c₁⟩ <;> simp only [hm] at h
    · cases h
    have hc : c.backend.context parent b = none := by
      unfold maybeAcceptBlock at hm; split at hm
      · cases hm
      · assumption
    have hst := hc' ▸ processBlock_stores doubleHashH hnew hp hs hc
    split at h
    · cases h
    · cases h; exact .inr ⟨parent, rfl, rfl, rfl, hst⟩

/-- A block accepted without being parked as an orphan is in the new index, at the height
`processBlock` reports. -/
theorem processBlock_lookupNode {c c' : BlockChain} {b : MsgBlock} {r : ProcessResult}
    (h : processBlock doubleHashH c b = (.ok r, c')) (hno : r.isOrphan = false) :
    ∃ height : Nat, lookupNode doubleHashH c' (blockHash doubleHashH b) = some ⟨b, height⟩ ∧
      r.height = height := by
  obtain ⟨-, ⟨-, ho, -⟩ | ⟨parent, -, -, hh, hl⟩⟩ := processBlock_eq_ok doubleHashH h
  · rw [hno] at ho; cases ho
  · exact ⟨_, hl, hh⟩

/-- A block parked as an orphan stays out of the index. -/
theorem processBlock_orphan_lookupNode {c c' : BlockChain} {b : MsgBlock} {r : ProcessResult}
    (h : processBlock doubleHashH c b = (.ok r, c')) (ho : r.isOrphan = true) :
    lookupNode doubleHashH c' (blockHash doubleHashH b) = none := by
  obtain ⟨hnew, ⟨-, -, rfl⟩ | ⟨-, -, hno, -⟩⟩ := processBlock_eq_ok doubleHashH h
  · exact hnew
  · rw [hno] at ho; cases ho

/-- A new block whose parent is in the index, which passes every check, and on which no
orphan waits, is accepted one above its parent. -/
theorem processBlock_of_parent {c : BlockChain} {b : MsgBlock} {parent : BlockNode}
    (hnew : haveBlock doubleHashH c (blockHash doubleHashH b) = .ok false)
    (hp : lookupNode doubleHashH c b.header.prevBlock = some parent)
    (hs : c.backend.sanity b = none) (hc : c.backend.context parent b = none)
    (hconn : c.backend.connect ⟨b, parent.height + 1⟩ = none)
    (hwait : ∀ o ∈ c.orphans, o.header.prevBlock ≠ blockHash doubleHashH b) :
    ∃ main, (processBlock doubleHashH c b).1 = .ok ⟨main, false, parent.height + 1⟩ := by
  obtain ⟨hl, hd, ho⟩ := (haveBlock_eq_ok_false doubleHashH).1 hnew
  have hfind : (c.orphans.find? fun o => o.header.prevBlock = blockHash doubleHashH b) = none := by
    rw [List.find?_eq_none]; simpa using hwait
  simp only [processBlock, blockExists, hl, hd, ho, hs, hp, Option.isSome_none, Bool.false_eq_true,
    if_false]
  rcases hm : maybeAcceptBlock doubleHashH c b parent with ⟨_ | main, c₁⟩
  · unfold maybeAcceptBlock at hm
    simp only [hc, hconn] at hm
    split_ifs at hm <;> simp at hm
  · have ho₁ := (maybeAcceptBlock_index doubleHashH c b parent).2
    rw [hm] at ho₁
    dsimp only at ho₁ ⊢
    simp only [processOrphans, ho₁, hfind, processOrphans_nil]
    exact ⟨main, rfl⟩

end Engine

end BtcVM.Chain
