import BtcVM.Spec.ParseBlock

/-!
# Preference and the engine's best chain

The consensus engine tells the VM which block it prefers (`SetPreference`) and which it
accepts (`Accept`); neither reaches the ledger engine, whose main chain follows block arrival
alone. `BuildBlock` builds on the engine's best tip (`buildBlock_parentID`), and
`GetBlockIDAtHeight` reads the engine's main chain (`getBlockIDAtHeight_eq_ok_iff`, over every
run of the node, in `BtcVM.Spec.Node`).

Two children of one parent, parsed in turn, show the gap: the engine keeps the first as its
tip, so once the consensus engine prefers the second, `BuildBlock` still builds on the first
(`buildBlock_parent_not_preferred`), and once it accepts the second, the block at its height
is the first (`accepted_not_at_height`).

`GetBlockIDAtHeight` narrows its `uint64` height with `int32(height)`, which keeps the low 32
bits: heights `2^32` apart get the same answer (`getBlockIDAtHeight_add_two_pow_32`), so the
height `2^32`, where no chain has a block, returns the genesis block's ID
(`getBlockIDAtHeight_wraps`).
-/

namespace BtcVM

open Wire Chain

section Build

variable (doubleHashH : List UInt8 → Hash)

/-- Everything a successful `BuildBlock` did: the template, with its nonce cleared, went
through the engine without being parked as an orphan, and the adapter wraps it. -/
theorem buildBlock_eq_ok {gen : TemplateGenerator} {vm vm' : VM} {a : BlockAdapter}
    (h : vm.buildBlock doubleHashH gen = (.ok a, vm')) :
    ∃ payTo template r c, gen.newBlockTemplate vm.chain payTo = some template ∧
      processBlock doubleHashH vm.chain
        { template with header := { template.header with nonce := 0 } } = (.ok r, c) ∧
      r.isOrphan = false ∧
      a = newBlockAdapter doubleHashH { template with header := { template.header with nonce := 0 } } r.height ∧
      vm' = { vm with chain := c } := by
  unfold VM.buildBlock VM.buildOnTemplate at h
  repeat' split at h
  all_goals try simp only [Prod.mk.injEq, reduceCtorEq, false_and] at h
  rename_i payTo _ _ template ht
  rcases hp : processBlock doubleHashH vm.chain
    { template with header := { template.header with nonce := 0 } } with ⟨_ | r, c⟩
  · simp only [hp, Prod.mk.injEq, reduceCtorEq, false_and] at h
  simp only [hp] at h
  split at h
  · simp only [Prod.mk.injEq, reduceCtorEq, false_and] at h
  rename_i ho
  simp only [Prod.mk.injEq, Except.ok.injEq] at h
  exact ⟨payTo, template, r, c, ht, hp, Bool.eq_false_iff.mpr ho, h.1.symm, h.2.symm⟩

/-- `BuildBlock` proposes a child of the engine's best tip at the time of the call. -/
theorem buildBlock_parentID (gen : TemplateGenerator) (vm vm' : VM) (a : BlockAdapter)
    (h : vm.buildBlock doubleHashH gen = (.ok a, vm')) :
    a.parentID = hashToID vm.chain.bestHash := by
  obtain ⟨payTo, template, r, c, ht, -, -, rfl, -⟩ := buildBlock_eq_ok doubleHashH h
  exact congrArg hashToID (gen.prevBlock_eq _ _ template ht)

end Build

/-! ## Two competing children -/

/-- The genesis VM after parsing `childA` and then `childB`: the engine keeps `childA` as its
tip and `childB` on a side branch of the same height. -/
def forkVM : VM :=
  ((genesisVM.parseBlock toyHash childA.btcEncode).2.parseBlock toyHash childB.btcEncode).2

/-- `forkVM` once the consensus engine prefers `childB`. -/
def preferChildBVM : VM := (forkVM.setPreference (hashToID (blockHash toyHash childB))).2

/-- `buildBlock_parentID` in `preferChildBVM`. -/
theorem preferChildB_buildBlock_parentID :
    ∃ a vm', preferChildBVM.buildBlock toyHash tipGenerator = (.ok a, vm') ∧
      a.parentID = hashToID preferChildBVM.chain.bestHash := by
  obtain ⟨a, vm', h⟩ : ∃ a vm', preferChildBVM.buildBlock toyHash tipGenerator = (.ok a, vm') :=
    ⟨_, _, rfl⟩
  exact ⟨a, vm', h, buildBlock_parentID toyHash _ _ _ _ h⟩

/-- With `childB` preferred, `BuildBlock` proposes a child of `childA`. -/
theorem buildBlock_parent_not_preferred :
    (preferChildBVM.buildBlock toyHash tipGenerator).1 =
        .ok (newBlockAdapter toyHash (headerBlock (blockHash toyHash childA) 0) 2) ∧
      (newBlockAdapter toyHash (headerBlock (blockHash toyHash childA) 0) 2).parentID ≠
        preferChildBVM.preferred :=
  ⟨rfl, by decide⟩

/-- In every state of an initialised VM, `GetBlockIDAtHeight` of an adapter's `int32` height
returns the adapter's ID exactly when the engine's main chain holds the adapter's hash at that
height. -/
theorem getBlockIDAtHeight_ok_iff_mainChain (vm : VM) (a : BlockAdapter) (height : Nat)
    (hi : vm.initialized = true) (hh : height < 2 ^ 31) (ha : a.height = uint64OfInt32 height) :
    vm.getBlockIDAtHeight a.height = .ok a.id ↔
      vm.chain.mainChain.get? height = some (idToHash a.id) := by
  have hr : int32OfUInt64 a.height = height := by
    rw [ha]; exact int32OfUInt64_uint64OfInt32 (by omega) (by omega)
  have h0 : ¬(height : Int) < 0 := by omega
  simp only [VM.getBlockIDAtHeight, hi, hr, blockHashByHeight, h0, Bool.not_true,
    Bool.false_eq_true, ↓reduceIte, Int.toNat_ofNat]
  rcases vm.chain.mainChain.get? height with _ | h
  · simp
  · simp only [Except.ok.injEq, Option.some.injEq]
    exact ⟨fun e => by rw [← e]; rfl, fun e => by rw [e]; rfl⟩

/-- `ParseBlock` returns the adapter of `childB` on the way to `forkVM`; once the consensus
engine accepts it, `GetBlockIDAtHeight` at its height returns the ID of `childA`. -/
theorem accepted_not_at_height :
    ((genesisVM.parseBlock toyHash childA.btcEncode).2.parseBlock toyHash childB.btcEncode).1 =
        .ok (newBlockAdapter toyHash childB 1) ∧
      ((newBlockAdapter toyHash childB 1).accept forkVM).getBlockIDAtHeight
          (newBlockAdapter toyHash childB 1).height = .ok (hashToID (blockHash toyHash childA)) ∧
      hashToID (blockHash toyHash childA) ≠ (newBlockAdapter toyHash childB 1).id :=
  ⟨rfl, rfl, by decide⟩

/-! ## Heights beyond `int32` -/

/-- `GetBlockIDAtHeight` returns an ID at `h + 2^32` exactly when it returns it at `h`. -/
theorem getBlockIDAtHeight_add_two_pow_32 (vm : VM) (h : UInt64) (id : ID) :
    vm.getBlockIDAtHeight (h + 4294967296) = .ok id ↔ vm.getBlockIDAtHeight h = .ok id := by
  unfold VM.getBlockIDAtHeight
  rw [int32OfUInt64_add_two_pow_32]
  cases vm.initialized <;> cases blockHashByHeight vm.chain (int32OfUInt64 h) <;> simp

/-- The genesis VM's main chain has no block at height `2^32`, and `GetBlockIDAtHeight(2^32)`
returns the genesis block's ID. -/
theorem getBlockIDAtHeight_wraps :
    genesisVM.chain.mainChain.get? 4294967296 = none ∧
      genesisVM.getBlockIDAtHeight 4294967296 = .ok (hashToID (blockHash toyHash genesisBlock)) :=
  ⟨rfl, (getBlockIDAtHeight_add_two_pow_32 genesisVM 0 _).2 rfl⟩

end BtcVM
