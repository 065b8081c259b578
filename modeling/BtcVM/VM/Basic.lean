import BtcVM.Engine.BlockChain

/-!
# The VM's block operations

`BlockAdapter` (`vm/block_adapter.go`) and the `VM` methods the consensus engine calls
(`BuildBlock`, `ParseBlock`, `GetBlock`, `SetPreference`, `LastAccepted`,
`GetBlockIDAtHeight`, and the adapter's `Accept`, `Reject`, `Verify`).

An operation returns its result and the VM state after it: a call that fails can still have
changed the engine (a block stored before the connect check rejected it, or an orphan it
connected, say). The block builder's bookkeeping inside
`BuildBlock` (`handleBuildAttempt`, `clearPendingSignal`) touches only the builder's own
fields; it is modelled with the builder's scheduling in `BtcVM.Builder`.
-/

namespace BtcVM

open Wire Chain

/-- `BlockAdapter`: the wrapped block and the fields cached at construction. -/
structure BlockAdapter where
  block : MsgBlock
  id : ID
  parentID : ID
  height : UInt64
  timestamp : Int
  bytes : List UInt8
  deriving DecidableEq, Repr

/-- `uint64(h)` for an `int32` height `h`: sign extension, then the low 64 bits. -/
def uint64OfInt32 (h : Int) : UInt64 := (h % 2 ^ 64).toNat.toUInt64

/-- `int32(h)` for a `uint64` height `h`: the low 32 bits read as a signed number. -/
def int32OfUInt64 (h : UInt64) : Int :=
  let low : Nat := h.toNat % 2 ^ 32
  if low < 2 ^ 31 then (low : Int) else (low : Int) - 2 ^ 32

/-- On the `int32` range, `int32(uint64(h)) = h`: a height survives the adapter's `uint64`. -/
theorem int32OfUInt64_uint64OfInt32 {h : Int} (hlo : -2 ^ 31 ≤ h) (hhi : h < 2 ^ 31) :
    int32OfUInt64 (uint64OfInt32 h) = h := by
  have h64 : (h % 2 ^ 64).toNat < 2 ^ 64 := by omega
  simp only [int32OfUInt64, uint64OfInt32, Nat.toUInt64, UInt64.toNat_ofNat_of_lt h64]
  split_ifs <;> omega

/-- `int32(h)` reads only the low 32 bits: heights `2^32` apart narrow to the same height. -/
theorem int32OfUInt64_add_two_pow_32 (h : UInt64) :
    int32OfUInt64 (h + 4294967296) = int32OfUInt64 h := by
  have hmod : (h + 4294967296).toNat % 2 ^ 32 = h.toNat % 2 ^ 32 := by
    show (h.toBitVec + 4294967296#64).toNat % 2 ^ 32 = h.toBitVec.toNat % 2 ^ 32
    rw [BitVec.toNat_add, BitVec.toNat_ofNat]
    omega
  simp only [int32OfUInt64, hmod]

/-- Modelled from the spec: the engine's block-template capability (`GetBlockTemplateGenerator`,
`btcutil.DecodeAddress` and `NewBlockTemplate`; btcd's `mining` package is not under `src/`).
The spec does not say what a template builds on; `prevBlock_eq` is the contract of btcd's
`NewBlockTemplate`, which takes the parent from the chain's `BestSnapshot`: a template extends
the engine's best tip. -/
structure TemplateGenerator where
  available : Bool
  decodeAddress : String → Option (List UInt8)
  newBlockTemplate : BlockChain → List UInt8 → Option MsgBlock
  prevBlock_eq : ∀ c payTo b, newBlockTemplate c payTo = some b → b.header.prevBlock = c.bestHash

/-- The `VM` fields the block operations read and write. -/
structure VM where
  chain : BlockChain
  hasAdapter : Bool
  initialized : Bool
  preferred : ID
  lastAccepted : ID
  miningAddrs : List String

section Operations

variable (doubleHashH : List UInt8 → Hash)

/-- `NewBlockAdapter`, for a block whose engine height is `height`. -/
def newBlockAdapter (b : MsgBlock) (height : Int) : BlockAdapter where
  block := b
  id := hashToID (blockHash doubleHashH b)
  parentID := hashToID b.header.prevBlock
  height := uint64OfInt32 height
  timestamp := b.header.timestamp
  bytes := b.btcEncode

/-- `VM.getCurrentBlock`: the main chain's tip, looked up by `BlockByHash`. -/
def VM.getCurrentBlock (vm : VM) : Except String BlockNode :=
  match blockByHash doubleHashH vm.chain vm.chain.bestHash with
  | some n => .ok n
  | none => .error "failed to get current block"

/-- The part of `VM.BuildBlock` after `handleBuildAttempt`: a template for the first mining
address, its nonce cleared, through `ProcessBlockNoPoW` (proof of work is not modelled). -/
def VM.buildOnTemplate (gen : TemplateGenerator) (vm : VM) : Except String BlockAdapter × VM :=
  if !gen.available then (.error "block template generator not available", vm) else
  match vm.miningAddrs with
  | [] => (.error "no mining address configured", vm)
  | addr :: _ =>
    match gen.decodeAddress addr with
    | none => (.error "failed to decode mining address", vm)
    | some payTo =>
      match gen.newBlockTemplate vm.chain payTo with
      | none => (.error "failed to create block template", vm)
      | some template =>
        let block := { template with header := { template.header with nonce := 0 } }
        match processBlock doubleHashH vm.chain block with
        | (.error e, c) => (.error s!"failed to process block: {e}", { vm with chain := c })
        | (.ok r, c) =>
          let vm' := { vm with chain := c }
          if r.isOrphan then (.error "generated block is orphan (parent missing)", vm')
          else (.ok (newBlockAdapter doubleHashH block r.height), vm')

/-- Building touches only the engine. -/
theorem VM.buildOnTemplate_vm (gen : TemplateGenerator) (vm : VM) :
    ∃ c, (vm.buildOnTemplate doubleHashH gen).2 = { vm with chain := c } := by
  unfold VM.buildOnTemplate
  repeat' split
  all_goals try (dsimp only; repeat' split)
  all_goals exact ⟨_, rfl⟩

/-- `VM.BuildBlock` (`handleBuildAttempt` and `clearPendingSignal` aside). -/
def VM.buildBlock (gen : TemplateGenerator) (vm : VM) : Except String BlockAdapter × VM :=
  if !vm.hasAdapter then (.error "btcd adapter not initialized", vm) else
  match vm.getCurrentBlock doubleHashH with
  | .error e => (.error s!"failed to get current block: {e}", vm)
  | .ok _ => vm.buildOnTemplate doubleHashH gen

/-- `NewBlockAdapterFromBytes`: decode, process through the engine, then wrap the block the
engine stores. -/
def newBlockAdapterFromBytes (vm : VM) (bytes : List UInt8) : Except String BlockAdapter × VM :=
  match MsgBlock.btcDecode bytes with
  | none => (.error "failed to deserialize block", vm)
  | some (b, _) =>
    match processBlock doubleHashH vm.chain b with
    | (.error e, c) => (.error s!"failed to process block: {e}", { vm with chain := c })
    | (.ok _, c) =>
      let vm' := { vm with chain := c }
      match blockByHashAny doubleHashH c (blockHash doubleHashH b) with
      | none => (.error "failed to retrieve processed block", vm')
      | some n => (.ok (newBlockAdapter doubleHashH n.block n.height), vm')

/-- `VM.ParseBlock`. -/
def VM.parseBlock (vm : VM) (bytes : List UInt8) : Except String BlockAdapter × VM :=
  if !vm.initialized then (.error "VM not initialized", vm) else
  match newBlockAdapterFromBytes doubleHashH vm bytes with
  | (.error e, vm') => (.error s!"failed to parse block: {e}", vm')
  | (.ok a, vm') => (.ok a, vm')

/-- `VM.GetBlock`, through `NewBlockAdapterFromID`. -/
def VM.getBlock (vm : VM) (blockID : ID) : Except String BlockAdapter :=
  if !vm.initialized then .error "VM not initialized" else
  match blockByHashAny doubleHashH vm.chain (idToHash blockID) with
  | none => .error "failed to get block adapter: failed to get block by hash"
  | some n => .ok (newBlockAdapter doubleHashH n.block n.height)

/-- `VM.GetBlockIDAtHeight`: the height is narrowed with `int32(height)`. -/
def VM.getBlockIDAtHeight (vm : VM) (height : UInt64) : Except String ID :=
  if !vm.initialized then .error "VM not initialized" else
  match blockHashByHeight vm.chain (int32OfUInt64 height) with
  | none => .error s!"failed to get block hash at height {height}"
  | some h => .ok (hashToID h)

end Operations

/-- `VM.SetPreference`. -/
def VM.setPreference (vm : VM) (blockID : ID) : Except String Unit × VM :=
  if !vm.initialized then (.error "VM not initialized", vm)
  else (.ok (), { vm with preferred := blockID })

/-- `VM.LastAccepted`. -/
def VM.lastAcceptedID (vm : VM) : Except String ID :=
  if !vm.initialized then .error "VM not initialized" else .ok vm.lastAccepted

/-- `BlockAdapter.Accept`: record the block as last accepted and preferred. It does not touch
the engine, and deliberately does not signal the block builder. -/
def BlockAdapter.accept (a : BlockAdapter) (vm : VM) : VM :=
  { vm with lastAccepted := a.id, preferred := a.id }

/-- `BlockAdapter.Reject`: logging only. -/
def BlockAdapter.reject (_a : BlockAdapter) (vm : VM) : VM := vm

/-- Consensus decisions leave the engine alone. -/
@[simp] theorem BlockAdapter.accept_chain (a : BlockAdapter) (vm : VM) :
    (a.accept vm).chain = vm.chain := rfl

/-- `Reject` leaves the engine alone. -/
@[simp] theorem BlockAdapter.reject_chain (a : BlockAdapter) (vm : VM) :
    (a.reject vm).chain = vm.chain := rfl

/-- `SetPreference` leaves the engine alone. -/
@[simp] theorem VM.setPreference_chain (vm : VM) (blockID : ID) :
    (vm.setPreference blockID).2.chain = vm.chain := by
  unfold VM.setPreference; split <;> rfl

/-- `BlockAdapter.Verify`: logging only; validation happened when the block was processed. -/
def BlockAdapter.verify (_a : BlockAdapter) : Except String Unit := .ok ()

/-! ## A genesis VM

The fixed inputs the witnesses and counterexamples run on. -/

/-- A stand-in for `chainhash.DoubleHashH` that tells the headers below apart: the input's
last 32 bytes, reversed. -/
def toyHash (bs : List UInt8) : Hash :=
  ⟨(bs.reverse ++ List.replicate 32 0).take 32, by simp⟩

/-- A header-only block with the given parent and nonce. -/
def headerBlock (prevBlock : Hash) (nonce : UInt32) : MsgBlock :=
  ⟨⟨1, prevBlock, Hash.zero, 0, 0, nonce⟩, []⟩

/-- The genesis block. -/
def genesisBlock : MsgBlock := headerBlock Hash.zero 7

/-- A child of the genesis block. -/
def childA : MsgBlock := headerBlock (blockHash toyHash genesisBlock) 1

/-- A second child of the genesis block, competing with `childA`. -/
def childB : MsgBlock := headerBlock (blockHash toyHash genesisBlock) 2

/-- An initialised VM whose engine holds only the genesis block, preferred and accepted. -/
def genesisVM : VM where
  chain := genesis toyHash .permissive genesisBlock
  hasAdapter := true
  initialized := true
  preferred := hashToID (blockHash toyHash genesisBlock)
  lastAccepted := hashToID (blockHash toyHash genesisBlock)
  miningAddrs := ["miner"]

/-- A template generator whose template is a header-only block on the engine's best tip. -/
def tipGenerator : TemplateGenerator where
  available := true
  decodeAddress := fun _ => some []
  newBlockTemplate := fun c _ => some (headerBlock c.bestHash 5)
  prevBlock_eq := fun _ _ _ h => by cases h; rfl

end BtcVM
