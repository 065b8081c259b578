import BtcVM.Spec.Preference

/-!
# The engine's store across VM operations

The consensus engine calls the VM's block operations in any order. Each one leaves the
engine's block index as it was or advances it by one `ProcessBlock`, which, successful or
not, only adds blocks, and none touches `initialized`; so every state extends every earlier one
(`VM.Extends`, `extends_run`).

A stored block is therefore a duplicate for the engine from then on. After `ParseBlock` has
accepted some bytes, or `BuildBlock` has produced a block, `ParseBlock` of those bytes fails
in every later state, whatever operations run in between (`parseBlock_run_of_parsed`,
`parseBlock_run_of_built`).
-/

namespace BtcVM

open Wire Chain

/-- A VM operation that can change the state. The read-only ones (`GetBlock`, `LastAccepted`,
`GetBlockIDAtHeight`, `Verify`) leave it as it is. -/
inductive VMOp
  | buildBlock
  | parseBlock (bytes : List UInt8)
  | setPreference (blockID : ID)
  | accept (a : BlockAdapter)
  | reject (a : BlockAdapter)

section Run

variable (doubleHashH : List UInt8 → Hash) (gen : TemplateGenerator)

/-- The state after one operation, whatever it returned. -/
def VM.exec (vm : VM) : VMOp → VM
  | .buildBlock => (vm.buildBlock doubleHashH gen).2
  | .parseBlock bytes => (vm.parseBlock doubleHashH bytes).2
  | .setPreference blockID => (vm.setPreference blockID).2
  | .accept a => a.accept vm
  | .reject a => a.reject vm

/-- The state after the operations in turn. -/
def VM.run : VM → List VMOp → VM
  | vm, [] => vm
  | vm, op :: ops => (vm.exec doubleHashH gen op).run ops

/-- `vm'` has the initialisation flag of `vm`, and its engine stores every block that of `vm`
stores, at the same node. -/
structure VM.Extends (vm vm' : VM) : Prop where
  initialized : vm'.initialized = vm.initialized
  stored : ∀ {h n}, lookupNode doubleHashH vm.chain h = some n →
    lookupNode doubleHashH vm'.chain h = some n

/-- A VM extends itself. -/
theorem VM.Extends.refl (vm : VM) : vm.Extends doubleHashH vm := ⟨rfl, id⟩

/-- `VM.Extends` composes. -/
theorem VM.Extends.trans {vm₁ vm₂ vm₃ : VM} (h₁ : vm₁.Extends doubleHashH vm₂)
    (h₂ : vm₂.Extends doubleHashH vm₃) : vm₁.Extends doubleHashH vm₃ :=
  ⟨h₂.initialized.trans h₁.initialized, fun h => h₂.stored (h₁.stored h)⟩

/-- One `processBlock` on the VM's engine, whatever it returned. -/
theorem extends_processBlock {vm : VM} {b : MsgBlock} {x : Except String ProcessResult}
    {c : BlockChain} (hp : processBlock doubleHashH vm.chain b = (x, c)) :
    vm.Extends doubleHashH { vm with chain := c } :=
  ⟨rfl, fun hn => by simpa [hp] using lookupNode_processBlock doubleHashH (b := b) hn⟩

/-! ## One operation -/

theorem newBlockAdapterFromBytes_extends (vm : VM) (bytes : List UInt8) :
    vm.Extends doubleHashH (newBlockAdapterFromBytes doubleHashH vm bytes).2 := by
  unfold newBlockAdapterFromBytes
  split
  · exact .refl _ _
  · split
    · exact extends_processBlock doubleHashH ‹_›
    · rename_i hp
      dsimp only
      split <;> exact extends_processBlock doubleHashH hp

/-- `ParseBlock` keeps every stored block and the initialisation flag. -/
theorem parseBlock_extends (vm : VM) (bytes : List UInt8) :
    vm.Extends doubleHashH (vm.parseBlock doubleHashH bytes).2 := by
  have hx := newBlockAdapterFromBytes_extends doubleHashH vm bytes
  unfold VM.parseBlock
  split
  · exact .refl _ _
  · split <;> rename_i he <;> rwa [he] at hx

/-- `BuildBlock` keeps every stored block and the initialisation flag. -/
theorem buildBlock_extends (vm : VM) : vm.Extends doubleHashH (vm.buildBlock doubleHashH gen).2 := by
  unfold VM.buildBlock VM.buildOnTemplate
  repeat' split
  all_goals try (dsimp only; repeat' split)
  all_goals first
    | exact .refl _ _
    | exact extends_processBlock doubleHashH ‹processBlock doubleHashH _ _ = _›

/-- Every VM operation keeps every stored block and the initialisation flag. -/
theorem exec_extends (vm : VM) (op : VMOp) :
    vm.Extends doubleHashH (vm.exec doubleHashH gen op) := by
  cases op with
  | buildBlock => exact buildBlock_extends doubleHashH gen vm
  | parseBlock bytes => exact parseBlock_extends doubleHashH vm bytes
  | setPreference blockID =>
    show vm.Extends doubleHashH (vm.setPreference blockID).2
    unfold VM.setPreference
    split <;> exact ⟨rfl, id⟩
  | accept a => exact ⟨rfl, id⟩
  | reject a => exact .refl _ _

/-! ## Runs -/

/-- Every state of a run extends its first. -/
theorem extends_run (vm : VM) (ops : List VMOp) :
    vm.Extends doubleHashH (vm.run doubleHashH gen ops) := by
  induction ops generalizing vm with
  | nil => exact .refl _ _
  | cons op ops ih => exact VM.Extends.trans doubleHashH (exec_extends doubleHashH gen vm op) (ih _)

/-- Once `ParseBlock` has accepted some bytes, parsing them fails in every later state. -/
theorem parseBlock_run_of_parsed {vm vm' : VM} {bytes : List UInt8} {a : BlockAdapter}
    (h : vm.parseBlock doubleHashH bytes = (.ok a, vm')) (ops : List VMOp) :
    (vm'.run doubleHashH gen ops).parseBlock doubleHashH bytes =
      (.error ("failed to parse block: failed to process block: already have block " ++
        Hash.toHex (idToHash a.id)), vm'.run doubleHashH gen ops) := by
  obtain ⟨hi, blk, rest, r, c, hd, -, height, hl, rfl, rfl⟩ := parseBlock_eq_ok doubleHashH h
  have hx := extends_run doubleHashH gen { vm with chain := c } ops
  exact parseBlock_of_lookupNode doubleHashH (hx.initialized.trans hi) hd (hx.stored hl)

/-- Once `BuildBlock` has returned a block within the decoder's bounds, `ParseBlock` of the
block's bytes fails in every later state. -/
theorem parseBlock_run_of_built {vm vm' : VM} {a : BlockAdapter}
    (h : vm.buildBlock doubleHashH gen = (.ok a, vm')) (hi : vm.initialized = true)
    (hb : a.block.WellFormed) (ops : List VMOp) :
    (vm'.run doubleHashH gen ops).parseBlock doubleHashH a.bytes =
      (.error ("failed to parse block: failed to process block: already have block " ++
        Hash.toHex (idToHash a.id)), vm'.run doubleHashH gen ops) := by
  obtain ⟨_, _, r, c, -, hp, ho, rfl, rfl⟩ := buildBlock_eq_ok doubleHashH h
  obtain ⟨height, hl, -⟩ := processBlock_lookupNode doubleHashH hp ho
  have hx := extends_run doubleHashH gen { vm with chain := c } ops
  exact parseBlock_btcEncode_of_lookupNode doubleHashH (hx.initialized.trans hi) hb (hx.stored hl)

end Run

/-- `parseBlock_run_of_parsed` for `childA`, parsed by the genesis VM, with a block built and
`childB` parsed after. -/
theorem genesisVM_reparse_childA :
    genesisVM.parseBlock toyHash childA.btcEncode =
        (.ok (newBlockAdapter toyHash childA 1),
          (genesisVM.parseBlock toyHash childA.btcEncode).2) ∧
      ((genesisVM.parseBlock toyHash childA.btcEncode).2.run toyHash tipGenerator
          [.buildBlock, .parseBlock childB.btcEncode]).parseBlock toyHash childA.btcEncode =
        (.error ("failed to parse block: failed to process block: already have block " ++
          Hash.toHex (idToHash (newBlockAdapter toyHash childA 1).id)),
          (genesisVM.parseBlock toyHash childA.btcEncode).2.run toyHash tipGenerator
            [.buildBlock, .parseBlock childB.btcEncode]) :=
  have h : genesisVM.parseBlock toyHash childA.btcEncode =
      (.ok (newBlockAdapter toyHash childA 1),
        (genesisVM.parseBlock toyHash childA.btcEncode).2) :=
    Prod.ext rfl rfl
  ⟨h, parseBlock_run_of_parsed toyHash tipGenerator h _⟩

/-- The block the genesis VM builds with `tipGenerator`: a header-only child of the genesis
block. -/
def builtChild : MsgBlock := headerBlock (blockHash toyHash genesisBlock) 0

/-- `parseBlock_run_of_built` for the block the genesis VM builds, with `childA` parsed
after. -/
theorem genesisVM_parse_built :
    genesisVM.buildBlock toyHash tipGenerator =
        (.ok (newBlockAdapter toyHash builtChild 1),
          (genesisVM.buildBlock toyHash tipGenerator).2) ∧
      genesisVM.initialized = true ∧
      (newBlockAdapter toyHash builtChild 1).block.WellFormed ∧
      ((genesisVM.buildBlock toyHash tipGenerator).2.run toyHash tipGenerator
          [.parseBlock childA.btcEncode]).parseBlock toyHash
          (newBlockAdapter toyHash builtChild 1).bytes =
        (.error ("failed to parse block: failed to process block: already have block " ++
          Hash.toHex (idToHash (newBlockAdapter toyHash builtChild 1).id)),
          (genesisVM.buildBlock toyHash tipGenerator).2.run toyHash tipGenerator
            [.parseBlock childA.btcEncode]) :=
  have h : genesisVM.buildBlock toyHash tipGenerator =
      (.ok (newBlockAdapter toyHash builtChild 1),
        (genesisVM.buildBlock toyHash tipGenerator).2) :=
    Prod.ext rfl rfl
  have hb : (newBlockAdapter toyHash builtChild 1).block.WellFormed := by
    decide
  ⟨h, rfl, hb, parseBlock_run_of_built toyHash tipGenerator h rfl hb _⟩

end BtcVM
