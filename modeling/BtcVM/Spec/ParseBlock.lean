import BtcVM.VM.Basic

/-!
# Parsing blocks

`VM.ParseBlock` decodes a prefix of its input, hands the block to the engine's `ProcessBlock`
and wraps the block the engine then stores. The adapter's ID is therefore the hash of the
header the input encodes, and its bytes are the stored block's serialisation
(`parseBlock_bytes_id`); they need not be the input, since bytes after the block are read
past and dropped (`parseBlock_trailing_byte`).

The engine rejects a block it already has, naming its hash. The block branch of
`UnifiedBTCSet.Add` asks `HaveBlock` before `ProcessBlock`; `NewBlockAdapterFromBytes` does
not, so parsing the bytes of a stored block fails, and in particular a second parse of bytes
that parsed once fails (`parseBlock_twice`).
-/

namespace BtcVM

open Wire Chain

section Parse

variable (doubleHashH : List UInt8 → Hash)

/-- Normalising the header does not change the block hash. -/
@[simp] theorem blockHash_normalize_block (b : MsgBlock) :
    blockHash doubleHashH b.normalize = blockHash doubleHashH b :=
  blockHash_normalize doubleHashH b.header

/-- Everything a successful `ParseBlock` did: the input decoded to a block that the engine
stored outside the orphan pool, and the adapter wraps it at the height the engine gave it. -/
theorem parseBlock_eq_ok {vm vm' : VM} {bytes : List UInt8} {a : BlockAdapter}
    (h : vm.parseBlock doubleHashH bytes = (.ok a, vm')) :
    vm.initialized = true ∧ ∃ blk rest r c, MsgBlock.btcDecode bytes = some (blk, rest) ∧
      processBlock doubleHashH vm.chain blk = (.ok r, c) ∧ ∃ height : Nat,
      lookupNode doubleHashH c (blockHash doubleHashH blk) = some ⟨blk, height⟩ ∧
      a = newBlockAdapter doubleHashH blk height ∧ vm' = { vm with chain := c } := by
  unfold VM.parseBlock newBlockAdapterFromBytes at h
  by_cases hi : vm.initialized
  swap
  · simp [hi] at h
  have hni : (!vm.initialized) = false := by simp [hi]
  simp only [hni, Bool.false_eq_true, if_false] at h
  refine ⟨hi, ?_⟩
  rcases hd : MsgBlock.btcDecode bytes with _ | ⟨blk, rest⟩
  · simp [hd] at h
  rcases hp : processBlock doubleHashH vm.chain blk with ⟨_ | r, c⟩
  · simp [hd, hp] at h
  refine ⟨blk, rest, r, c, rfl, hp, ?_⟩
  cases ho : r.isOrphan
  · obtain ⟨height, hl, -⟩ := processBlock_lookupNode doubleHashH hp ho
    simp only [hd, hp, blockByHashAny, hl, Prod.mk.injEq, Except.ok.injEq] at h
    exact ⟨height, hl, h.1.symm, h.2.symm⟩
  · simp [hd, hp, blockByHashAny, processBlock_orphan_lookupNode doubleHashH hp ho] at h

/-- `ParseBlock` on bytes whose block the engine rejects fails with the engine's error, under
the two prefixes its callers add, and keeps what the engine did. -/
theorem parseBlock_of_processBlock_error {vm : VM} {bytes rest : List UInt8} {blk : MsgBlock}
    {e : String} {c : BlockChain} (hi : vm.initialized = true)
    (hd : MsgBlock.btcDecode bytes = some (blk, rest))
    (hp : processBlock doubleHashH vm.chain blk = (.error e, c)) :
    vm.parseBlock doubleHashH bytes =
      (.error ("failed to parse block: failed to process block: " ++ e), { vm with chain := c }) := by
  simp only [VM.parseBlock, newBlockAdapterFromBytes, hi, hd, hp, Bool.not_true,
    Bool.false_eq_true, if_false, toString, String.append_empty, ← String.append_assoc]
  rfl

/-- `ParseBlock` on bytes that decode to a block the engine already stores fails with the
engine's duplicate error, naming the block's hash, and leaves the state as it was. -/
theorem parseBlock_of_lookupNode {vm : VM} {bytes : List UInt8} {blk : MsgBlock}
    {rest : List UInt8} {n : BlockNode} (hi : vm.initialized = true)
    (hd : MsgBlock.btcDecode bytes = some (blk, rest))
    (hn : lookupNode doubleHashH vm.chain (blockHash doubleHashH blk) = some n) :
    vm.parseBlock doubleHashH bytes =
      (.error ("failed to parse block: failed to process block: already have block " ++
        Hash.toHex (blockHash doubleHashH blk)), vm) := by
  rw [parseBlock_of_processBlock_error doubleHashH hi hd (processBlock_of_lookupNode doubleHashH hn),
    ← String.append_assoc]
  rfl

/-- In particular `ParseBlock` fails on the encoding of a well-formed block the engine stores. -/
theorem parseBlock_btcEncode_of_lookupNode {vm : VM} {b : MsgBlock} {n : BlockNode}
    (hi : vm.initialized = true) (hb : b.WellFormed)
    (hn : lookupNode doubleHashH vm.chain (blockHash doubleHashH b) = some n) :
    vm.parseBlock doubleHashH b.btcEncode =
      (.error ("failed to parse block: failed to process block: already have block " ++
        Hash.toHex (blockHash doubleHashH b)), vm) := by
  have hd := btcDecode_btcEncode_block b [] hb
  rw [List.append_nil] at hd
  have h := parseBlock_of_lookupNode doubleHashH hi hd (by rwa [blockHash_normalize_block])
  rwa [blockHash_normalize_block] at h

/-- `ParseBlock` succeeds on the encoding of a well-formed block, followed by any bytes, when
the engine has the block's parent and not the block, the block passes the engine's checks, and
no orphan waits on it: the adapter wraps the decoded block one above its parent. -/
theorem parseBlock_btcEncode_append (vm : VM) (b : MsgBlock) (rest : List UInt8)
    (parent : BlockNode) (hi : vm.initialized = true) (hb : b.WellFormed)
    (hnew : haveBlock doubleHashH vm.chain (blockHash doubleHashH b) = .ok false)
    (hp : lookupNode doubleHashH vm.chain b.header.prevBlock = some parent)
    (hs : vm.chain.backend.sanity b.normalize = none)
    (hc : vm.chain.backend.context parent b.normalize = none)
    (hconn : vm.chain.backend.connect ⟨b.normalize, parent.height + 1⟩ = none)
    (hwait : ∀ o ∈ vm.chain.orphans, o.header.prevBlock ≠ blockHash doubleHashH b) :
    ∃ c : BlockChain, vm.parseBlock doubleHashH (b.btcEncode ++ rest) =
      (.ok (newBlockAdapter doubleHashH b.normalize (parent.height + 1 : Nat)),
        { vm with chain := c }) := by
  rw [← blockHash_normalize_block] at hnew hwait
  have hl := processBlock_stores doubleHashH hnew hp hs hc
  obtain ⟨main, hr⟩ := processBlock_of_parent doubleHashH hnew hp hs hc hconn hwait
  rcases hpr : processBlock doubleHashH vm.chain b.normalize with ⟨_ | r, c⟩
  · rw [hpr] at hr; cases hr
  rw [hpr] at hl
  refine ⟨c, ?_⟩
  simp only [VM.parseBlock, hi, Bool.not_true, Bool.false_eq_true, if_false]
  rw [newBlockAdapterFromBytes, btcDecode_btcEncode_block b rest hb]
  simp only [hpr, blockByHashAny, hl, hi]

end Parse

/-! ## A child of the genesis block -/

/-- The genesis VM parses the encoding of `childA`, followed by any bytes, into the adapter of
`childA` at height one. -/
theorem genesisVM_parseBlock_childA (rest : List UInt8) :
    ∃ c : BlockChain, genesisVM.parseBlock toyHash (childA.btcEncode ++ rest) =
      (.ok (newBlockAdapter toyHash childA 1), { genesisVM with chain := c }) := by
  have h := parseBlock_btcEncode_append toyHash genesisVM childA rest ⟨genesisBlock, 0⟩ rfl
    (by decide) rfl (by decide) rfl rfl rfl (fun _ ho => by cases ho)
  rwa [show childA.normalize = childA by decide] at h

/-! ## What the adapter holds -/

section Bytes

variable (doubleHashH : List UInt8 → Hash)

/-- The adapter `ParseBlock` returns has the ID of the header its input encodes and the
bytes of the block decoded from a prefix of the input. -/
theorem parseBlock_bytes_id (vm vm' : VM) (bytes : List UInt8) (a : BlockAdapter)
    (h : vm.parseBlock doubleHashH bytes = (.ok a, vm')) :
    ∃ blk rest, MsgBlock.btcDecode bytes = some (blk, rest) ∧ rest <:+ bytes ∧
      a.id = hashToID (blockHash doubleHashH blk) ∧ a.bytes = blk.btcEncode := by
  obtain ⟨-, blk, rest, -, -, hd, -, -, -, rfl, -⟩ := parseBlock_eq_ok doubleHashH h
  exact ⟨blk, rest, hd, btcDecode_block_suffix hd, rfl, rfl⟩

end Bytes

/-- `parseBlock_bytes_id` at the encoding of `childA` followed by one byte. -/
theorem childA_trailing_byte_bytes_id :
    ∃ vm', genesisVM.parseBlock toyHash (childA.btcEncode ++ [0]) =
        (.ok (newBlockAdapter toyHash childA 1), vm') ∧
      ∃ blk rest, MsgBlock.btcDecode (childA.btcEncode ++ [0]) = some (blk, rest) ∧
        rest <:+ childA.btcEncode ++ [0] ∧
        (newBlockAdapter toyHash childA 1).id = hashToID (blockHash toyHash blk) ∧
        (newBlockAdapter toyHash childA 1).bytes = blk.btcEncode :=
  let ⟨_, h⟩ := genesisVM_parseBlock_childA [0]
  ⟨_, h, parseBlock_bytes_id toyHash _ _ _ _ h⟩

/-- The adapter's bytes are not the input: the genesis VM parses the encoding of `childA`
followed by one more byte, and the adapter holds the encoding alone. -/
theorem parseBlock_trailing_byte :
    ∃ vm', genesisVM.parseBlock toyHash (childA.btcEncode ++ [0]) =
        (.ok (newBlockAdapter toyHash childA 1), vm') ∧
      (newBlockAdapter toyHash childA 1).bytes ≠ childA.btcEncode ++ [0] :=
  let ⟨_, h⟩ := genesisVM_parseBlock_childA [0]
  ⟨_, h, by simp [newBlockAdapter]⟩

/-! ## Parsing twice -/

section Twice

variable (doubleHashH : List UInt8 → Hash)

/-- After `ParseBlock` succeeds on some bytes, parsing the same bytes again fails: the engine
now stores the block and rejects it as a duplicate, naming the adapter's hash. -/
theorem parseBlock_twice (vm vm' : VM) (bytes : List UInt8) (a : BlockAdapter)
    (h : vm.parseBlock doubleHashH bytes = (.ok a, vm')) :
    vm'.parseBlock doubleHashH bytes =
      (.error ("failed to parse block: failed to process block: already have block " ++
        Hash.toHex (idToHash a.id)), vm') := by
  obtain ⟨hi, blk, rest, r, c, hd, -, height, hl, rfl, rfl⟩ := parseBlock_eq_ok doubleHashH h
  exact parseBlock_of_lookupNode doubleHashH hi hd hl

end Twice

/-- `parseBlock_twice` at the encoding of `childA`. -/
theorem childA_parsed_twice :
    ∃ vm', genesisVM.parseBlock toyHash childA.btcEncode =
        (.ok (newBlockAdapter toyHash childA 1), vm') ∧
      vm'.parseBlock toyHash childA.btcEncode =
        (.error ("failed to parse block: failed to process block: already have block " ++
          Hash.toHex (idToHash (newBlockAdapter toyHash childA 1).id)), vm') := by
  obtain ⟨_, h⟩ := genesisVM_parseBlock_childA []
  rw [List.append_nil] at h
  exact ⟨_, h, parseBlock_twice toyHash _ _ _ _ h⟩

end BtcVM
