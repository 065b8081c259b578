import BtcVM.Wire.VarInt

/-!
# Transactions on the wire

`MsgTx` with its witness-encoding `BtcEncode`/`BtcDecode`. The encoder writes the segwit
marker and flag (`0x00 0x01`) only when some input carries witness data; the decoder takes
an input count of zero as that marker. A transaction with no inputs therefore does not
round-trip, which is why the codec theorems assume at least one input.

The decoder also bounds every count and every script length before reading it. These
bounds are gathered in `MsgTx.WithinLimits`.
-/

namespace BtcVM.Wire

/-- `MaxMessagePayload`: 32 MiB, the bound the input and output counts are derived from. -/
def maxMessagePayload : Nat := 1024 * 1024 * 32

/-- The bound btcd v0.25's decoder puts on a signature script and on a public-key script:
4,000,000 bytes, the largest block's weight. -/
def maxScriptSize : Nat := 4000000

/-- `maxTxInPerMessage = MaxMessagePayload / minTxInPayload + 1`, with `minTxInPayload = 41`. -/
def maxTxInPerMessage : Nat := maxMessagePayload / 41 + 1

/-- `maxTxOutPerMessage = MaxMessagePayload / MinTxOutPayload + 1`, with `MinTxOutPayload = 9`. -/
def maxTxOutPerMessage : Nat := maxMessagePayload / 9 + 1

/-- `maxWitnessItemsPerInput`. -/
def maxWitnessItemsPerInput : Nat := 4000000

/-- `maxWitnessItemSize`. -/
def maxWitnessItemSize : Nat := 4000000

/-- `OutPoint`: the previous transaction's hash and output index. -/
structure OutPoint where
  hash : Hash
  index : UInt32
  deriving DecidableEq, Repr

/-- `TxIn`. -/
structure TxIn where
  previousOutPoint : OutPoint
  signatureScript : List UInt8
  witness : List (List UInt8)
  sequence : UInt32
  deriving DecidableEq, Repr

/-- `TxOut`; `value` holds the bits of the `int64` amount. -/
structure TxOut where
  value : UInt64
  pkScript : List UInt8
  deriving DecidableEq, Repr

/-- `MsgTx`; `version` holds the bits of the `int32` version. -/
structure MsgTx where
  version : UInt32
  txIn : List TxIn
  txOut : List TxOut
  lockTime : UInt32
  deriving DecidableEq, Repr

/-! ## Encoding -/

/-- `MsgTx.HasWitness`: some input has a non-empty witness stack. -/
def MsgTx.hasWitness (tx : MsgTx) : Bool := tx.txIn.any fun ti => !ti.witness.isEmpty

/-- `writeTxIn`: outpoint, signature script, sequence. -/
def writeTxIn (ti : TxIn) : List UInt8 :=
  ti.previousOutPoint.hash.bytes ++ putUint32 ti.previousOutPoint.index ++
    writeVarBytes ti.signatureScript ++ putUint32 ti.sequence

/-- `WriteTxOut`: value, public-key script. -/
def writeTxOut (txOut : TxOut) : List UInt8 :=
  putUint64 txOut.value ++ writeVarBytes txOut.pkScript

/-- `writeTxWitness`: the number of stack items, then each item as var-bytes. -/
def writeTxWitness (wit : List (List UInt8)) : List UInt8 :=
  writeVarInt wit.length ++ wit.flatMap writeVarBytes

/-- `MsgTx.btcEncode` with `doWitness` fixed by the caller. -/
def MsgTx.encode (tx : MsgTx) (doWitness : Bool) : List UInt8 :=
  putUint32 tx.version ++ (if doWitness then [0x00, 0x01] else []) ++
    writeVarInt tx.txIn.length ++ tx.txIn.flatMap writeTxIn ++
    writeVarInt tx.txOut.length ++ tx.txOut.flatMap writeTxOut ++
    (if doWitness then tx.txIn.flatMap fun ti => writeTxWitness ti.witness else []) ++
    putUint32 tx.lockTime

/-- Modelled from the spec: `MsgTx.BtcEncode(w, 0, WitnessEncoding)` of the ledger engine's
wire package (not under `src/`); the witness form exactly when `HasWitness`. -/
def MsgTx.btcEncode (tx : MsgTx) : List UInt8 := tx.encode tx.hasWitness

/-- `MsgTx.SerializeNoWitness`, whose double hash is `TxHash`. -/
def MsgTx.serializeNoWitness (tx : MsgTx) : List UInt8 := tx.encode false

/-! ## Decoding -/

/-- Read `n` values in sequence. -/
def readN {α : Type} (read : List UInt8 → Option (α × List UInt8)) :
    Nat → List UInt8 → Option (List α × List UInt8)
  | 0, bs => some ([], bs)
  | n + 1, bs => do
    let (a, bs) ← read bs
    let (as, bs) ← readN read n bs
    some (a :: as, bs)

/-- `readTxIn`; the witness is filled in later by `readWitnesses`. -/
def readTxIn (bs : List UInt8) : Option (TxIn × List UInt8) := do
  let (hash, bs) ← readHash bs
  let (index, bs) ← readUint32 bs
  let (script, bs) ← readScript maxScriptSize bs
  let (sequence, bs) ← readUint32 bs
  some ({ previousOutPoint := ⟨hash, index⟩, signatureScript := script, witness := [],
          sequence }, bs)

/-- `readTxOut`. -/
def readTxOut (bs : List UInt8) : Option (TxOut × List UInt8) := do
  let (value, bs) ← readUint64 bs
  let (pkScript, bs) ← readScript maxScriptSize bs
  some ({ value, pkScript }, bs)

/-- One input's witness stack: a bounded item count, then bounded items. -/
def readWitness (bs : List UInt8) : Option (List (List UInt8) × List UInt8) := do
  let (witCount, bs) ← readVarInt bs
  if witCount > maxWitnessItemsPerInput then none else
  readN (readScript maxWitnessItemSize) witCount bs

/-- The witness loop of `BtcDecode`: one stack per input, in input order. -/
def readWitnesses : List TxIn → List UInt8 → Option (List TxIn × List UInt8)
  | [], bs => some ([], bs)
  | ti :: tis, bs => do
    let (wit, bs) ← readWitness bs
    let (tis, bs) ← readWitnesses tis bs
    some ({ ti with witness := wit } :: tis, bs)

/-- The marker check of `BtcDecode`: a zero input count must be followed by the witness flag
`0x01`, and then the real count. Returns the flag byte (zero when absent) and the count. -/
def readFlagAndCount (count : Nat) (bs : List UInt8) : Option ((UInt8 × Nat) × List UInt8) :=
  if count = 0 then
    match bs with
    | [] => none
    | f :: bs =>
      if f ≠ 0x01 then none
      else (readVarInt bs).map fun (count, bs) => ((f, count), bs)
  else some ((0, count), bs)

/-- Modelled from the spec: `MsgTx.BtcDecode(r, 0, WitnessEncoding)` of the ledger engine's
wire package (not under `src/`), returning the unread rest of the input. -/
def MsgTx.btcDecode (bs : List UInt8) : Option (MsgTx × List UInt8) := do
  let (version, bs) ← readUint32 bs
  let (count, bs) ← readVarInt bs
  let ((flag, count), bs) ← readFlagAndCount count bs
  if count > maxTxInPerMessage then none else do
  let (txIn, bs) ← readN readTxIn count bs
  let (outCount, bs) ← readVarInt bs
  if outCount > maxTxOutPerMessage then none else do
  let (txOut, bs) ← readN readTxOut outCount bs
  let (txIn, bs) ← if flag ≠ 0 then readWitnesses txIn bs else some (txIn, bs)
  let (lockTime, bs) ← readUint32 bs
  some ({ version, txIn, txOut, lockTime }, bs)

/-! ## Decoder bounds -/

/-- The bounds `BtcDecode` checks, stated on the value it would produce. -/
structure MsgTx.WithinLimits (tx : MsgTx) : Prop where
  txIn_length : tx.txIn.length ≤ maxTxInPerMessage
  txOut_length : tx.txOut.length ≤ maxTxOutPerMessage
  signatureScript_length : ∀ ti ∈ tx.txIn, ti.signatureScript.length ≤ maxScriptSize
  pkScript_length : ∀ o ∈ tx.txOut, o.pkScript.length ≤ maxScriptSize
  witness_length : ∀ ti ∈ tx.txIn, ti.witness.length ≤ maxWitnessItemsPerInput
  witness_item_length : ∀ ti ∈ tx.txIn, ∀ w ∈ ti.witness, w.length ≤ maxWitnessItemSize

instance (tx : MsgTx) : Decidable tx.WithinLimits :=
  decidable_of_iff (tx.txIn.length ≤ maxTxInPerMessage ∧ tx.txOut.length ≤ maxTxOutPerMessage ∧
      (∀ ti ∈ tx.txIn, ti.signatureScript.length ≤ maxScriptSize) ∧
      (∀ o ∈ tx.txOut, o.pkScript.length ≤ maxScriptSize) ∧
      (∀ ti ∈ tx.txIn, ti.witness.length ≤ maxWitnessItemsPerInput) ∧
      (∀ ti ∈ tx.txIn, ∀ w ∈ ti.witness, w.length ≤ maxWitnessItemSize))
    ⟨fun ⟨a, b, c, d, e, f⟩ => ⟨a, b, c, d, e, f⟩, fun ⟨a, b, c, d, e, f⟩ => ⟨a, b, c, d, e, f⟩⟩

end BtcVM.Wire
