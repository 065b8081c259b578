import Mathlib.Data.List.Infix
import Mathlib.Tactic.Ring

/-!
# Byte-level primitives of the Bitcoin wire format

The gossip codec (`vm/gossip.go`) and block parsing (`vm/block_adapter.go`) hand their
payloads to the ledger engine's wire package (`btcd/wire`, not under `src/`), which reads
from a `bytes.Reader` and writes to a `bytes.Buffer`. We model a reader as a function from
the remaining input to `Option (value × rest)`, and a writer as the list of bytes it emits.

Every reader here satisfies two laws, proved next to its definition:

* round trip: reading what the matching writer emitted, followed by any `rest`,
  returns the value and exactly `rest` (`read_write` lemmas);
* prefix: a successful read leaves a suffix of its input (`_suffix` lemmas);
* prefix stability: bytes appended to a successful read's input are left unread, after the
  rest it returned, and change nothing else (`_prefixStable` lemmas).

The last two laws are what make the decoders accept trailing bytes: nothing ever checks that
the rest is empty.
-/

namespace BtcVM

/-- A 32-byte hash (`chainhash.Hash`, a `[32]byte`). -/
structure Hash where
  bytes : List UInt8
  length_eq : bytes.length = 32
  deriving DecidableEq, Repr

/-- A 32-byte consensus identifier (`ids.ID`, also a `[32]byte`). -/
structure ID where
  bytes : List UInt8
  length_eq : bytes.length = 32
  deriving DecidableEq, Repr

/-- The all-zero hash `chainhash.Hash{}`. -/
def Hash.zero : Hash := ⟨List.replicate 32 0, by simp⟩

/-- `chainhash.Hash.String`: the bytes in reverse order, each as two lowercase hex digits. -/
def Hash.toHex (h : Hash) : String :=
  String.join <| h.bytes.reverse.map fun b =>
    String.mk [(b.toNat / 16).digitChar, (b.toNat % 16).digitChar]

/-- `ids.Empty`. -/
def ID.empty : ID := ⟨List.replicate 32 0, by simp⟩

/-- `hashToID` (`vm/gossip_wrapper.go`): the byte-for-byte conversion `ids.ID(*hash)`. -/
def hashToID (h : Hash) : ID := ⟨h.bytes, h.length_eq⟩

/-- `idToHash` (`vm/gossip.go`): `chainhash.NewHash(id[:])`, which cannot fail on 32 bytes. -/
def idToHash (id : ID) : Hash := ⟨id.bytes, id.length_eq⟩

/-- `idToHash` undoes `hashToID`. -/
@[simp] theorem idToHash_hashToID (h : Hash) : idToHash (hashToID h) = h := rfl

/-- `hashToID` undoes `idToHash`. -/
@[simp] theorem hashToID_idToHash (id : ID) : hashToID (idToHash id) = id := rfl

namespace Wire

/-- A reader that looks only at the bytes it consumes: whatever is appended to its input
is left unread, after the rest it returned. -/
def PrefixStable {α : Type} (read : List UInt8 → Option (α × List UInt8)) : Prop :=
  ∀ {bs r : List UInt8} {v : α} (t : List UInt8),
    read bs = some (v, r) → read (bs ++ t) = some (v, r ++ t)

/-! ## Fixed-width fields -/

/-- Read exactly `n` bytes (`io.ReadFull` on an `n`-byte buffer). -/
def readBytes (n : Nat) (bs : List UInt8) : Option (List UInt8 × List UInt8) :=
  if n ≤ bs.length then some (bs.take n, bs.drop n) else none

/-- `readBytes n` returns the `n` bytes written and leaves the rest. -/
theorem readBytes_append {n : Nat} {pre : List UInt8} (rest : List UInt8)
    (h : pre.length = n) : readBytes n (pre ++ rest) = some (pre, rest) := by
  subst h; simp [readBytes]

/-- `readBytes` leaves a suffix of its input. -/
theorem readBytes_suffix {n : Nat} {bs v r : List UInt8}
    (h : readBytes n bs = some (v, r)) : r <:+ bs := by
  simp only [readBytes] at h
  split at h
  · cases h; exact List.drop_suffix _ _
  · cases h

/-- `readBytes` ignores bytes appended to its input. -/
theorem readBytes_prefixStable (n : Nat) : PrefixStable (readBytes n) := fun t h => by
  simp only [readBytes] at h ⊢
  split at h
  · cases h
    rw [if_pos (by simp; omega), List.take_append_of_le_length ‹_›,
      List.drop_append_of_le_length ‹_›]
  · cases h

/-- The `w` little-endian bytes of `n` (`binary.LittleEndian.PutUintN`). -/
def leBytes : Nat → Nat → List UInt8
  | 0, _ => []
  | w + 1, n => UInt8.ofNat (n % 256) :: leBytes w (n / 256)

/-- `leBytes w n` has `w` bytes. -/
@[simp] theorem length_leBytes (w n : Nat) : (leBytes w n).length = w := by
  induction w generalizing n <;> simp [leBytes, *]

/-- Read a `w`-byte little-endian number (`binary.LittleEndian.UintN`). -/
def readLE : Nat → List UInt8 → Option (Nat × List UInt8)
  | 0, bs => some (0, bs)
  | _ + 1, [] => none
  | w + 1, b :: bs => (readLE w bs).map fun (v, r) => (b.toNat + 256 * v, r)

/-- `readLE w` reads back a number below `256 ^ w` that `leBytes w` wrote. -/
theorem readLE_leBytes (w : Nat) {n : Nat} (rest : List UInt8) (h : n < 256 ^ w) :
    readLE w (leBytes w n ++ rest) = some (n, rest) := by
  induction w generalizing n with
  | zero => simp_all [leBytes, readLE]
  | succ w ih =>
    have hn : n / 256 < 256 ^ w := by rw [Nat.div_lt_iff_lt_mul (by norm_num)]; rwa [← pow_succ]
    have hb : (UInt8.ofNat (n % 256)).toNat = n % 256 :=
      Nat.mod_eq_of_lt (Nat.mod_lt _ (by norm_num))
    show (readLE w (leBytes w (n / 256) ++ rest)).map _ = _
    rw [ih hn]
    simp [hb, Nat.mod_add_div]

/-- `readLE` leaves a suffix of its input. -/
theorem readLE_suffix {w : Nat} {bs r : List UInt8} {v : Nat}
    (h : readLE w bs = some (v, r)) : r <:+ bs := by
  induction w generalizing bs v with
  | zero => simp only [readLE, Option.some.injEq, Prod.mk.injEq] at h; rw [h.2]
  | succ w ih =>
    match bs, h with
    | b :: bs, h =>
      simp only [readLE, Option.map_eq_some'] at h
      obtain ⟨⟨v', r'⟩, h', he⟩ := h
      cases he
      exact (ih h').trans (List.suffix_cons b bs)

/-- `readLE` ignores bytes appended to its input. -/
theorem readLE_prefixStable (w : Nat) : PrefixStable (readLE w) := fun {bs _ v} t h => by
  induction w generalizing bs v with
  | zero => simp only [readLE, Option.some.injEq, Prod.mk.injEq] at h ⊢; rw [h.1, h.2]; simp
  | succ w ih =>
    cases bs with
    | nil => cases h
    | cons b bs =>
      simp only [readLE, Option.map_eq_some'] at h
      obtain ⟨⟨v', r'⟩, h', he⟩ := h
      cases he
      show (readLE w (bs ++ t)).map _ = _
      rw [ih h']
      rfl

/-- `binary.LittleEndian.PutUint32`. -/
def putUint32 (v : UInt32) : List UInt8 := leBytes 4 v.toNat

/-- `binary.LittleEndian.Uint32` after a four-byte `io.ReadFull`. -/
def readUint32 (bs : List UInt8) : Option (UInt32 × List UInt8) :=
  (readLE 4 bs).map fun (v, r) => (v.toUInt32, r)

/-- `binary.LittleEndian.PutUint64`. -/
def putUint64 (v : UInt64) : List UInt8 := leBytes 8 v.toNat

/-- `binary.LittleEndian.Uint64` after an eight-byte `io.ReadFull`. -/
def readUint64 (bs : List UInt8) : Option (UInt64 × List UInt8) :=
  (readLE 8 bs).map fun (v, r) => (v.toUInt64, r)

/-- `putUint32` writes four bytes. -/
@[simp] theorem length_putUint32 (v : UInt32) : (putUint32 v).length = 4 := by simp [putUint32]

/-- `readUint32` reads back what `putUint32` wrote. -/
theorem readUint32_append (v : UInt32) (rest : List UInt8) :
    readUint32 (putUint32 v ++ rest) = some (v, rest) := by
  have hv : v.toNat < 256 ^ 4 := v.val.isLt
  have h : v.toNat.toUInt32 = v := UInt32.toNat.inj (UInt32.toNat_ofNat_of_lt hv)
  simp [readUint32, putUint32, readLE_leBytes 4 rest hv, h]

/-- `readUint64` reads back what `putUint64` wrote. -/
theorem readUint64_append (v : UInt64) (rest : List UInt8) :
    readUint64 (putUint64 v ++ rest) = some (v, rest) := by
  have hv : v.toNat < 256 ^ 8 := v.val.isLt
  have h : v.toNat.toUInt64 = v := UInt64.toNat.inj (UInt64.toNat_ofNat_of_lt hv)
  simp [readUint64, putUint64, readLE_leBytes 8 rest hv, h]

/-- `readUint32` leaves a suffix of its input. -/
theorem readUint32_suffix {bs r : List UInt8} {v : UInt32}
    (h : readUint32 bs = some (v, r)) : r <:+ bs := by
  simp only [readUint32, Option.map_eq_some'] at h
  obtain ⟨⟨_, _⟩, h, he⟩ := h
  cases he; exact readLE_suffix h

/-- `readUint64` leaves a suffix of its input. -/
theorem readUint64_suffix {bs r : List UInt8} {v : UInt64}
    (h : readUint64 bs = some (v, r)) : r <:+ bs := by
  simp only [readUint64, Option.map_eq_some'] at h
  obtain ⟨⟨_, _⟩, h, he⟩ := h
  cases he; exact readLE_suffix h

/-- `readUint32` ignores bytes appended to its input. -/
theorem readUint32_prefixStable : PrefixStable readUint32 := fun t h => by
  simp only [readUint32, Option.map_eq_some'] at h ⊢
  obtain ⟨⟨_, _⟩, h, he⟩ := h
  exact ⟨_, readLE_prefixStable 4 t h, by cases he; rfl⟩

/-- `readUint64` ignores bytes appended to its input. -/
theorem readUint64_prefixStable : PrefixStable readUint64 := fun t h => by
  simp only [readUint64, Option.map_eq_some'] at h ⊢
  obtain ⟨⟨_, _⟩, h, he⟩ := h
  exact ⟨_, readLE_prefixStable 8 t h, by cases he; rfl⟩

/-- Read a 32-byte hash (`io.ReadFull(r, hash[:])`). -/
def readHash (bs : List UInt8) : Option (Hash × List UInt8) :=
  if h : 32 ≤ bs.length then
    some (⟨bs.take 32, by simp; omega⟩, bs.drop 32)
  else none

/-- `readHash` reads back a hash's bytes. -/
theorem readHash_append (hash : Hash) (rest : List UInt8) :
    readHash (hash.bytes ++ rest) = some (hash, rest) := by
  have hl := hash.length_eq
  simp [readHash, hl]

/-- `readHash` leaves a suffix of its input. -/
theorem readHash_suffix {bs r : List UInt8} {v : Hash}
    (h : readHash bs = some (v, r)) : r <:+ bs := by
  simp only [readHash] at h
  split at h
  · cases h; exact List.drop_suffix _ _
  · cases h

/-- `readHash` ignores bytes appended to its input. -/
theorem readHash_prefixStable : PrefixStable readHash := fun {bs _ _} t h => by
  simp only [readHash] at h
  split at h
  · cases h
    rename_i hl
    have hl' : 32 ≤ bs.length + t.length := by omega
    simp [readHash, hl', List.take_append_of_le_length hl, List.drop_append_of_le_length hl]
  · cases h

end Wire

end BtcVM
