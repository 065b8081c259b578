import BtcVM.Wire.Bytes

/-!
# Variable-length integers and byte strings

`ReadVarInt`/`WriteVarInt` and `readScript`/`WriteVarBytes` of the wire package. The
reader rejects non-canonical encodings (a value that a shorter form could hold), and
`readScript` rejects a length above its `maxAllowed` bound before reading the bytes.

Values are `uint64` in the source; here they are `Nat`, and the round-trip lemmas carry
the bound `val < 2 ^ 64` that the Go type gives for free.
-/

namespace BtcVM.Wire

/-- `WriteVarInt`: one byte below `0xfd`, else a marker and 2, 4 or 8 little-endian bytes. -/
def writeVarInt (val : Nat) : List UInt8 :=
  if val < 0xfd then [UInt8.ofNat val]
  else if val ≤ 0xffff then 0xfd :: leBytes 2 val
  else if val ≤ 0xffffffff then 0xfe :: leBytes 4 val
  else 0xff :: leBytes 8 val

/-- Check that a wide varint could not have been written in fewer bytes. -/
def canonical (min : Nat) (p : Nat × List UInt8) : Option (Nat × List UInt8) :=
  if p.1 < min then none else some p

/-- `ReadVarInt`, with its `errNonCanonicalVarInt` checks. -/
def readVarInt : List UInt8 → Option (Nat × List UInt8)
  | [] => none
  | d :: rest =>
    if d = 0xff then (readLE 8 rest).bind (canonical 0x100000000)
    else if d = 0xfe then (readLE 4 rest).bind (canonical 0x10000)
    else if d = 0xfd then (readLE 2 rest).bind (canonical 0xfd)
    else some (d.toNat, rest)

/-- `UInt8.ofNat` keeps a number below 256. -/
private theorem ofNat_toNat_lt {n : Nat} (h : n < 256) : (UInt8.ofNat n).toNat = n :=
  Nat.mod_eq_of_lt h

/-- A one-byte count is none of the marker bytes `0xfd`, `0xfe`, `0xff`. -/
private theorem ofNat_ne_marker {n : Nat} (h : n < 0xfd) {c : UInt8} (hc : 0xfd ≤ c.toNat) :
    UInt8.ofNat n ≠ c := fun he => by
  have := congrArg UInt8.toNat he
  rw [ofNat_toNat_lt (by omega)] at this
  omega

/-- `readVarInt` reads back what `writeVarInt` wrote, in each of its four widths. -/
theorem readVarInt_append {val : Nat} (rest : List UInt8) (h : val < 2 ^ 64) :
    readVarInt (writeVarInt val ++ rest) = some (val, rest) := by
  unfold writeVarInt
  split_ifs with h1 h2 h3
  · simp [readVarInt, ofNat_ne_marker h1 (c := 0xff) (by decide),
      ofNat_ne_marker h1 (c := 0xfe) (by decide), ofNat_ne_marker h1 (c := 0xfd) (by decide),
      ofNat_toNat_lt (show val < 256 by omega)]
  · simp [readVarInt, readLE_leBytes 2 rest (show val < 256 ^ 2 by omega), canonical,
      show ¬ val < 0xfd by omega]
  · simp [readVarInt, readLE_leBytes 4 rest (show val < 256 ^ 4 by omega), canonical,
      show ¬ val < 0x10000 by omega]
  · simp [readVarInt, readLE_leBytes 8 rest (show val < 256 ^ 8 by omega), canonical,
      show ¬ val < 0x100000000 by omega]

/-- A leading zero byte reads as the count zero; `BtcDecode` takes it as the segwit marker. -/
theorem readVarInt_zero (rest : List UInt8) : readVarInt (0 :: rest) = some (0, rest) := rfl

/-- The canonical-form check keeps the rest it is given. -/
private theorem canonical_suffix {min : Nat} {p : Nat × List UInt8} {v : Nat}
    {r bs : List UInt8} (hp : p.2 <:+ bs) (h : canonical min p = some (v, r)) : r <:+ bs := by
  unfold canonical at h
  split at h
  · cases h
  · cases h; exact hp

/-- `readVarInt` leaves a suffix of its input. -/
theorem readVarInt_suffix {bs r : List UInt8} {v : Nat}
    (h : readVarInt bs = some (v, r)) : r <:+ bs := by
  match bs, h with
  | d :: rest, h =>
    have wide : ∀ {w min}, (readLE w rest).bind (canonical min) = some (v, r) → r <:+ d :: rest :=
      fun h => by
        obtain ⟨⟨v', r'⟩, h1, h2⟩ := Option.bind_eq_some.mp h
        exact (canonical_suffix (readLE_suffix h1) h2).trans (List.suffix_cons d rest)
    simp only [readVarInt] at h
    split_ifs at h
    · exact wide h
    · exact wide h
    · exact wide h
    · exact (Prod.mk.inj (Option.some.inj h)).2 ▸ List.suffix_cons d rest

/-- `readVarInt` ignores bytes appended to its input. -/
theorem readVarInt_prefixStable : PrefixStable readVarInt := fun {bs r v} t h => by
  match bs, h with
  | d :: rest, h =>
    have wide : ∀ {w min}, (readLE w rest).bind (canonical min) = some (v, r) →
        (readLE w (rest ++ t)).bind (canonical min) = some (v, r ++ t) := fun h => by
      obtain ⟨⟨v', r'⟩, h1, h2⟩ := Option.bind_eq_some.mp h
      unfold canonical at h2
      split at h2
      · cases h2
      · cases h2
        simp only [readLE_prefixStable _ t h1, Option.some_bind, canonical, if_neg ‹_›]
    simp only [List.cons_append, readVarInt] at h ⊢
    split_ifs at h ⊢
    · exact wide h
    · exact wide h
    · exact wide h
    · cases h; rfl

/-! ## Length-prefixed byte strings -/

/-- `WriteVarBytes`: the length as a varint, then the bytes. -/
def writeVarBytes (bs : List UInt8) : List UInt8 := writeVarInt bs.length ++ bs

/-- `readScript`: a varint length, rejected above `maxAllowed`, then that many bytes. -/
def readScript (maxAllowed : Nat) (bs : List UInt8) : Option (List UInt8 × List UInt8) :=
  (readVarInt bs).bind fun (count, rest) =>
    if count > maxAllowed then none else readBytes count rest

/-- `readScript` reads back what `writeVarBytes` wrote, when the length is within its bound. -/
theorem readScript_append {maxAllowed : Nat} {bs : List UInt8} (rest : List UInt8)
    (hmax : bs.length ≤ maxAllowed) (h64 : bs.length < 2 ^ 64) :
    readScript maxAllowed (writeVarBytes bs ++ rest) = some (bs, rest) := by
  simp [readScript, writeVarBytes, readVarInt_append _ h64, not_lt.mpr hmax,
    readBytes_append rest rfl]

/-- `readScript` leaves a suffix of its input. -/
theorem readScript_suffix {maxAllowed : Nat} {bs v r : List UInt8}
    (h : readScript maxAllowed bs = some (v, r)) : r <:+ bs := by
  obtain ⟨⟨c, r'⟩, h1, h2⟩ := Option.bind_eq_some.mp h
  simp only at h2
  split at h2
  · cases h2
  · exact (readBytes_suffix h2).trans (readVarInt_suffix h1)

/-- `readScript` ignores bytes appended to its input. -/
theorem readScript_prefixStable (maxAllowed : Nat) : PrefixStable (readScript maxAllowed) :=
  fun t h => by
    obtain ⟨⟨c, r'⟩, h1, h2⟩ := Option.bind_eq_some.mp h
    simp only at h2
    split at h2
    · cases h2
    · simp only [readScript, readVarInt_prefixStable t h1, Option.some_bind, if_neg ‹_›]
      exact readBytes_prefixStable c t h2

end BtcVM.Wire
