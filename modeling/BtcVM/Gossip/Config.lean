import Mathlib.Algebra.Order.Ring.Rat
import Mathlib.Tactic.NormNum

/-!
# The gossip configuration

`GossipConfig`, `DefaultGossipConfig` and `GossipConfig.Validate` (`vm/gossip_item.go`).
`Initialize` assigns the defaults and validates them before it builds anything, and the
defaults pass (`defaultGossipConfig_validate`), so that failure branch of `Initialize` is never
taken.

`Validate` is a chain of checks, each rejecting with its own error; the model lists them in the
source's order (`validateChecks`) and runs them until the first that rejects
(`firstRejection`). `Validate` accepts exactly the configurations the spec's constraints
allow (`validate_eq_ok_iff`), and reports only the first violated one.

Go's `float64` fields are `GoFloat`s: NaN, the two infinities, and the finite values as
rationals (`0.9`, `0.01`, `0.05` stand for the doubles nearest them, which compare with `0`
and `1` alike). Every comparison with NaN is false, so NaN passes each float check: `Validate`
accepts exactly the valid configurations with any of their float fields, possibly none, set to
NaN. A `time.Duration` is its count of nanoseconds and Go's `int` an integer. How `fmt`
renders a float (`%f`) and a duration (`%s`) are parameters.
-/

namespace BtcVM

/-- A Go `float64` as `Validate` compares it: NaN, the two infinities, and the finite values,
each a rational standing for the double nearest it. -/
inductive GoFloat
  | nan
  | negInf
  | finite (q : ℚ)
  | posInf
  deriving DecidableEq, Repr

namespace GoFloat

/-- Go's `<` on `float64`: false whenever a side is NaN. -/
def lt : GoFloat → GoFloat → Bool
  | finite a, finite b => decide (a < b)
  | negInf, finite _ | negInf, posInf | finite _, posInf => true
  | _, _ => false

/-- Go's `<=` on `float64`: false whenever a side is NaN. -/
def le : GoFloat → GoFloat → Bool
  | finite a, finite b => decide (a ≤ b)
  | negInf, negInf | negInf, finite _ | negInf, posInf | finite _, posInf | posInf, posInf => true
  | _, _ => false

/-- Modelled from the spec: a fraction, a number in `[0,1]`. -/
def IsFraction (x : GoFloat) : Prop := ∃ q, x = finite q ∧ 0 ≤ q ∧ q ≤ 1

/-- Modelled from the spec: a rate, a number in `(0,1)`. -/
def IsRate (x : GoFloat) : Prop := ∃ q, x = finite q ∧ 0 < q ∧ q < 1

/-- The check on a fraction, `x < 0 || x > 1`, passes exactly NaN and the fractions. -/
theorem fractionCheck_eq_false_iff (x : GoFloat) :
    (x.lt (finite 0) || (finite 1).lt x) = false ↔ x = nan ∨ x.IsFraction := by
  cases x <;> simp [lt, not_lt, IsFraction]

/-- The check on a rate, `x <= 0 || x >= 1`, passes exactly NaN and the rates. -/
theorem rateCheck_eq_false_iff (x : GoFloat) :
    (x.le (finite 0) || (finite 1).le x) = false ↔ x = nan ∨ x.IsRate := by
  cases x <;> simp [le, not_le, IsRate]

/-- A value that is NaN or meets `P` is a value meeting `P`, or NaN in its place, given one
value that meets `P`. -/
theorem nan_or_iff {P : GoFloat → Prop} {y₀ : GoFloat} (h₀ : P y₀) (x : GoFloat) :
    (x = nan ∨ P x) ↔ ∃ (y : GoFloat) (b : Bool), P y ∧ x = if b then nan else y := by
  constructor
  · rintro (rfl | h)
    · exact ⟨y₀, true, h₀, rfl⟩
    · exact ⟨x, false, h, rfl⟩
  · rintro ⟨y, _ | _, hy, rfl⟩
    · exact .inr hy
    · exact .inl rfl

end GoFloat

/-- `GossipConfig`. -/
structure GossipConfig where
  pushGossipPercentStake : GoFloat
  pushGossipNumValidators : Int
  pushGossipNumPeers : Int
  pushGossipFrequency : Int
  pullGossipFrequency : Int
  pushRegossipNumValidators : Int
  pushRegossipNumPeers : Int
  regossipFrequency : Int
  bloomFilterSize : Int
  bloomFalsePositiveRate : GoFloat
  bloomResetThreshold : GoFloat
  deriving DecidableEq, Repr

/-- `time.Millisecond`, in nanoseconds. -/
def millisecond : Int := 1000000

/-- `time.Second`, in nanoseconds. -/
def second : Int := 1000000000

/-- `DefaultGossipConfig`. -/
def defaultGossipConfig : GossipConfig where
  pushGossipPercentStake := .finite (9 / 10)
  pushGossipNumValidators := 100
  pushGossipNumPeers := 0
  pushGossipFrequency := 100 * millisecond
  pullGossipFrequency := 1 * second
  pushRegossipNumValidators := 10
  pushRegossipNumPeers := 0
  regossipFrequency := 30 * second
  bloomFilterSize := 8192
  bloomFalsePositiveRate := .finite (1 / 100)
  bloomResetThreshold := .finite (5 / 100)

/-- One check of `Validate`: when it rejects a configuration, and the error it then returns. -/
structure ConfigCheck where
  rejects : GossipConfig → Bool
  message : GossipConfig → String

section Validate

variable (formatFloat : GoFloat → String) (formatDuration : Int → String)

/-- The checks of `GossipConfig.Validate`, in its order. -/
def validateChecks : List ConfigCheck :=
  [⟨fun c => c.pushGossipPercentStake.lt (.finite 0) || (GoFloat.finite 1).lt c.pushGossipPercentStake,
    fun c => let v := formatFloat c.pushGossipPercentStake
      s!"push gossip percent stake must be between 0 and 1, got {v}"⟩,
   ⟨fun c => decide (c.pushGossipNumValidators < 0),
    fun c => let v := c.pushGossipNumValidators
      s!"push gossip num validators must be non-negative, got {v}"⟩,
   ⟨fun c => decide (c.pushGossipNumPeers < 0),
    fun c => let v := c.pushGossipNumPeers
      s!"push gossip num peers must be non-negative, got {v}"⟩,
   ⟨fun c => decide (c.pushGossipFrequency ≤ 0),
    fun c => let v := formatDuration c.pushGossipFrequency
      s!"push gossip frequency must be positive, got {v}"⟩,
   ⟨fun c => decide (c.pullGossipFrequency ≤ 0),
    fun c => let v := formatDuration c.pullGossipFrequency
      s!"pull gossip frequency must be positive, got {v}"⟩,
   ⟨fun c => decide (c.pushRegossipNumValidators < 0),
    fun c => let v := c.pushRegossipNumValidators
      s!"push regossip num validators must be non-negative, got {v}"⟩,
   ⟨fun c => decide (c.pushRegossipNumPeers < 0),
    fun c => let v := c.pushRegossipNumPeers
      s!"push regossip num peers must be non-negative, got {v}"⟩,
   ⟨fun c => decide (c.regossipFrequency ≤ 0),
    fun c => let v := formatDuration c.regossipFrequency
      s!"regossip frequency must be positive, got {v}"⟩,
   ⟨fun c => decide (c.bloomFilterSize ≤ 0),
    fun c => let v := c.bloomFilterSize
      s!"bloom filter size must be positive, got {v}"⟩,
   ⟨fun c => c.bloomFalsePositiveRate.le (.finite 0) || (GoFloat.finite 1).le c.bloomFalsePositiveRate,
    fun c => let v := formatFloat c.bloomFalsePositiveRate
      s!"bloom false positive rate must be between 0 and 1, got {v}"⟩,
   ⟨fun c => c.bloomResetThreshold.le (.finite 0) || (GoFloat.finite 1).le c.bloomResetThreshold,
    fun c => let v := formatFloat c.bloomResetThreshold
      s!"bloom reset threshold must be between 0 and 1, got {v}"⟩]

/-- The chain of `if`s: the error of the first check that rejects, or nil. -/
def firstRejection (c : GossipConfig) : List ConfigCheck → Except String Unit
  | [] => .ok ()
  | k :: ks => if k.rejects c then .error (k.message c) else firstRejection c ks

/-- `GossipConfig.Validate`. -/
def GossipConfig.validate (c : GossipConfig) : Except String Unit :=
  firstRejection c (validateChecks formatFloat formatDuration)

/-- Modelled from the spec: validation rejects fractions outside `[0,1]`, negative counts,
non-positive durations and filter parameters out of range: a size that is not positive, rates
outside `(0,1)`. -/
structure GossipConfig.Valid (c : GossipConfig) : Prop where
  percentStake : c.pushGossipPercentStake.IsFraction
  counts : 0 ≤ c.pushGossipNumValidators ∧ 0 ≤ c.pushGossipNumPeers ∧
    0 ≤ c.pushRegossipNumValidators ∧ 0 ≤ c.pushRegossipNumPeers
  durations : 0 < c.pushGossipFrequency ∧ 0 < c.pullGossipFrequency ∧ 0 < c.regossipFrequency
  filterSize : 0 < c.bloomFilterSize
  falsePositiveRate : c.bloomFalsePositiveRate.IsRate
  resetThreshold : c.bloomResetThreshold.IsRate

/-- `c` with the float fields that `p`, `f` and `r` pick set to NaN. -/
def GossipConfig.setNaN (c : GossipConfig) (p f r : Bool) : GossipConfig :=
  { c with
    pushGossipPercentStake := if p then .nan else c.pushGossipPercentStake
    bloomFalsePositiveRate := if f then .nan else c.bloomFalsePositiveRate
    bloomResetThreshold := if r then .nan else c.bloomResetThreshold }

/-- The chain of checks passes exactly when no check rejects. -/
theorem firstRejection_eq_ok_iff (c : GossipConfig) (ks : List ConfigCheck) :
    firstRejection c ks = .ok () ↔ ∀ k ∈ ks, k.rejects c = false := by
  induction ks with
  | nil => simp [firstRejection]
  | cons k ks ih => cases h : k.rejects c <;> simp [firstRejection, h, ih]

/-- An error of `firstRejection` is the message of a check that rejects, every check before it
passing. -/
theorem firstRejection_eq_error {c : GossipConfig} {e : String} :
    ∀ {ks : List ConfigCheck}, firstRejection c ks = .error e →
      ∃ pre k post, ks = pre ++ k :: post ∧ (∀ k' ∈ pre, k'.rejects c = false) ∧
        k.rejects c = true ∧ e = k.message c
  | [], h => by cases h
  | k :: ks, h => by
    by_cases hk : k.rejects c
    · simp only [firstRejection, hk, if_true, Except.error.injEq] at h
      exact ⟨[], k, ks, rfl, by simp, hk, h.symm⟩
    · simp only [firstRejection, hk, Bool.false_eq_true, if_false] at h
      obtain ⟨pre, k', post, rfl, hpre, hk', he⟩ := firstRejection_eq_error h
      exact ⟨k :: pre, k', post, rfl, by simpa [hk] using hpre, hk', he⟩

/-- `Validate`'s checks pass exactly when the integer and duration fields meet the spec's
constraints and each float field is NaN or in its range. -/
theorem validate_eq_ok_iff_fields (c : GossipConfig) :
    c.validate formatFloat formatDuration = .ok () ↔
      (c.pushGossipPercentStake = .nan ∨ c.pushGossipPercentStake.IsFraction) ∧
        (0 ≤ c.pushGossipNumValidators ∧ 0 ≤ c.pushGossipNumPeers ∧
          0 ≤ c.pushRegossipNumValidators ∧ 0 ≤ c.pushRegossipNumPeers) ∧
        (0 < c.pushGossipFrequency ∧ 0 < c.pullGossipFrequency ∧ 0 < c.regossipFrequency) ∧
        0 < c.bloomFilterSize ∧
        (c.bloomFalsePositiveRate = .nan ∨ c.bloomFalsePositiveRate.IsRate) ∧
        (c.bloomResetThreshold = .nan ∨ c.bloomResetThreshold.IsRate) := by
  rw [GossipConfig.validate, firstRejection_eq_ok_iff]
  simp only [validateChecks, List.mem_cons, List.mem_singleton, forall_eq_or_imp, forall_eq,
    GoFloat.fractionCheck_eq_false_iff, GoFloat.rateCheck_eq_false_iff, decide_eq_false_iff_not,
    not_lt, not_le, List.not_mem_nil, false_imp_iff, implies_true, and_true]
  constructor
  · rintro ⟨h₁, h₂, h₃, h₄, h₅, h₆, h₇, h₈, h₉, h₁₀, h₁₁⟩
    exact ⟨h₁, ⟨h₂, h₃, h₆, h₇⟩, ⟨h₄, h₅, h₈⟩, h₉, h₁₀, h₁₁⟩
  · rintro ⟨h₁, ⟨h₂, h₃, h₆, h₇⟩, ⟨h₄, h₅, h₈⟩, h₉, h₁₀, h₁₁⟩
    exact ⟨h₁, h₂, h₃, h₄, h₅, h₆, h₇, h₈, h₉, h₁₀, h₁₁⟩

/-- `Validate` accepts exactly the configurations that meet every constraint of the spec, with
any of their three float fields, possibly none, set to NaN: NaN fails every comparison, so
it passes every float check. -/
theorem validate_eq_ok_iff (c : GossipConfig) :
    c.validate formatFloat formatDuration = .ok () ↔
      ∃ (v : GossipConfig) (p f r : Bool), v.Valid ∧ c = v.setNaN p f r := by
  have half : (0 : ℚ) < 1 / 2 ∧ (1 : ℚ) / 2 < 1 := by norm_num
  have hfrac : (GoFloat.finite (1 / 2)).IsFraction := ⟨1 / 2, rfl, half.1.le, half.2.le⟩
  have hrate : (GoFloat.finite (1 / 2)).IsRate := ⟨1 / 2, rfl, half⟩
  rw [validate_eq_ok_iff_fields, GoFloat.nan_or_iff hfrac, GoFloat.nan_or_iff hrate,
    GoFloat.nan_or_iff hrate c.bloomResetThreshold]
  constructor
  · rintro ⟨⟨y₁, p, h₁, hp⟩, hcounts, hdur, hsize, ⟨y₂, f, h₂, hf⟩, ⟨y₃, r, h₃, hr⟩⟩
    refine ⟨{ c with pushGossipPercentStake := y₁
                     bloomFalsePositiveRate := y₂
                     bloomResetThreshold := y₃ }, p, f, r, ⟨h₁, hcounts, hdur, hsize, h₂, h₃⟩, ?_⟩
    cases c
    simp only [GossipConfig.setNaN] at hp hf hr ⊢
    rw [← hp, ← hf, ← hr]
  · rintro ⟨v, p, f, r, ⟨h₁, hcounts, hdur, hsize, h₂, h₃⟩, rfl⟩
    exact ⟨⟨_, p, h₁, rfl⟩, hcounts, hdur, hsize, ⟨_, f, h₂, rfl⟩, ⟨_, r, h₃, rfl⟩⟩

/-- The defaults pass `Validate`. -/
theorem defaultGossipConfig_validate :
    defaultGossipConfig.validate formatFloat formatDuration = .ok () := by
  rw [GossipConfig.validate, firstRejection_eq_ok_iff]
  simp only [validateChecks, List.mem_cons, List.mem_singleton, forall_eq_or_imp, forall_eq,
    List.not_mem_nil, false_imp_iff, implies_true, and_true, defaultGossipConfig, millisecond, second,
    GoFloat.fractionCheck_eq_false_iff, GoFloat.rateCheck_eq_false_iff, decide_eq_false_iff_not]
  norm_num [GoFloat.IsFraction, GoFloat.IsRate]

end Validate

end BtcVM
