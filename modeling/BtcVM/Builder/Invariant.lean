import BtcVM.Builder.Step

/-!
# What answers a set pending flag

When `hasPendingTxs` is set before shutdown, something is on its way to clear it or to act on
it: a task in flight, a queued `PendingTxs`, a `signalCanBuild` about to start its task, or a
`BuildBlock` call that has yet to reach `handleBuildAttempt` or is inside the
`signalCanBuild` that follows it (`Sys.Cleaner`).

Every step keeps this (`covered_step`), given a host buffer of at least one message, except
one: `BuildBlock`'s `BlockByHash` of its `BestSnapshot` hash failing, after which the call
returns before `handleBuildAttempt` (`Sys.LookupFails`). Along any run that avoids that step,
every state is covered (`covered_run`).

That step does strand the flag. `handleBuildAttempt` "should be called by BuildBlock
regardless of success/failure", yet `BuildBlock` returns before it when `getCurrentBlock`
fails, which a reorganisation between `BestSnapshot` and `BlockByHash` causes; the flag then
stays set with nothing left to clear it, and every later `signalCanBuild` skips
(`pending_stranded`).
-/

namespace BtcVM.Builder

open Wire Chain

/-- Something that will clear a set flag or act on it. -/
def Sys.Cleaner (s : Sys) : Prop :=
  s.tasks ≠ [] ∨ 0 < s.toEngine ∨ s.awaitSignaling = true ∨ s.build = some .signaling ∨
    ∃ h, s.build = some (.fetched h)

/-- The invariant: the adapter is there, and before shutdown a set flag has a cleaner. -/
structure Sys.Covered (s : Sys) : Prop where
  hasAdapter : s.vm.hasAdapter = true
  cleaner : s.shutdown = false → s.pending = true → s.Cleaner

/-- A fresh builder over a VM with an adapter is covered: nothing is pending. -/
theorem init_covered {vm : VM} (h : vm.hasAdapter = true) : (Sys.init vm).Covered :=
  ⟨h, fun _ hp => by simp [Sys.init] at hp⟩

/-- A step that leaves the adapter, the shutdown flag, the pending flag and every cleaner as
they were. -/
structure Sys.Frame (s s' : Sys) : Prop where
  hasAdapter : s'.vm.hasAdapter = s.vm.hasAdapter
  shutdown : s'.shutdown = s.shutdown
  pending : s'.pending = s.pending
  tasks : s'.tasks.length = s.tasks.length
  toEngine : s'.toEngine = s.toEngine
  awaitSignaling : s'.awaitSignaling = s.awaitSignaling
  build : s'.build = s.build

/-- A step that keeps what `Covered` reads keeps `Covered`. -/
theorem Sys.Covered.frame {s s' : Sys} (hs : s.Covered) (hf : s.Frame s') : s'.Covered := by
  refine ⟨hf.hasAdapter ▸ hs.hasAdapter, fun hsd hp => ?_⟩
  have hne : s'.tasks ≠ [] ↔ s.tasks ≠ [] := by
    simp only [ne_eq, ← List.length_eq_zero, hf.tasks]
  rw [hf.shutdown] at hsd; rw [hf.pending] at hp
  simpa only [Sys.Cleaner, hne, hf.toEngine, hf.awaitSignaling, hf.build] using hs.cleaner hsd hp

/-- A state with the adapter and a clear flag is covered. -/
theorem covered_of_clear {s : Sys} (ha : s.vm.hasAdapter = true) (hp : s.pending = false) :
    s.Covered :=
  ⟨ha, fun _ h => by simp [hp] at h⟩

/-- After shutdown every state with the adapter is covered. -/
theorem covered_of_shutdown {s : Sys} (ha : s.vm.hasAdapter = true) (hs : s.shutdown = true) :
    s.Covered :=
  ⟨ha, fun h => by simp [hs] at h⟩

/-- A state with the adapter and a cleaner is covered. -/
theorem covered_of_cleaner {s : Sys} (ha : s.vm.hasAdapter = true) (hc : s.Cleaner) :
    s.Covered :=
  ⟨ha, fun _ _ => hc⟩

/-- A `BuildBlock` past `handleBuildAttempt`'s clear and outside its `signalCanBuild` answers
no flag: the cleaner of a set flag is then a task, a queued message or `awaitTxSubmissions`,
and whatever the call does next keeps the invariant if it leaves those and the flag alone. -/
theorem Sys.Covered.of_build {s s' : Sys} (hs : s.Covered)
    (hb : s.build = some .cleared ∨ s.build = some .generating)
    (ha : s'.vm.hasAdapter = true) (hsd : s'.shutdown = s.shutdown) (hp : s'.pending = s.pending)
    (ht : s'.tasks = s.tasks) (he : s'.toEngine = s.toEngine)
    (hw : s'.awaitSignaling = s.awaitSignaling) : s'.Covered := by
  refine ⟨ha, fun hsd' hp' => ?_⟩
  rw [hsd] at hsd'; rw [hp] at hp'
  rcases hs.cleaner hsd' hp' with h | h | h | h | ⟨_, h⟩
  · exact .inl (ht ▸ h)
  · exact .inr (.inl (he ▸ h))
  · exact .inr (.inr (.inl (hw ▸ h)))
  all_goals rcases hb with hb | hb <;> rw [hb] at h <;> cases h

/-! ## One goroutine at a time -/

theorem waitCheck_covered {s : Sys} (hs : s.Covered) : s.waitCheck.Covered := by
  unfold Sys.waitCheck
  split_ifs with h
  · exact covered_of_clear hs.hasAdapter (by simp at h; exact h.1)
  · exact covered_of_clear hs.hasAdapter rfl

section Steps

variable (doubleHashH : List UInt8 → Hash) (gen : TemplateGenerator) (cap : Nat)

/-- A step of `waitForNeedToBuild` keeps `Covered`. -/
theorem waitStep_covered {s s' : Sys} {pc : WaitPc} (hs : s.Covered)
    (h : waitStep doubleHashH s pc = some s') : s'.Covered := by
  have hf : ∀ {t : Sys}, s.Frame t → t.Covered := hs.frame
  cases pc with
  | idle => cases h
  | selecting k =>
    simp only [waitStep] at h; split_ifs at h; cases h; exact waitCheck_covered hs
  | draining k =>
    simp only [waitStep] at h; split_ifs at h; cases h; exact hf ⟨rfl, rfl, rfl, rfl, rfl, rfl, rfl⟩
  | fetched hh =>
    simp only [waitStep] at h
    split at h
    · cases h; exact hf ⟨rfl, rfl, rfl, rfl, rfl, rfl, rfl⟩
    · split_ifs at h <;> cases h <;> exact hf ⟨rfl, rfl, rfl, rfl, rfl, rfl, rfl⟩
  | sleeping d =>
    simp only [waitStep] at h; split_ifs at h; cases h; exact hf ⟨rfl, rfl, rfl, rfl, rfl, rfl, rfl⟩

/-- `WaitForEvent`'s cancellation keeps `Covered`. -/
theorem waitAbort_covered {s s' : Sys} {pc : WaitPc} (hs : s.Covered)
    (h : waitAbort s pc = some s') : s'.Covered := by
  cases pc <;> simp only [waitAbort] at h <;> (try split_ifs at h) <;> cases h <;>
    exact hs.frame ⟨rfl, rfl, rfl, rfl, rfl, rfl, rfl⟩

/-- Every step of a task keeps the invariant: it keeps its place in the list, clears the flag
as it returns, or returns with a `PendingTxs` queued (sent, or dropped on a full buffer). -/
theorem stepTask_covered (hcap : 0 < cap) {s s' : Sys} {i : Nat} (hs : s.Covered)
    (h : s.stepTask doubleHashH cap i = some s') : s'.Covered := by
  unfold Sys.stepTask at h
  rcases hi : s.tasks[i]? with _ | pc
  · simp [hi] at h
  rw [hi] at h
  obtain ⟨⟨pc', t⟩, ht, rfl⟩ := Option.map_eq_some'.mp h
  have hkeep : ∀ p, (Sys.Frame s { s with tasks := s.tasks.set i p }) :=
    fun p => ⟨rfl, rfl, rfl, List.length_set .., rfl, rfl, rfl⟩
  cases pc with
  | start => cases ht; exact hs.frame (hkeep _)
  | fetched hh =>
    simp only [taskStep] at ht
    split at ht
    · cases ht; exact covered_of_clear hs.hasAdapter rfl
    · split_ifs at ht <;> cases ht <;> exact hs.frame (hkeep _)
  | sleeping d => simp only [taskStep] at ht; split_ifs at ht; cases ht; exact hs.frame (hkeep _)
  | checking =>
    simp only [taskStep] at ht
    split_ifs at ht <;> cases ht
    · exact hs.frame (hkeep _)
    · exact covered_of_clear hs.hasAdapter rfl
  | notifying =>
    simp only [taskStep] at ht
    split_ifs at ht with hlt <;> cases ht
    · exact covered_of_cleaner hs.hasAdapter (.inr (.inl (Nat.succ_pos _)))
    · exact covered_of_cleaner hs.hasAdapter (.inr (.inl (show 0 < s.toEngine by omega)))

/-- `BuildBlock`'s `BlockByHash` of its `BestSnapshot` hash fails, and the call returns before
`handleBuildAttempt`. -/
def Sys.LookupFails (s : Sys) : Act → Prop
  | .build => ∃ h, s.build = some (.fetched h) ∧ blockByHash doubleHashH s.vm.chain h = none
  | _ => False

/-- Every step of `BuildBlock` but a failing lookup keeps the invariant. -/
theorem build_covered {s : Sys} {pc : BuildPc} (hs : s.Covered) (hb : s.build = some pc)
    (hok : ¬s.LookupFails doubleHashH .build) :
    { (buildStep doubleHashH gen s pc).2 with build := (buildStep doubleHashH gen s pc).1 }.Covered := by
  cases pc with
  | fetched hh =>
    simp only [buildStep]
    split
    · exact absurd ⟨hh, hb, ‹_›⟩ hok
    · exact covered_of_clear hs.hasAdapter rfl
  | cleared =>
    simp only [buildStep, Sys.signalLock]
    split_ifs with hn hp
    · exact covered_of_cleaner hs.hasAdapter (.inr (.inr (.inr (.inl rfl))))
    · exact hs.of_build (.inl hb) hs.hasAdapter rfl (by simpa using hp) rfl rfl rfl
    · exact hs.of_build (.inl hb) hs.hasAdapter rfl rfl rfl rfl rfl
  | signaling =>
    exact covered_of_cleaner hs.hasAdapter (.inl (by simp [buildStep, Sys.broadcast, Sys.spawnTask]))
  | generating =>
    obtain ⟨c, hc⟩ := VM.buildOnTemplate_vm doubleHashH gen s.vm
    simp only [buildStep]
    split <;> rename_i heq <;> rw [heq] at hc <;> cases hc <;>
      exact hs.of_build (.inr hb) hs.hasAdapter rfl rfl rfl rfl rfl
  | built => exact covered_of_clear hs.hasAdapter rfl

end Steps

/-! ## Whole runs -/

section Runs

variable (doubleHashH : List UInt8 → Hash) (gen : TemplateGenerator) (cap : Nat)

/-- With the adapter there, `BuildBlock` starts at its `BlockByHash`, a cleaner. -/
theorem startBuild_covered {s : Sys} (ha : s.vm.hasAdapter = true) : s.startBuild.Covered := by
  simp only [Sys.startBuild, ha, Bool.not_true, Bool.false_eq_true, if_false]
  exact covered_of_cleaner ha (.inr (.inr (.inr (.inr ⟨_, rfl⟩))))

/-- Every step but a failing `BuildBlock` lookup keeps the invariant. -/
theorem covered_step (hcap : 0 < cap) {s s' : Sys} {a : Act} (hs : s.Covered)
    (hok : ¬s.LookupFails doubleHashH a) (h : step doubleHashH gen cap s a = some s') :
    s'.Covered := by
  have hf : ∀ {t : Sys}, s.Frame t → t.Covered := hs.frame
  cases a with
  | tick | setMempool | txAccepted => cases h; exact hf ⟨rfl, rfl, rfl, rfl, rfl, rfl, rfl⟩
  | process b => cases h; exact hf ⟨rfl, rfl, rfl, rfl, rfl, rfl, rfl⟩
  | shutdown => cases h; exact covered_of_shutdown hs.hasAdapter rfl
  | cancelWait =>
    simp only [step] at h; split_ifs at h; cases h; exact hf ⟨rfl, rfl, rfl, rfl, rfl, rfl, rfl⟩
  | awaitRecv =>
    simp only [step, Sys.signalLock] at h
    split_ifs at h with hc
    cases h
    cases hp : s.pending
    · exact covered_of_cleaner hs.hasAdapter (.inr (.inr (.inl (by simp [hp]))))
    · exact hf ⟨rfl, rfl, hp.symm, rfl, rfl, by simp_all, rfl⟩
  | awaitSignal =>
    simp only [step] at h; split_ifs at h; cases h
    exact covered_of_cleaner hs.hasAdapter (.inl (by simp [Sys.broadcast, Sys.spawnTask]))
  | task i => exact stepTask_covered doubleHashH cap hcap hs h
  | taskShutdown i =>
    simp only [step] at h
    split at h
    · split_ifs at h with hd; cases h; exact covered_of_shutdown hs.hasAdapter hd
    · cases h
  | engineRecv =>
    simp only [step] at h; split_ifs at h; cases h; exact startBuild_covered hs.hasAdapter
  | buildStart =>
    simp only [step] at h; split_ifs at h; cases h; exact startBuild_covered hs.hasAdapter
  | build =>
    simp only [step] at h
    split at h
    · cases h
    · cases h; exact build_covered doubleHashH gen hs ‹_› hok
  | waitStart =>
    simp only [step] at h; split_ifs at h; cases h
    exact waitCheck_covered (hf ⟨rfl, rfl, rfl, rfl, rfl, rfl, rfl⟩)
  | wait => exact waitStep_covered doubleHashH hs h
  | waitAbort => exact waitAbort_covered hs h
  | helper k =>
    simp only [step] at h
    split at h
    · cases h
    · obtain ⟨_, -, rfl⟩ := Option.map_eq_some'.mp h
      exact hf ⟨rfl, rfl, rfl, rfl, rfl, rfl, rfl⟩

/-- A run in which no `BuildBlock` lookup fails. -/
def NoLookupFailure : Sys → List Act → Prop
  | _, [] => True
  | s, a :: as =>
    ¬s.LookupFails doubleHashH a ∧ ∀ s', step doubleHashH gen cap s a = some s' → NoLookupFailure s' as

/-- Along a run in which no `BuildBlock` lookup fails, the invariant holds throughout. -/
theorem covered_run (hcap : 0 < cap) :
    ∀ (acts : List Act) {s s' : Sys}, s.Covered → NoLookupFailure doubleHashH gen cap s acts →
      run doubleHashH gen cap s acts = some s' → s'.Covered
  | [], _, _, hs, _, h => by cases h; exact hs
  | _ :: acts, _, _, hs, ⟨hok, hrest⟩, h => by
    obtain ⟨t, ht, hr⟩ := Option.bind_eq_some.mp h
    exact covered_run hcap acts (covered_step doubleHashH gen cap hcap hs hok ht) (hrest t ht) hr

/-- From a VM with its adapter, along any run in which no `BuildBlock` lookup fails, a flag
set before shutdown always has a task in flight, a queued `PendingTxs`, a `BuildBlock` call
in progress, or `awaitTxSubmissions` about to start a task. -/
theorem pending_answered (hcap : 0 < cap) {vm₀ : VM} (ha : vm₀.hasAdapter = true)
    {acts : List Act} {s : Sys} (hno : NoLookupFailure doubleHashH gen cap (Sys.init vm₀) acts)
    (h : run doubleHashH gen cap (Sys.init vm₀) acts = some s) (hsd : s.shutdown = false)
    (hp : s.pending = true) :
    s.tasks ≠ [] ∨ 0 < s.toEngine ∨ s.build.isSome ∨ s.awaitSignaling = true := by
  rcases (covered_run doubleHashH gen cap hcap acts (init_covered ha) hno h).cleaner hsd hp with
    h | h | h | h | ⟨_, h⟩
  · exact .inl h
  · exact .inr (.inl h)
  · exact .inr (.inr (.inr h))
  all_goals exact .inr (.inr (.inl (by simp [h])))

end Runs

/-- `pending_answered` once a transaction has been signalled: the flag is set and a task is in
flight. -/
theorem genesisRun_pending_answered :
    0 < 1 ∧ genesisVM.hasAdapter = true ∧
      NoLookupFailure toyHash tipGenerator 1 (Sys.init genesisVM)
        [.txAccepted, .awaitRecv, .awaitSignal] ∧
      ∃ s, genesisRun [.txAccepted, .awaitRecv, .awaitSignal] = some s ∧ s.shutdown = false ∧
        s.pending = true ∧
        (s.tasks ≠ [] ∨ 0 < s.toEngine ∨ s.build.isSome ∨ s.awaitSignaling = true) :=
  have hno : NoLookupFailure toyHash tipGenerator 1 (Sys.init genesisVM)
      [.txAccepted, .awaitRecv, .awaitSignal] := by
    simp [NoLookupFailure, Sys.LookupFails]
  ⟨by decide, rfl, hno, _, rfl, rfl, rfl,
    pending_answered toyHash tipGenerator 1 (by decide) rfl hno rfl rfl rfl⟩

/-! ## The step that strands the flag -/

/-- Before shutdown, a set flag has something that will clear it: a task in flight, a queued
`PendingTxs` or a `BuildBlock` call in progress. -/
def Sys.PendingCovered (s : Sys) : Prop :=
  s.shutdown = false → s.pending = true → s.tasks ≠ [] ∨ 0 < s.toEngine ∨ s.build.isSome

instance (s : Sys) : Decidable s.PendingCovered := inferInstanceAs (Decidable (_ → _ → _))

/-- A child of `childB`, whose arrival makes `childB`'s branch the longer one. -/
def grandchildB : MsgBlock := headerBlock (blockHash toyHash childB) 3

/-- `childA` and `childB` arrive; a transaction's task finds no delay and notifies the host,
which calls `BuildBlock`. Between its `BestSnapshot` (the tip `childA`) and its
`BlockByHash`, `grandchildB` arrives and the engine moves to `childB`'s branch, so the lookup
fails and `BuildBlock` returns before `handleBuildAttempt`. -/
def strandTrace : List Act :=
  [.process childA, .process childB, .txAccepted, .awaitRecv, .awaitSignal,
    .task 0, .task 0, .task 0, .task 0, .engineRecv, .process grandchildB, .build]

/-- The flag is left set with no task, no queued message and no `BuildBlock` call, and the
next transaction's `signalCanBuild` starts nothing. -/
theorem pending_stranded :
    (∃ s, genesisRun strandTrace = some s ∧ ¬s.PendingCovered) ∧
    ∃ s, genesisRun (strandTrace ++ [.txAccepted, .awaitRecv]) = some s ∧ s.tasks = [] ∧
      s.awaitSignaling = false :=
  ⟨⟨_, rfl, by decide⟩, ⟨_, rfl, rfl, rfl⟩⟩

end BtcVM.Builder
