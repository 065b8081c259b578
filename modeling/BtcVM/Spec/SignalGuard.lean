import BtcVM.Builder.Step

/-!
# What `signalCanBuild`'s guard ensures on its own

`signalCanBuild` starts a task only when it flips `hasPendingTxs` from clear to set, and a task
clears the flag only as it returns. So while the host calls neither `BuildBlock` nor
`WaitForEvent`, at most one task is in flight, or about to be started by
`awaitTxSubmissions`, and the flag is set while there is one (`Sys.SingleSignal`). Along every
such run, the builder keeps its promise of one task in flight (`one_task_without_host`): the
overlap of `overlapping_tasks` needs the flag cleared by the host's `handleBuildAttempt` or
`waitForNeedToBuild` while a task is in flight.
-/

namespace BtcVM.Builder

open Wire Chain

/-- The host's calls: `BuildBlock`, whether on a `PendingTxs` or on its own, and its steps;
`WaitForEvent`, its steps and its cancellation cases. -/
def Act.byHost : Act → Bool
  | .engineRecv | .buildStart | .build | .waitStart | .wait | .waitAbort => true
  | _ => false

/-- At most one task is in flight, none while `awaitTxSubmissions` is about to start one, and
the flag is set while there is either. -/
structure Sys.SingleSignal (s : Sys) : Prop where
  atMostOne : s.tasks.length ≤ 1
  exclusive : s.awaitSignaling = true → s.tasks = []
  pending : s.tasks ≠ [] ∨ s.awaitSignaling = true → s.pending = true

/-- A fresh builder has no task in flight and none about to start. -/
theorem singleSignal_init (vm : VM) : (Sys.init vm).SingleSignal :=
  ⟨Nat.zero_le _, fun _ => rfl, by simp [Sys.init]⟩

/-- A state with the same tasks, `awaitSignaling` and flag. -/
theorem Sys.SingleSignal.congr {s s' : Sys} (hs : s.SingleSignal) (ht : s'.tasks = s.tasks)
    (ha : s'.awaitSignaling = s.awaitSignaling) (hp : s'.pending = s.pending) : s'.SingleSignal := by
  obtain ⟨h₁, h₂, h₃⟩ := hs
  exact ⟨by rwa [ht], by rwa [ht, ha], by rwa [ht, ha, hp]⟩

section Steps

variable (doubleHashH : List UInt8 → Hash) (gen : TemplateGenerator) (cap : Nat)

/-- A task's step leaves `awaitSignaling` alone, and the flag too unless the task returns. -/
theorem taskStep_frame {s t : Sys} {pc : TaskPc} {pc' : Option TaskPc}
    (h : taskStep doubleHashH cap s pc = some (pc', t)) :
    t.tasks = s.tasks ∧ t.awaitSignaling = s.awaitSignaling ∧
      (pc'.isSome → t.pending = s.pending) := by
  cases pc <;> simp only [taskStep] at h <;> (repeat' split at h) <;> cases h <;> simp [Sys.log]

/-- The `i`-th task exists; it moves on with the flag unchanged, or returns. -/
theorem stepTask_cases {s s' : Sys} {i : Nat} (h : s.stepTask doubleHashH cap i = some s') :
    i < s.tasks.length ∧ s'.awaitSignaling = s.awaitSignaling ∧
      ((∃ p, s'.tasks = s.tasks.set i p ∧ s'.pending = s.pending) ∨
        s'.tasks = s.tasks.eraseIdx i) := by
  unfold Sys.stepTask at h
  rcases hi : s.tasks[i]? with _ | pc
  · simp [hi] at h
  rw [hi] at h
  obtain ⟨⟨pc', t⟩, ht, rfl⟩ := Option.map_eq_some'.mp h
  obtain ⟨-, ha, hp⟩ := taskStep_frame doubleHashH cap ht
  refine ⟨(List.getElem?_eq_some_iff.1 hi).1, ha, ?_⟩
  cases pc' with
  | some p => exact .inl ⟨p, rfl, hp rfl⟩
  | none => exact .inr rfl

/-- A task's step keeps the invariant: the task keeps its place with the flag unchanged, or the
only task in flight returns. -/
theorem singleSignal_stepTask {s s' : Sys} {i : Nat} (hs : s.SingleSignal)
    (h : s.stepTask doubleHashH cap i = some s') : s'.SingleSignal := by
  obtain ⟨h₁, h₂, h₃⟩ := hs
  obtain ⟨hi, ha, ⟨p, ht, hp⟩ | ht⟩ := stepTask_cases doubleHashH cap h
  · exact ⟨by rwa [ht, List.length_set], by rwa [ht, ha, List.set_eq_nil_iff],
      by rwa [ht, ha, hp, ne_eq, List.set_eq_nil_iff]⟩
  · have hw : s.awaitSignaling = false := by
      cases hw : s.awaitSignaling
      · rfl
      · simp [h₂ hw] at hi
    have hnil : s'.tasks = [] := by
      rw [← List.length_eq_zero, ht, List.length_eraseIdx_of_lt hi]; omega
    exact ⟨by simp [hnil], fun _ => hnil, by simp [hnil, ha, hw]⟩

/-- Every step but the host's keeps the invariant. -/
theorem singleSignal_step {s s' : Sys} {a : Act} (hs : s.SingleSignal) (ha : a.byHost = false)
    (h : step doubleHashH gen cap s a = some s') : s'.SingleSignal := by
  cases a with
  | tick | setMempool | txAccepted | shutdown => cases h; exact hs.congr rfl rfl rfl
  | process b => cases h; exact hs.congr rfl rfl rfl
  | cancelWait => simp only [step] at h; split_ifs at h; cases h; exact hs.congr rfl rfl rfl
  | awaitRecv =>
    simp only [step, Sys.signalLock] at h
    split_ifs at h with hc
    cases h
    refine ⟨hs.atMostOne, fun hw => ?_, fun _ => rfl⟩
    by_contra hne
    simp [hs.pending (.inl hne)] at hw
  | awaitSignal =>
    simp only [step] at h; split_ifs at h with hw; cases h
    refine ⟨by simp [Sys.broadcast, Sys.spawnTask, hs.exclusive hw], (fun h => by cases h),
      fun _ => hs.pending (.inr hw)⟩
  | task i => exact singleSignal_stepTask doubleHashH cap hs h
  | taskShutdown i =>
    simp only [step] at h
    split at h
    · split_ifs at h; cases h
      exact ⟨le_trans (List.length_eraseIdx_le _ _) hs.atMostOne,
        fun hw => by simp [hs.exclusive hw],
        fun hne => hs.pending (hne.imp_left fun h hl => h (by simp [hl]))⟩
    · cases h
  | helper k =>
    simp only [step] at h
    split at h
    · cases h
    · obtain ⟨_, -, rfl⟩ := Option.map_eq_some'.mp h
      exact hs.congr rfl rfl rfl
  | engineRecv | buildStart | build | waitStart | wait | waitAbort => cases ha

end Steps

section Runs

variable (doubleHashH : List UInt8 → Hash) (gen : TemplateGenerator) (cap : Nat)

/-- Every run without a host call keeps `SingleSignal`. -/
theorem singleSignal_run {s s' : Sys} (hs : s.SingleSignal) :
    ∀ {acts : List Act}, (∀ a ∈ acts, a.byHost = false) →
      run doubleHashH gen cap s acts = some s' → s'.SingleSignal
  | [], _, h => by cases h; exact hs
  | _ :: _, ha, h =>
    let ⟨_, h₁, h₂⟩ := Option.bind_eq_some.mp h
    singleSignal_run (singleSignal_step doubleHashH gen cap hs (ha _ (List.mem_cons_self _ _)) h₁)
      (fun a h => ha a (List.mem_cons_of_mem _ h)) h₂

/-- Along every run from any VM in which the host calls neither `BuildBlock` nor
`WaitForEvent`, at most one `scheduleBlockBuild` task is in flight, and the flag is set while
one is. -/
theorem one_task_without_host {vm₀ : VM} {acts : List Act} {s : Sys}
    (hacts : ∀ a ∈ acts, a.byHost = false)
    (h : run doubleHashH gen cap (Sys.init vm₀) acts = some s) : s.OneTaskInFlight :=
  have hs := singleSignal_run doubleHashH gen cap (singleSignal_init vm₀) hacts h
  ⟨hs.atMostOne, fun hne => hs.pending (.inl hne)⟩

end Runs

/-- Two transactions arrive and a task runs to its notification: no second task starts. -/
def signalOnlyTrace : List Act :=
  [.txAccepted, .awaitRecv, .awaitSignal, .txAccepted, .awaitRecv, .task 0, .task 0, .task 0]

/-- `one_task_without_host` along `signalOnlyTrace`. -/
theorem signalOnly_one_task :
    (∀ a ∈ signalOnlyTrace, a.byHost = false) ∧
      ∃ s, genesisRun signalOnlyTrace = some s ∧ s.tasks = [.notifying] ∧ s.OneTaskInFlight :=
  have hacts : ∀ a ∈ signalOnlyTrace, a.byHost = false := by decide
  ⟨hacts, _, rfl, rfl, @one_task_without_host toyHash tipGenerator 1 genesisVM _ _ hacts rfl⟩

end BtcVM.Builder
