import BtcVM.Spec.Lifecycle

/-!
# When `Shutdown` returns

`Shutdown` cancels the current context and waits until every gossip loop has called `Done`. A
loop leaves once its context is cancelled; a loop that has not begun yet reads the current
context when it begins. So from a reachable state in which `Shutdown` may be called, the call
can return exactly when no loop runs over a lost context (`shutdown_returns_iff`): otherwise
that loop never leaves (`orphaned_run`); if there is none, beginning and retiring the loops one
after another drains `shutdownWg` (`run_drain`).

A spawned loop can always begin: loops are spawned only once the gossipers are set, and neither
the gossipers nor the context are ever reset to nil (`Sys.Armed`, `Reachable.armed`).

Only a return to state syncing or bootstrapping after normal operation began loses a context.
Before the first `SetState(NormalOp)` no loop exists (`loops_nil_step`); from it on, along a run
without such a return, the context is replaced only while no loop exists, so every loop runs
over the current or a cancelled context (`Sys.Settled`) and `Shutdown` can return
(`shutdown_returns_without_reentry`). Loops are then spawned only onto none, a push and a pull
loop at once, and the gossipers change only then, so at most one loop of each kind runs, with
the current gossiper of its kind (`Sys.Paired`, `loops_without_reentry`).
-/

namespace BtcVM.Lifecycle

/-- Every spawned loop finds the context and its gossiper set when it begins. -/
def Sys.Armed (s : Sys) : Prop :=
  (∃ l ∈ s.loops, l.pc = .spawned) →
    s.gossipCtx.isSome ∧ s.pushGossiper.isSome ∧ s.pullGossiper.isSome

/-! ## Spawned loops can begin -/

/-- `initializeGossip` leaves the gossipers as they were or sets both, and sets both when it
succeeds; it touches neither the loops nor the context. -/
theorem initializeGossip_gossipers (s : Sys) (env : GossipEnv) :
    (s.initializeGossip env).2.loops = s.loops ∧
      (s.initializeGossip env).2.gossipCtx = s.gossipCtx ∧
      ((s.initializeGossip env).2.pushGossiper = s.pushGossiper ∧
          (s.initializeGossip env).2.pullGossiper = s.pullGossiper ∧
          (s.initializeGossip env).1 ≠ .ok () ∨
        (s.initializeGossip env).2.pushGossiper.isSome ∧
          (s.initializeGossip env).2.pullGossiper.isSome) := by
  dsimp only [Sys.initializeGossip]
  repeat' split
  all_goals simp

/-- `onNormalOperationsStarted` sets the context, and spawns loops only once both gossipers are
set. -/
theorem onNormalOperationsStarted_armed {s : Sys} (env : GossipEnv) (hs : s.Armed) :
    (s.onNormalOperationsStarted env).2.Armed := by
  obtain ⟨hl, hg, hgs⟩ :=
    initializeGossip_gossipers { s with gossipCtx := some s.next, next := s.next + 1 } env
  dsimp only [Sys.onNormalOperationsStarted]
  split <;> rename_i h <;> rw [h] at hl hg hgs <;> dsimp only at hl hg hgs
  · rcases hgs with ⟨hp, hq, -⟩ | ⟨hp, hq⟩
    · intro hsp
      obtain ⟨-, hp', hq'⟩ := hs (hl ▸ hsp)
      exact ⟨by simp [hg], hp ▸ hp', hq ▸ hq'⟩
    · exact fun _ => ⟨by simp [hg], hp, hq⟩
  · rcases hgs with ⟨-, -, hne⟩ | ⟨hp, hq⟩
    · exact absurd rfl hne
    · exact fun _ => ⟨by simp [Sys.startGossipLoops, hg], hp, hq⟩

/-- `Initialize` touches no field of the gossip system but the new network's handler. -/
theorem initializeVM_eq (s : Sys) (r : Option InitFailure) :
    ∃ hb i ha, (s.initializeVM r).2 =
      { s with hasCtx := true, hasBuilder := hb, initialized := i, handlerAdded := ha } := by
  dsimp only [Sys.initializeVM]
  repeat' split
  all_goals exact ⟨_, _, _, rfl⟩

/-- No step leaves a spawned loop without its context or gossiper. -/
theorem armed_step {s s' : Sys} {a : Act} (hs : s.Armed) (h : step s a = some s') : s'.Armed := by
  cases a with
  | initializeVM r =>
    simp only [step, Option.ite_none_left_eq_some, Option.some.injEq] at h
    obtain ⟨-, rfl⟩ := h
    obtain ⟨_, _, _, he⟩ := initializeVM_eq s r
    rw [he]; exact hs
  | setState st env =>
    simp only [step, Option.ite_none_left_eq_some, Option.some.injEq] at h
    obtain ⟨-, rfl⟩ := h
    unfold Sys.setState
    split
    · exact hs
    · exact hs
    · split
      · exact hs
      · have ho := onNormalOperationsStarted_armed (s := { s with bootstrapped := true }) env hs
        split <;> rename_i he <;> rw [he] at ho
        · exact ho
        · unfold Sys.initBlockBuilding; split <;> exact ho
    · exact hs
  | shutdownStart =>
    simp only [step, Option.ite_none_left_eq_some, Option.some.injEq] at h
    obtain ⟨-, rfl⟩ := h
    unfold Sys.shutdownStart; split
    · exact hs
    · exact hs
  | shutdownFinish =>
    simp only [step, Option.ite_none_right_eq_some, Option.some.injEq] at h
    obtain ⟨-, rfl⟩ := h
    exact hs
  | loopBegin i =>
    simp only [step] at h
    split at h
    · rename_i l hi
      split at h
      · obtain ⟨pc, -, rfl⟩ := Option.map_eq_some'.1 h
        exact fun _ => hs ⟨l, List.getElem?_mem hi, ‹_›⟩
      · cases h
    · cases h
  | loopExit i =>
    simp only [step] at h
    split at h
    · split at h
      · cases h
        exact fun ⟨l, hl, hsp⟩ => hs ⟨l, List.mem_of_mem_eraseIdx hl, hsp⟩
      · cases h
    · cases h

/-- Along every run, spawned loops can begin. -/
theorem armed_run {s s' : Sys} (hs : s.Armed) : ∀ {acts}, run s acts = some s' → s'.Armed
  | [], h => by cases h; exact hs
  | _ :: _, h =>
    let ⟨_, h₁, h₂⟩ := run_cons.1 h
    armed_run (armed_step hs h₁) h₂

/-- In every reachable state, spawned loops can begin. -/
theorem Reachable.armed {s : Sys} (h : Reachable s) : s.Armed :=
  let ⟨_, h⟩ := h
  armed_run (fun ⟨_, hl, _⟩ => by cases hl) h

/-! ## Draining the loops -/

theorem run_append (s : Sys) (as bs : List Act) :
    run s (as ++ bs) = (run s as).bind (run · bs) := by
  induction as generalizing s with
  | nil => rfl
  | cons a as ih =>
    show (step s a).bind (run · (as ++ bs)) = ((step s a).bind (run · as)).bind (run · bs)
    simp only [Option.bind_assoc, ih]

/-- Loop `l` leaves once it runs: it has not begun, and the current context, already cancelled,
and its gossiper are set; or it runs over a cancelled context. -/
def Sys.CanLeave (s : Sys) (l : Loop) : Prop :=
  (l.pc = .spawned ∧ ∃ c, s.gossipCtx = some c ∧ c ∈ s.cancelled ∧ (s.gossiper l.kind).isSome) ∨
    ∃ c g, l.pc = .running c g ∧ c ∈ s.cancelled

/-- Loops that can all leave are drained one after another: the first begins if it has not,
and leaves. -/
theorem run_drain (s : Sys) : ∀ ls : List Loop, (∀ l ∈ ls, s.CanLeave l) →
    ∃ acts, run { s with loops := ls } acts = some { s with loops := [] }
  | [], _ => ⟨[], rfl⟩
  | l :: ls, h => by
    obtain ⟨acts, hr⟩ := run_drain s ls fun l hl => h l (List.mem_cons_of_mem _ hl)
    rcases h l (List.mem_cons_self _ _) with ⟨hsp, c, hc, hcan, hg⟩ | ⟨c, g, hpc, hcan⟩
    · obtain ⟨g, hg⟩ := Option.isSome_iff_exists.1 hg
      refine ⟨.loopBegin 0 :: .loopExit 0 :: acts, ?_⟩
      obtain ⟨k, pc⟩ := l
      cases hsp
      cases k <;> simp only [Sys.gossiper] at hg <;>
        simp only [run, step, List.getElem?_cons_zero, if_true, Sys.loopBegin, Sys.gossiper, hc, hg,
          Option.map_some', Option.some_bind, List.set_cons_zero, hcan, List.eraseIdx_cons_zero] <;>
        simpa only [hc, hg] using hr
    · refine ⟨.loopExit 0 :: acts, ?_⟩
      obtain ⟨k, pc⟩ := l
      cases hpc
      simp [run, step, hcan, hr]

/-! ## `Shutdown` -/

/-- From a reachable state in which `Shutdown` may be called and no loop runs over a lost
context, `Shutdown` cancels the current context, the loops begin and leave one after another,
and the call returns. -/
theorem shutdown_returns_of_no_orphan {s : Sys} (hs : Reachable s) (hctx : s.hasCtx = true)
    (hsd : s.shutdown = false) (hst : s.stopped = false) (hno : ∀ k c g, ¬ Orphaned k c g s) :
    ∃ acts s', run s (.shutdownStart :: acts) = some s' ∧ Act.shutdownFinish ∈ acts := by
  let s₁ : Sys := { s with cancelled := s.gossipCtx.toList ++ s.cancelled, shutdown := true }
  have h₁ : step s .shutdownStart = some s₁ := by
    simp [step, hsd, hctx, Sys.shutdownStart, hst, s₁]
  have hleave : ∀ l ∈ s.loops, s₁.CanLeave l := by
    rintro ⟨k, _ | ⟨c, g⟩⟩ hl
    · obtain ⟨hc, hp, hq⟩ := hs.armed ⟨_, hl, rfl⟩
      obtain ⟨c, hc⟩ := Option.isSome_iff_exists.1 hc
      refine .inl ⟨rfl, c, ?_, ?_, ?_⟩ <;> cases k <;> simp [s₁, hc, hp, hq, Sys.gossiper]
    · refine .inr ⟨c, g, rfl, ?_⟩
      by_cases hcan : c ∈ s.cancelled
      · simp [s₁, hcan]
      · by_cases hg : s.gossipCtx = some c
        · simp [s₁, hg]
        · exact absurd ⟨hl, hcan, hg, hs.fresh.2 k c g hl⟩ (hno k c g)
  obtain ⟨acts, hr⟩ := run_drain s₁ s.loops hleave
  refine ⟨acts ++ [.shutdownFinish], { s₁ with loops := [], stopped := true, shutdown := false },
    ?_, List.mem_append_right _ (List.mem_singleton_self _)⟩
  show (step s .shutdownStart).bind (run · (acts ++ [.shutdownFinish])) = _
  rw [h₁, Option.some_bind, run_append, (hr : run s₁ acts = _)]
  rfl

/-- From a reachable state in which `Shutdown` may be called, the call can return exactly when no
loop runs over a lost context. -/
theorem shutdown_returns_iff {s : Sys} (hs : Reachable s) (hctx : s.hasCtx = true)
    (hsd : s.shutdown = false) (hst : s.stopped = false) :
    (∃ acts s', run s (.shutdownStart :: acts) = some s' ∧ Act.shutdownFinish ∈ acts) ↔
      ∀ k c g, ¬ Orphaned k c g s := by
  refine ⟨?_, shutdown_returns_of_no_orphan hs hctx hsd hst⟩
  rintro ⟨acts, s', hr, hf⟩ k c g ho
  obtain ⟨s₁, h₁, h₂⟩ := run_cons.1 hr
  exact (orphaned_run (orphaned_step ho h₁) h₂).2 hf

/-- `shutdown_returns_iff` at `bootedSys`, whose two loops run over the current context. -/
theorem bootedSys_shutdown :
    Reachable bootedSys ∧ bootedSys.hasCtx = true ∧ bootedSys.shutdown = false ∧
      bootedSys.stopped = false ∧
      ((∃ acts s', run bootedSys (.shutdownStart :: acts) = some s' ∧ Act.shutdownFinish ∈ acts) ↔
        ∀ k c g, ¬ Orphaned k c g bootedSys) :=
  have hr : Reachable bootedSys := ⟨bootRun, rfl⟩
  ⟨hr, rfl, rfl, rfl, shutdown_returns_iff hr rfl rfl rfl⟩

/-! ## Every loop over the current or a cancelled context -/

/-- `SetState(StateSyncing)` and `SetState(Bootstrapping)`, the calls that clear
`bootstrapped`. -/
def Act.clearsBootstrapped : Act → Bool
  | .setState .stateSyncing _ => true
  | .setState .bootstrapping _ => true
  | _ => false

/-- `SetState(NormalOp)`, the one call that spawns loops. -/
def Act.startsNormalOp : Act → Bool
  | .setState .normalOp _ => true
  | _ => false

/-- `SetState(NormalOp)` does not clear `bootstrapped`. -/
theorem Act.clearsBootstrapped_of_startsNormalOp {a : Act} (h : a.startsNormalOp = true) :
    a.clearsBootstrapped = false := by
  rcases a with _ | ⟨_ | _ | _ | _, _⟩ | _ | _ | _ | _ <;> first | rfl | cases h

/-- No `SetState(StateSyncing)` or `SetState(Bootstrapping)` after the first
`SetState(NormalOp)`: the engine may sync and bootstrap the chain first, and then stays in
normal operation. -/
def noReentry : List Act → Bool
  | [] => true
  | a :: acts => if a.startsNormalOp then acts.all fun b => !b.clearsBootstrapped else noReentry acts

/-- No loop exists while the VM is not bootstrapped, and every running loop's context is the
current one or cancelled. -/
structure Sys.Settled (s : Sys) : Prop where
  idle : s.bootstrapped = false → s.loops = []
  tracked : ∀ k c g, (⟨k, .running c g⟩ : Loop) ∈ s.loops → s.gossipCtx = some c ∨ c ∈ s.cancelled

/-- A settled state has no loop over a lost context. -/
theorem Sys.Settled.not_orphaned {s : Sys} (hs : s.Settled) (k : LoopKind) (c g : Nat) :
    ¬ Orphaned k c g s := fun ho =>
  (hs.tracked k c g ho.mem).elim ho.not_current ho.not_cancelled

/-- A state with no loop is settled. -/
theorem Sys.Settled.of_loops_nil {s : Sys} (hl : s.loops = []) : s.Settled :=
  ⟨fun _ => hl, fun _ _ _ h => by simp [hl] at h⟩

/-- A call other than the two that clear `bootstrapped` replaces the context only while the VM is not
bootstrapped, when no loop exists, and leaves it bootstrapped. -/
theorem settled_setState {s : Sys} (hs : s.Settled) {st : SnowState} {env : GossipEnv}
    (ha : (Act.setState st env).clearsBootstrapped = false) : (s.setState st env).2.Settled := by
  cases st with
  | stateSyncing => cases ha
  | bootstrapping => cases ha
  | other name => exact hs
  | normalOp =>
    cases hb : s.bootstrapped
    · obtain ⟨hb', -, hl⟩ := setState_normalOp_spec s env hb
      have hnew : ∀ l ∈ (s.setState .normalOp env).2.loops, l.pc = .spawned := by
        rcases hl with ⟨-, -, hl⟩ | ⟨hl, -⟩ <;> simp [hl, hs.idle hb]
      exact ⟨fun h => absurd (hb'.symm.trans h) Bool.noConfusion,
        fun k c g hm => absurd (hnew _ hm) LoopPc.noConfusion⟩
    · rw [setState_normalOp_of_bootstrapped s env hb]; exact hs

/-- Every step other than the two that clear `bootstrapped` keeps `Settled`. -/
theorem settled_step {s s' : Sys} {a : Act} (hs : s.Settled) (ha : a.clearsBootstrapped = false)
    (h : step s a = some s') : s'.Settled := by
  cases a with
  | initializeVM r =>
    simp only [step, Option.ite_none_left_eq_some, Option.some.injEq] at h
    obtain ⟨-, rfl⟩ := h
    obtain ⟨_, _, _, he⟩ := initializeVM_eq s r
    rw [he]; exact ⟨hs.idle, hs.tracked⟩
  | setState st env =>
    simp only [step, Option.ite_none_left_eq_some, Option.some.injEq] at h
    exact h.2 ▸ settled_setState hs ha
  | shutdownStart =>
    simp only [step, Option.ite_none_left_eq_some, Option.some.injEq] at h
    obtain ⟨-, rfl⟩ := h
    unfold Sys.shutdownStart; split
    · exact hs
    · refine ⟨hs.idle, fun k c g hm => ?_⟩
      rcases hs.tracked k c g hm with hc | hc <;> simp [hc]
  | shutdownFinish =>
    simp only [step, Option.ite_none_right_eq_some, Option.some.injEq] at h
    obtain ⟨-, rfl⟩ := h
    exact ⟨hs.idle, hs.tracked⟩
  | loopBegin i =>
    simp only [step] at h
    split at h
    · rename_i l hi
      simp only [Option.ite_none_right_eq_some, Option.map_eq_some'] at h
      obtain ⟨-, pc, hpc, rfl⟩ := h
      unfold Sys.loopBegin at hpc
      split at hpc <;> cases hpc
      refine ⟨fun hb => by simp [hs.idle hb] at hi, fun k c g hm => ?_⟩
      rcases List.mem_or_eq_of_mem_set hm with hm | hm
      · exact hs.tracked k c g hm
      · cases hm; exact .inl ‹_›
    · cases h
  | loopExit i =>
    simp only [step] at h
    split at h
    · simp only [Option.ite_none_right_eq_some, Option.some.injEq] at h
      obtain ⟨-, rfl⟩ := h
      exact ⟨fun hb => by simp [hs.idle hb],
        fun k c g hm => hs.tracked k c g (List.mem_of_mem_eraseIdx hm)⟩
    · cases h

/-- Every run without a call that clears `bootstrapped` keeps `Settled`. -/
theorem settled_run {s s' : Sys} (hs : s.Settled) :
    ∀ {acts : List Act}, (∀ a ∈ acts, a.clearsBootstrapped = false) → run s acts = some s' →
      s'.Settled
  | [], _, h => by cases h; exact hs
  | _ :: _, ha, h =>
    let ⟨_, h₁, h₂⟩ := run_cons.1 h
    settled_run (settled_step hs (ha _ (List.mem_cons_self _ _)) h₁)
      (fun a h => ha a (List.mem_cons_of_mem _ h)) h₂

/-- Before the first `SetState(NormalOp)` no loop exists: no other step spawns one. -/
theorem loops_nil_step {s s' : Sys} {a : Act} (hl : s.loops = []) (ha : a.startsNormalOp = false)
    (h : step s a = some s') : s'.loops = [] := by
  cases a with
  | initializeVM r =>
    simp only [step, Option.ite_none_left_eq_some, Option.some.injEq] at h
    obtain ⟨-, rfl⟩ := h
    obtain ⟨_, _, _, he⟩ := initializeVM_eq s r
    rw [he]; exact hl
  | setState st env =>
    simp only [step, Option.ite_none_left_eq_some, Option.some.injEq] at h
    obtain ⟨-, rfl⟩ := h
    cases st with
    | normalOp => cases ha
    | _ => exact hl
  | shutdownStart =>
    simp only [step, Option.ite_none_left_eq_some, Option.some.injEq] at h
    obtain ⟨-, rfl⟩ := h
    unfold Sys.shutdownStart; split <;> exact hl
  | shutdownFinish =>
    simp only [step, Option.ite_none_right_eq_some, Option.some.injEq] at h
    exact h.2 ▸ hl
  | loopBegin i => simp [step, hl] at h
  | loopExit i => simp [step, hl] at h

/-! ## One loop of each kind -/

theorem countP_set_of_eq {α : Type} (p : α → Bool) {l : List α} {i : Nat} {x : α}
    (hi : l[i]? = some x) (a : α) (hp : p a = p x) : (l.set i a).countP p = l.countP p := by
  obtain ⟨hlt, rfl⟩ := List.getElem?_eq_some_iff.1 hi
  have := List.boole_getElem_le_countP p l i hlt
  rw [List.countP_set p l i a hlt, hp]; omega

/-- At most one loop of each kind, and every running loop runs with its kind's current
gossiper. -/
structure Sys.Paired (s : Sys) : Prop where
  oneOfEach : ∀ k, s.loops.countP (fun l => decide (l.kind = k)) ≤ 1
  gossiper : ∀ k c g, (⟨k, .running c g⟩ : Loop) ∈ s.loops → s.gossiper k = some g

/-- A state with no loop is paired. -/
theorem Sys.Paired.of_loops_nil {s : Sys} (hl : s.loops = []) : s.Paired :=
  ⟨fun _ => by simp [hl], fun _ _ _ h => by simp [hl] at h⟩

/-- Loops are spawned only onto none, both at once; the gossipers change only then. -/
theorem paired_setState {s : Sys} (hs : s.Settled) (hp : s.Paired) {st : SnowState}
    {env : GossipEnv} (ha : (Act.setState st env).clearsBootstrapped = false) :
    (s.setState st env).2.Paired := by
  cases st with
  | stateSyncing => cases ha
  | bootstrapping => cases ha
  | other name => exact hp
  | normalOp =>
    cases hb : s.bootstrapped
    · obtain ⟨-, -, hl⟩ := setState_normalOp_spec s env hb
      have hl' : (s.setState .normalOp env).2.loops = [] ∨
          (s.setState .normalOp env).2.loops = [⟨.push, .spawned⟩, ⟨.pull, .spawned⟩] := by
        rcases hl with ⟨-, -, hl⟩ | ⟨hl, -⟩ <;> simp [hl, hs.idle hb]
      refine ⟨fun k => ?_, fun k c g hm => ?_⟩
      · rcases hl' with hl' | hl' <;> rw [hl'] <;> cases k <;> decide
      · rcases hl' with hl' | hl' <;> rw [hl'] at hm <;> simp at hm
    · rw [setState_normalOp_of_bootstrapped s env hb]; exact hp

/-- Every step other than the two that clear `bootstrapped` keeps `Paired`, from a settled
state. -/
theorem paired_step {s s' : Sys} {a : Act} (hs : s.Settled) (hp : s.Paired)
    (ha : a.clearsBootstrapped = false) (h : step s a = some s') : s'.Paired := by
  cases a with
  | initializeVM r =>
    simp only [step, Option.ite_none_left_eq_some, Option.some.injEq] at h
    obtain ⟨-, rfl⟩ := h
    obtain ⟨_, _, _, he⟩ := initializeVM_eq s r
    rw [he]; exact ⟨hp.oneOfEach, hp.gossiper⟩
  | setState st env =>
    simp only [step, Option.ite_none_left_eq_some, Option.some.injEq] at h
    exact h.2 ▸ paired_setState hs hp ha
  | shutdownStart =>
    simp only [step, Option.ite_none_left_eq_some, Option.some.injEq] at h
    obtain ⟨-, rfl⟩ := h
    unfold Sys.shutdownStart; split
    · exact hp
    · exact ⟨hp.oneOfEach, hp.gossiper⟩
  | shutdownFinish =>
    simp only [step, Option.ite_none_right_eq_some, Option.some.injEq] at h
    obtain ⟨-, rfl⟩ := h
    exact ⟨hp.oneOfEach, hp.gossiper⟩
  | loopBegin i =>
    simp only [step] at h
    split at h
    · rename_i l hi
      simp only [Option.ite_none_right_eq_some, Option.map_eq_some'] at h
      obtain ⟨-, pc, hpc, rfl⟩ := h
      refine ⟨fun k => (countP_set_of_eq (fun x : Loop => decide (x.kind = k)) hi ⟨l.kind, pc⟩ rfl).trans_le
        (hp.oneOfEach k), fun k c g hm => ?_⟩
      rcases List.mem_or_eq_of_mem_set hm with hm | hm
      · exact hp.gossiper k c g hm
      · unfold Sys.loopBegin at hpc
        split at hpc <;> cases hpc
        cases hm; assumption
    · cases h
  | loopExit i =>
    simp only [step] at h
    split at h
    · simp only [Option.ite_none_right_eq_some, Option.some.injEq] at h
      obtain ⟨-, rfl⟩ := h
      exact ⟨fun k => ((List.eraseIdx_sublist _ _).countP_le _).trans (hp.oneOfEach k),
        fun k c g hm => hp.gossiper k c g (List.mem_of_mem_eraseIdx hm)⟩
    · cases h

/-- Every run without a call that clears `bootstrapped` keeps `Paired`, from a settled state. -/
theorem paired_run {s s' : Sys} (hs : s.Settled) (hp : s.Paired) :
    ∀ {acts : List Act}, (∀ a ∈ acts, a.clearsBootstrapped = false) → run s acts = some s' →
      s'.Paired
  | [], _, h => by cases h; exact hp
  | a :: _, ha, h =>
    let ⟨_, h₁, h₂⟩ := run_cons.1 h
    have ha₀ := ha a (List.mem_cons_self _ _)
    paired_run (settled_step hs ha₀ h₁) (paired_step hs hp ha₀ h₁)
      (fun a h => ha a (List.mem_cons_of_mem _ h)) h₂

/-! ## Without returning to bootstrapping -/

/-- Along a run with no return to state syncing or bootstrapping after normal operation began,
from a state with no loop, the state stays settled and paired: no loop exists up to the first
`SetState(NormalOp)`, and every later step keeps both. -/
theorem settled_paired_run {s s' : Sys} (hl : s.loops = []) :
    ∀ {acts : List Act}, noReentry acts = true → run s acts = some s' → s'.Settled ∧ s'.Paired
  | [], _, h => by cases h; exact ⟨.of_loops_nil hl, .of_loops_nil hl⟩
  | a :: acts, hn, h => by
    obtain ⟨s₁, h₁, h₂⟩ := run_cons.1 h
    simp only [noReentry] at hn
    split_ifs at hn with ha
    · have hall : ∀ b ∈ a :: acts, b.clearsBootstrapped = false :=
        List.forall_mem_cons.2 ⟨Act.clearsBootstrapped_of_startsNormalOp ha, by simpa using hn⟩
      exact ⟨settled_run (.of_loops_nil hl) hall h,
        paired_run (.of_loops_nil hl) (.of_loops_nil hl) hall h⟩
    · exact settled_paired_run (loops_nil_step hl (Bool.eq_false_iff.2 ha) h₁) hn h₂

/-- Along a run from the zero VM with no `SetState(StateSyncing)` or `SetState(Bootstrapping)`
after the first `SetState(NormalOp)`, no loop is left over a lost context, so a call of
`Shutdown` can return. -/
theorem shutdown_returns_without_reentry {acts : List Act} {s : Sys}
    (hacts : noReentry acts = true) (h : run Sys.init acts = some s)
    (hctx : s.hasCtx = true) (hsd : s.shutdown = false) (hst : s.stopped = false) :
    ∃ acts' s', run s (.shutdownStart :: acts') = some s' ∧ Act.shutdownFinish ∈ acts' :=
  shutdown_returns_of_no_orphan ⟨acts, h⟩ hctx hsd hst
    (settled_paired_run rfl hacts h).1.not_orphaned

/-- `shutdown_returns_without_reentry` after `bootRun`, which bootstraps before normal
operation. -/
theorem bootRun_shutdown :
    noReentry bootRun = true ∧ run Sys.init bootRun = some bootedSys ∧
      bootedSys.hasCtx = true ∧ bootedSys.shutdown = false ∧ bootedSys.stopped = false ∧
      ∃ acts' s', run bootedSys (.shutdownStart :: acts') = some s' ∧
        Act.shutdownFinish ∈ acts' :=
  ⟨rfl, rfl, rfl, rfl, rfl, @shutdown_returns_without_reentry bootRun bootedSys rfl rfl rfl rfl rfl⟩

/-- Along a run from the zero VM with no `SetState(StateSyncing)` or `SetState(Bootstrapping)`
after the first `SetState(NormalOp)`, at most one push and one pull loop run, and each runs
with the current gossiper of its kind and over the current context or a cancelled one. -/
theorem loops_without_reentry {acts : List Act} {s : Sys}
    (hacts : noReentry acts = true) (h : run Sys.init acts = some s) :
    (∀ k, (s.running k).length ≤ 1) ∧
      ∀ k c g, (⟨k, .running c g⟩ : Loop) ∈ s.loops →
        s.gossiper k = some g ∧ (s.gossipCtx = some c ∨ c ∈ s.cancelled) := by
  obtain ⟨hs, hp⟩ := settled_paired_run rfl hacts h
  refine ⟨fun k => ?_, fun k c g hm => ⟨hp.gossiper k c g hm, hs.tracked k c g hm⟩⟩
  calc (s.running k).length
      = s.loops.countP (fun l => decide (l.kind = k ∧ l.pc ≠ .spawned)) :=
        (List.countP_eq_length_filter _ _).symm
    _ ≤ s.loops.countP (fun l => decide (l.kind = k)) :=
        List.countP_mono_left fun _ _ h => by simp only [decide_eq_true_eq] at h ⊢; exact h.1
    _ ≤ 1 := hp.oneOfEach k

/-- `loops_without_reentry` after `bootRun`, which bootstraps before normal operation. -/
theorem bootRun_loops :
    noReentry bootRun = true ∧ run Sys.init bootRun = some bootedSys ∧
      (∀ k, (bootedSys.running k).length ≤ 1) ∧
      ∀ k c g, (⟨k, .running c g⟩ : Loop) ∈ bootedSys.loops →
        bootedSys.gossiper k = some g ∧ (bootedSys.gossipCtx = some c ∨ c ∈ bootedSys.cancelled) :=
  ⟨rfl, rfl, @loops_without_reentry bootRun bootedSys rfl rfl⟩

end BtcVM.Lifecycle
