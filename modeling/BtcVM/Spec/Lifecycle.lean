import BtcVM.VM.Lifecycle

/-!
# Gossip loops across the lifecycle

A call of the engine never cancels a context and never stops a loop: it keeps the loops there
are and may spawn two more, and it keeps the current context or replaces it by a fresh one
(`Sys.CallFrame`). Only `Shutdown` cancels, and only the current context. So a loop running
over a context that is no longer current, and was not cancelled, runs for ever, and
`shutdownWg.Wait` never returns (`orphaned_run`).

`SetState(Bootstrapping)` clears `bootstrapped` and a later `SetState(NormalOp)` replaces the
context without calling the old cancel function: the loops started by the first
`SetState(NormalOp)` are left over the old context, and no later `Shutdown` completes
(`reentry_orphans`). The call itself then fails, since the p2p network refuses a second gossip
handler (`bootedSys_reentry`).

`SetState(NormalOp)` sets `bootstrapped` before it builds the gossip system; when that fails,
every later `SetState(NormalOp)` up to a `Bootstrapping` returns nil with no loop started
(`setState_normalOp_retry`).
-/

namespace BtcVM.Lifecycle

/-! ## Lists -/

theorem mem_set_of_ne {α : Type} {l : List α} {x y z : α} {i : Nat} (hx : x ∈ l)
    (hi : l[i]? = some y) (hne : y ≠ x) : x ∈ l.set i z := by
  obtain ⟨j, hj⟩ := List.mem_iff_getElem?.1 hx
  have hij : i ≠ j := by rintro rfl; exact hne (Option.some.inj (hi.symm.trans hj))
  exact List.getElem?_mem (by rwa [List.getElem?_set_ne hij])

/-- Erasing another index keeps an element in a list. -/
theorem mem_eraseIdx_of_ne {α : Type} {l : List α} {x y : α} {i : Nat} (hx : x ∈ l)
    (hi : l[i]? = some y) (hne : y ≠ x) : x ∈ l.eraseIdx i := by
  obtain ⟨j, hj⟩ := List.mem_iff_getElem?.1 hx
  have hij : j ≠ i := by rintro rfl; exact hne (Option.some.inj (hi.symm.trans hj))
  exact List.mem_eraseIdx_iff_getElem?.2 ⟨j, hij, hj⟩

/-! ## What a call does to the goroutines -/

/-- `s'` keeps the loops of `s` and may add spawned ones after them, cancels nothing, and keeps
the current context or replaces it by the fresh context `s.next`. -/
structure Sys.CallFrame (s s' : Sys) : Prop where
  loops : ∃ new, s'.loops = s.loops ++ new ∧ ∀ l ∈ new, l.pc = .spawned
  cancelled : s'.cancelled = s.cancelled
  gossipCtx : s'.gossipCtx = s.gossipCtx ∨ s'.gossipCtx = some s.next ∧ s.next < s'.next
  next : s.next ≤ s'.next

/-- A call that changes none of the four. -/
theorem Sys.CallFrame.of_eq {s s' : Sys} (hl : s'.loops = s.loops) (hc : s'.cancelled = s.cancelled)
    (hg : s'.gossipCtx = s.gossipCtx) (hn : s'.next = s.next) : s.CallFrame s' :=
  ⟨⟨[], by simp [hl], by simp⟩, hc, .inl hg, hn.ge⟩

/-- `initializeGossip` assigns the validator flag, the gossipers, the handler and `next`, and
nothing else. -/
theorem initializeGossip_state (s : Sys) (env : GossipEnv) :
    ∃ hv p q ha n, s.next ≤ n ∧ (s.initializeGossip env).2 =
      { s with hasValidators := hv, pushGossiper := p, pullGossiper := q, handlerAdded := ha,
               next := n } := by
  dsimp only [Sys.initializeGossip]
  repeat' split
  all_goals exact ⟨_, _, _, _, _, by omega, rfl⟩

/-- `Initialize` keeps the loops, the cancelled contexts, the context and `next`. -/
theorem initializeVM_frame (s : Sys) (r : Option InitFailure) : s.CallFrame (s.initializeVM r).2 := by
  dsimp only [Sys.initializeVM]
  repeat' split
  all_goals exact .of_eq rfl rfl rfl rfl

/-- `onNormalOperationsStarted` makes the fresh context `s.next` current, cancels nothing, and
either fails building the gossip system, with no loop spawned, or spawns both loops. -/
theorem onNormalOperationsStarted_spec (s : Sys) (env : GossipEnv) :
    (s.onNormalOperationsStarted env).2.gossipCtx = some s.next ∧
      s.next < (s.onNormalOperationsStarted env).2.next ∧
      (s.onNormalOperationsStarted env).2.cancelled = s.cancelled ∧
      (s.onNormalOperationsStarted env).2.bootstrapped = s.bootstrapped ∧
      (s.onNormalOperationsStarted env).2.hasBuilder = s.hasBuilder ∧
      ((∃ e : String, (s.onNormalOperationsStarted env).1 = .error s!"failed to initialize gossip: {e}" ∧
          (s.onNormalOperationsStarted env).2.loops = s.loops) ∨
        (s.onNormalOperationsStarted env).1 = .ok () ∧
          (s.onNormalOperationsStarted env).2.loops = s.loops ++ [⟨.push, .spawned⟩, ⟨.pull, .spawned⟩]) := by
  obtain ⟨hv, p, q, ha, n, hn, he⟩ :=
    initializeGossip_state { s with gossipCtx := some s.next, next := s.next + 1 } env
  dsimp only at hn
  dsimp only [Sys.onNormalOperationsStarted]
  split <;> rename_i h <;> rw [h] at he <;> subst he
  · exact ⟨rfl, by dsimp only; omega, rfl, rfl, rfl, .inl ⟨_, rfl, rfl⟩⟩
  · exact ⟨rfl, by dsimp only [Sys.startGossipLoops]; omega, rfl, rfl, rfl, .inr ⟨rfl, rfl⟩⟩

/-- `onNormalOperationsStarted` is a call's frame: it spawns loops and replaces the context. -/
theorem onNormalOperationsStarted_frame (s : Sys) (env : GossipEnv) :
    s.CallFrame (s.onNormalOperationsStarted env).2 := by
  obtain ⟨hg, hn, hc, -, -, ⟨_, -, hl⟩ | ⟨-, hl⟩⟩ := onNormalOperationsStarted_spec s env
  · exact ⟨⟨[], by simp [hl], by simp⟩, hc, .inr ⟨hg, hn⟩, hn.le⟩
  · exact ⟨⟨_, hl, by simp⟩, hc, .inr ⟨hg, hn⟩, hn.le⟩

/-- `SetState` is a call's frame, whichever state it is called with. -/
theorem setState_frame (s : Sys) (st : SnowState) (env : GossipEnv) :
    s.CallFrame (s.setState st env).2 := by
  unfold Sys.setState
  split
  · exact .of_eq rfl rfl rfl rfl
  · exact .of_eq rfl rfl rfl rfl
  · split
    · exact .of_eq rfl rfl rfl rfl
    · have h : s.CallFrame ({ s with bootstrapped := true }.onNormalOperationsStarted env).2 :=
        let h := onNormalOperationsStarted_frame { s with bootstrapped := true } env
        ⟨h.1, h.2, h.3, h.4⟩
      split <;> rename_i he <;> rw [he] at h
      · exact h
      · unfold Sys.initBlockBuilding; split <;> exact h
  · exact .of_eq rfl rfl rfl rfl

/-! ## `SetState(NormalOp)` -/

/-- `SetState(NormalOp)` on a VM that is not bootstrapped sets the flag and makes the context
`s.next` current; then either building the gossip system fails and no loop is spawned, or both
loops are spawned and the call returns what `initBlockBuilding` returns. -/
theorem setState_normalOp_spec (s : Sys) (env : GossipEnv) (hb : s.bootstrapped = false) :
    (s.setState .normalOp env).2.bootstrapped = true ∧
      (s.setState .normalOp env).2.gossipCtx = some s.next ∧
      ((∃ e : String, (s.setState .normalOp env).1 = .error s!"failed to initialize gossip: {e}" ∧
          (s.setState .normalOp env).2.loops = s.loops) ∨
        (s.setState .normalOp env).2.loops = s.loops ++ [⟨.push, .spawned⟩, ⟨.pull, .spawned⟩] ∧
          (s.setState .normalOp env).1 =
            if s.hasBuilder then .ok () else .error "block builder not initialized") := by
  obtain ⟨hg, -, -, hbt, hbu, hr⟩ := onNormalOperationsStarted_spec { s with bootstrapped := true } env
  simp only [Sys.setState, hb, Bool.false_eq_true, if_false]
  rcases hon : ({ s with bootstrapped := true } : Sys).onNormalOperationsStarted env with ⟨_ | _, s'⟩
  all_goals rw [hon] at hg hbt hbu hr
  · obtain ⟨e, he, hl⟩ | ⟨he, -⟩ := hr <;> cases he
    exact ⟨hbt, hg, .inl ⟨e, rfl, hl⟩⟩
  · obtain ⟨e, he, -⟩ | ⟨-, hl⟩ := hr
    · cases he
    · simp only [Sys.initBlockBuilding] at hbt hg hbu hl ⊢
      rw [hbu]
      cases s.hasBuilder <;> exact ⟨hbt, hg, .inr ⟨hl, rfl⟩⟩

/-- On a bootstrapped VM `SetState(NormalOp)` returns nil and does nothing. -/
theorem setState_normalOp_of_bootstrapped (s : Sys) (env : GossipEnv) (hb : s.bootstrapped = true) :
    s.setState .normalOp env = (.ok (), s) := by
  simp [Sys.setState, hb]

/-- A `SetState(NormalOp)` that fails to build the gossip system spawns no loop and leaves the VM
bootstrapped, so the next `SetState(NormalOp)` returns nil and starts nothing. -/
theorem setState_normalOp_retry (s : Sys) (env env' : GossipEnv) (e : String)
    (hb : s.bootstrapped = false)
    (he : (s.setState .normalOp env).1 = .error s!"failed to initialize gossip: {e}") :
    (s.setState .normalOp env).2.loops = s.loops ∧
      (s.setState .normalOp env).2.setState .normalOp env' = (.ok (), (s.setState .normalOp env).2) := by
  obtain ⟨hbt, -, ⟨_, -, hl⟩ | ⟨-, hr⟩⟩ := setState_normalOp_spec s env hb
  · exact ⟨hl, setState_normalOp_of_bootstrapped _ env' hbt⟩
  · rw [hr] at he
    split at he
    · cases he
    · have h := congrArg (fun m => m.data.head?) (Except.error.inj he)
      have hf : (toString "failed to initialize gossip: " ++ toString e ++ toString "").data.head? =
          some 'f' := rfl
      exact absurd (h.trans hf) (by decide)

/-- Every call of `initializeGossip` succeeds but `gossip.NewBloomFilter`. -/
def bloomFailEnv : GossipEnv := { GossipEnv.ok with bloomFilter := some "out of memory" }

/-- `setState_normalOp_retry` on the zero `VM` when the bloom filter cannot be made. -/
theorem init_setState_normalOp_retry :
    Sys.init.bootstrapped = false ∧
      (Sys.init.setState .normalOp bloomFailEnv).1 =
        .error "failed to initialize gossip: failed to create bloom filter: out of memory" ∧
      (Sys.init.setState .normalOp bloomFailEnv).2.loops = Sys.init.loops ∧
      (Sys.init.setState .normalOp bloomFailEnv).2.setState .normalOp .ok =
        (.ok (), (Sys.init.setState .normalOp bloomFailEnv).2) :=
  have he : (Sys.init.setState .normalOp bloomFailEnv).1 =
      .error "failed to initialize gossip: failed to create bloom filter: out of memory" := rfl
  ⟨rfl, he, setState_normalOp_retry Sys.init bloomFailEnv .ok
    "failed to create bloom filter: out of memory" rfl he⟩

/-! ## One step -/

/-- What one step can do: a call of the engine (its frame), the start of `Shutdown`, the end of
`Shutdown` once no loop is left, a spawned loop reading the current context, or a loop whose
context was cancelled leaving. -/
theorem step_cases {s s' : Sys} {a : Act} (h : step s a = some s') :
    s.CallFrame s' ∨ s' = s.shutdownStart ∨
      (s.loops = [] ∧ s' = { s with stopped := true, shutdown := false }) ∨
      (∃ i l c g, s.loops[i]? = some l ∧ l.pc = .spawned ∧ s.gossipCtx = some c ∧
        s' = { s with loops := s.loops.set i ⟨l.kind, .running c g⟩ }) ∨
      (∃ i k c g, s.loops[i]? = some ⟨k, .running c g⟩ ∧ c ∈ s.cancelled ∧
        s' = { s with loops := s.loops.eraseIdx i }) := by
  cases a with
  | initializeVM r =>
    simp only [step, Option.ite_none_left_eq_some, Option.some.injEq] at h
    exact .inl (h.2 ▸ initializeVM_frame s r)
  | setState st env =>
    simp only [step, Option.ite_none_left_eq_some, Option.some.injEq] at h
    exact .inl (h.2 ▸ setState_frame s st env)
  | shutdownStart =>
    simp only [step, Option.ite_none_left_eq_some, Option.some.injEq] at h
    exact .inr (.inl h.2.symm)
  | shutdownFinish =>
    simp only [step, Option.ite_none_right_eq_some, Option.some.injEq, Bool.and_eq_true,
      List.isEmpty_iff] at h
    exact .inr (.inr (.inl ⟨h.1.2, h.2.symm⟩))
  | loopBegin i =>
    simp only [step] at h
    split at h
    · simp only [Option.ite_none_right_eq_some, Option.map_eq_some'] at h
      obtain ⟨hsp, pc, hpc, rfl⟩ := h
      unfold Sys.loopBegin at hpc
      split at hpc <;> cases hpc
      exact .inr (.inr (.inr (.inl ⟨i, _, _, _, ‹_›, hsp, ‹_›, rfl⟩)))
    · cases h
  | loopExit i =>
    simp only [step] at h
    split at h
    · simp only [Option.ite_none_right_eq_some, Option.some.injEq] at h
      exact .inr (.inr (.inr (.inr ⟨i, _, _, _, ‹_›, h.1, h.2.symm⟩)))
    · cases h

/-- A run is its first step followed by the rest. -/
theorem run_cons {s s' : Sys} {a : Act} {acts : List Act} :
    run s (a :: acts) = some s' ↔ ∃ s₁, step s a = some s₁ ∧ run s₁ acts = some s' :=
  Option.bind_eq_some

/-! ## Every context was made before `next` -/

/-- The current context and every running loop's context were made before `next`. -/
def Fresh (s : Sys) : Prop :=
  (∀ c, s.gossipCtx = some c → c < s.next) ∧
    ∀ k c g, (⟨k, .running c g⟩ : Loop) ∈ s.loops → c < s.next

/-- A call keeps every context made before `next`. -/
theorem Sys.CallFrame.fresh {s s' : Sys} (h : s.CallFrame s') (hs : Fresh s) : Fresh s' := by
  obtain ⟨⟨new, hl, hnew⟩, -, hg, hn⟩ := h
  refine ⟨fun c hc => ?_, fun k c g hm => ?_⟩
  · rcases hg with hg | ⟨hg, hlt⟩ <;> rw [hg] at hc
    · exact lt_of_lt_of_le (hs.1 c hc) hn
    · exact Option.some.inj hc ▸ hlt
  · rw [hl, List.mem_append] at hm
    rcases hm with hm | hm
    · exact lt_of_lt_of_le (hs.2 k c g hm) hn
    · cases hnew _ hm


/-- Every step keeps every context made before `next`. -/
theorem fresh_step {s s' : Sys} {a : Act} (hs : Fresh s) (h : step s a = some s') : Fresh s' := by
  rcases step_cases h with hf | rfl | ⟨-, rfl⟩ | ⟨i, l, c, g, -, -, hc, rfl⟩ | ⟨i, k, c, g, -, -, rfl⟩
  · exact hf.fresh hs
  · unfold Sys.shutdownStart; split
    · exact hs
    · exact hs
  · exact hs
  · refine ⟨hs.1, fun k' c' g' hm => ?_⟩
    rcases List.mem_or_eq_of_mem_set hm with hm | hm
    · exact hs.2 k' c' g' hm
    · cases hm; exact hs.1 c hc
  · exact ⟨hs.1, fun k' c' g' hm => hs.2 k' c' g' (List.mem_of_mem_eraseIdx hm)⟩

/-- Every run keeps every context made before `next`. -/
theorem fresh_run {s s' : Sys} (hs : Fresh s) : ∀ {acts}, run s acts = some s' → Fresh s'
  | [], h => by cases h; exact hs
  | _ :: _, h =>
    let ⟨_, h₁, h₂⟩ := run_cons.1 h
    fresh_run (fresh_step hs h₁) h₂

/-- In every reachable state, every context was made before `next`. -/
theorem Reachable.fresh {s : Sys} (h : Reachable s) : Fresh s :=
  let ⟨_, h⟩ := h
  fresh_run ⟨fun _ h => (by cases h), fun _ _ _ h => (by cases h)⟩ h

/-! ## Loops over a lost context -/

/-- A loop of kind `k` runs over context `c` with gossiper `g`, and `c` is neither cancelled nor
current, and was made before `next`. -/
structure Orphaned (k : LoopKind) (c g : Nat) (s : Sys) : Prop where
  mem : (⟨k, .running c g⟩ : Loop) ∈ s.loops
  not_cancelled : c ∉ s.cancelled
  not_current : s.gossipCtx ≠ some c
  lt_next : c < s.next

/-- A call leaves a loop over a lost context where it is. -/
theorem Sys.CallFrame.orphaned {s s' : Sys} (h : s.CallFrame s') {k c g} (ho : Orphaned k c g s) :
    Orphaned k c g s' := by
  obtain ⟨⟨new, hl, -⟩, hcan, hg, hn⟩ := h
  refine ⟨hl ▸ List.mem_append_left _ ho.mem, hcan ▸ ho.not_cancelled, ?_, by
    have := ho.lt_next; omega⟩
  rcases hg with hg | ⟨hg, -⟩ <;> rw [hg]
  · exact ho.not_current
  · simpa using (Nat.ne_of_gt ho.lt_next)

/-- No step cancels a context that is not current, stops a loop over it, or makes it current
again. -/
theorem orphaned_step {s s' : Sys} {a : Act} {k c g} (ho : Orphaned k c g s)
    (h : step s a = some s') : Orphaned k c g s' := by
  rcases step_cases h with hf | rfl | ⟨hl, -⟩ | ⟨i, l, c', g', hi, hsp, -, rfl⟩ |
      ⟨i, k', c', g', hi, hcan, rfl⟩
  · exact hf.orphaned ho
  · unfold Sys.shutdownStart; split
    · exact ho
    · refine ⟨ho.mem, ?_, ho.not_current, ho.lt_next⟩
      cases hg : s.gossipCtx <;> simp [hg, ho.not_cancelled] at ho ⊢
      exact fun h => ho.not_current (h ▸ hg)
  · exact absurd (hl ▸ ho.mem) (List.not_mem_nil _)
  · exact ⟨mem_set_of_ne ho.mem hi (fun h => by cases h; cases hsp), ho.not_cancelled,
      ho.not_current, ho.lt_next⟩
  · exact ⟨mem_eraseIdx_of_ne ho.mem hi (fun h => by cases h; exact ho.not_cancelled hcan),
      ho.not_cancelled, ho.not_current, ho.lt_next⟩

/-- While a loop runs over a lost context, it runs for ever, and no `Shutdown` completes: every
run keeps it, and none takes `shutdownWg.Wait` to its end. -/
theorem orphaned_run {s s' : Sys} {k c g} (ho : Orphaned k c g s) :
    ∀ {acts}, run s acts = some s' → Orphaned k c g s' ∧ Act.shutdownFinish ∉ acts
  | [], h => by cases h; exact ⟨ho, List.not_mem_nil _⟩
  | a :: _, h => by
    obtain ⟨s₁, h₁, h₂⟩ := run_cons.1 h
    have ha : a ≠ .shutdownFinish := by
      rintro rfl
      simp only [step, Option.ite_none_right_eq_some, Bool.and_eq_true, List.isEmpty_iff] at h₁
      exact List.not_mem_nil _ (h₁.1.2 ▸ ho.mem)
    exact ⟨(orphaned_run (orphaned_step ho h₁) h₂).1,
      List.not_mem_cons_of_ne_of_not_mem (Ne.symm ha) (orphaned_run (orphaned_step ho h₁) h₂).2⟩

/-! ## Re-entering normal operation -/

/-- In every reachable state in which a loop runs over the current context, `SetState(Bootstrapping)`
then `SetState(NormalOp)`, whatever the gossip system's calls return, leave that loop over a
context no cancel function reaches: every later run keeps it, and none completes a
`Shutdown`. -/
theorem reentry_orphans {s : Sys} {k : LoopKind} {c g : Nat} (hs : Reachable s)
    (hl : ⟨k, .running c g⟩ ∈ s.loops) (hc : s.gossipCtx = some c) (hcan : c ∉ s.cancelled)
    (env : GossipEnv) (acts : List Act) (s' : Sys)
    (hrun : run ((s.setState .bootstrapping env).2.setState .normalOp env).2 acts = some s') :
    ⟨k, .running c g⟩ ∈ s'.loops ∧ Act.shutdownFinish ∉ acts := by
  have hlt : c < s.next := hs.fresh.1 c hc
  obtain ⟨-, hg, -⟩ := setState_normalOp_spec { s with bootstrapped := false } env rfl
  obtain ⟨⟨new, hl', -⟩, hcan', -, hn⟩ := setState_frame { s with bootstrapped := false } .normalOp env
  have ho : Orphaned k c g (({ s with bootstrapped := false } : Sys).setState .normalOp env).2 :=
    ⟨by rw [hl']; exact List.mem_append_left _ hl, by rw [hcan']; exact hcan,
      by rw [hg]; simpa using Nat.ne_of_gt hlt,
      lt_of_lt_of_le hlt hn⟩
  exact ⟨(orphaned_run ho hrun).1.mem, (orphaned_run ho hrun).2⟩

/-- The run that boots the VM as the engine does: `Initialize`, `SetState` through state
syncing and bootstrapping to normal operation, and the two loops' start. -/
def bootRun : List Act :=
  [.initializeVM none, .setState .stateSyncing .ok, .setState .bootstrapping .ok,
    .setState .normalOp .ok, .loopBegin 0, .loopBegin 1]

/-- The VM after `bootRun`, with both loops running over the first context. -/
def bootedSys : Sys :=
  ⟨true, true, true, true, true, false, some 0, [], some 1, some 2, true,
    [⟨.push, .running 0 1⟩, ⟨.pull, .running 0 2⟩], false, 3⟩

/-- `reentry_orphans` at `bootedSys`: the re-entry replaces the context, then fails as the p2p
network refuses the gossip handler; the old loops stay, and `Shutdown` cancels only the new
context. -/
theorem bootedSys_reentry :
    Reachable bootedSys ∧ (⟨.push, .running 0 1⟩ : Loop) ∈ bootedSys.loops ∧
      bootedSys.gossipCtx = some 0 ∧ 0 ∉ bootedSys.cancelled ∧
      (∀ acts s', run ((bootedSys.setState .bootstrapping .ok).2.setState .normalOp .ok).2 acts = some s' →
        (⟨.push, .running 0 1⟩ : Loop) ∈ s'.loops ∧ Act.shutdownFinish ∉ acts) ∧
      ((bootedSys.setState .bootstrapping .ok).2.setState .normalOp .ok).1 =
        .error ("failed to initialize gossip: failed to register gossip handler: " ++
          "failed to register handler id 100: existing app protocol") ∧
      (run ((bootedSys.setState .bootstrapping .ok).2.setState .normalOp .ok).2
          [.shutdownStart]).map (fun s => (s.loops, s.cancelled)) =
        some ([⟨.push, .running 0 1⟩, ⟨.pull, .running 0 2⟩], [3]) :=
  have hr : Reachable bootedSys := ⟨bootRun, rfl⟩
  ⟨hr, by decide, rfl, by decide, reentry_orphans hr (by decide) rfl (by decide) .ok, rfl, rfl⟩

end BtcVM.Lifecycle
