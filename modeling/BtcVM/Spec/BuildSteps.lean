import BtcVM.Spec.Preference
import BtcVM.Builder.Step

/-!
# `BuildBlock`, step by step and at once

The block builder's model splits `VM.BuildBlock` into steps (`buildStep`), so that the other
goroutines may run between its `BestSnapshot`, its `handleBuildAttempt`, its `signalCanBuild`
and its template; the store and preference results use `VM.buildBlock`, the same call run at
once. Run with nothing in between, the steps leave the VM as `VM.buildBlock` does, and log a
built block exactly when `VM.buildBlock` returns one (`buildSteps_refine_buildBlock`).
-/

namespace BtcVM.Builder

open Wire Chain

section Alone

variable (doubleHashH : List UInt8 → Hash) (gen : TemplateGenerator) (cap : Nat)

/-- With no `BuildBlock` call in progress, the host's call run alone ends with the VM that
`VM.buildBlock` returns, adds only log entries, and logs a built block exactly when
`VM.buildBlock` returns one. -/
theorem buildSteps_refine_buildBlock {s : Sys} (hb : s.build = none) :
    ∃ n s' new, run doubleHashH gen cap s (.buildStart :: List.replicate n .build) = some s' ∧
      s'.build = none ∧ s'.vm = (s.vm.buildBlock doubleHashH gen).2 ∧ s'.events = s.events ++ new ∧
      ((∃ a, (s.vm.buildBlock doubleHashH gen).1 = .ok a) ↔ ∃ t b, Event.built t b ∈ new) := by
  cases ha : s.vm.hasAdapter
  case false =>
    exact ⟨0, s, [], by simp [run, step, hb, Sys.startBuild, ha], hb, by simp [VM.buildBlock, ha],
      by simp, by simp [VM.buildBlock, ha]⟩
  rcases hl : blockByHash doubleHashH s.vm.chain s.vm.chain.bestHash with _ | nd
  case none =>
    refine ⟨1, _, [], by simp [run, step, hb, Sys.startBuild, ha, buildStep, hl]; rfl, ?_, ?_, ?_, ?_⟩
    all_goals simp [VM.buildBlock, ha, VM.getCurrentBlock, hl]
  -- `getCurrentBlock` succeeds: the attempt is recorded, and the template decides the rest.
  have hcur : s.vm.buildBlock doubleHashH gen = s.vm.buildOnTemplate doubleHashH gen := by
    simp [VM.buildBlock, ha, VM.getCurrentBlock, hl]
  have hpre : ∀ rest, run doubleHashH gen cap s (.buildStart :: .build :: rest) =
      run doubleHashH gen cap
        ({ s with lastBuild := some ⟨s.now, s.vm.chain.bestHash⟩, pending := false,
                  events := s.events ++ [.attempt s.now s.vm.chain.bestHash],
                  build := some .cleared } : Sys) rest := by
    intro rest
    simp only [run, step, hb, Option.isNone_none, if_true, Sys.startBuild, ha, Bool.not_true,
      Bool.false_eq_true, if_false, Option.some_bind, buildStep, hl, Sys.log]
  rw [hcur]
  obtain ⟨c, hc⟩ := VM.buildOnTemplate_vm doubleHashH gen s.vm
  rcases hbt : s.vm.buildOnTemplate doubleHashH gen with ⟨_ | a, vm'⟩ <;> rw [hbt] at hc <;>
    dsimp only at hc <;> subst hc <;> by_cases hn : 0 < s.mempool
  -- The template fails, after a `signalCanBuild` when the mempool has work.
  · refine ⟨4, _, [.attempt s.now s.vm.chain.bestHash], by
      rw [List.replicate_succ, hpre]
      simp only [run, step, buildStep, Sys.needToBuild, hn, decide_True, if_true, Sys.signalLock,
        Bool.not_false, Sys.broadcast, Sys.spawnTask, hbt, Option.some_bind]
      rfl, ?_, ?_, ?_, ?_⟩
    all_goals simp [ha]
  · refine ⟨3, _, [.attempt s.now s.vm.chain.bestHash], by
      rw [List.replicate_succ, hpre]
      simp only [run, step, buildStep, Sys.needToBuild, hn, decide_False, Bool.false_eq_true,
        if_false, hbt, Option.some_bind]
      rfl, ?_, ?_, ?_, ?_⟩
    all_goals simp [ha]
  -- The block is built, then `clearPendingSignal` ends the call.
  · refine ⟨5, _, [.attempt s.now s.vm.chain.bestHash, .built s.now (hashToID c.bestHash = a.id)], by
      rw [List.replicate_succ, hpre]
      simp only [run, step, buildStep, Sys.needToBuild, hn, decide_True, if_true, Sys.signalLock,
        Bool.not_false, Sys.broadcast, Sys.spawnTask, hbt, Option.some_bind, Sys.log, List.append_assoc,
        List.singleton_append]
      rfl, ?_, ?_, ?_, ?_⟩
    all_goals simp [ha]
  · refine ⟨4, _, [.attempt s.now s.vm.chain.bestHash, .built s.now (hashToID c.bestHash = a.id)], by
      rw [List.replicate_succ, hpre]
      simp only [run, step, buildStep, Sys.needToBuild, hn, decide_False, Bool.false_eq_true,
        if_false, hbt, Option.some_bind, Sys.log, List.append_assoc, List.singleton_append]
      rfl, ?_, ?_, ?_, ?_⟩
    all_goals simp [ha]

end Alone

/-- `buildSteps_refine_buildBlock` for the builder over the genesis VM. -/
theorem genesis_buildSteps :
    (Sys.init genesisVM).build = none ∧
      ∃ n s' new, run toyHash tipGenerator 1 (Sys.init genesisVM)
          (.buildStart :: List.replicate n .build) = some s' ∧
        s'.build = none ∧ s'.vm = (genesisVM.buildBlock toyHash tipGenerator).2 ∧
        s'.events = (Sys.init genesisVM).events ++ new ∧
        ((∃ a, (genesisVM.buildBlock toyHash tipGenerator).1 = .ok a) ↔
          ∃ t b, Event.built t b ∈ new) :=
  ⟨rfl, buildSteps_refine_buildBlock toyHash tipGenerator 1 rfl⟩

end BtcVM.Builder
