import BtcVM.Builder.State

/-!
# One step of the block builder

`step s a` is the state after action `a`, or `none` when `a` cannot happen in `s` (its
goroutine is blocked or does not exist). An action is one goroutine's step or a change of
the environment:

* `awaitRecv` and `awaitSignal`: `awaitTxSubmissions` takes an event and runs
  `signalCanBuild`, whose critical section and whose `Broadcast` and `go` are two steps;
* `task i`: the `i`-th `scheduleBlockBuild` goroutine (`taskShutdown i` is its shutdown case);
* `engineRecv` and `buildStart`: the host calls `BuildBlock`, after dequeuing a `PendingTxs`
  or on its own; `build`: the call in progress takes a step;
* `waitStart`, `wait` and `waitAbort`: the host's `WaitForEvent` call, its progress and its
  cancellation or shutdown cases; `helper k`: the `k`-th `waitForNeedToBuild` helper;
* the environment: the clock, the mempool, `onTxAccepted`, `ProcessBlock` calls made by
  other goroutines (gossip `Add`, `ParseBlock`), shutdown and context cancellation.

The host's `toEngine` buffer holds `cap` messages; a send to a full buffer is dropped.

Three of the builder's promises fail on runs over the genesis VM with a buffer of one:

* `signalCanBuild` skips when "a pending build [is] scheduled", yet `handleBuildAttempt`
  clears the flag while a task may still be waiting, so a second task starts beside the
  first (`overlapping_tasks`);
* a `waitForNeedToBuild` helper parks in `Wait` without re-checking the flag, so a
  `Broadcast` issued between the caller's unlock and the helper's `Wait` is lost, be it the
  one `signalCanBuild` issues or the caller's own on cancellation (`helper_misses_broadcast`);
* a task computes its delay once, before a later build attempt, and sends `PendingTxs`
  sooner after that attempt than `RetryDelay` (`early_delivery`).
-/

namespace BtcVM.Builder

open Wire Chain

/-- One step of one goroutine, or a change of the environment. -/
inductive Act
  | tick
  | setMempool (n : Nat)
  | txAccepted
  | process (b : MsgBlock)
  | shutdown
  | cancelWait
  | awaitRecv
  | awaitSignal
  | task (i : Nat)
  | taskShutdown (i : Nat)
  | engineRecv
  | buildStart
  | build
  | waitStart
  | wait
  | waitAbort
  | helper (k : Nat)
  deriving DecidableEq, Repr

/-- `onTxAccepted`, after the mempool took a transaction: the event is queued in
`txSubmitChan`, or dropped when the channel is full. -/
def Sys.onTxAccepted (s : Sys) : Sys :=
  { s with
    mempool := s.mempool + 1
    txSubmit := if s.txSubmit < txSubmitChannelSize then s.txSubmit + 1 else s.txSubmit }

/-- `signalCanBuild`'s critical section. The flag is set; the result is `true` when it was
clear, and then the caller goes on to `Broadcast` and start a task. -/
def Sys.signalLock (s : Sys) : Bool × Sys := (!s.pending, { s with pending := true })

/-- `BuildBlock` takes `vm.buildBlockLock`, checks the adapter and takes `BestSnapshot`. -/
def Sys.startBuild (s : Sys) : Sys :=
  if !s.vm.hasAdapter then s else { s with build := some (.fetched s.vm.chain.bestHash) }

/-- The loop condition of `waitForNeedToBuild`, checked with `b.lock` held. With work to do,
the flag is cleared and the call returns, and `waitForEvent` takes `BestSnapshot`; otherwise
a helper is started and the lock is released into the `select`. -/
def Sys.waitCheck (s : Sys) : Sys :=
  if !s.pending && !s.needToBuild then
    { s with helpers := s.helpers ++ [.spawned false], wait := .selecting s.helpers.length }
  else { s with pending := false, wait := .fetched s.vm.chain.bestHash }

/-- `WaitForEvent` returns. -/
def Sys.endWait (s : Sys) : Sys := { s with wait := .idle, ctxDone := false }

/-- The `k`-th helper has closed its channel. -/
def Sys.helperClosed (s : Sys) (k : Nat) : Bool := s.helpers[k]? = some .closed

section Step

variable (doubleHashH : List UInt8 → Hash) (gen : TemplateGenerator) (cap : Nat)

/-- One step of a `scheduleBlockBuild` goroutine: its next program counter (`none` once it
returns) and the new state. -/
def taskStep (s : Sys) : TaskPc → Option (Option TaskPc × Sys)
  | .start => some (some (.fetched s.vm.chain.bestHash), s)
  | .fetched h =>
    match blockByHash doubleHashH s.vm.chain h with
    | none => some (none, { s with pending := false })
    | some _ =>
      let delay := calculateBuildingDelay s.lastBuild h s.now
      if 0 < delay then some (some (.sleeping (s.now + delay)), s) else some (some .checking, s)
  | .sleeping deadline => if deadline ≤ s.now then some (some .checking, s) else none
  | .checking =>
    if s.needToBuild then some (some .notifying, s) else some (none, { s with pending := false })
  | .notifying =>
    if s.toEngine < cap then some (none, { s with toEngine := s.toEngine + 1 }.log (.deliver s.now))
    else some (none, s)

/-- The `i`-th task takes a step. -/
def Sys.stepTask (s : Sys) (i : Nat) : Option Sys :=
  match s.tasks[i]? with
  | none => none
  | some pc => (taskStep doubleHashH cap s pc).map fun (pc', s') =>
      { s' with tasks := match pc' with
                         | some p => s.tasks.set i p
                         | none => s.tasks.eraseIdx i }

/-- One step of the `BuildBlock` call in progress: its next program counter (`none` once it
returns) and the new state. -/
def buildStep (s : Sys) : BuildPc → Option BuildPc × Sys
  | .fetched h =>
    match blockByHash doubleHashH s.vm.chain h with
    | none => (none, s)
    | some _ =>
      (some .cleared, { s with lastBuild := some ⟨s.now, h⟩, pending := false }.log (.attempt s.now h))
  | .cleared =>
    if s.needToBuild then
      let (flipped, s') := s.signalLock
      (some (if flipped then .signaling else .generating), s')
    else (some .generating, s)
  | .signaling => (some .generating, s.broadcast.spawnTask)
  | .generating =>
    match s.vm.buildOnTemplate doubleHashH gen with
    | (.error _, vm') => (none, { s with vm := vm' })
    | (.ok a, vm') =>
      (some .built, { s with vm := vm' }.log (.built s.now (hashToID vm'.chain.bestHash = a.id)))
  | .built => (none, { s with pending := false })

/-- One step of the `WaitForEvent` call in progress, other than its cancellation cases. -/
def waitStep (s : Sys) : WaitPc → Option Sys
  | .idle => none
  | .selecting k => if s.helperClosed k then some s.waitCheck else none
  | .draining k => if s.helperClosed k then some s.endWait else none
  | .fetched h =>
    match blockByHash doubleHashH s.vm.chain h with
    | none => some s.endWait
    | some _ =>
      let delay := calculateBuildingDelay s.lastBuild h s.now
      if 0 < delay then some { s with wait := .sleeping (s.now + delay) }
      else some (s.endWait.log (.deliver s.now))
  | .sleeping deadline => if deadline ≤ s.now then some (s.endWait.log (.deliver s.now)) else none

/-- The `ctx.Done()` and `shutdownChan` cases of `WaitForEvent`'s two `select`s. -/
def waitAbort (s : Sys) : WaitPc → Option Sys
  | .selecting k => if s.ctxDone || s.shutdown then some { s.broadcast with wait := .draining k } else none
  | .sleeping _ => if s.ctxDone || s.shutdown then some s.endWait else none
  | _ => none

/-- One step of a `waitForNeedToBuild` helper: lock and `Wait`, or, once woken, re-lock, close
the channel and unlock. -/
def helperStep : HelperPc → Option HelperPc
  | .spawned missed => some (.waiting missed)
  | .woken => some .closed
  | _ => none

/-- The system takes action `a`. -/
def step (s : Sys) : Act → Option Sys
  | .tick => some { s with now := s.now + 1 }
  | .setMempool n => some { s with mempool := n }
  | .txAccepted => some s.onTxAccepted
  | .process b =>
    some { s with vm := { s.vm with chain := (processBlock doubleHashH s.vm.chain b).2 } }
  | .shutdown => some { s with shutdown := true }
  | .cancelWait => if s.wait = .idle then none else some { s with ctxDone := true }
  | .awaitRecv =>
    if !s.awaitSignaling && 0 < s.txSubmit then
      let (flipped, s') := { s with txSubmit := s.txSubmit - 1 }.signalLock
      some { s' with awaitSignaling := flipped }
    else none
  | .awaitSignal =>
    if s.awaitSignaling then some { s.broadcast.spawnTask with awaitSignaling := false } else none
  | .task i => s.stepTask doubleHashH cap i
  | .taskShutdown i =>
    match s.tasks[i]? with
    | some (.sleeping _) => if s.shutdown then some { s with tasks := s.tasks.eraseIdx i } else none
    | _ => none
  | .engineRecv =>
    if s.build.isNone && 0 < s.toEngine then some { s with toEngine := s.toEngine - 1 }.startBuild
    else none
  | .buildStart => if s.build.isNone then some s.startBuild else none
  | .build =>
    match s.build with
    | none => none
    | some pc => let (pc', s') := buildStep doubleHashH gen s pc; some { s' with build := pc' }
  | .waitStart => if s.wait = .idle then some { s with ctxDone := false }.waitCheck else none
  | .wait => waitStep doubleHashH s s.wait
  | .waitAbort => waitAbort s s.wait
  | .helper k =>
    match s.helpers[k]? with
    | none => none
    | some pc => (helperStep pc).map fun pc' => { s with helpers := s.helpers.set k pc' }

/-- The state after a sequence of actions, if each can happen in turn. -/
def run (s : Sys) : List Act → Option Sys
  | [] => some s
  | a :: as => (step doubleHashH gen cap s a).bind fun s' => run s' as

/-- The states some interleaving reaches from the builder over `vm₀`. -/
def Reachable (vm₀ : VM) (s : Sys) : Prop := ∃ acts, run doubleHashH gen cap (Sys.init vm₀) acts = some s

end Step

/-! ## Runs over the genesis VM

Three promises of the builder's comments, each with a run over the genesis VM that breaks it.
-/

/-- The system over the genesis VM, with `tipGenerator` and a `toEngine` buffer of one. -/
def genesisRun (acts : List Act) : Option Sys :=
  run toyHash tipGenerator 1 (Sys.init genesisVM) acts

/-- At most one `scheduleBlockBuild` task in flight, and the flag set whenever one is. -/
def Sys.OneTaskInFlight (s : Sys) : Prop := s.tasks.length ≤ 1 ∧ (s.tasks ≠ [] → s.pending = true)

instance (s : Sys) : Decidable s.OneTaskInFlight := inferInstanceAs (Decidable (_ ∧ _))

/-- A transaction arrives and `awaitTxSubmissions` starts a task; before the task moves, the
host calls `BuildBlock`, whose `handleBuildAttempt` clears the flag, sees the mempool
non-empty and signals again. -/
def overlapTrace : List Act :=
  [.txAccepted, .awaitRecv, .awaitSignal, .buildStart, .build, .build, .build]

/-- After the attempt the first task is in flight with the flag clear; after the re-signal
two tasks are in flight. -/
theorem overlapping_tasks :
    (∃ s, genesisRun (overlapTrace.take 5) = some s ∧ s.tasks = [.start] ∧ ¬s.OneTaskInFlight) ∧
      ∃ s, genesisRun overlapTrace = some s ∧ s.tasks = [.start, .start] ∧ ¬s.OneTaskInFlight :=
  ⟨⟨_, rfl, by decide, by decide⟩, ⟨_, rfl, by decide, by decide⟩⟩

/-- Some helper is parked in `Wait` although a `Broadcast` was issued after it started. -/
def Sys.LostWakeup (s : Sys) : Prop := HelperPc.waiting true ∈ s.helpers

instance (s : Sys) : Decidable s.LostWakeup := inferInstanceAs (Decidable (_ ∈ _))

/-- `WaitForEvent` finds no work and starts a helper; a transaction arrives and
`signalCanBuild` sets the flag and broadcasts before the helper reaches `Wait`. -/
def signalRaceTrace : List Act := [.waitStart, .txAccepted, .awaitRecv, .awaitSignal, .helper 0]

/-- `WaitForEvent` finds no work and starts a helper; its context is cancelled and it
broadcasts before the helper reaches `Wait`. -/
def cancelRaceTrace : List Act := [.waitStart, .cancelWait, .waitAbort, .helper 0]

/-- In both runs the helper parks after the `Broadcast` meant for it: the caller sleeps with
the flag set, or stays on the helper's channel after its cancellation. -/
theorem helper_misses_broadcast :
    (∃ s, genesisRun signalRaceTrace = some s ∧ s.LostWakeup ∧ s.wait = .selecting 0 ∧
      s.pending = true) ∧
    ∃ s, genesisRun cancelRaceTrace = some s ∧ s.LostWakeup ∧ s.wait = .draining 0 :=
  ⟨⟨_, rfl, by decide, rfl, rfl⟩, ⟨_, rfl, by decide, rfl⟩⟩

/-- The delay contract over a log, given the latest attempt so far with whether its block
became the best block: each delivery comes `RetryDelay` after the latest attempt, and
`TargetBlockTime` after it when that attempt's block became the best block. -/
def delaysRespected : Option (Nat × Bool) → List Event → Bool
  | _, [] => true
  | _, .attempt t _ :: es => delaysRespected (some (t, false)) es
  | some (t, _), .built _ true :: es => delaysRespected (some (t, true)) es
  | last, .built _ _ :: es => delaysRespected last es
  | none, .deliver _ :: es => delaysRespected none es
  | some (l, best), .deliver t :: es =>
    (l + retryDelay ≤ t && (!best || l + targetBlockTime ≤ t)) && delaysRespected (some (l, best)) es

/-- A task computes no delay (nothing was built yet); the host's `BuildBlock` records an
attempt at time 0; a millisecond later the task sends `PendingTxs`. -/
def earlyTrace : List Act :=
  [.txAccepted, .awaitRecv, .awaitSignal, .task 0, .task 0, .buildStart, .build, .tick,
    .task 0, .task 0]

/-- The delivery at time 1 comes 1 ms after the attempt at time 0. -/
theorem early_delivery :
    ∃ s, genesisRun earlyTrace = some s ∧
      s.events = [.attempt 0 (blockHash toyHash genesisBlock), .deliver 1] ∧
      delaysRespected none s.events = false :=
  ⟨_, rfl, by decide, by decide⟩

end BtcVM.Builder
