import BtcVM.VM.Basic

/-!
# The block builder's state

`blockBuilder` and the goroutines around it: `awaitTxSubmissions`, the `scheduleBlockBuild`
tasks that `signalCanBuild` starts, the host engine's `BuildBlock` and `WaitForEvent` calls,
and the helper goroutines `waitForNeedToBuild` starts to wait on `pendingSignal`.

Each goroutine is a program counter. Code that runs with `b.lock` (or `buildBlockLock`) held
is one step, so the locks need no state of their own; a `sync.Cond` is the set of helpers
parked in `Wait`, all of which `Broadcast` wakes. Time is a millisecond counter that only the
environment advances. The mempool is its number of mining descriptors, which the
environment may change at any moment.

Two fields are ghost state, not in the source: a helper's `missed` flag records that a
`Broadcast` was issued after the helper was started and before it reached `Wait`, and
`events` logs build attempts, built blocks and `PendingTxs` deliveries with their times.
-/

namespace BtcVM.Builder

open Wire Chain

/-- `TargetBlockTime`, in milliseconds. -/
def targetBlockTime : Nat := 2000

/-- `RetryDelay`, in milliseconds. -/
def retryDelay : Nat := 100

/-- `txSubmitChannelSize`. -/
def txSubmitChannelSize : Nat := 1024

/-- What `handleBuildAttempt` records: `lastBuildTime` and `lastBuildParentHash`. -/
structure Attempt where
  time : Nat
  parent : Hash
  deriving DecidableEq, Repr

/-- `calculateBuildingDelay` at time `now`; `none` is the zero `lastBuildTime`. Natural
subtraction is the clamp of a negative remaining delay to zero. -/
def calculateBuildingDelay (last : Option Attempt) (currentBlockHash : Hash) (now : Nat) : Nat :=
  match last with
  | none => 0
  | some a =>
    let nextBuildTime :=
      if a.parent = currentBlockHash then a.time + retryDelay else a.time + targetBlockTime
    nextBuildTime - now

/-- Where a `scheduleBlockBuild` goroutine is. -/
inductive TaskPc
  /-- started, about to call `getCurrentBlock` -/
  | start
  /-- holds the best hash of `BestSnapshot`, about to call `BlockByHash` and compute its delay -/
  | fetched (h : Hash)
  /-- waiting for its timer -/
  | sleeping (deadline : Nat)
  /-- about to call `needToBuild` -/
  | checking
  /-- about to send `PendingTxs` to the host -/
  | notifying
  deriving DecidableEq, Repr

/-- Where the `BuildBlock` call in progress is. -/
inductive BuildPc
  /-- holds the best hash of `BestSnapshot`, about to call `BlockByHash` -/
  | fetched (h : Hash)
  /-- `handleBuildAttempt` recorded the attempt and cleared the flag; about to call
  `needToBuild` -/
  | cleared
  /-- its `signalCanBuild` set the flag, about to `Broadcast` and start a task -/
  | signaling
  /-- about to make the template and process it -/
  | generating
  /-- the block is in the engine; about to call `clearPendingSignal` -/
  | built
  deriving DecidableEq, Repr

/-- Where the `WaitForEvent` call in progress is. -/
inductive WaitPc
  | idle
  /-- in `waitForNeedToBuild`'s `select`, lock released, on the `k`-th helper's channel -/
  | selecting (k : Nat)
  /-- cancelled or shut down: `Broadcast` issued, waiting on the `k`-th helper's channel -/
  | draining (k : Nat)
  /-- `waitForNeedToBuild` returned; holds the best hash, about to call `BlockByHash` -/
  | fetched (h : Hash)
  /-- waiting for its timer before returning `PendingTxs` -/
  | sleeping (deadline : Nat)
  deriving DecidableEq, Repr

/-- Where a `waitForNeedToBuild` helper goroutine is. `missed` is ghost state. -/
inductive HelperPc
  /-- started, not yet holding the lock -/
  | spawned (missed : Bool)
  /-- parked in `pendingSignal.Wait` -/
  | waiting (missed : Bool)
  /-- woken by a `Broadcast`, about to re-lock and close its channel -/
  | woken
  /-- its channel is closed and it has returned -/
  | closed
  deriving DecidableEq, Repr

/-- Ghost log entries. -/
inductive Event
  /-- `handleBuildAttempt` at this time, for this parent -/
  | attempt (time : Nat) (parent : Hash)
  /-- `BuildBlock` processed its block at this time; whether it became the best block -/
  | built (time : Nat) (best : Bool)
  /-- a `PendingTxs` reached the host at this time -/
  | deliver (time : Nat)
  deriving DecidableEq, Repr

/-- The builder, the VM, the goroutines and the environment. -/
structure Sys where
  vm : VM
  /-- `hasPendingTxs` -/
  pending : Bool
  lastBuild : Option Attempt
  /-- `len(mempool.MiningDescs())` -/
  mempool : Nat
  /-- events queued in `txSubmitChan` -/
  txSubmit : Nat
  /-- `PendingTxs` messages queued in `toEngine` -/
  toEngine : Nat
  now : Nat
  /-- `shutdownChan` is closed -/
  shutdown : Bool
  /-- `awaitTxSubmissions` is inside a `signalCanBuild` that set the flag -/
  awaitSignaling : Bool
  tasks : List TaskPc
  build : Option BuildPc
  wait : WaitPc
  /-- the context of the `WaitForEvent` call in progress is done -/
  ctxDone : Bool
  helpers : List HelperPc
  events : List Event

/-- The builder right after `Initialize`, over the VM `vm`. -/
def Sys.init (vm : VM) : Sys :=
  ⟨vm, false, none, 0, 0, 0, 0, false, false, [], none, .idle, false, [], []⟩

/-- `needToBuild`: the mempool has a transaction to mine. -/
def Sys.needToBuild (s : Sys) : Bool := 0 < s.mempool

/-- `pendingSignal.Broadcast()`: every parked helper wakes; a helper not yet parked misses it. -/
def HelperPc.wake : HelperPc → HelperPc
  | .spawned _ => .spawned true
  | .waiting _ => .woken
  | pc => pc

/-- `pendingSignal.Broadcast()`. -/
def Sys.broadcast (s : Sys) : Sys := { s with helpers := s.helpers.map HelperPc.wake }

/-- `go b.scheduleBlockBuild()`. -/
def Sys.spawnTask (s : Sys) : Sys := { s with tasks := s.tasks ++ [.start] }

/-- Record an event. -/
def Sys.log (s : Sys) (e : Event) : Sys := { s with events := s.events ++ [e] }

end BtcVM.Builder
