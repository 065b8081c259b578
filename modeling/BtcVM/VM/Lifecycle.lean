import Mathlib.Data.List.Basic

/-!
# The VM's lifecycle and its gossip goroutines

`Initialize`, `SetState` and `Shutdown` as the consensus engine calls them, one at a time,
and the two goroutines `startGossipLoops` spawns, which run beside them.

`SetState(NormalOp)` on a VM that is not bootstrapped sets the flag, makes a new gossip
context together with its cancel function (`context.WithCancel`), builds the gossip system
(`initializeGossip`, which registers the gossip handler with the p2p network that
`Initialize` made), spawns the push and pull loops and starts block building. Each loop,
once it runs, reads `vm.gossipCtx` and its gossiper and runs `gossip.Every` until that context
is cancelled; `shutdownWg` counts the loops. `Shutdown` cancels the current context, closes
`shutdownChan` and waits for the count to reach zero.

Contexts and gossipers are numbered in the order they are made. The calls `initializeGossip`
and `Initialize` make outside `src/` (metalgo's gossip and p2p packages, btcd's loader) are
inputs: the environment says which of them fails, and with which error.

`step s a` is the state after action `a`, or `none` when `a` cannot happen in `s`: a call
while `Shutdown` is blocked, `SetState` or `Shutdown` before `Initialize` has set `vm.ctx`
(they would dereference it), or a goroutine step its goroutine is not at.
-/

namespace BtcVM.Lifecycle

/-- The two loops of `startGossipLoops`. -/
inductive LoopKind
  | push
  | pull
  deriving DecidableEq, Repr

/-- A gossip goroutine: spawned, or running `gossip.Every` over the context and the gossiper it
read when its body began. -/
inductive LoopPc
  | spawned
  | running (ctx : Nat) (gossiper : Nat)
  deriving DecidableEq, Repr

/-- A goroutine counted by `shutdownWg`. -/
structure Loop where
  kind : LoopKind
  pc : LoopPc
  deriving DecidableEq, Repr

/-- The `VM` fields the lifecycle reads and writes. `gossipCtx` stands for `vm.gossipCtx` and
`vm.cancel`, which are always assigned together; `loops` are the goroutines `shutdownWg`
counts, so its counter is their number. -/
structure Sys where
  /-- `vm.ctx` is set: `Initialize` has been called. -/
  hasCtx : Bool
  initialized : Bool
  /-- `vm.blockBuilder != nil`. -/
  hasBuilder : Bool
  /-- `vm.p2pValidators != nil`. -/
  hasValidators : Bool
  bootstrapped : Bool
  stopped : Bool
  gossipCtx : Option Nat
  /-- The contexts whose cancel function has been called. -/
  cancelled : List Nat
  pushGossiper : Option Nat
  pullGossiper : Option Nat
  /-- `vm.p2pNetwork` has a handler registered under `BTCGossipHandlerID`. -/
  handlerAdded : Bool
  loops : List Loop
  /-- A `Shutdown` call is blocked in `shutdownWg.Wait`. -/
  shutdown : Bool
  /-- The number the next context or gossiper gets. -/
  next : Nat
  deriving DecidableEq, Repr

/-- The zero `VM`, before any call. -/
def Sys.init : Sys :=
  ⟨false, false, false, false, false, false, none, [], none, none, false, [], false, 0⟩

/-- Where `Initialize` fails, with the error of the call outside `src/`: the JSON decoding of
`parseGenesisBytes`, `btcd.LoadConfig`, `btcd.BtcdMain` and `p2p.NewNetwork`. -/
inductive InitFailure
  | genesis (err : String)
  | config (err : String)
  | adapter (err : String)
  | network (err : String)

/-- What the calls `initializeGossip` makes outside `src/` return: the errors of
`gossip.NewBloomFilter`, `gossip.NewMetrics`, `gossip.NewPushGossiper` and
`p2pNetwork.AddHandler` for an ID with no handler (`none` when they succeed), whether the snow
context has a validator state, which `InitializeValidators` needs, and the error with which
the network refuses an ID that already has a handler. -/
structure GossipEnv where
  bloomFilter : Option String
  metrics : Option String
  validatorState : Bool
  pushGossiper : Option String
  handler : Option String
  handlerTaken : String

/-- Every call succeeds that can: the network still refuses a second handler under one ID,
with metalgo's `ErrExistingAppProtocol`. -/
def GossipEnv.ok : GossipEnv :=
  ⟨none, none, true, none, none, "failed to register handler id 100: existing app protocol"⟩

/-- The `snow.State` `SetState` is called with; `other` is any other value, with its
`String()`. -/
inductive SnowState
  | stateSyncing
  | bootstrapping
  | normalOp
  | other (name : String)

/-- `VM.Initialize`. It sets `vm.ctx` first; the default gossip configuration always passes
`Validate`, and the block builder is made once `BtcdMain` has succeeded. -/
def Sys.initializeVM (s : Sys) (r : Option InitFailure) : Except String Unit × Sys :=
  let s := { s with hasCtx := true }
  if s.initialized then (.error "VM already initialized", s) else
  match r with
  | some (.genesis e) => (.error s!"failed to parse genesis: failed to unmarshal genesis bytes: {e}", s)
  | some (.config e) => (.error s!"failed to parse config: {e}", s)
  | some (.adapter e) => (.error s!"failed to initialize btcd adapter: {e}", s)
  | some (.network e) => (.error s!"failed to create p2p network: {e}", { s with hasBuilder := true })
  | none => (.ok (), { s with hasBuilder := true, initialized := true, handlerAdded := false })

/-- `p2pNetwork.AddHandler(BTCGossipHandlerID, handler)`, of metalgo's `p2p.Network` outside
`src/`: it registers the handler or returns an error, and refuses an ID that already has a
handler. -/
def Sys.addHandler (s : Sys) (env : GossipEnv) : Option String :=
  if s.handlerAdded then some env.handlerTaken else env.handler

/-- `initializeGossip`. The fields it assigns before a later call fails stay assigned; the
validator set is made only once. -/
def Sys.initializeGossip (s : Sys) (env : GossipEnv) : Except String Unit × Sys :=
  match env.bloomFilter with
  | some e => (.error s!"failed to create bloom filter: {e}", s)
  | none =>
  match env.metrics with
  | some e => (.error s!"failed to create gossip metrics: {e}", s)
  | none =>
  if !s.hasValidators && !env.validatorState then
    (.error "failed to initialize validators: validator state not initialized", s) else
  let s := { s with hasValidators := true }
  match env.pushGossiper with
  | some e => (.error s!"failed to create push gossiper: {e}", s)
  | none =>
  let s := { s with pushGossiper := some s.next, pullGossiper := some (s.next + 1),
                    next := s.next + 2 }
  match s.addHandler env with
  | some e => (.error s!"failed to register gossip handler: {e}", s)
  | none => (.ok (), { s with handlerAdded := true })

/-- `startGossipLoops`: `shutdownWg.Add(1)` and `go` for the push loop, then the pull loop. -/
def Sys.startGossipLoops (s : Sys) : Sys :=
  { s with loops := s.loops ++ [⟨.push, .spawned⟩, ⟨.pull, .spawned⟩] }

/-- `onNormalOperationsStarted`: a new context and cancel function replace the old ones, which
is not called; then the gossip system is built and the loops are spawned. -/
def Sys.onNormalOperationsStarted (s : Sys) (env : GossipEnv) : Except String Unit × Sys :=
  let s := { s with gossipCtx := some s.next, next := s.next + 1 }
  match s.initializeGossip env with
  | (.error e, s) => (.error s!"failed to initialize gossip: {e}", s)
  | (.ok (), s) => (.ok (), s.startGossipLoops)

/-- `initBlockBuilding`; the builder's own goroutines are the block builder's model. -/
def Sys.initBlockBuilding (s : Sys) : Except String Unit × Sys :=
  if !s.hasBuilder then (.error "block builder not initialized", s) else (.ok (), s)

/-- `VM.SetState`. -/
def Sys.setState (s : Sys) (st : SnowState) (env : GossipEnv) : Except String Unit × Sys :=
  match st with
  | .stateSyncing => (.ok (), { s with bootstrapped := false })
  | .bootstrapping => (.ok (), { s with bootstrapped := false })
  | .normalOp =>
    if s.bootstrapped then (.ok (), s) else
    match ({ s with bootstrapped := true } : Sys).onNormalOperationsStarted env with
    | (.error e, s) => (.error e, s)
    | (.ok (), s) => s.initBlockBuilding
  | .other name => (.error s!"unknown state: {name}", s)

/-- `VM.Shutdown` up to `shutdownWg.Wait`: nothing once stopped; otherwise the current context
is cancelled, `shutdownChan` is closed and the call blocks. -/
def Sys.shutdownStart (s : Sys) : Sys :=
  if s.stopped then s else
  { s with cancelled := s.gossipCtx.toList ++ s.cancelled, shutdown := true }

/-- `vm.pushGossiper` or `vm.pullGossiper`. -/
def Sys.gossiper (s : Sys) : LoopKind → Option Nat
  | .push => s.pushGossiper
  | .pull => s.pullGossiper

/-- The body of a spawned loop reads `vm.gossipCtx` and its gossiper. Both are set before
`startGossipLoops` runs. -/
def Sys.loopBegin (s : Sys) (k : LoopKind) : Option LoopPc :=
  match s.gossipCtx, s.gossiper k with
  | some c, some g => some (.running c g)
  | _, _ => none

/-- One step of the lifecycle: a call of the engine, or a step of a gossip goroutine. -/
inductive Act
  | initializeVM (r : Option InitFailure)
  | setState (st : SnowState) (env : GossipEnv)
  | shutdownStart
  /-- `shutdownWg.Wait` returns, `stopped` is set and `Shutdown` returns. -/
  | shutdownFinish
  /-- The `i`-th loop's body begins. -/
  | loopBegin (i : Nat)
  /-- The `i`-th loop sees its context cancelled, leaves `gossip.Every` and calls `Done`. -/
  | loopExit (i : Nat)

/-- The system takes action `a`. -/
def step (s : Sys) : Act → Option Sys
  | .initializeVM r => if s.shutdown then none else some (s.initializeVM r).2
  | .setState st env => if s.shutdown || !s.hasCtx then none else some (s.setState st env).2
  | .shutdownStart => if s.shutdown || !s.hasCtx then none else some s.shutdownStart
  | .shutdownFinish =>
    if s.shutdown && s.loops.isEmpty then some { s with stopped := true, shutdown := false }
    else none
  | .loopBegin i =>
    match s.loops[i]? with
    | some l =>
      if l.pc = .spawned then
        (s.loopBegin l.kind).map fun pc => { s with loops := s.loops.set i ⟨l.kind, pc⟩ }
      else none
    | none => none
  | .loopExit i =>
    match s.loops[i]? with
    | some ⟨_, .running c _⟩ =>
      if c ∈ s.cancelled then some { s with loops := s.loops.eraseIdx i } else none
    | _ => none

/-- The state after a sequence of actions, if each can happen in turn. -/
def run (s : Sys) : List Act → Option Sys
  | [] => some s
  | a :: as => (step s a).bind fun s' => run s' as

/-- The states some sequence of calls and goroutine steps reaches from the zero `VM`. -/
def Reachable (s : Sys) : Prop := ∃ acts, run Sys.init acts = some s

/-- The running loops of one kind. -/
def Sys.running (s : Sys) (k : LoopKind) : List Loop :=
  s.loops.filter fun l => decide (l.kind = k ∧ l.pc ≠ .spawned)

end BtcVM.Lifecycle
