import BtcVM.Wire.MsgBlock
import BtcVM.Gossip.Codec
import BtcVM.Gossip.LockOrder
import BtcVM.Gossip.LockProgress
import BtcVM.Gossip.Set
import BtcVM.Gossip.Config
import BtcVM.Spec.GossipRoundTrip
import BtcVM.Spec.GossipSet
import BtcVM.Engine.BlockChain
import BtcVM.VM.Basic
import BtcVM.VM.Lifecycle
import BtcVM.Builder.State
import BtcVM.Builder.Step
import BtcVM.Builder.Invariant
import BtcVM.Spec.ParseBlock
import BtcVM.Spec.Preference
import BtcVM.Spec.SignalGuard
import BtcVM.Spec.BuildSteps
import BtcVM.Spec.Store
import BtcVM.Spec.Node
import BtcVM.Spec.Lifecycle
import BtcVM.Spec.Shutdown
