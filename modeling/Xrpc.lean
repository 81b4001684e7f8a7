import Xrpc.Support.Run
import Xrpc.Support.Effect
import Xrpc.Wire.RoundTrip
import Xrpc.Core.Server
import Xrpc.Transport.Client
import Xrpc.Transport.Survival
import Xrpc.Wire.Damage
import Xrpc.Core.Framing
import Xrpc.Core.Channel
import Xrpc.Core.Targets
import Xrpc.Core.RemoteCall
import Xrpc.Transport.Exchange
import Xrpc.Core.Matching
import Xrpc.Registry.Client
import Xrpc.Registry.Tree
import Xrpc.Registry.Ownership
import Xrpc.Registry.Cache
import Xrpc.Registry.Heartbeat
import Xrpc.Registry.Methods
import Xrpc.Registry.Interleaving
import Xrpc.Registry.Reconciliation
import Xrpc.Core.RunningCall
import Xrpc.Core.Completion
import Xrpc.Core.Silence
import Xrpc.Core.Teardown
import Xrpc.Transport.Writes
import Xrpc.Core.Reception
import Xrpc.Core.Dispatch
import Xrpc.Core.Intelligible
import Xrpc.Core.Addresses
import Xrpc.Registry.Lifecycle
import Xrpc.Registry.HeartbeatLife
import Xrpc.Core.Locks
import Xrpc.Registry.Watch
import Xrpc.Registry.Segments
import Xrpc.Registry.NodeView
import Xrpc.Registry.Updates
import Xrpc.Registry.Recreation
import Xrpc.Registry.OwnDelete
import Xrpc.Core.Reentrance
import Xrpc.Core.Cancellation
import Xrpc.Core.Config
import Xrpc.Core.ConfigFile
import Xrpc.Transport.Reconnect
import Xrpc.Core.ThrowingClosure
import Xrpc.Core.Registration
import Xrpc.Registry.ReadBack
import Xrpc.Registry.Deletion
import Xrpc.Core.ErrorTexts
import Xrpc.Registry.Provenance
import Xrpc.Registry.Threads
import Xrpc.Registry.Schedules
import Xrpc.Registry.Progress
import Xrpc.Transport.Conservation
import Xrpc.Core.AtMostOnce
import Xrpc.Core.Hosting
import Xrpc.Registry.Renewal
import Xrpc.Support.Simulation
import Xrpc.Registry.Directory
import Xrpc.Transport.Conversations
import Xrpc.Registry.Expiry
import Xrpc.Core.Deployment
import Xrpc.Core.SharedProgress
import Xrpc.Transport.ServerStop
import Xrpc.Core.Logger
