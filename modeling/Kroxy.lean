import Kroxy.Go.Basic
import Kroxy.Go.Net
import Kroxy.Lib.Program
import Kroxy.Auth.Sasl
import Kroxy.Lib.Prefix
import Kroxy.Lib.Store
import Kroxy.Lib.Weave
import Kroxy.Lib.Serve
import Kroxy.Lib.Rows
import Kroxy.Lib.BigEndian
import Kroxy.Protocol.Header
import Kroxy.Kmsg.Messages
import Kroxy.Rewrite.Basic
import Kroxy.Rewrite.Topics
import Kroxy.Rewrite.Groups
import Kroxy.Rewrite.Api
import Kroxy.Kmsg.Codec
import Kroxy.Kmsg.Wire
import Kroxy.Resolver.Memory
import Kroxy.Upstream.Conn
import Kroxy.Proxy.Conn
import Kroxy.Proxy.Serve
import Kroxy.Proofs.RequestNames
import Kroxy.Proofs.Namespaces
import Kroxy.Proofs.FetchSession
import Kroxy.Proofs.TenantTable
import Kroxy.Proofs.Exchange
import Kroxy.Proofs.Dial
import Kroxy.Proofs.Turn
import Kroxy.Proofs.AuthGate
import Kroxy.Proofs.Ordering
import Kroxy.Proofs.ScramRelay
import Kroxy.Proofs.Confinement
import Kroxy.Broker.Model
import Kroxy.Proofs.VirtualCluster
import Kroxy.Proofs.FrameStream
import Kroxy.Proofs.Replies
import Kroxy.Proofs.HeaderBounds
import Kroxy.Kmsg.Formatter
import Kroxy.Proofs.HeaderFormat
import Kroxy.Lib.InPlace
import Kroxy.Proofs.Filtering
import Kroxy.Kmsg.Fields
import Kroxy.Proofs.PlainLogin
import Kroxy.Kmsg.Blobs
import Kroxy.Broker.Group
import Kroxy.Proofs.Rebalance
import Kroxy.Proofs.OpaqueBlobs
import Kroxy.Kmsg.Schema
import Kroxy.Proofs.WireLengths
import Kroxy.Proofs.RelayVerbatim
import Kroxy.Proofs.ClientFirst
import Kroxy.Proofs.Coordinators
import Kroxy.Proofs.Uvarint
import Kroxy.Config.Config
import Kroxy.Proofs.Advertised
import Kroxy.Resolver.Calls
import Kroxy.Admin.Server
import Kroxy.Proofs.TenantStore
import Kroxy.Proofs.Refusals
import Kroxy.Lib.Erase
import Kroxy.Observability.Metrics
import Kroxy.Proxy.Metered
import Kroxy.Lib.Interleave
import Kroxy.Proxy.Listener
import Kroxy.Proofs.Goroutines
import Kroxy.Proofs.Shutdown
import Kroxy.Proofs.Delivery
import Kroxy.Lib.Fails
import Kroxy.Proofs.Crash
import Kroxy.Proofs.Forwarding
import Kroxy.Proofs.SharedCluster
import Kroxy.Lib.Leaves
import Kroxy.Proofs.Instruments
import Kroxy.Proofs.Revocation
import Kroxy.Cmd.Main
import Kroxy.Proofs.Startup
import Kroxy.Proofs.Exit
import Kroxy.Proofs.Translation
import Kroxy.Lib.Remote
import Kroxy.Admin.Client
import Kroxy.Proofs.RemoteAdmin
