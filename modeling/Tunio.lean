import Tunio.Serial
import Tunio.Slice
import Tunio.Types
import Tunio.Output
import Tunio.Lifecycle
import Tunio.Receive
import Tunio.Course
import Tunio.Desk
import Tunio.Directory
import Tunio.Stock
import Tunio.Udp
import Tunio.Sessions
import Tunio.SessionTable
import Tunio.Expiry
import Tunio.PacketBuffer
import Tunio.QueueWriter
import Tunio.Writing
import Tunio.TunioImpl
import Tunio.Generations
import Tunio.Octets
import Tunio.OnesComplement
import Tunio.IpPacket
import Tunio.World
import Tunio.Dispatch
import Tunio.Parsers
import Tunio.Builders
import Tunio.Encoding
import Tunio.Recycling
import Tunio.Decoding
import Tunio.Queues
import Tunio.Books
import Tunio.FlowTable
import Tunio.Accepting
import Tunio.Reorder
import Tunio.Input
import Tunio.Send
import Tunio.Api
import Tunio.Run
import Tunio.HalfClose
import Tunio.Frame
import Tunio.Inbox
import Tunio.Aside
import Tunio.Cache
import Tunio.Stored
import Tunio.Reassembly
import Tunio.Integrity
import Tunio.Window
import Tunio.Handshake
import Tunio.Machine
import Tunio.Tape
import Tunio.Sender
import Tunio.Refine
import Tunio.Acknowledge
import Tunio.Coroutine
import Tunio.Simulation
import Tunio.Retained
import Tunio.PeerWindow
import Tunio.Effect
import Tunio.Diagram
import Tunio.Closed
import Tunio.Cached
import Tunio.Coverage
import Tunio.Completion
import Tunio.Engaged
import Tunio.Scaling
import Tunio.Validation
import Tunio.Marks
import Tunio.Feeding
import Tunio.Times
import Tunio.Projection
import Tunio.Reclaim
import Tunio.Emission
import Tunio.Closing
import Tunio.Shutdown
import Tunio.Discard
import Tunio.Freeze
import Tunio.Updates
import Tunio.Capacity
import Tunio.Engines
import Tunio.Spilling
import Tunio.Starvation
import Tunio.Activity
import Tunio.Sending
import Tunio.Retransmission
import Tunio.RoundTrip
import Tunio.Shelving
import Tunio.Overtaking
import Tunio.SynOptions
import Tunio.SendRange
import Tunio.Acceptance
import Tunio.Refusal
import Tunio.Splitting
import Tunio.Checksums
import Tunio.Echoes
import Tunio.Mtu
import Tunio.Handover
import Tunio.Conveyance
import Tunio.Polling
import Tunio.Inbound
import Tunio.Descriptors
import Tunio.Orderly
