import DpaProvider.Library.Stepper
import DpaProvider.Library.ByteMem
import DpaProvider.Library.Circular
import DpaProvider.Library.Effect
import DpaProvider.Library.Ledger
import DpaProvider.Library.Slist
import DpaProvider.Library.Search
import DpaProvider.Library.Buckets
import DpaProvider.Library.Monitor
import DpaProvider.Library.Blocks
import DpaProvider.Library.Vectors
import DpaProvider.Library.Accesses
import DpaProvider.Library.Until
import DpaProvider.Library.Mask
import DpaProvider.Library.Decimal
import DpaProvider.Library.Arena
import DpaProvider.Fabric
import DpaProvider.Dpa
import DpaProvider.Objects
import DpaProvider.Info
import DpaProvider.Addresses
import DpaProvider.Msg.Ring
import DpaProvider.Msg.Frames
import DpaProvider.Msg.Steps
import DpaProvider.Msg.ChannelInv
import DpaProvider.Msg.Calls
import DpaProvider.Msg.Delivery
import DpaProvider.Msg.Receivable
import DpaProvider.Msg.Queue
import DpaProvider.Msg.Endpoint
import DpaProvider.Msg.Accounting
import DpaProvider.Msg.Pair
import DpaProvider.Msg.Lockstep
import DpaProvider.Msg.Truncation
import DpaProvider.Msg.Bounds
import DpaProvider.Msg.Locks
import DpaProvider.Msg.Limit
import DpaProvider.Msg.Apps
import DpaProvider.Msg.Transport
import DpaProvider.Msg.Liveness
import DpaProvider.Msg.Network
import DpaProvider.Msg.Cursors
import DpaProvider.Msg.Nodes
import DpaProvider.Cm.Site
import DpaProvider.Cm.Buffers
import DpaProvider.Cm.Connect
import DpaProvider.Cm.Wakeup
import DpaProvider.Cm.Release
import DpaProvider.Cm.Footprint
import DpaProvider.Cm.Process
import DpaProvider.Cm.Polling
import DpaProvider.Cm.Reads
import DpaProvider.Cm.Gating
import DpaProvider.Cm.Recycling
import DpaProvider.Cm.Numbers
import DpaProvider.Cm.Handshake
import DpaProvider.Cm.Layout
import DpaProvider.Cm.Agreement
import DpaProvider.Cm.Allocations
import DpaProvider.Cm.Capable
import DpaProvider.Rma.Transfer
import DpaProvider.Rma.Notify
import DpaProvider.Rma.Coherence
import DpaProvider.Rma.Frames
import DpaProvider.Rma.Flush
import DpaProvider.Rma.Vectors
import DpaProvider.Rma.Memory
import DpaProvider.Rma.Reporting
import DpaProvider.Cq.Events
import DpaProvider.Cq.Progress
import DpaProvider.Cq.Interrupts
import DpaProvider.Rma.Notifications
import DpaProvider.Eq.Events
import DpaProvider.Eq.Precedence
import DpaProvider.Eq.Sread
import DpaProvider.Library.Tickets
import DpaProvider.Eq.Spin
import DpaProvider.Eq.Order
import DpaProvider.Cntr.Counters
import DpaProvider.Cntr.Wait
import DpaProvider.Av.Array
import DpaProvider.Mr.HashMap
import DpaProvider.Mr.Regions
import DpaProvider.Cm.Segments
import DpaProvider.Cm.Exhaustion
import DpaProvider.Cm.Exits
import DpaProvider.Cm.TableBounds
import DpaProvider.Cm.Settings
import DpaProvider.Cm.Session
import DpaProvider.Negotiation
import DpaProvider.Opening
import DpaProvider.Lifetimes.Objects
import DpaProvider.Lifetimes.References
import DpaProvider.Lifetimes.Closing
