import XnetSocket.Lib.Runs
import XnetSocket.Lib.Buffer
import XnetSocket.Lib.Slab
import XnetSocket.Lib.Pipe
import XnetSocket.Record
import XnetSocket.Frames
import XnetSocket.Outbound
import XnetSocket.EndOfStream
import XnetSocket.Lifecycle
import XnetSocket.Chunking
import XnetSocket.Communication
import XnetSocket.Factory
import XnetSocket.Io
import XnetSocket.Loop
import XnetSocket.Evolution
import XnetSocket.Custody
import XnetSocket.DataPath
import XnetSocket.Joining
import XnetSocket.TimerPath
import XnetSocket.Backlog
import XnetSocket.Unserved
import XnetSocket.Mildness
import XnetSocket.Tidying
import XnetSocket.Housekeeping
import XnetSocket.LastWord
import XnetSocket.Refusals
import XnetSocket.Intake
import XnetSocket.OutputBound
import XnetSocket.Flush
import XnetSocket.Closing
import XnetSocket.Lingering
import XnetSocket.InputBound
import XnetSocket.Phantom
import XnetSocket.BroadcastTimeout
import XnetSocket.Connecting
import XnetSocket.Broadcast
import XnetSocket.Indexing
import XnetSocket.Batches
import XnetSocket.Queueing
import XnetSocket.Streams
import XnetSocket.Delivery
import XnetSocket.Passage
import XnetSocket.Independence
import XnetSocket.Panics
import XnetSocket.Isolation
import XnetSocket.Echo
import XnetSocket.RoundTrip
import XnetSocket.Interface
import XnetSocket.Draining
import XnetSocket.Arrival
