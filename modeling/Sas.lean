import Sas.Foundation.BigEndian
import Sas.Foundation.Chain
import Sas.Foundation.Each
import Sas.Foundation.Fallible
import Sas.Foundation.HeapArray
import Sas.Foundation.Log
import Sas.Foundation.Memory
import Sas.Foundation.Run
import Sas.Platform
import Sas.Transport
import Sas.Packet
import Sas.Format
import Sas.Stale
import Sas.Rxc.Logic
import Sas.Rxc.Pipeline
import Sas.Rxc.Reentrancy
import Sas.Chunk
import Sas.Server.Wav
import Sas.Server.Session
import Sas.Server.Table
import Sas.Server.Timeout
import Sas.Server.Pending
import Sas.Server.Run
import Sas.Server.Loop
import Sas.Server.Waiting
import Sas.Server.TableChains
import Sas.Server.TableInvariant
import Sas.Server.TableDelete
import Sas.Server.Directory
import Sas.Server.Pull
import Sas.Server.Reaction
import Sas.Server.SessionRun
import Sas.Server.Stream
import Sas.Server.Linked
import Sas.Server.Answer
import Sas.Server.Descriptors
import Sas.Server.Attempt
import Sas.Server.DescriptorRun
import Sas.Server.Numbering
import Sas.Client.Session
import Sas.Client.Receive
import Sas.Client.Reaction
import Sas.Client.Run
import Sas.Client.Demand
import Sas.Client.Numbering
import Sas.System.Pair
import Sas.System.Handshake
import Sas.System.Fifo
import Sas.System.Backlog
import Sas.Rxc.Erasure
import Sas.Client.Progress
import Sas.Client.Faults
import Sas.Foundation.Ledger
import Sas.Client.Oss
import Sas.Client.Connect
import Sas.Client.Playback
import Sas.Client.Replies
import Sas.Client.Reset
import Sas.Client.Stale
import Sas.Server.Stale
import Sas.System.Stale
import Sas.System.Wire
import Sas.System.FileName
import Sas.System.Parameters
import Sas.Server.Refusal
import Sas.Server.Resets
import Sas.System.Forgotten
import Sas.Foundation.LinkedQueue
import Sas.Rxc.Trampoline
import Sas.Rxc.Scheduling
import Sas.Rxc.TaskTree
import Sas.Rxc.Mirror
import Sas.Rxc.Stages
import Sas.Rxc.Flattened
import Sas.Foundation.Settles
import Sas.Rxc.Serving
import Sas.Rxc.Counting
import Sas.Rxc.Meaning
import Sas.Once
import Sas.Server.Once
import Sas.Client.Once
import Sas.System.Once
import Sas.Server.Lifetime
import Sas.Foundation.HeapOrder
import Sas.Server.Urgency
import Sas.Server.Expiry
import Sas.Server.Timing
import Sas.Server.Bounds
import Sas.Server.PriorityQueue
import Sas.System.Calm
import Sas.Server.TableRuns
import Sas.Server.Acceptance
import Sas.Rxc.Saturation
import Sas.Rxc.Failure
import Sas.Rxc.Cancelling
import Sas.System.SendFailure
import Sas.System.Integrity
import Sas.System.Course
import Sas.System.Tenancy
import Sas.System.Completion
import Sas.System.Crowd
import Sas.System.Service
import Sas.System.Pieces
import Sas.System.Gaps
import Sas.Rxc.Ownership
import Sas.Rxc.EmptySource
import Sas.Rxc.Depth
import Sas.Rxc.Fusion
import Sas.Server.Chronicle
import Sas.Server.Clients
import Sas.Server.Crashes
import Sas.Server.Idle
import Sas.Server.Tenure
