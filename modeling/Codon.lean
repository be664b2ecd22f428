import Codon.Core
import Codon.Library.Ledger
import Codon.Library.Walk
import Codon.StateMachine.ForceState
import Codon.StateMachine.Roster
import Codon.StateMachine.AsyncTimeouts
import Codon.StateMachine.SyncTimeouts
import Codon.Slate.Refusal
import Codon.Slate.Rollback
import Codon.Slate.SingleSetters
import Codon.Slate.Aliases
import Codon.Slate.SubSlate
import Codon.Slate.Creation
import Codon.Slate.PathSet
import Codon.Slate.Tokens
import Codon.Slate.MedianVote
import Codon.Grpc.RateLimit
import Codon.Grpc.PollAsap
import Codon.Grpc.Wedge
import Codon.Grpc.Stub
import Codon.Grpc.Rotation
import Codon.Command.Replay
import Codon.Async.DeferredCallbackQueue
import Codon.Signals.Refinement
import Codon.Net.Pruning
import Codon.Net.FdDispatch
import Codon.Slate.PathTree
import Codon.Curl.InProgress
import Codon.Net.EpollAgrees
import Codon.Net.BagSlots
import Codon.Grpc.SslChannels
import Codon.Io.UseAfterClose
import Codon.Io.StreamFlow
import Codon.Io.Connected
import Codon.Io.Multicast
import Codon.Io.Reconnect
import Codon.StateMachine.ValidateGraph
import Codon.StateMachine.CmdAllowed
import Codon.Util.Lock
import Codon.Util.FiniteMap
import Codon.Util.SortedArrays
import Codon.Telemetry.Aggregation
import Codon.Telemetry.Claim
import Codon.Net.EpollTimeout
import Codon.Grpc.AcquisitionOfSignal
import Codon.Command.SymbolTable
import Codon.Grpc.Backoff
import Codon.Grpc.TargetSelection
import Codon.Net.MaxConnections
import Codon.Io.TcpConnect
import Codon.Slate.IntRoundTrip
import Codon.Slate.CommandNames
import Codon.Slate.FailedCreation
import Codon.Hash.Digest
import Codon.Util.MonotonicPool
import Codon.Slate.BufferMemory
import Codon.Util.LockProgress
import Codon.Curl.RetryBudget
import Codon.Curl.Progress
import Codon.Slate.CombinerInit
import Codon.Telemetry.ParsedFlows
import Codon.Io.LowLatency
import Codon.Grpc.RunnerProgress
import Codon.Util.CriticalSection
import Codon.Io.StreamPipe
import Codon.Slate.Latches
import Codon.Library.History
import Codon.Command.Sender
import Codon.Command.Pipeline
import Codon.Command.Refused
import Codon.Slate.Validated
import Codon.Telemetry.ParserKinds
import Codon.Telemetry.Control
import Codon.Telemetry.FanOut
import Codon.Library.QueueLog
import Codon.Io.DgramLedger
import Codon.Io.DgramReads
