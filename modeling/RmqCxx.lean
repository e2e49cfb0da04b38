import RmqCxx.Cpp.Code
import RmqCxx.Cpp.Runs
import RmqCxx.Cpp.Ownership
import RmqCxx.Rpc
import RmqCxx.Operation
import RmqCxx.Isolation
import RmqCxx.ReplyLifetime
import RmqCxx.FailureReports
import RmqCxx.LifeCycle
import RmqCxx.Cpp.Moves
import RmqCxx.MoveSafety
import RmqCxx.ArgumentTables
import RmqCxx.Consume
import RmqCxx.Callbacks
import RmqCxx.ConsumeRuns
import RmqCxx.ConsumeAccounts
import RmqCxx.Releases
import RmqCxx.Programs
import RmqCxx.HandedOut
import RmqCxx.Consumers
import RmqCxx.ConsumerRuns
import RmqCxx.ConsumerStreams
import RmqCxx.Deadlines
import RmqCxx.WaitBounds
import RmqCxx.SecondWait
import RmqCxx.Arrivals
import RmqCxx.Dispatches
import RmqCxx.CleanExits
import RmqCxx.Causes
import RmqCxx.ConsumeCauses
import RmqCxx.Cpp.Vectors
import RmqCxx.TableObjects
import RmqCxx.Chrono64
import RmqCxx.TimedArithmetic
import RmqCxx.Observations
import RmqCxx.Overflows
import RmqCxx.Buffers
import RmqCxx.Conversions
import RmqCxx.RpcTimeouts
import RmqCxx.Cpp.Keeping
import RmqCxx.Cpp.Traces
import RmqCxx.Cpp.Endings
import RmqCxx.Cpp.Views
import RmqCxx.Usage
import RmqCxx.Applications
import RmqCxx.Sessions
import RmqCxx.Capturing
import RmqCxx.OwnExceptions
import RmqCxx.AdvConsumer
import RmqCxx.QuietCalls
import RmqCxx.Idling
import RmqCxx.Deliveries
import RmqCxx.Polling
import RmqCxx.AdvConsumerCalls
import RmqCxx.AdvConsumerSteps
import RmqCxx.AdvConsumerThreads
import RmqCxx.AdvConsumerRuns
import RmqCxx.AdvConsumerMain
import RmqCxx.MainLoops
import RmqCxx.MainLoopRuns
import RmqCxx.Rewrapping
