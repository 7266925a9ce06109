import SputterOS.Foundation.BlockStuffing
import SputterOS.Foundation.Transition
import SputterOS.Foundation.Linearizability
import SputterOS.Foundation.BoundedFifo
import SputterOS.Foundation.LinearizationPoints
import SputterOS.Foundation.NumberText
import SputterOS.Foundation.Numerals
import SputterOS.Foundation.Progress
import SputterOS.Foundation.TruncatedText
import SputterOS.Foundation.OffsetReader
import SputterOS.Foundation.ShiftRegister
import SputterOS.Foundation.RunningStatistics
import SputterOS.Foundation.RollingWindow
import SputterOS.Foundation.RankedBins
import SputterOS.Foundation.RegisterOrder
import SputterOS.Osal.LatestRegister
import SputterOS.Osal.LockFreeQueue
import SputterOS.Osal.SpscLinearizability
import SputterOS.Kernel.KernelState
import SputterOS.Kernel.BackgroundRing
import SputterOS.Kernel.ControlTask
import SputterOS.Kernel.CrunchDispatcher
import SputterOS.Kernel.CrunchAbort
import SputterOS.Kernel.CrunchLoop
import SputterOS.Kernel.CoreData
import SputterOS.Builder.SystemBuilder
import SputterOS.Builder.BackgroundCore
import SputterOS.Kernel.SystemRun
import SputterOS.Kernel.CrunchIsolation
import SputterOS.Comms.CobsCodec
import SputterOS.Comms.CobsCanonical
import SputterOS.Comms.Crc16
import SputterOS.Comms.FrameCodec
import SputterOS.Comms.FrameStream
import SputterOS.Comms.FrameGrammar
import SputterOS.Comms.BurstDetection
import SputterOS.Comms.ErrorDistance
import SputterOS.Comms.ExposedFrame
import SputterOS.Logic.CommandParser
import SputterOS.Logic.LineGrammar
import SputterOS.Logic.CommandFields
import SputterOS.Utils.LightweightStringBuilder
import SputterOS.Comms.ResponseSerializer
import SputterOS.Comms.ProtocolRouter
import SputterOS.Comms.MessageSchema
import SputterOS.Comms.CommandLine
import SputterOS.Comms.ReceivedStream
import SputterOS.Comms.ReadLoops
import SputterOS.Kernel.ScheduledCommsTask
import SputterOS.Kernel.CommandReplies
import SputterOS.Kernel.CommandAnswers
import SputterOS.Kernel.ReadTimeline
import SputterOS.Kernel.RunSimulation
import SputterOS.Kernel.DrainLoop
import SputterOS.Kernel.ModeSwitching
import SputterOS.Kernel.PipelineRefinement
import SputterOS.Kernel.SessionIsolation
import SputterOS.Kernel.TextProbe
import SputterOS.Kernel.TextSession
import SputterOS.Kernel.LineIntegrity
import SputterOS.Kernel.FramedTicks
import SputterOS.Kernel.MetricsReply
import SputterOS.Kernel.PathAgreement
import SputterOS.Kernel.CommandLatency
import SputterOS.Kernel.CommandPipeline
import SputterOS.Osal.MultiCoreSync
import SputterOS.Osal.CoreErrors
import SputterOS.Osal.BarrierAgreement
import SputterOS.Osal.BoundedWaits
import SputterOS.Kernel.CoreRun
import SputterOS.Kernel.Lifecycle
import SputterOS.Kernel.StartupOrder
import SputterOS.Kernel.ShutdownOrder
import SputterOS.Osal.WatchdogSync
import SputterOS.Osal.AtomicDoubleBuffer
import SputterOS.Foundation.OverwritingFifo
import SputterOS.Utils.ErrorLogger
import SputterOS.Utils.InterruptedLogging
import SputterOS.Builder.PrioritySort
import SputterOS.Builder.Registrations
import SputterOS.Builder.Acceptance
import SputterOS.Builder.FailedBuild
import SputterOS.Builder.TaskKinds
import SputterOS.Builder.RingCapacity
import SputterOS.Utils.TelemetryLogger
import SputterOS.Utils.TelemetryExclusion
import SputterOS.Utils.TelemetryQueue
import SputterOS.Logic.InterlockManager
import SputterOS.Utils.PIDController
import SputterOS.Utils.AntiWindup
import SputterOS.Utils.WindupBound
import SputterOS.Utils.BuilderBuffer
import SputterOS.Kernel.Metrics
import SputterOS.Kernel.DeadlineTracker
import SputterOS.Kernel.TimerWindows
import SputterOS.Kernel.WindowLengths
import SputterOS.Utils.PerformanceFormatter
import SputterOS.Kernel.SystemStatics
import SputterOS.Kernel.SystemCalls
import SputterOS.Kernel.UtilizationWarning
import SputterOS.Kernel.KeptMembers
import SputterOS.Kernel.SteadyMembers
import SputterOS.Kernel.HealthWindows
import SputterOS.Kernel.TickDispatch
import SputterOS.Kernel.DispatchOrder
import SputterOS.Kernel.ManagedPeriods
import SputterOS.Kernel.UtilizationAccounting
import SputterOS.Kernel.SystemReset
import SputterOS.Kernel.DurationPercentiles
import SputterOS.Kernel.HealthAggregates
import SputterOS.Tools.Cobs
import SputterOS.Tools.Protocol
import SputterOS.Tools.CodecAgreement
import SputterOS.Tools.DecodeMetrics
import SputterOS.Tools.Client
import SputterOS.Tools.Exchange
import SputterOS.Tools.Opening
import SputterOS.Tools.Connection
import SputterOS.Tools.Visits
import SputterOS.Tools.Delivery
import SputterOS.Tools.Notices
