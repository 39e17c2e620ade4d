import Dvf.AgentChannel
import Dvf.AgentLoop
import Dvf.AgentVerdict
import Dvf.Allocator
import Dvf.AttemptLoop
import Dvf.ByteMem
import Dvf.CommandIds
import Dvf.Commands
import Dvf.Coordinator
import Dvf.CoordinatorAbandoned
import Dvf.CoordinatorPanic
import Dvf.CoordinatorRouting
import Dvf.CoordinatorSteps
import Dvf.CoordinatorWaiters
import Dvf.Dag
import Dvf.Engine
import Dvf.EngineExit
import Dvf.EscapeBytes
import Dvf.FpgaDriver
import Dvf.FpgaHost
import Dvf.FpgaRaces
import Dvf.FpgaThreads
import Dvf.Go
import Dvf.GoPaths
import Dvf.GpuBuffers
import Dvf.GpuContexts
import Dvf.GpuDevice
import Dvf.GpuDriver
import Dvf.GpuFree
import Dvf.GpuIoctl
import Dvf.GpuJobs
import Dvf.GpuManager
import Dvf.GpuReinit
import Dvf.GpuTranslation
import Dvf.GpuVectorAdd
import Dvf.GpuWait
import Dvf.Handshake
import Dvf.ImpactAnalyzer
import Dvf.ImpactRun
import Dvf.Json
import Dvf.JsonBytes
import Dvf.JsonDumps
import Dvf.JsonText
import Dvf.Kahn
import Dvf.KahnSorted
import Dvf.Ledger
import Dvf.Lifecycle
import Dvf.LineFraming
import Dvf.LocalRunner
import Dvf.Machine
import Dvf.NodeRegistry
import Dvf.OneLineReport
import Dvf.OutputFindings
import Dvf.OutputParser
import Dvf.ParserAgreement
import Dvf.PageTable
import Dvf.Pagination
import Dvf.PathSegments
import Dvf.Pool
import Dvf.Postgres
import Dvf.Prog
import Dvf.PyText
import Dvf.Qmp
import Dvf.Recovery
import Dvf.ResourceBooks
import Dvf.ResourceBudget
import Dvf.Resources
import Dvf.Results
import Dvf.RunTimestamps
import Dvf.RunWorkflow
import Dvf.RunWorkflowEnd
import Dvf.RunWorkflowInv
import Dvf.RunWorkflowRows
import Dvf.Scheduler
import Dvf.StepDeadlines
import Dvf.StepPlan
import Dvf.StepWire
import Dvf.Store
import Dvf.StoreAgreement
import Dvf.SuiteLoading
import Dvf.SuiteLookup
import Dvf.TestFramework
import Dvf.TestReport
import Dvf.Threads
import Dvf.Types
import Dvf.VMManager
import Dvf.VMOrphans
import Dvf.VMRecords
import Dvf.VMStart
import Dvf.VMTeardown
import Dvf.Verdict
import Dvf.Workflow
import Dvf.WorkflowNew
import Dvf.WorkflowSafety
