/-
**The domain types of the orchestrator** (`internal/core/types.go`, and the agent types of
`internal/core/execution_engine.go`).

The string enumerations of the source are inductive types.  Timestamps are integers, in
nanoseconds since the epoch.  Fields that no modelled function reads or writes are left out.

Main definitions:

* `Dvf.TestRunStatus`, `Dvf.TestRunStatus.isTerminal` — the lifecycle of a test run;
* `Dvf.VMStatus` — the lifecycle of a virtual machine;
* `Dvf.TestRun`, `Dvf.TestResult`, `Dvf.VMInstance` — the stored records;
* `Dvf.WorkflowStep`, `Dvf.TestSuite` — the definition of a workflow;
* `Dvf.AgentCommand`, `Dvf.AgentResult` — what is exchanged with the guest agent;
* `Dvf.DeviceEntry` — an entry of the device registry.
-/

import Mathlib.Data.Int.Notation
import Mathlib.Data.Nat.Notation

set_option autoImplicit false

namespace Dvf

/-! ### Enumerations -/

/-- The lifecycle state of a test run. -/
inductive TestRunStatus
  | pending
  | queued
  | running
  | passed
  | failed
  | errored
  | cancelled
  | timeout
  deriving DecidableEq, Repr

namespace TestRunStatus

/-- The statuses in which a run is over. -/
def isTerminal : TestRunStatus → Bool
  | passed | failed | errored | cancelled => true
  | pending | queued | running | timeout => false

/-- The text of a status, as stored and as shown to clients. -/
def toString : TestRunStatus → String
  | pending => "PENDING"
  | queued => "QUEUED"
  | running => "RUNNING"
  | passed => "PASSED"
  | failed => "FAILED"
  | errored => "ERRORED"
  | cancelled => "CANCELLED"
  | timeout => "TIMEOUT"

end TestRunStatus

/-- The lifecycle state of a virtual machine. -/
inductive VMStatus
  | creating
  | booting
  | ready
  | runningTest
  | stopping
  | stopped
  | error
  | destroyed
  deriving DecidableEq, Repr

/-! ### Stored records -/

/-- A test run. -/
structure TestRun where
  id : String
  deviceID : String
  testSuiteID : String
  status : TestRunStatus
  vmID : String := ""
  priority : ℤ := 0
  createdAt : ℤ := 0
  startedAt : Option ℤ := none
  completedAt : Option ℤ := none
  durationMs : ℤ := 0
  requestedBy : String := ""
  tags : List String := []
  errorMessage : String := ""
  deriving DecidableEq, Repr

/-- The outcome of one test case of a test run. -/
structure TestResult where
  testRunID : String
  testName : String
  status : TestRunStatus
  message : String := ""
  logs : String := ""
  deriving DecidableEq, Repr

/-- A virtual machine. -/
structure VMInstance where
  id : String
  status : VMStatus
  deviceID : String := ""
  pid : ℤ := 0
  qemuDeviceName : String := ""
  qmpSocketPath : String := ""
  allocatedCPUs : ℤ := 0
  allocatedMemMB : ℤ := 0
  imagePath : String := ""
  deriving DecidableEq, Repr

/-! ### Suites -/

/-- A node of the graph of tests of a suite. -/
structure WorkflowStep where
  id : String
  testBinary : String := ""
  args : List String := []
  dependsOn : List String := []
  retryMax : ℤ := 0
  timeoutSec : ℤ := 0
  deriving DecidableEq, Repr, Inhabited

/-- A collection of tests. -/
structure TestSuite where
  id : String
  steps : List WorkflowStep
  deriving DecidableEq, Repr

/-! ### The guest agent -/

/-- A parameter of an agent command: a text, a list of texts or a set of variables. -/
inductive ParamValue
  | text (s : String)
  | list (l : List String)
  | env (vars : List (String × String))
  deriving DecidableEq, Repr

/-- A command for the guest agent. -/
structure AgentCommand where
  id : String
  type : String
  parameters : List (String × ParamValue) := []
  deriving DecidableEq, Repr

/-- What the guest agent reports for a command. -/
structure AgentResult where
  commandID : String := ""
  status : String
  output : String := ""
  logs : String := ""
  deriving DecidableEq, Repr

/-! ### Devices -/

/-- An entry of the device registry. -/
structure DeviceEntry where
  id : String
  qemuDeviceName : String := ""
  driverModule : String := ""
  driverPath : String := ""
  deviceNode : String := ""
  targetModes : List String := []
  vishwaEnv : List (String × String) := []
  vishwaLoader : String := ""
  vishwaLibDir : String := ""
  vishwaTestDir : String := ""
  deriving DecidableEq, Repr

end Dvf
