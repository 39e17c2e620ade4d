/-
**The execution of a test run** (`executeTestRun` of `internal/core/execution_engine.go`).

`executeTestRun` is a program in the sense of `Dvf/Prog.lean`: it updates the stored status, asks
the registry, the allocator, the machine manager and the agent, runs the workflow and records the
verdict.  Deferred functions run after the body they belong to, the last one first.  The program is
given once; this module runs it alone, in a world whose answers are arbitrary and whose context may
end during any call, and `Dvf/Lifecycle.lean` interleaves many runs of it.

Logging, tracing, events and the audit trail are left out: nothing else depends on them.

Main definitions:

* `Dvf.Call`, `Dvf.EngineProg` — the calls of the engine, and its programs;
* `Dvf.executeTestRun` — the program, with its parts `Dvf.runOnVM`, `Dvf.runTests` and
  `Dvf.recordVerdict`;
* `Dvf.RunEnv`, `Dvf.World`, `Dvf.handle` — the surroundings of a single execution;
* `Dvf.execute` — a single execution.

Main results:

* `Dvf.calls_runTests`, `Dvf.calls_teardown` — which calls the parts of an execution make;
* `Dvf.World.write_of_live`, `Dvf.World.write_of_done` — what a status write does.
-/

import Dvf.Prog
import Dvf.RunWorkflow

set_option autoImplicit false

namespace Dvf

open Go

/-! ### Calls -/

/-- An amount of resources. -/
structure Allocation where
  cpus : ℤ
  memMB : ℤ
  deriving DecidableEq, Repr

/-- Which context a call is made with: that of the run, or one that never ends. -/
inductive CtxOf
  | run
  | background
  deriving DecidableEq, Repr

/-- The calls of the engine. -/
inductive Call
  | updateTestRunStatus (id : String) (status : TestRunStatus) (errMsg : String)
  | getTestResults (id : String)
  | findDevice (id : String)
  | loadTestSuite (suiteID : String) (device : DeviceEntry)
  | tryAcquire (alloc : Allocation)
  | release (alloc : Allocation)
  | submitLater (run : TestRun)
  | createVM (device : DeviceEntry)
  | startVM (vmID : String)
  | stopVM (ctx : CtxOf) (vmID : String)
  | destroyVM (ctx : CtxOf) (vmID : String)
  | registerVM (vmID : String)
  | unregisterVM (vmID : String)
  | waitForAgent (vmID : String)
  | sendCommand (vmID : String) (cmd : AgentCommand)
  | runWorkflow (run : TestRun) (device : DeviceEntry) (vm : VMInstance) (suite : TestSuite)

/-- What `runWorkflow` returns: nothing, its own error type, or any other error. -/
inductive WorkflowReturn
  | ok
  | failed (failed skipped : ℕ)
  | error (msg : String)
  deriving DecidableEq, Repr

/-- The answer to a call. -/
def Call.Resp : Call → Type
  | .updateTestRunStatus .. => Except String Unit
  | .getTestResults _ => Except String (List TestResult)
  | .findDevice _ => Except String DeviceEntry
  | .loadTestSuite .. => Except String TestSuite
  | .tryAcquire _ => Bool
  | .release _ => Unit
  | .submitLater _ => Unit
  | .createVM _ => Except String VMInstance
  | .startVM _ => Except String Unit
  | .stopVM .. => Except String Unit
  | .destroyVM .. => Except String Unit
  | .registerVM _ => Unit
  | .unregisterVM _ => Unit
  | .waitForAgent _ => Except String Unit
  | .sendCommand .. => Except String AgentResult
  | .runWorkflow .. => WorkflowReturn

abbrev EngineProg := Prog Call Call.Resp

def call (c : Call) : EngineProg c.Resp := Prog.perform c

/-! ### The program -/

/-- The parts of the engine that may be missing: the allocator, with what a run asks of it, and the
agent coordinator. -/
structure EngineConfig where
  allocator : Option Allocation
  hasCoordinator : Bool
  deriving DecidableEq, Repr

/-- Writing a status, with the error ignored. -/
def setStatus (run : TestRun) (status : TestRunStatus) (msg : String) : EngineProg PUnit := do
  let _ ← call (.updateTestRunStatus run.id status msg)
  return ⟨⟩

/-- A call to the coordinator, if there is one. -/
def ifCoordinator (e : EngineConfig) (c : Call) : EngineProg PUnit :=
  if e.hasCoordinator = true then do
    let _ ← call c
    return ⟨⟩
  else return ⟨⟩

/-- A command to the agent that has to come back as passed. -/
def requirePassed (vm : VMInstance) (cmd : AgentCommand) (what : String) :
    EngineProg (Except String Unit) := do
  match ← call (.sendCommand vm.id cmd) with
  | .error err => return .error err
  | .ok res =>
      if res.status = "passed" then return .ok ()
      else return .error (what ++ " status: " ++ res.status)

/-- Step 7: the verdict from the stored results; an error reading them counts as no results. -/
def recordVerdict (run : TestRun) : EngineProg (Except String Unit) := do
  let rows ← call (.getTestResults run.id)
  let rows := match rows with
    | .ok rows => rows
    | .error _ => []
  setStatus run (verdict rows) ""
  return .ok ()

/-- Step 6: the workflow.  `ErrWorkflowFailed` is not an error of the run. -/
def runSuite (run : TestRun) (device : DeviceEntry) (vm : VMInstance) (suite : TestSuite) :
    EngineProg (Except String Unit) := do
  match ← call (.runWorkflow run device vm suite) with
  | .error err =>
      setStatus run .errored ("workflow execution failed: " ++ err)
      return .error ("executing workflow: " ++ err)
  | .failed _ _ => recordVerdict run
  | .ok => recordVerdict run

/-- The device check of `vishwa/` suites, and then the workflow. -/
def verifyAndRun (run : TestRun) (device : DeviceEntry) (vm : VMInstance) (suite : TestSuite) :
    EngineProg (Except String Unit) :=
  if isVishwaSuite run.testSuiteID then do
    match ← requirePassed vm (verifyCommand run device) "verify" with
    | .error err =>
        setStatus run .errored err
        return .error ("verifying device: " ++ err)
    | .ok () => runSuite run device vm suite
  else runSuite run device vm suite

/-- Steps 4 to 7, on a started machine. -/
def runTests (e : EngineConfig) (run : TestRun) (device : DeviceEntry) (vm : VMInstance)
    (suite : TestSuite) : EngineProg (Except String Unit) :=
  if e.hasCoordinator = true then do
    match ← call (.waitForAgent vm.id) with
    | .error err =>
        setStatus run .errored ("agent registration timeout: " ++ err)
        return .error ("waiting for agent: " ++ err)
    | .ok () =>
        match ← requirePassed vm (loadCommand run device) "driver load" with
        | .error err =>
            setStatus run .errored err
            return .error ("loading driver: " ++ err)
        | .ok () => verifyAndRun run device vm suite
  else recordVerdict run

/-- The deferred teardown of the machine. -/
def teardown (e : EngineConfig) (vm : VMInstance) : EngineProg PUnit := do
  ifCoordinator e (.unregisterVM vm.id)
  let _ ← call (.stopVM .background vm.id)
  let _ ← call (.destroyVM .background vm.id)
  return ⟨⟩

/-- Steps 3 to 7: creating and starting the machine, and tearing it down afterwards. -/
def runOnVM (e : EngineConfig) (run : TestRun) (device : DeviceEntry) (suite : TestSuite) :
    EngineProg (Except String Unit) := do
  match ← call (.createVM device) with
  | .error err =>
      setStatus run .errored ("VM creation failed: " ++ err)
      return .error ("creating VM: " ++ err)
  | .ok vm =>
      ifCoordinator e (.registerVM vm.id)
      match ← call (.startVM vm.id) with
      | .error err =>
          ifCoordinator e (.unregisterVM vm.id)
          let _ ← call (.destroyVM .run vm.id)
          setStatus run .errored ("VM start failed: " ++ err)
          return .error ("starting VM: " ++ err)
      | .ok () =>
          let r ← runTests e { run with vmID := vm.id } device vm suite
          teardown e vm
          return r

/-- Step 2c: the budget, or the deferral of the run. -/
def runWithBudget (e : EngineConfig) (run : TestRun) (device : DeviceEntry) (suite : TestSuite) :
    EngineProg (Except String Unit) :=
  match e.allocator with
  | none => runOnVM e run device suite
  | some alloc => do
      match ← call (.tryAcquire alloc) with
      | true =>
          let r ← runOnVM e run device suite
          let _ ← call (.release alloc)
          return r
      | false =>
          setStatus run .pending "waiting for resources"
          let _ ← call (.submitLater run)
          return .ok ()

/-- The message of a run on a device without `qemu` mode. -/
def skipMessage (device : DeviceEntry) : String :=
  "skipped: device " ++ quote device.id ++ " target_modes [" ++
    " ".intercalate device.targetModes ++
    "] does not include 'qemu'; physical hardware passthrough required"

/-- **`executeTestRun`.** -/
def executeTestRun (e : EngineConfig) (run : TestRun) : EngineProg (Except String Unit) := do
  match ← call (.updateTestRunStatus run.id .running "") with
  | .error err => return .error ("updating status to RUNNING: " ++ err)
  | .ok () =>
      match ← call (.findDevice run.deviceID) with
      | .error err =>
          setStatus run .errored ("device not found: " ++ err)
          return .error ("device lookup: " ++ err)
      | .ok device =>
          if deviceSupportsQEMU device.targetModes then
            match ← call (.loadTestSuite run.testSuiteID device) with
            | .error err =>
                setStatus run .errored ("failed to load test suite: " ++ err)
                return .error ("failed to load test suite: " ++ err)
            | .ok suite => runWithBudget e run device suite
          else
            setStatus run .cancelled (skipMessage device)
            return .ok ()

/-! ### The calls of its parts -/

section Calls

variable {S : Call → Prop} {e : EngineConfig} {run : TestRun} {device : DeviceEntry}
  {vm : VMInstance} {suite : TestSuite}

theorem calls_setStatus {st : TestRunStatus} {msg : String}
    (h : S (.updateTestRunStatus run.id st msg)) : (setStatus run st msg).Calls S :=
  Prog.Calls.perform_bind h fun _ => trivial

theorem calls_finish {st : TestRunStatus} {msg : String} {r : Except String Unit}
    (h : S (.updateTestRunStatus run.id st msg)) :
    (setStatus run st msg >>= fun _ => (pure r : EngineProg (Except String Unit))).Calls S :=
  (calls_setStatus h).bind fun _ => trivial

theorem calls_ifCoordinator {c : Call} (h : S c) : (ifCoordinator e c).Calls S := by
  unfold ifCoordinator
  split
  · exact Prog.Calls.perform_bind h fun _ => trivial
  · trivial

theorem calls_requirePassed {cmd : AgentCommand} {what : String}
    (h : S (.sendCommand vm.id cmd)) : (requirePassed vm cmd what).Calls S := by
  refine Prog.Calls.perform_bind h fun ans => ?_
  cases ans with
  | error err => trivial
  | ok res =>
      dsimp only
      split
      · trivial
      · trivial

theorem calls_recordVerdict (hresults : S (.getTestResults run.id))
    (hstatus : ∀ st msg, S (.updateTestRunStatus run.id st msg)) : (recordVerdict run).Calls S :=
  Prog.Calls.perform_bind hresults fun _ => calls_finish (hstatus _ _)

theorem calls_runSuite (hworkflow : S (.runWorkflow run device vm suite))
    (hresults : S (.getTestResults run.id))
    (hstatus : ∀ st msg, S (.updateTestRunStatus run.id st msg)) :
    (runSuite run device vm suite).Calls S := by
  refine Prog.Calls.perform_bind hworkflow fun ret => ?_
  cases ret with
  | ok => exact calls_recordVerdict hresults hstatus
  | failed f sk => exact calls_recordVerdict hresults hstatus
  | error err => exact calls_finish (hstatus _ _)

theorem calls_verifyAndRun (hsend : ∀ cmd, S (.sendCommand vm.id cmd))
    (hworkflow : S (.runWorkflow run device vm suite)) (hresults : S (.getTestResults run.id))
    (hstatus : ∀ st msg, S (.updateTestRunStatus run.id st msg)) :
    (verifyAndRun run device vm suite).Calls S := by
  unfold verifyAndRun
  split
  · refine (calls_requirePassed (hsend _)).bind fun ans => ?_
    cases ans with
    | error err => exact calls_finish (hstatus _ _)
    | ok u => exact calls_runSuite hworkflow hresults hstatus
  · exact calls_runSuite hworkflow hresults hstatus

/-- **The tests** wait for the agent, send it commands, run the workflow, read the results and write
a status. -/
theorem calls_runTests (hwait : S (.waitForAgent vm.id)) (hsend : ∀ cmd, S (.sendCommand vm.id cmd))
    (hworkflow : S (.runWorkflow run device vm suite)) (hresults : S (.getTestResults run.id))
    (hstatus : ∀ st msg, S (.updateTestRunStatus run.id st msg)) :
    (runTests e run device vm suite).Calls S := by
  unfold runTests
  split
  · refine Prog.Calls.perform_bind hwait fun ans => ?_
    cases ans with
    | error err => exact calls_finish (hstatus _ _)
    | ok u =>
        refine (calls_requirePassed (hsend _)).bind fun ans => ?_
        cases ans with
        | error err => exact calls_finish (hstatus _ _)
        | ok u => exact calls_verifyAndRun hsend hworkflow hresults hstatus
  · exact calls_recordVerdict hresults hstatus

theorem calls_teardown (hunregister : S (.unregisterVM vm.id))
    (hstop : S (.stopVM .background vm.id)) (hdestroy : S (.destroyVM .background vm.id)) :
    (teardown e vm).Calls S := by
  refine (calls_ifCoordinator hunregister).bind fun _ => ?_
  refine Prog.Calls.perform_bind hstop fun _ => ?_
  exact Prog.Calls.perform_bind hdestroy fun _ => trivial

end Calls

/-! ### The world of a single execution -/

/-- The calls during which time passes. -/
inductive Stage
  | lookup
  | suite
  | acquire
  | createVM
  | startVM
  | destroyVM
  | agent
  | load
  | verify
  | workflow
  | results
  deriving DecidableEq, Repr

/-- The surroundings of an execution: what each call is answered, the orders and the schedule of
the workflow, the kind of store, the times of the status writes, and for each stage whether the
context ends there.  A context that ends while the workflow runs is an action of its schedule. -/
structure RunEnv where
  registry : List DeviceEntry
  suite : Except String TestSuite
  acquired : Bool
  createVM : Except String VMInstance
  startVM : Except String Unit
  stopVM : Except String Unit
  destroyVM : Except String Unit
  waitForAgent : Except String Unit
  loadDriver : Except String AgentResult
  verifyDevice : Except String AgentResult
  agent : String → ℕ → AgentCommand → Except String AgentResult
  orders : NewWorkflowOrders
  schedule : List LoopAct
  honoursCtx : Bool
  clock : TestRunStatus → ℤ
  expires : Stage → Option CtxErr

/-- The state of the world.  The last three fields record which statuses were written, which runs
were deferred, and how the workflow ended. -/
structure World where
  store : Store
  ctx : Option CtxErr := none
  written : List TestRunStatus := []
  deferred : List TestRun := []
  workflow : Option Workflow := none

/-- `FindDevice`. -/
def findDevice (registry : List DeviceEntry) (id : String) : Except String DeviceEntry :=
  match registry.find? fun device => device.id = id with
  | some device => .ok device
  | none => .error ("device " ++ quote id ++ " not found in registry")

/-- What a workflow is run with in this execution. -/
def RunEnv.workflowEnv (env : RunEnv) (run : TestRun) (device : DeviceEntry)
    (suite : TestSuite) : WorkflowEnv := ⟨run, device, suite, env.agent, env.honoursCtx⟩

/-- How the caller sees the end of a workflow. -/
def WorkflowExit.toReturn : WorkflowExit → WorkflowReturn
  | .ok => .ok
  | .failed f sk => .failed f sk
  | .ctxErr e => .error e.error

namespace World

def pass (env : RunEnv) (stage : Stage) (w : World) : World :=
  { w with ctx := w.ctx.or (env.expires stage) }

/-- The answer of the store to a status write. -/
def writeResp (env : RunEnv) (w : World) (id : String) (st : TestRunStatus) (msg : String) :
    Except String Store :=
  Store.withCtx env.honoursCtx w.ctx (w.store.updateTestRunStatus (env.clock st) id st msg)

/-- The world after a status write. -/
def write (env : RunEnv) (w : World) (id : String) (st : TestRunStatus) (msg : String) : World :=
  match w.writeResp env id st msg with
  | .ok store => { w with store := store, written := w.written ++ [st] }
  | .error _ => w

/-- The answer of the store to a read of the results. -/
def readResults (env : RunEnv) (w : World) (id : String) : Except String (List TestResult) :=
  Store.withCtx env.honoursCtx w.ctx (.ok (w.store.getTestResults id))

end World

/-- The workflow of an execution, with the schedule of the surroundings; a schedule that does not
take the loop to its return gives no answer. -/
def runWorkflow (env : RunEnv) (w : World) (run : TestRun) (device : DeviceEntry)
    (suite : TestSuite) : Option (WorkflowReturn × World) :=
  match newWorkflow env.orders suite.id run.id suite.steps with
  | .error e => some (.error ("failed to create workflow: " ++ e.error), w)
  | .ok w₀ =>
      (Machine.run (LoopState.step (env.workflowEnv run device suite))
        (LoopState.start w₀ w.ctx w.store) env.schedule).bind fun s =>
          match s.pc with
          | .returned x =>
              some (x.toReturn, { w with store := s.store, ctx := s.ctx, workflow := some s.w })
          | _ => none

/-- **How the world answers a call.** -/
def handle (env : RunEnv) (w : World) : (c : Call) → Option (c.Resp × World)
  | .updateTestRunStatus id st msg =>
      some ((w.writeResp env id st msg).map fun _ => (), w.write env id st msg)
  | .getTestResults id => some (w.readResults env id, w.pass env .results)
  | .findDevice id => some (findDevice env.registry id, w.pass env .lookup)
  | .loadTestSuite _ _ => some (env.suite, w.pass env .suite)
  | .tryAcquire _ => some (env.acquired, w.pass env .acquire)
  | .release _ => some ((), w)
  | .submitLater run => some ((), { w with deferred := w.deferred ++ [run] })
  | .createVM _ => some (env.createVM, w.pass env .createVM)
  | .startVM _ => some (env.startVM, w.pass env .startVM)
  | .stopVM _ _ => some (env.stopVM, w)
  | .destroyVM _ _ => some (env.destroyVM, w.pass env .destroyVM)
  | .registerVM _ => some ((), w)
  | .unregisterVM _ => some ((), w)
  | .waitForAgent _ => some (env.waitForAgent, w.pass env .agent)
  | .sendCommand _ cmd =>
      if cmd.type = "load_driver" then some (env.loadDriver, w.pass env .load)
      else some (env.verifyDevice, w.pass env .verify)
  | .runWorkflow run device _ suite => runWorkflow env w run device suite

/-- **A single execution.** -/
def execute (e : EngineConfig) (env : RunEnv) (run : TestRun) (w : World) :
    Option (Except String Unit × World) := (executeTestRun e run).eval (handle env) w

/-! ### Status writes -/

namespace World

variable {env : RunEnv} {w : World}

theorem write_of_done (hh : env.honoursCtx = true) (hc : w.ctx ≠ none) (id : String)
    (st : TestRunStatus) (msg : String) : w.write env id st msg = w := by
  obtain ⟨e, he⟩ := Option.ne_none_iff_exists'.1 hc
  simp [write, writeResp, Store.withCtx, he, hh]

/-- Any other write on a known run takes effect, on the status of this run. -/
theorem write_of_live (hlive : env.honoursCtx = true → w.ctx = none) {id : String}
    {st₀ : TestRunStatus} (hknown : w.store.status id = some st₀) (st : TestRunStatus)
    (msg : String) :
    ∃ store, w.store.updateTestRunStatus (env.clock st) id st msg = .ok store ∧
      w.writeResp env id st msg = .ok store ∧
      w.write env id st msg = { w with store := store, written := w.written ++ [st] } := by
  obtain ⟨store, hstore⟩ := Store.exists_update hknown (env.clock st) st msg
  have hresp : w.writeResp env id st msg = .ok store := by
    unfold writeResp Store.withCtx
    cases hctx : w.ctx with
    | none => exact hstore
    | some e =>
        have hh : env.honoursCtx ≠ true := fun hh => by
          rw [hlive hh] at hctx
          cases hctx
        simp only [if_neg hh]
        exact hstore
  refine ⟨store, hstore, hresp, ?_⟩
  simp only [write, hresp]

theorem update_of_writeResp {id : String} {st : TestRunStatus} {msg : String} {store : Store}
    (h : w.writeResp env id st msg = .ok store) :
    w.store.updateTestRunStatus (env.clock st) id st msg = .ok store :=
  Store.ok_of_withCtx h

@[simp] theorem pass_store (w : World) (st : Stage) : (w.pass env st).store = w.store := rfl

@[simp] theorem pass_deferred (w : World) (st : Stage) :
    (w.pass env st).deferred = w.deferred := rfl

theorem pass_ctx_eq_none_iff (w : World) (st : Stage) :
    (w.pass env st).ctx = none ↔ w.ctx = none ∧ env.expires st = none := by
  simp [pass]

end World

end Dvf
