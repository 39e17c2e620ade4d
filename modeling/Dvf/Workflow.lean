/-
**The workflow manager** (`internal/core/workflow.go`): a graph of test steps, each with a status.

`NewWorkflow` validates the step list and computes a topological order with Kahn's algorithm; the
engine then asks `Ready` for the steps that may start, marks them with `MarkRunning` and reports
each outcome to `Advance`, which on a failure walks the order once and skips the pending steps that
have a failed or skipped dependency.

Three loops of `NewWorkflow` range over maps, so their orders are arguments.  The in-degrees and
the lists of dependents are maps read with Go's zero value for a missing key, that is, functions.

Main definitions:

* `Dvf.StepStatus`, `Dvf.Step`, `Dvf.Workflow` — the state of a workflow;
* `Dvf.newWorkflow` — the constructor, with `Dvf.WorkflowError` for its error returns;
* `Dvf.Workflow.ready`, `Dvf.Workflow.markRunning`, `Dvf.Workflow.advance`,
  `Dvf.Workflow.propagateSkip` — the operations of the engine;
* `Dvf.Workflow.isDone`, `Dvf.Workflow.summary` — the end of a workflow.

Main results:

* `Dvf.Workflow.lookup_modifyStep` — changing a node leaves the others alone, from which the
  effect and the frame of writing a status and of starting a step follow;
* `Dvf.Workflow.mem_ready_iff` — the ready steps are the pending ones with all dependencies passed;
* `Dvf.Workflow.advance_eq`, `Dvf.Workflow.markRunning_eq` — the operations on a known step.
-/

import Dvf.Go
import Dvf.Kahn
import Dvf.Types

set_option autoImplicit false

namespace Dvf

open Go

/-! ### Steps and workflows -/

/-- The lifecycle state of a workflow step. -/
inductive StepStatus
  | pending
  | running
  | passed
  | failed
  | skipped
  deriving DecidableEq, Repr

/-- A node of the graph: its definition, its status and how often it was tried. -/
structure Step where
  defn : WorkflowStep
  status : StepStatus
  attempts : ℕ
  deriving DecidableEq, Repr

/-- An executable graph of steps.  `order` lists the step ids topologically. -/
structure Workflow where
  id : String
  runID : String
  steps : GoMap String Step
  order : List String

/-- The errors of the workflow manager. -/
inductive WorkflowError
  | noSteps (id : String)
  | emptyID (id : String) (index : ℕ)
  | duplicateID (id stepID : String)
  | unknownDependency (id stepID dep : String)
  | cycle (id : String)
  | unknownStep (id stepID : String)
  deriving DecidableEq, Repr

/-- The text of an error. -/
def WorkflowError.error : WorkflowError → String
  | noSteps id => "workflow " ++ quote id ++ ": no steps provided"
  | emptyID id i => "workflow " ++ quote id ++ ": step at index " ++ toString i ++ " has empty ID"
  | duplicateID id sid => "workflow " ++ quote id ++ ": duplicate step ID " ++ quote sid
  | unknownDependency id sid dep =>
      "workflow " ++ quote id ++ ": step " ++ quote sid ++ " depends on unknown step " ++ quote dep
  | cycle id => "workflow " ++ quote id ++ ": cycle detected in step dependency graph"
  | unknownStep id sid => "workflow " ++ quote id ++ ": unknown step " ++ quote sid

/-! ### The constructor -/

/-- The dependencies of a step; a missing key has none. -/
def depsOf (steps : GoMap String Step) (sid : String) : List String :=
  match steps.lookup sid with
  | some s => s.defn.dependsOn
  | none => []

/-- Indexing the steps by id, from the position `i` on. -/
def indexSteps (id : String) : ℕ → List WorkflowStep → GoMap String Step →
    Except WorkflowError (GoMap String Step)
  | _, [], steps => .ok steps
  | i, d :: defs, steps =>
      if d.id = "" then .error (.emptyID id i)
      else if (steps.lookup d.id).isSome then .error (.duplicateID id d.id)
      else indexSteps id (i + 1) defs (steps.insert d.id ⟨d, .pending, 0⟩)

/-- Checking the dependency references of the steps `sids`, in this order. -/
def validateDeps (id : String) (steps : GoMap String Step) : List String →
    Except WorkflowError Unit
  | [] => .ok ()
  | sid :: sids =>
      match (depsOf steps sid).find? fun dep => (steps.lookup dep).isNone with
      | some dep => .error (.unknownDependency id sid dep)
      | none => validateDeps id steps sids

/-- The maps of the topological sort: in-degrees, and dependency to dependents. -/
structure DepGraph where
  inDegree : String → ℤ
  adj : String → List String

/-- One dependency of the step `sid`. -/
def DepGraph.addEdge (sid : String) (g : DepGraph) (dep : String) : DepGraph where
  inDegree := Function.update g.inDegree sid (g.inDegree sid + 1)
  adj := Function.update g.adj dep (g.adj dep ++ [sid])

/-- The dependencies of the steps `sids`, in this order. -/
def DepGraph.build (steps : GoMap String Step) (sids : List String) : DepGraph :=
  sids.foldl (fun g sid => (depsOf steps sid).foldl (DepGraph.addEdge sid) g)
    ⟨fun _ => 0, fun _ => []⟩

/-- The orders in which the three map loops of the constructor visit the keys. -/
structure NewWorkflowOrders where
  validate : RangeOrder String
  build : RangeOrder String
  seed : RangeOrder String

/-- Kahn's algorithm on the indexed steps: the order in which they leave the queue. -/
def topoSort (o : NewWorkflowOrders) (steps : GoMap String Step) : List String :=
  let g := DepGraph.build steps (o.build.order steps.keys)
  let queue := (o.seed.order steps.keys).filter fun sid => g.inDegree sid = 0
  Kahn.loop g.adj steps.keys.length queue g.inDegree []

/-- `NewWorkflow`: validates the step graph, detects cycles and returns a workflow with every
step pending. -/
def newWorkflow (o : NewWorkflowOrders) (id runID : String) (defs : List WorkflowStep) :
    Except WorkflowError Workflow :=
  if defs.length = 0 then .error (.noSteps id)
  else
    match indexSteps id 0 defs ∅ with
    | .error e => .error e
    | .ok steps =>
        match validateDeps id steps (o.validate.order steps.keys) with
        | .error e => .error e
        | .ok () =>
            if (topoSort o steps).length ≠ steps.keys.length then .error (.cycle id)
            else .ok ⟨id, runID, steps, topoSort o steps⟩

namespace Workflow

/-! ### The operations -/

/-- The status of a step, if there is one with this id. -/
def stepStatus (w : Workflow) (sid : String) : Option StepStatus :=
  (w.steps.lookup sid).map Step.status

def stepDef (w : Workflow) (sid : String) : Option WorkflowStep :=
  (w.steps.lookup sid).map Step.defn

def attempts (w : Workflow) (sid : String) : ℕ :=
  ((w.steps.lookup sid).map Step.attempts).getD 0

def deps (w : Workflow) (sid : String) : List String := depsOf w.steps sid

def depsAllPassed (w : Workflow) (ds : List String) : Bool :=
  ds.all fun dep => w.stepStatus dep = some .passed

/-- Some step of the list has failed or was skipped. -/
def depsAnyFailed (w : Workflow) (ds : List String) : Bool :=
  ds.any fun dep => w.stepStatus dep = some .failed ∨ w.stepStatus dep = some .skipped

/-- `Ready`: the pending steps all of whose dependencies have passed, in topological order. -/
def ready (w : Workflow) : List String :=
  w.order.filter fun sid => w.stepStatus sid = some .pending && w.depsAllPassed (w.deps sid)

/-- Changing the node of a step in place; an unknown id changes nothing. -/
def modifyStep (w : Workflow) (sid : String) (f : Step → Step) : Workflow :=
  match w.steps.lookup sid with
  | some s => { w with steps := w.steps.insert sid (f s) }
  | none => w

def setStatus (w : Workflow) (sid : String) (st : StepStatus) : Workflow :=
  w.modifyStep sid fun s => { s with status := st }

/-- Marking a step as running and counting the attempt. -/
def started (w : Workflow) (sid : String) : Workflow :=
  w.modifyStep sid fun s => { s with status := .running, attempts := s.attempts + 1 }

/-- One iteration of `propagateSkip`. -/
def skipStep (w : Workflow) (sid : String) : Workflow :=
  if w.stepStatus sid = some .pending && w.depsAnyFailed (w.deps sid) then
    w.setStatus sid .skipped
  else w

/-- `propagateSkip`: one pass over the order. -/
def propagateSkip (w : Workflow) : Workflow := w.order.foldl skipStep w

/-- `Advance`: records the outcome of a step and, on failure, skips its dependents. -/
def advance (w : Workflow) (sid : String) (st : StepStatus) : Except WorkflowError Workflow :=
  match w.steps.lookup sid with
  | none => .error (.unknownStep w.id sid)
  | some _ =>
      if st = .failed then .ok (w.setStatus sid st).propagateSkip
      else .ok (w.setStatus sid st)

/-- `MarkRunning`: marks a step as executing and counts the attempt. -/
def markRunning (w : Workflow) (sid : String) : Except WorkflowError Workflow :=
  match w.steps.lookup sid with
  | none => .error (.unknownStep w.id sid)
  | some _ => .ok (w.started sid)

/-- `IsDone`: no step is pending or running. -/
def isDone (w : Workflow) : Bool :=
  w.steps.keys.all fun sid =>
    w.stepStatus sid ≠ some .pending && w.stepStatus sid ≠ some .running

/-- `IsBlocked`: not done, and nothing is ready. -/
def isBlocked (w : Workflow) : Bool := !w.isDone && w.ready.isEmpty

/-- How many steps have the status `st`. -/
def countStatus (w : Workflow) (st : StepStatus) : ℕ :=
  w.steps.keys.countP fun sid => w.stepStatus sid = some st

/-- `Summary`: the numbers of passed, failed and skipped steps. -/
def summary (w : Workflow) : ℕ × ℕ × ℕ :=
  (w.countStatus .passed, w.countStatus .failed, w.countStatus .skipped)

/-! ### Changing a node -/

theorem mem_keys_iff {w : Workflow} {sid : String} :
    sid ∈ w.steps.keys ↔ ∃ s, w.steps.lookup sid = some s := by
  rw [← AList.mem_keys, ← AList.lookup_isSome, Option.isSome_iff_exists]

theorem mem_keys_iff_stepStatus {w : Workflow} {sid : String} :
    sid ∈ w.steps.keys ↔ ∃ st, w.stepStatus sid = some st := by
  rw [mem_keys_iff]
  simp [stepStatus]

/-- Changing a node leaves the other nodes alone. -/
theorem lookup_modifyStep (w : Workflow) (sid : String) (f : Step → Step) (k : String) :
    (w.modifyStep sid f).steps.lookup k =
      if k = sid then (w.steps.lookup k).map f else w.steps.lookup k := by
  cases hs : w.steps.lookup sid with
  | none =>
      simp only [modifyStep, hs]
      by_cases hk : k = sid
      · subst hk
        simp [hs]
      · rw [if_neg hk]
  | some s =>
      simp only [modifyStep, hs]
      by_cases hk : k = sid
      · subst hk
        simp [hs]
      · rw [AList.lookup_insert_ne hk, if_neg hk]

@[simp] theorem order_modifyStep (w : Workflow) (sid : String) (f : Step → Step) :
    (w.modifyStep sid f).order = w.order := by
  cases hs : w.steps.lookup sid <;> simp [modifyStep, hs]

theorem keys_modifyStep (w : Workflow) (sid : String) (f : Step → Step) :
    (w.modifyStep sid f).steps.keys.Perm w.steps.keys := by
  cases hs : w.steps.lookup sid with
  | none => simp [modifyStep, hs]
  | some s =>
      have hmem : sid ∈ w.steps.keys := mem_keys_iff.2 ⟨s, hs⟩
      simp only [modifyStep, hs, AList.keys_insert]
      exact (List.perm_cons_erase hmem).symm

theorem stepDef_modifyStep (w : Workflow) (sid : String) {f : Step → Step}
    (hf : ∀ s, (f s).defn = s.defn) (k : String) :
    (w.modifyStep sid f).stepDef k = w.stepDef k := by
  simp only [stepDef, lookup_modifyStep]
  split
  · simp [Function.comp_def, hf]
  · rfl

theorem deps_eq (w : Workflow) (sid : String) :
    w.deps sid = ((w.stepDef sid).map WorkflowStep.dependsOn).getD [] := by
  cases hs : w.steps.lookup sid <;> simp [deps, depsOf, stepDef, hs]

/-! ### Writing a status -/

/-- **Writing a status** changes the status of this step only. -/
theorem stepStatus_setStatus {w : Workflow} {sid : String} (h : sid ∈ w.steps.keys)
    (st : StepStatus) (k : String) :
    (w.setStatus sid st).stepStatus k = if k = sid then some st else w.stepStatus k := by
  obtain ⟨s, hs⟩ := mem_keys_iff.1 h
  simp only [setStatus, stepStatus, lookup_modifyStep]
  split
  · next hk =>
      subst hk
      simp [hs]
  · rfl

@[simp] theorem stepDef_setStatus (w : Workflow) (sid : String) (st : StepStatus) (k : String) :
    (w.setStatus sid st).stepDef k = w.stepDef k :=
  stepDef_modifyStep w sid (by intro s; rfl) k

@[simp] theorem deps_setStatus (w : Workflow) (sid : String) (st : StepStatus) (k : String) :
    (w.setStatus sid st).deps k = w.deps k := by
  rw [deps_eq, deps_eq, stepDef_setStatus]

@[simp] theorem attempts_setStatus (w : Workflow) (sid : String) (st : StepStatus) (k : String) :
    (w.setStatus sid st).attempts k = w.attempts k := by
  simp only [setStatus, attempts, lookup_modifyStep]
  split
  · simp [Function.comp_def]
  · rfl

/-! ### Starting a step -/

theorem stepStatus_started {w : Workflow} {sid : String} (h : sid ∈ w.steps.keys) (k : String) :
    (w.started sid).stepStatus k = if k = sid then some .running else w.stepStatus k := by
  obtain ⟨s, hs⟩ := mem_keys_iff.1 h
  simp only [started, stepStatus, lookup_modifyStep]
  split
  · next hk =>
      subst hk
      simp [hs]
  · rfl

@[simp] theorem stepDef_started (w : Workflow) (sid k : String) :
    (w.started sid).stepDef k = w.stepDef k :=
  stepDef_modifyStep w sid (by intro s; rfl) k

@[simp] theorem deps_started (w : Workflow) (sid k : String) :
    (w.started sid).deps k = w.deps k := by
  rw [deps_eq, deps_eq, stepDef_started]

theorem attempts_started {w : Workflow} {sid : String} (h : sid ∈ w.steps.keys) (k : String) :
    (w.started sid).attempts k = if k = sid then w.attempts k + 1 else w.attempts k := by
  obtain ⟨s, hs⟩ := mem_keys_iff.1 h
  simp only [started, attempts, lookup_modifyStep]
  split
  · next hk =>
      subst hk
      simp [hs]
  · rfl

@[simp] theorem order_started (w : Workflow) (sid : String) :
    (w.started sid).order = w.order := order_modifyStep w sid _

/-! ### The operations on a known step -/

theorem mem_ready_iff {w : Workflow} {sid : String} :
    sid ∈ w.ready ↔ sid ∈ w.order ∧ w.stepStatus sid = some .pending ∧
      ∀ d ∈ w.deps sid, w.stepStatus d = some .passed := by
  simp [ready, depsAllPassed]

theorem depsAnyFailed_iff {w : Workflow} {ds : List String} :
    w.depsAnyFailed ds = true ↔
      ∃ d ∈ ds, w.stepStatus d = some .failed ∨ w.stepStatus d = some .skipped := by
  simp [depsAnyFailed]

theorem isDone_iff {w : Workflow} :
    w.isDone = true ↔ ∀ sid ∈ w.steps.keys,
      w.stepStatus sid ≠ some .pending ∧ w.stepStatus sid ≠ some .running := by
  simp [isDone]

theorem advance_eq {w : Workflow} {sid : String} (h : sid ∈ w.steps.keys) (st : StepStatus) :
    w.advance sid st = .ok
      (if st = .failed then (w.setStatus sid st).propagateSkip else w.setStatus sid st) := by
  obtain ⟨s, hs⟩ := mem_keys_iff.1 h
  simp only [advance, hs]
  split <;> rfl

theorem markRunning_eq {w : Workflow} {sid : String} (h : sid ∈ w.steps.keys) :
    w.markRunning sid = .ok (w.started sid) := by
  obtain ⟨s, hs⟩ := mem_keys_iff.1 h
  simp only [markRunning, hs]

end Workflow

end Dvf
