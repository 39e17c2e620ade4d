/-
**Running a workflow** (`runWorkflow` and the step goroutines of
`internal/core/execution_engine.go`).

The loop of `runWorkflow` dispatches every ready step to a goroutine of its own, then waits for one
result or for the end of its context, reports the result to the workflow and starts over.  A
goroutine sends the command of an attempt, saves the rows of the answer one by one, retries until
an attempt passes or the attempts are used up, and sends one result on a buffered channel.  The
goroutines go on when the loop has returned.

The system is a machine: the loop, each goroutine and the context take turns in any order.  What
the agent answers may depend on the step, the attempt and the command, in any way.

Main definitions:

* `Dvf.WorkflowEnv` — what `runWorkflow` is called with, and the behaviour of the agent;
* `Dvf.GoPC`, `Dvf.GoPC.next` — where a goroutine is, and its next step;
* `Dvf.LoopState`, `Dvf.LoopAct`, `Dvf.LoopState.step` — the machine;
* `Dvf.passes`, `Dvf.stepOutcome` — what the answers of the agent make of a step.

Main results:

* `Dvf.LoopState.step_loop`, `Dvf.LoopState.step_receive`, `Dvf.LoopState.step_cancelled`,
  `Dvf.LoopState.step_go`, `Dvf.LoopState.step_expire` — what each action can do.
-/

import Dvf.Commands
import Dvf.Machine
import Dvf.Results
import Dvf.WorkflowSafety

set_option autoImplicit false

namespace Dvf

/-! ### The surroundings -/

/-- What `runWorkflow` is called with, the answers of the agent to each attempt of each step, and
whether the store fails calls whose context is done. -/
structure WorkflowEnv where
  run : TestRun
  device : DeviceEntry
  suite : TestSuite
  agent : String → ℕ → AgentCommand → Except String AgentResult
  honoursCtx : Bool

def WorkflowEnv.answer (env : WorkflowEnv) (d : WorkflowStep) (attempt : ℕ) :
    Except String AgentResult :=
  env.agent d.id attempt (stepCommand env.run env.device d attempt)

/-! ### The goroutine of a step -/

/-- What a goroutine sends when it is through. -/
structure StepResult where
  stepID : String
  status : StepStatus
  err : Option String
  deriving DecidableEq, Repr

/-- Where a goroutine is: before the command of an attempt, after the answer to it with the number
of rows processed so far, or before its send. -/
inductive GoPC
  | calling (attempt : ℕ)
  | saving (attempt : ℕ) (res : AgentResult) (rows : ℕ)
  | sending (r : StepResult)
  deriving DecidableEq, Repr

/-- A goroutine with its copy of the step definition. -/
structure Goroutine where
  defn : WorkflowStep
  pc : GoPC
  deriving DecidableEq, Repr

/-- The largest attempt number of a step. -/
def maxAttempts (d : WorkflowStep) : ℕ := d.retryMax.toNat

/-- After a failed attempt: the next one, or the result. -/
def GoPC.retry (d : WorkflowStep) (attempt : ℕ) (err : String) : GoPC :=
  if attempt < maxAttempts d then .calling (attempt + 1)
  else .sending ⟨d.id, .failed, some err⟩

/-- After the rows of an answer have been processed. -/
def GoPC.processed (d : WorkflowStep) (attempt : ℕ) (res : AgentResult) : GoPC :=
  if res.status = "passed" then .sending ⟨d.id, .passed, none⟩
  else .retry d attempt
    ("step failed with status: " ++ res.status ++ ", output: " ++ res.output)

/-- The next step of a goroutine, with the row that it saves.  The send is not among these steps:
it needs the channel. -/
def GoPC.next (env : WorkflowEnv) (d : WorkflowStep) : GoPC → Option (GoPC × Option TestResult)
  | .calling attempt =>
      match env.answer d attempt with
      | .error err => some (.retry d attempt err, none)
      | .ok res => some (.saving attempt res 0, none)
  | .saving attempt res n =>
      match (resultRows env.run d.id res)[n]? with
      | some row => some (.saving attempt res (n + 1), some row)
      | none => some (.processed d attempt res, none)
  | .sending _ => none

/-! ### The machine -/

/-- How `runWorkflow` returns, apart from an error of the constructor. -/
inductive WorkflowExit
  | ok
  | failed (failed skipped : ℕ)
  | ctxErr (e : CtxErr)
  deriving DecidableEq, Repr

/-- Where the loop is: at its top, at its `select`, or gone. -/
inductive LoopPC
  | top
  | select
  | returned (x : WorkflowExit)
  deriving DecidableEq, Repr

/-- The state of a run.  The last two fields record what was dispatched and sent; no action
reads them. -/
structure LoopState where
  w : Workflow
  running : List String
  gos : List Goroutine
  results : List StepResult
  pc : LoopPC
  ctx : Option CtxErr
  store : Store
  dispatched : List String
  sent : List StepResult

/-- The actions: an iteration up to the `select`, the two cases of the `select`, a step of a
goroutine, and the end of the context. -/
inductive LoopAct
  | loop
  | receive
  | cancelled
  | go (i : ℕ)
  | expire (e : CtxErr)
  deriving DecidableEq, Repr

def LoopAct.isExpire : LoopAct → Bool
  | .expire _ => true
  | _ => false

/-- What `runWorkflow` returns when all steps are done. -/
def Workflow.exit (w : Workflow) : WorkflowExit :=
  if 0 < w.summary.2.1 ∨ 0 < w.summary.2.2 then .failed w.summary.2.1 w.summary.2.2 else .ok

namespace LoopState

def start (w : Workflow) (ctx : Option CtxErr) (store : Store) : LoopState :=
  ⟨w, [], [], [], .top, ctx, store, [], []⟩

/-- One iteration of the dispatch loop. -/
def dispatch (s : LoopState) (sid : String) : LoopState :=
  if sid ∈ s.running then s
  else
    { s with
      w := match s.w.markRunning sid with
        | .ok w => w
        | .error _ => s.w
      running := sid :: s.running
      gos := s.gos ++ [⟨(s.w.stepDef sid).getD default, .calling 0⟩]
      dispatched := s.dispatched ++ [sid] }

/-- The store after a goroutine saved a row; an error of the store is only logged. -/
def saveRow (env : WorkflowEnv) (s : LoopState) : Option TestResult → Store
  | none => s.store
  | some row =>
      match Store.withCtx env.honoursCtx s.ctx (.ok (s.store.saveTestResult row)) with
      | .ok store => store
      | .error _ => s.store

/-- **One action of the machine.** -/
def step (env : WorkflowEnv) (s : LoopState) : LoopAct → Option LoopState
  | .loop =>
      match s.pc with
      | .top =>
          if s.w.isDone then some { s with pc := .returned s.w.exit }
          else some { s.w.ready.foldl dispatch s with pc := .select }
      | _ => none
  | .receive =>
      match s.pc, s.results with
      | .select, r :: rs =>
          some { s with
            results := rs
            running := s.running.filter (· ≠ r.stepID)
            w := match s.w.advance r.stepID r.status with
              | .ok w => w
              | .error _ => s.w
            pc := .top }
      | _, _ => none
  | .cancelled =>
      match s.pc, s.ctx with
      | .select, some e => some { s with pc := .returned (.ctxErr e) }
      | _, _ => none
  | .go i =>
      match s.gos[i]? with
      | none => none
      | some g =>
          match g.pc with
          | .sending r =>
              -- the channel has room for one result per step of the suite
              if s.results.length < env.suite.steps.length then
                some { s with
                  gos := s.gos.eraseIdx i
                  results := s.results ++ [r]
                  sent := s.sent ++ [r] }
              else none
          | pc =>
              (pc.next env g.defn).map fun nx =>
                { s with gos := s.gos.set i ⟨g.defn, nx.1⟩, store := s.saveRow env nx.2 }
  | .expire e => if s.ctx = none then some { s with ctx := some e } else none

/-! ### What the actions can do -/

variable {env : WorkflowEnv} {s s' : LoopState}

theorem foldl_dispatch_frame (l : List String) (s : LoopState) :
    (l.foldl dispatch s).ctx = s.ctx ∧ (l.foldl dispatch s).store = s.store := by
  induction l generalizing s with
  | nil => exact ⟨rfl, rfl⟩
  | cons sid l ih =>
      obtain ⟨hctx, hstore⟩ := ih (s.dispatch sid)
      rw [List.foldl_cons, hctx, hstore]
      unfold dispatch
      split
      · exact ⟨rfl, rfl⟩
      · exact ⟨rfl, rfl⟩

theorem step_loop (h : s.step env .loop = some s') :
    s.pc = .top ∧
      ((s.w.isDone = true ∧ s' = { s with pc := .returned s.w.exit }) ∨
        (s.w.isDone = false ∧ s' = { s.w.ready.foldl dispatch s with pc := .select })) := by
  simp only [step] at h
  split at h
  · next hpc =>
      split at h
      · next hd => exact ⟨hpc, Or.inl ⟨hd, by simpa using h.symm⟩⟩
      · next hd => exact ⟨hpc, Or.inr ⟨by simpa using hd, by simpa using h.symm⟩⟩
  · cases h

theorem step_receive (h : s.step env .receive = some s') :
    s.pc = .select ∧ ∃ r rs, s.results = r :: rs ∧
      s' = { s with
        results := rs
        running := s.running.filter (· ≠ r.stepID)
        w := match s.w.advance r.stepID r.status with
          | .ok w => w
          | .error _ => s.w
        pc := .top } := by
  simp only [step] at h
  split at h
  · next r rs hpc hres => exact ⟨hpc, r, rs, hres, by simpa using h.symm⟩
  · cases h

theorem step_cancelled (h : s.step env .cancelled = some s') :
    s.pc = .select ∧ ∃ e, s.ctx = some e ∧ s' = { s with pc := .returned (.ctxErr e) } := by
  simp only [step] at h
  split at h
  · next e hpc hctx => exact ⟨hpc, e, hctx, by simpa using h.symm⟩
  · cases h

/-- A goroutine sends its result, or takes a step of its own. -/
theorem step_go {i : ℕ} (h : s.step env (.go i) = some s') :
    ∃ l₁ g l₂, s.gos = l₁ ++ g :: l₂ ∧
      ((∃ r, g.pc = .sending r ∧ s.results.length < env.suite.steps.length ∧
          s' = { s with gos := l₁ ++ l₂, results := s.results ++ [r], sent := s.sent ++ [r] }) ∨
        (∃ pc row, g.pc.next env g.defn = some (pc, row) ∧
          s' = { s with gos := l₁ ++ ⟨g.defn, pc⟩ :: l₂, store := s.saveRow env row })) := by
  simp only [step] at h
  split at h
  · cases h
  · next g hg =>
      obtain ⟨l₁, l₂, hsplit, herase, hset⟩ := Machine.split_of_getElem? hg
      refine ⟨l₁, g, l₂, hsplit, ?_⟩
      split at h
      · next r hr =>
          split at h
          · next hlen =>
              refine Or.inl ⟨r, hr, hlen, ?_⟩
              rw [← herase]
              simpa using h.symm
          · cases h
      · obtain ⟨⟨pc, row⟩, hnx, rfl⟩ := Option.map_eq_some_iff.1 h
        exact Or.inr ⟨pc, row, hnx, by rw [hset]⟩

theorem step_expire {e : CtxErr} (h : s.step env (.expire e) = some s') :
    s.ctx = none ∧ s' = { s with ctx := some e } := by
  simp only [step] at h
  split at h
  · next hc => exact ⟨hc, by simpa using h.symm⟩
  · cases h

/-- Only the end of the context changes the context. -/
theorem ctx_step {a : LoopAct} (h : s.step env a = some s') :
    s'.ctx = none ↔ s.ctx = none ∧ a.isExpire = false := by
  cases a with
  | loop =>
      obtain ⟨_, ⟨_, rfl⟩ | ⟨_, rfl⟩⟩ := step_loop h
      · simp [LoopAct.isExpire]
      · simp [LoopAct.isExpire, (foldl_dispatch_frame s.w.ready s).1]
  | receive =>
      obtain ⟨_, _, _, _, rfl⟩ := step_receive h
      simp [LoopAct.isExpire]
  | cancelled =>
      obtain ⟨_, _, _, rfl⟩ := step_cancelled h
      simp [LoopAct.isExpire]
  | go i =>
      obtain ⟨_, _, _, _, ⟨_, _, _, rfl⟩ | ⟨_, _, _, rfl⟩⟩ := step_go h
      · simp [LoopAct.isExpire]
      · simp [LoopAct.isExpire]
  | expire e =>
      obtain ⟨_, rfl⟩ := step_expire h
      simp [LoopAct.isExpire]

/-- **The context after a run** is live if it was and does not end in the run. -/
theorem ctx_of_run {t : LoopState} {as : List LoopAct}
    (hrun : Machine.run (step env) s as = some t) :
    t.ctx = none ↔ s.ctx = none ∧ ∀ a ∈ as, a.isExpire = false := by
  induction as generalizing s with
  | nil =>
      cases hrun
      simp
  | cons a as ih =>
      obtain ⟨s', h₁, h₂⟩ := Machine.run_cons_eq_some.1 hrun
      rw [ih h₂, ctx_step h₁, List.forall_mem_cons, and_assoc]

/-- Saving a row keeps the statuses of the runs. -/
theorem status_saveRow (s : LoopState) (row : Option TestResult) (id : String) :
    (s.saveRow env row).status id = s.store.status id := by
  unfold saveRow
  split
  · rfl
  · split
    · next hst =>
        unfold Store.withCtx at hst
        split at hst
        · split at hst
          · cases hst
          · cases hst
            rfl
        · cases hst
          rfl
    · rfl

/-- A run of a workflow keeps the statuses of the runs. -/
theorem status_of_reachable {t : LoopState} (h : Machine.Reachable (step env) s t) (id : String) :
    t.store.status id = s.store.status id := by
  refine h.invariant (I := fun t => t.store.status id = s.store.status id) rfl
    fun t a t' ht hs => ?_
  rw [← ht]
  cases a with
  | loop =>
      obtain ⟨_, ⟨_, rfl⟩ | ⟨_, rfl⟩⟩ := step_loop hs
      · rfl
      · simp only [(foldl_dispatch_frame t.w.ready t).2]
  | receive =>
      obtain ⟨_, _, _, _, rfl⟩ := step_receive hs
      rfl
  | cancelled =>
      obtain ⟨_, _, _, rfl⟩ := step_cancelled hs
      rfl
  | go i =>
      obtain ⟨_, _, _, _, ⟨_, _, _, rfl⟩ | ⟨_, _, _, rfl⟩⟩ := step_go hs
      · rfl
      · exact status_saveRow t _ id
  | expire e =>
      obtain ⟨_, rfl⟩ := step_expire hs
      rfl

end LoopState

/-! ### What the answers make of a step -/

/-- The agent reports an attempt of a step as passed. -/
def passes (env : WorkflowEnv) (d : WorkflowStep) (attempt : ℕ) : Bool :=
  match env.answer d attempt with
  | .ok res => res.status = "passed"
  | .error _ => false

def stepOutcome (env : WorkflowEnv) (d : WorkflowStep) : Bool :=
  (List.range (maxAttempts d + 1)).any (passes env d)

/-- The rows of the answer to an attempt. -/
def attemptRows (env : WorkflowEnv) (d : WorkflowStep) (attempt : ℕ) : List TestResult :=
  match env.answer d attempt with
  | .ok res => resultRows env.run d.id res
  | .error _ => []

/-- The attempts that a started step makes: up to the first one that passes. -/
def Attempted (env : WorkflowEnv) (d : WorkflowStep) (attempt : ℕ) : Prop :=
  attempt ≤ maxAttempts d ∧ ∀ b < attempt, passes env d b = false

variable {env : WorkflowEnv} {d : WorkflowStep}

theorem stepOutcome_eq_true_iff :
    stepOutcome env d = true ↔ ∃ a ≤ maxAttempts d, passes env d a = true := by
  simp only [stepOutcome, List.any_eq_true, List.mem_range, Nat.lt_succ_iff]

theorem stepOutcome_eq_false_iff :
    stepOutcome env d = false ↔ ∀ a ≤ maxAttempts d, passes env d a = false := by
  simp only [stepOutcome, List.any_eq_false, List.mem_range, Nat.lt_succ_iff, Bool.not_eq_true]

end Dvf
