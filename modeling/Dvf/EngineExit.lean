/-
**How an execution ends.**

`executeTestRun` has about ten ways out.  Each of them writes a terminal status with the context of
the run and ignores the error; only the deferral for resources writes none.  So whether the run is
recorded as finished depends on one thing: whether the context is still live when that last write
is made, that is, on the calls during which it may have ended before.

Main definitions:

* `Dvf.RunEnv.stages` — the stages of an execution before its last status write, read off the
  answers;
* `Dvf.RunEnv.expiresDuring` — the context ends during a stage;
* `Dvf.WorkflowDone`, `Dvf.Verdict` — what is known when the last write is a verdict;
* `Dvf.LastWrite`, `Dvf.Ended`, `Dvf.Deferred` — an execution comes to its last write, or defers
  its run.

Main results:

* `Dvf.ended_execute` — every execution that sets its run running comes to a last write, or defers;
* `Dvf.execute_terminal_iff` — **the run is recorded as finished exactly when the context does not
  end before the last write.**
-/

import Dvf.Engine
import Dvf.RunWorkflowInv

set_option autoImplicit false

namespace Dvf

/-! ### Stages -/

def RunEnv.expiresDuring (env : RunEnv) : Stage → Bool
  | .workflow => env.schedule.any LoopAct.isExpire
  | stage => (env.expires stage).isSome

/-- The agent answered with a passed result. -/
def answeredPassed : Except String AgentResult → Bool
  | .ok res => res.status = "passed"
  | .error _ => false

namespace RunEnv

variable (env : RunEnv) (e : EngineConfig) (run : TestRun) (suite : TestSuite)

/-- From the workflow on: a list of steps that is refused ends the run at once. -/
def suiteStages : List Stage :=
  match newWorkflow env.orders suite.id run.id suite.steps with
  | .error _ => []
  | .ok _ => [.workflow, .results]

def verifyStages : List Stage :=
  if isVishwaSuite run.testSuiteID then
    .verify :: if answeredPassed env.verifyDevice then env.suiteStages run suite else []
  else env.suiteStages run suite

def testStages : List Stage :=
  if e.hasCoordinator = true then
    .agent :: match env.waitForAgent with
      | .error _ => []
      | .ok _ =>
          .load :: if answeredPassed env.loadDriver then env.verifyStages run suite else []
  else [.results]

def vmStages : List Stage :=
  .createVM :: match env.createVM with
    | .error _ => []
    | .ok _ =>
        .startVM :: match env.startVM with
          | .error _ => [.destroyVM]
          | .ok _ => env.testStages e run suite

def budgetStages : List Stage :=
  match e.allocator with
  | none => env.vmStages e run suite
  | some _ => .acquire :: if env.acquired = true then env.vmStages e run suite else []

/-- **The stages of an execution** between its first and its last status write. -/
def stages : List Stage :=
  .lookup :: match findDevice env.registry run.deviceID with
    | .error _ => []
    | .ok device =>
        if deviceSupportsQEMU device.targetModes then
          .suite :: match env.suite with
            | .error _ => []
            | .ok suite => env.budgetStages e run suite
        else []

end RunEnv

/-! ### The last write -/

/-- **The workflow of the run has been run to its end**: it started in a store with the rows `rows₀`
of the run and left the store and the statuses of the world `m`.  The run that it was called with
has the id of the machine filled in. -/
def WorkflowDone (env : RunEnv) (run : TestRun) (rows₀ : List TestResult) (m : World) : Prop :=
  ∃ device suite vmID w₀ s store₀ ctx₀,
    findDevice env.registry run.deviceID = .ok device ∧ env.suite = .ok suite ∧
    newWorkflow env.orders suite.id run.id suite.steps = .ok w₀ ∧
    Machine.run (LoopState.step (env.workflowEnv { run with vmID := vmID } device suite))
      (LoopState.start w₀ ctx₀ store₀) env.schedule = some s ∧
    store₀.getTestResults run.id = rows₀ ∧ s.w.isDone = true ∧ .cancelled ∉ env.schedule ∧
    m.store = s.store ∧ m.workflow = some s.w ∧ (m.ctx = none → s.ctx = none)

/-- **What is known when the last write is a verdict**: it is the verdict on the stored rows, if
they could be read, and with an agent coordinator the workflow has been run to its end. -/
structure Verdict (e : EngineConfig) (env : RunEnv) (run : TestRun) (rows₀ : List TestResult)
    (m : World) (st : TestRunStatus) : Prop where
  rows : ∃ rows, st = verdict rows ∧
    ((env.honoursCtx = true → m.ctx = none) → rows = m.store.getTestResults run.id)
  workflow : e.hasCoordinator = true → WorkflowDone env run rows₀ m

/-- How a run can end behind the stages `ss`: with a verdict, up to which the stages lead; or in an
error or cancelled, and then the stages do not lead up to the verdict, or the loop of the workflow
has noticed that the context is done. -/
def Final (e : EngineConfig) (env : RunEnv) (run : TestRun) (rows₀ : List TestResult)
    (ss : List Stage) (m : World) (st : TestRunStatus) : Prop :=
  ((st = .errored ∨ st = .cancelled) ∧
      (.results ∈ ss → m.ctx ≠ none ∧ e.hasCoordinator = true ∧ .cancelled ∈ env.schedule)) ∨
    Verdict e env run rows₀ m st ∧ .results ∈ ss

/-- **The last write of an execution** from `w`: it writes `st` in a world `m` behind the stages
`ss`, and `w'` is what the execution leaves. -/
structure LastWrite (e : EngineConfig) (env : RunEnv) (run : TestRun) (rows₀ : List TestResult)
    (ss : List Stage) (w w' m : World) (st : TestRunStatus) (msg : String) : Prop where
  final : Final e env run rows₀ ss m st
  ctx_iff : m.ctx = none ↔ w.ctx = none ∧ ∀ stage ∈ ss, env.expiresDuring stage = false
  status_eq : m.store.status run.id = w.store.status run.id
  written_eq : m.written = w.written
  deferred_eq : w'.deferred = w.deferred
  workflow_eq : w'.workflow = m.workflow
  store_after : w'.store = (m.write env run.id st msg).store
  written_after : w'.written = (m.write env run.id st msg).written

/-- An execution from `w` behind the stages `ss` comes to its last write. -/
def Ended (e : EngineConfig) (env : RunEnv) (run : TestRun) (rows₀ : List TestResult)
    (ss : List Stage) (w w' : World) : Prop :=
  ∃ m st msg, LastWrite e env run rows₀ ss w w' m st msg

/-- The execution deferred its run: it wrote `PENDING`, if anything, and will submit the run
again. -/
def Deferred (run : TestRun) (w w' : World) : Prop :=
  w'.deferred = w.deferred ++ [run] ∧
    (w'.written = w.written ∨ w'.written = w.written ++ [.pending])

section Ended

variable {e : EngineConfig} {env : RunEnv} {run : TestRun} {rows₀ : List TestResult}
  {ss : List Stage} {w w₁ w' w'' m : World} {st : TestRunStatus} {msg : String}

theorem World.written_write (m : World) (id : String) (st : TestRunStatus) (msg : String) :
    (m.write env id st msg).written = m.written ∨
      (m.write env id st msg).written = m.written ++ [st] := by
  unfold World.write
  split
  · exact Or.inr rfl
  · exact Or.inl rfl

theorem World.write_frame (m : World) (id : String) (st : TestRunStatus) (msg : String) :
    (m.write env id st msg).workflow = m.workflow ∧
      (m.write env id st msg).deferred = m.deferred := by
  unfold World.write
  split
  · exact ⟨rfl, rfl⟩
  · exact ⟨rfl, rfl⟩

theorem Ended.write (h : Final e env run rows₀ [] w st) (msg : String) :
    Ended e env run rows₀ [] w (w.write env run.id st msg) :=
  ⟨w, st, msg, h, by simp, rfl, rfl, (World.write_frame w run.id st msg).2,
    (World.write_frame w run.id st msg).1, rfl, rfl⟩

theorem Ended.errored (msg : String) :
    Ended e env run rows₀ [] w (w.write env run.id .errored msg) :=
  Ended.write (Or.inl ⟨Or.inl rfl, by simp⟩) msg

theorem Ended.cons {stage : Stage} (h : Ended e env run rows₀ ss w₁ w') (hstage : stage ≠ .results)
    (hctx : w₁.ctx = none ↔ w.ctx = none ∧ env.expiresDuring stage = false)
    (hstatus : w₁.store.status run.id = w.store.status run.id)
    (hwritten : w₁.written = w.written) (hdeferred : w₁.deferred = w.deferred) :
    Ended e env run rows₀ (stage :: ss) w w' := by
  obtain ⟨m, st, msg, h⟩ := h
  refine ⟨m, st, msg, ?_, ?_, h.status_eq.trans hstatus, h.written_eq.trans hwritten,
    h.deferred_eq.trans hdeferred, h.workflow_eq, h.store_after, h.written_after⟩
  · rcases h.final with ⟨hst, hss⟩ | ⟨hv, hss⟩
    · exact Or.inl ⟨hst, fun hmem => hss (by simpa [hstage.symm] using hmem)⟩
    · exact Or.inr ⟨hv, List.mem_cons_of_mem stage hss⟩
  · rw [h.ctx_iff, hctx, List.forall_mem_cons, and_assoc]

theorem World.pass_ctx_iff {stage : Stage} (hstage : stage ≠ .workflow) (w : World) :
    (w.pass env stage).ctx = none ↔ w.ctx = none ∧ env.expiresDuring stage = false := by
  rw [World.pass_ctx_eq_none_iff]
  cases stage <;> simp_all [RunEnv.expiresDuring]

theorem Ended.pass {stage : Stage} (hstage : stage ≠ .workflow ∧ stage ≠ .results)
    (h : Ended e env run rows₀ ss (w.pass env stage) w') :
    Ended e env run rows₀ (stage :: ss) w w' :=
  h.cons hstage.2 (World.pass_ctx_iff hstage.1 w) rfl rfl rfl

/-- When the loop has noticed that the context is done, the error is written at once. -/
theorem Ended.errored_of_done (hctx : w.ctx ≠ none) (hc : e.hasCoordinator = true)
    (hcancelled : .cancelled ∈ env.schedule) (msg : String) :
    Ended e env run rows₀ ss w (w.write env run.id .errored msg) :=
  ⟨w, .errored, msg, Or.inl ⟨Or.inl rfl, fun _ => ⟨hctx, hc, hcancelled⟩⟩, by simp [hctx], rfl, rfl,
    (World.write_frame w run.id .errored msg).2, (World.write_frame w run.id .errored msg).1, rfl,
    rfl⟩

theorem Ended.after (h : Ended e env run rows₀ ss w w') (hstore : w''.store = w'.store)
    (hwritten : w''.written = w'.written) (hworkflow : w''.workflow = w'.workflow)
    (hdeferred : w''.deferred = w'.deferred) : Ended e env run rows₀ ss w w'' := by
  obtain ⟨m, st, msg, h⟩ := h
  exact ⟨m, st, msg, h.final, h.ctx_iff, h.status_eq, h.written_eq, hdeferred.trans h.deferred_eq,
    hworkflow.trans h.workflow_eq, hstore.trans h.store_after, hwritten.trans h.written_after⟩

theorem Ended.of_vmID {vmID : String}
    (h : Ended e env { run with vmID := vmID } rows₀ ss w w') : Ended e env run rows₀ ss w w' := by
  obtain ⟨m, st, msg, h⟩ := h
  refine ⟨m, st, msg, ?_, h.ctx_iff, h.status_eq, h.written_eq, h.deferred_eq, h.workflow_eq,
    h.store_after, h.written_after⟩
  rcases h.final with hst | ⟨hv, hss⟩
  · exact Or.inl hst
  · exact Or.inr ⟨⟨hv.rows, hv.workflow⟩, hss⟩

end Ended

/-! ### The parts of the program -/

variable {e : EngineConfig} {env : RunEnv} {run : TestRun} {device : DeviceEntry}
  {vm : VMInstance} {suite : TestSuite} {rows₀ : List TestResult} {w w' : World}
  {r : Except String Unit}

@[simp] theorem eval_callOf (c : Call) (w : World) :
    (call c).eval (handle env) w = handle env w c := Prog.eval_perform _ c w

@[simp] theorem eval_setStatus (st : TestRunStatus) (msg : String) (w : World) :
    (setStatus run st msg).eval (handle env) w = some (⟨⟩, w.write env run.id st msg) := by
  simp [setStatus, handle]

@[simp] theorem eval_registerVM (id : String) (w : World) :
    (ifCoordinator e (.registerVM id)).eval (handle env) w = some (⟨⟩, w) := by
  unfold ifCoordinator
  split <;> simp [handle]

@[simp] theorem eval_unregisterVM (id : String) (w : World) :
    (ifCoordinator e (.unregisterVM id)).eval (handle env) w = some (⟨⟩, w) := by
  unfold ifCoordinator
  split <;> simp [handle]

@[simp] theorem eval_teardown (w : World) :
    (teardown e vm).eval (handle env) w = some (⟨⟩, w.pass env .destroyVM) := by
  simp [teardown, handle]

theorem eval_requirePassed {cmd : AgentCommand} {what : String}
    {ans : (Call.sendCommand vm.id cmd).Resp} {w₁ : World}
    (h : handle env w (.sendCommand vm.id cmd) = some (ans, w₁)) :
    ∃ r, (requirePassed vm cmd what).eval (handle env) w = some (r, w₁) ∧
      ((∃ u, r = .ok u) ↔ answeredPassed ans = true) := by
  simp only [requirePassed, Prog.eval_bind, eval_callOf, h, Option.bind_some]
  cases ans with
  | error err => exact ⟨_, rfl, by simp [answeredPassed]⟩
  | ok res =>
      by_cases hp : res.status = "passed"
      · exact ⟨.ok (), by simp [hp], by simp [answeredPassed, hp]⟩
      · exact ⟨.error (what ++ " status: " ++ res.status), by simp [hp], by
          simp [answeredPassed, hp]⟩

theorem eval_load (env : RunEnv) (vm : VMInstance) (run : TestRun) (device : DeviceEntry)
    (w : World) :
    ∃ r, (requirePassed vm (loadCommand run device) "driver load").eval (handle env) w =
        some (r, w.pass env .load) ∧
      ((∃ u, r = .ok u) ↔ answeredPassed env.loadDriver = true) :=
  eval_requirePassed rfl

theorem eval_verify (env : RunEnv) (vm : VMInstance) (run : TestRun) (device : DeviceEntry)
    (w : World) :
    ∃ r, (requirePassed vm (verifyCommand run device) "verify").eval (handle env) w =
        some (r, w.pass env .verify) ∧
      ((∃ u, r = .ok u) ↔ answeredPassed env.verifyDevice = true) :=
  eval_requirePassed rfl

/-- The verdict. -/
theorem ended_recordVerdict (h : (recordVerdict run).eval (handle env) w = some (r, w'))
    (hwf : e.hasCoordinator = true → WorkflowDone env run rows₀ w) :
    Ended e env run rows₀ [.results] w w' := by
  simp only [recordVerdict, Prog.eval_bind, eval_callOf, handle, Option.bind_some, eval_setStatus,
    Prog.eval_pure, Option.some.injEq, Prod.mk.injEq] at h
  obtain ⟨_, rfl⟩ := h
  refine ⟨w.pass env .results, _, "", Or.inr ⟨⟨⟨_, rfl, fun hlive => ?_⟩, ?_⟩,
    List.mem_singleton_self _⟩, ?_, rfl, rfl, (World.write_frame _ _ _ _).2,
    (World.write_frame _ _ _ _).1, rfl, rfl⟩
  · have hw : env.honoursCtx = true → w.ctx = none := fun hh =>
      ((World.pass_ctx_eq_none_iff w .results).1 (hlive hh)).1
    have hread : w.readResults env run.id = .ok (w.store.getTestResults run.id) := by
      unfold World.readResults Store.withCtx
      cases hctx : w.ctx with
      | none => rfl
      | some err =>
          have hh : env.honoursCtx ≠ true := fun hh => by
            rw [hw hh] at hctx
            cases hctx
          simp only [if_neg hh]
    rw [hread]
    rfl
  · intro hc
    obtain ⟨device, suite, vmID, w₀, s, store₀, ctx₀, h₁, h₂, h₃, h₄, h₅, h₆, h₇, h₈, h₉, h₁₀⟩ :=
      hwf hc
    exact ⟨device, suite, vmID, w₀, s, store₀, ctx₀, h₁, h₂, h₃, h₄, h₅, h₆, h₇, h₈, h₉, fun hn =>
      h₁₀ ((World.pass_ctx_eq_none_iff w .results).1 hn).1⟩
  · rw [World.pass_ctx_iff (by simp), List.forall_mem_singleton]

/-- The workflow and what follows. -/
theorem ended_runSuite (h : (runSuite run device vm suite).eval (handle env) w = some (r, w'))
    (hc : e.hasCoordinator = true)
    (hdev : findDevice env.registry run.deviceID = .ok device) (hsuite : env.suite = .ok suite)
    (hrows : w.store.getTestResults run.id = rows₀) :
    Ended e env run rows₀ (env.suiteStages run suite) w w' := by
  simp only [runSuite, Prog.eval_bind, eval_callOf, handle, runWorkflow] at h
  unfold RunEnv.suiteStages
  cases hnew : newWorkflow env.orders suite.id run.id suite.steps with
  | error err =>
      simp only [hnew] at h
      cases h
      exact Ended.errored _
  | ok w₀ =>
      simp only [hnew] at h
      obtain ⟨⟨ret, w₁⟩, hret, h⟩ := Option.bind_eq_some_iff.1 h
      obtain ⟨s, hs, hpc⟩ := Option.bind_eq_some_iff.1 hret
      have hI : s.Inv (env.workflowEnv run device suite) :=
        LoopState.Inv.of_reachable (newWorkflow_fresh hnew) ⟨_, hs⟩
      have hok := hI.pc_ok
      unfold LoopState.PcOk at hok
      -- the loop leaves the statuses alone, and the context ends in it only by an action
      have hend : Ended e env run rows₀ [.results]
          { w with store := s.store, ctx := s.ctx, workflow := some s.w } w' →
          Ended e env run rows₀ [.workflow, .results] w w' := by
        intro hE
        refine hE.cons (by simp) ?_ (LoopState.status_of_reachable ⟨_, hs⟩ run.id) rfl rfl
        rw [LoopState.ctx_of_run hs]
        simp [RunEnv.expiresDuring, LoopState.start]
      have hgave : s.GaveUp ↔ .cancelled ∈ env.schedule := by
        rw [LoopState.gaveUp_of_run hs]
        simp [LoopState.GaveUp, LoopState.start]
      have hdone : s.w.isDone = true → ¬ s.GaveUp → e.hasCoordinator = true →
          WorkflowDone env run rows₀
            { w with store := s.store, ctx := s.ctx, workflow := some s.w } := fun hd hg _ =>
        ⟨device, suite, run.vmID, w₀, s, w.store, w.ctx, hdev, hsuite, hnew, hs, hrows, hd,
          fun hmem => hg (hgave.2 hmem), rfl, rfl, fun hn => hn⟩
      split at hpc
      · next x hx =>
          rw [hx] at hok
          obtain ⟨rfl, rfl⟩ := Prod.mk.inj (Option.some.inj hpc)
          cases x with
          | ok =>
              have hg : ¬ s.GaveUp := by simp [LoopState.GaveUp, hx]
              exact hend (ended_recordVerdict h (hdone hok.1 hg))
          | failed f sk =>
              have hg : ¬ s.GaveUp := by simp [LoopState.GaveUp, hx]
              exact hend (ended_recordVerdict h (hdone hok.1 hg))
          | ctxErr err =>
              cases h
              exact hend (Ended.errored_of_done (by rw [hok]; simp) hc (hgave.1 ⟨err, hx⟩) _)
      · cases hpc

/-- The device check, if there is one, and what follows. -/
theorem ended_verifyAndRun
    (h : (verifyAndRun run device vm suite).eval (handle env) w = some (r, w'))
    (hc : e.hasCoordinator = true)
    (hdev : findDevice env.registry run.deviceID = .ok device) (hsuite : env.suite = .ok suite)
    (hrows : w.store.getTestResults run.id = rows₀) :
    Ended e env run rows₀ (env.verifyStages run suite) w w' := by
  unfold verifyAndRun at h
  unfold RunEnv.verifyStages
  split at h
  · next hv =>
      rw [if_pos hv]
      obtain ⟨ans, hans, hiff⟩ := eval_verify env vm run device w
      rw [Prog.eval_bind, hans] at h
      refine Ended.pass (by simp) ?_
      cases ans with
      | error err =>
          rw [if_neg (by rw [← hiff]; simp)]
          cases h
          exact Ended.errored _
      | ok u =>
          rw [if_pos (hiff.1 ⟨u, rfl⟩)]
          exact ended_runSuite h hc hdev hsuite hrows
  · next hv =>
      rw [if_neg hv]
      exact ended_runSuite h hc hdev hsuite hrows

/-- From the wait for the agent on. -/
theorem ended_runTests (h : (runTests e run device vm suite).eval (handle env) w = some (r, w'))
    (hdev : findDevice env.registry run.deviceID = .ok device) (hsuite : env.suite = .ok suite)
    (hrows : w.store.getTestResults run.id = rows₀) :
    Ended e env run rows₀ (env.testStages e run suite) w w' := by
  unfold runTests at h
  unfold RunEnv.testStages
  split at h
  · next hc =>
      rw [if_pos hc]
      refine Ended.pass (by simp) ?_
      rw [Prog.eval_bind, eval_callOf] at h
      simp only [handle, Option.bind_some] at h
      cases hwait : env.waitForAgent with
      | error err =>
          simp only [hwait] at h
          cases h
          exact Ended.errored _
      | ok u =>
          simp only [hwait] at h
          obtain ⟨ans, hans, hiff⟩ := eval_load env vm run device (w.pass env .agent)
          rw [Prog.eval_bind, hans] at h
          refine Ended.pass (by simp) ?_
          cases ans with
          | error err =>
              rw [if_neg (by rw [← hiff]; simp)]
              cases h
              exact Ended.errored _
          | ok u =>
              rw [if_pos (hiff.1 ⟨u, rfl⟩)]
              exact ended_verifyAndRun h hc hdev hsuite hrows
  · next hc =>
      rw [if_neg hc]
      exact ended_recordVerdict h fun hc' => absurd hc' hc

/-- From the creation of the machine on. -/
theorem ended_runOnVM (h : (runOnVM e run device suite).eval (handle env) w = some (r, w'))
    (hdev : findDevice env.registry run.deviceID = .ok device) (hsuite : env.suite = .ok suite)
    (hrows : w.store.getTestResults run.id = rows₀) :
    Ended e env run rows₀ (env.vmStages e run suite) w w' := by
  unfold runOnVM at h
  unfold RunEnv.vmStages
  rw [Prog.eval_bind, eval_callOf] at h
  simp only [handle, Option.bind_some] at h
  refine Ended.pass (by simp) ?_
  cases hcreate : env.createVM with
  | error err =>
      simp only [hcreate] at h
      cases h
      exact Ended.errored _
  | ok vm =>
      simp only [hcreate, Prog.eval_bind, eval_registerVM, eval_callOf, handle,
        Option.bind_some] at h
      refine Ended.pass (by simp) ?_
      cases hstart : env.startVM with
      | error err =>
          simp only [hstart, Prog.eval_bind, eval_unregisterVM, eval_callOf, handle,
            Option.bind_some] at h
          cases h
          exact Ended.pass (by simp) (Ended.errored _)
      | ok u =>
          simp only [hstart, Prog.eval_bind] at h
          obtain ⟨⟨r₁, w₁⟩, h₁, h⟩ := Option.bind_eq_some_iff.1 h
          simp only [eval_teardown] at h
          cases h
          have hE : Ended e env { run with vmID := vm.id } rows₀ (env.testStages e run suite)
              ((w.pass env .createVM).pass env .startVM) w₁ :=
            ended_runTests h₁ hdev hsuite hrows
          exact hE.of_vmID.after rfl rfl rfl rfl

/-- From the budget on: the run ends, or it is deferred. -/
theorem ended_runWithBudget
    (h : (runWithBudget e run device suite).eval (handle env) w = some (r, w'))
    (hdev : findDevice env.registry run.deviceID = .ok device) (hsuite : env.suite = .ok suite)
    (hrows : w.store.getTestResults run.id = rows₀) :
    Ended e env run rows₀ (env.budgetStages e run suite) w w' ∨
      Deferred run w w' ∧ .results ∉ env.budgetStages e run suite := by
  unfold runWithBudget at h
  unfold RunEnv.budgetStages
  cases halloc : e.allocator with
  | none =>
      simp only [halloc] at h
      exact Or.inl (ended_runOnVM h hdev hsuite hrows)
  | some alloc =>
      simp only [halloc, Prog.eval_bind, eval_callOf, handle, Option.bind_some] at h
      cases hacq : env.acquired with
      | true =>
          simp only [hacq, Prog.eval_bind] at h
          obtain ⟨⟨r₁, w₁⟩, h₁, h⟩ := Option.bind_eq_some_iff.1 h
          cases h
          rw [if_pos rfl]
          exact Or.inl (Ended.pass (by simp) (ended_runOnVM h₁ hdev hsuite hrows))
      | false =>
          simp only [hacq] at h
          cases h
          refine Or.inr ⟨⟨?_, World.written_write _ _ _ _⟩, by simp⟩
          simp only [(World.write_frame _ _ _ _).2, World.pass_deferred]

/-- **Every execution comes to a last write or defers its run**, unless the first write of a status
is refused. -/
theorem ended_execute (h : execute e env run w = some (r, w')) :
    (∃ err, w.writeResp env run.id .running "" = .error err ∧ w' = w) ∨
      ∃ store₁, w.writeResp env run.id .running "" = .ok store₁ ∧
        (Ended e env run (store₁.getTestResults run.id) (env.stages e run)
          { w with store := store₁, written := w.written ++ [.running] } w' ∨
        Deferred run { w with store := store₁, written := w.written ++ [.running] } w' ∧
          .results ∉ env.stages e run) := by
  unfold execute executeTestRun at h
  rw [Prog.eval_bind, eval_callOf] at h
  simp only [handle, Option.bind_some] at h
  cases hresp : w.writeResp env run.id .running "" with
  | error err =>
      simp only [World.write, hresp, Except.map] at h
      cases h
      exact Or.inl ⟨err, rfl, rfl⟩
  | ok store₁ =>
      refine Or.inr ⟨store₁, rfl, ?_⟩
      simp only [World.write, hresp, Except.map, Prog.eval_bind, eval_callOf, handle,
        Option.bind_some] at h
      unfold RunEnv.stages
      cases hdev : findDevice env.registry run.deviceID with
      | error err =>
          simp only [hdev] at h
          cases h
          exact Or.inl (Ended.pass (by simp) (Ended.errored _))
      | ok device =>
          simp only [hdev] at h
          by_cases hq : deviceSupportsQEMU device.targetModes = true
          · simp only [hq, if_true, Prog.eval_bind, eval_callOf, handle, Option.bind_some] at h ⊢
            cases hsuite : env.suite with
            | error err =>
                simp only [hsuite] at h
                cases h
                exact Or.inl (Ended.pass (by simp) (Ended.pass (by simp) (Ended.errored _)))
            | ok suite =>
                simp only [hsuite] at h
                rcases ended_runWithBudget h hdev hsuite rfl with hE | hdef
                · exact Or.inl (Ended.pass (by simp) (Ended.pass (by simp) hE))
                · exact Or.inr ⟨hdef.1, by simpa using hdef.2⟩
          · simp only [hq] at h ⊢
            cases h
            exact Or.inl (Ended.pass (by simp)
              (Ended.write (Or.inl ⟨Or.inr rfl, by simp⟩) _))

/-! ### The stored status -/

theorem Final.isTerminal {ss : List Stage} {m : World} {st : TestRunStatus}
    (h : Final e env run rows₀ ss m st) : st.isTerminal = true := by
  rcases h with ⟨rfl | rfl, _⟩ | ⟨h, _⟩
  · rfl
  · rfl
  · obtain ⟨rows, rfl, _⟩ := h.rows
    exact isTerminal_verdict rows

/-- **A finished run is recorded as finished exactly when its context outlives it.**  Let the store
refuse writes whose context is done.  After an execution that set a known run running and did not
defer it, the stored status is terminal if and only if the context did not end during any of the
calls between the first and the last status write. -/
theorem execute_terminal_iff (hh : env.honoursCtx = true) (hctx : w.ctx = none)
    {st₀ : TestRunStatus} (hknown : w.store.status run.id = some st₀)
    (h : execute e env run w = some (r, w')) (hdef : w'.deferred = w.deferred) :
    (∃ st, w'.store.status run.id = some st ∧ st.isTerminal = true) ↔
      ∀ stage ∈ env.stages e run, env.expiresDuring stage = false := by
  obtain ⟨store, hup, hresp, _⟩ := World.write_of_live (fun _ => hctx) hknown .running ""
  have hrunning : store.status run.id = some .running := by
    rw [Store.status_update hup, if_pos rfl]
  rcases ended_execute h with ⟨err, herr, _⟩ | ⟨store₁, hresp₁, hend⟩
  · rw [hresp] at herr
    cases herr
  · rw [hresp] at hresp₁
    cases hresp₁
    rcases hend with ⟨m, st, msg, hm⟩ | ⟨⟨hdef', _⟩, _⟩
    · have hiff : m.ctx = none ↔ ∀ stage ∈ env.stages e run, env.expiresDuring stage = false := by
        rw [hm.ctx_iff]
        simp [hctx]
      have hmrun : m.store.status run.id = some .running := hm.status_eq.trans hrunning
      rw [← hiff, hm.store_after]
      by_cases hlive : m.ctx = none
      · obtain ⟨store', hst, _, hwrite⟩ := World.write_of_live (fun _ => hlive) hmrun st msg
        rw [hwrite]
        refine ⟨fun _ => hlive, fun _ => ⟨st, ?_, hm.final.isTerminal⟩⟩
        rw [Store.status_update hst, if_pos rfl]
      · rw [World.write_of_done hh hlive, hmrun]
        refine ⟨?_, fun hn => absurd hn hlive⟩
        rintro ⟨st', hst', hterm⟩
        cases hst'
        cases hterm
    · rw [hdef] at hdef'
      simp at hdef'

def chainRun : TestRun :=
  { id := "run", deviceID := "dev", testSuiteID := "suite", status := .pending }

/-- The world in which the run has just been taken from the queue. -/
def chainWorld : World where
  store := newMemoryStore.insertRun "run" chainRun rfl

/-- An engine with a coordinator and no allocator. -/
def chainConfig : EngineConfig := ⟨none, true⟩

/-- Surroundings in which every call succeeds and both steps pass without output. -/
def chainRunEnv : RunEnv where
  registry := [{ id := "dev" }]
  suite := .ok { id := "suite", steps := chainSteps }
  acquired := true
  createVM := .ok { id := "vm", status := .creating }
  startVM := .ok ()
  stopVM := .ok ()
  destroyVM := .ok ()
  waitForAgent := .ok ()
  loadDriver := .ok { status := "passed" }
  verifyDevice := .ok { status := "passed" }
  agent := fun _ _ _ => .ok { status := "passed" }
  orders := storedOrders
  schedule := [.loop, .go 0, .go 0, .go 0, .receive, .loop, .go 0, .go 0, .go 0, .receive, .loop]
  honoursCtx := true
  clock := fun _ => 0
  expires := fun _ => none

/-- The run that passes is recorded. -/
theorem execute_terminal_chain :
    ∃ r w', execute chainConfig chainRunEnv chainRun chainWorld = some (r, w') ∧
      ∃ st, w'.store.status "run" = some st ∧ st.isTerminal = true := by
  have hrun : (execute chainConfig chainRunEnv chainRun chainWorld).map
      (fun x => x.2.deferred) = some [] := by decide
  obtain ⟨⟨r, w'⟩, hx, hdef⟩ := Option.map_eq_some_iff.1 hrun
  have hknown : chainWorld.store.status chainRun.id = some .pending := by decide
  exact ⟨r, w', hx, (execute_terminal_iff rfl rfl hknown hx hdef).2 (by decide)⟩

/-- The test timeout strikes while the first step is out: the loop returns, the status `ERRORED` is
written with the context that is done, and the run stays `RUNNING`. -/
theorem execute_timeout_stays_running :
    ∃ r w', execute chainConfig
        { chainRunEnv with schedule := [.loop, .expire .deadlineExceeded, .cancelled] } chainRun
        chainWorld = some (r, w') ∧
      w'.written = [.running] ∧ w'.deferred = [] ∧ w'.store.status "run" = some .running := by
  have hrun : (execute chainConfig
      { chainRunEnv with schedule := [.loop, .expire .deadlineExceeded, .cancelled] } chainRun
      chainWorld).map (fun x => (x.2.written, x.2.deferred, x.2.store.status "run")) =
        some ([.running], [], some .running) := by decide
  obtain ⟨⟨r, w'⟩, hx, heq⟩ := Option.map_eq_some_iff.1 hrun
  simp only [Prod.mk.injEq] at heq
  exact ⟨r, w', hx, heq⟩

end Dvf
