/-
**How a workflow run ends.**

Every action of the machine of `Dvf/RunWorkflow.lean` decreases a measure: the commands, rows and
sends that pending steps and live goroutines still have ahead of them, the results in the channel,
and the place of the loop.  So every interleaving is finite, and as long as the context lives it can
only end with the loop having returned on a finished workflow.  The statuses it ends with are
decided by the outcomes of the steps alone: they do not depend on the interleaving.

Main definitions:

* `Dvf.GoPC.cost`, `Dvf.LoopState.work`, `Dvf.LoopState.measure` — the measure;
* `Dvf.finalStatus`, `Dvf.finalSummary` — the end of a workflow, from the outcomes of its steps.

Main results:

* `Dvf.LoopState.Inv.measure_lt` — every action decreases the measure;
* `Dvf.LoopState.Core.stepStatus_of_isDone` — the statuses of a finished workflow;
* `Dvf.runWorkflow_schedule_independent` — **all interleavings end, and end alike.**
-/

import Dvf.RunWorkflowInv
import Mathlib.Algebra.BigOperators.Intervals
import Mathlib.Algebra.Order.BigOperators.Group.List

set_option autoImplicit false

namespace Dvf

variable {env : WorkflowEnv} {d : WorkflowStep}

/-! ### The measure -/

/-- The steps that the attempts from `a` on may take: the command, each row, and going on. -/
def attemptsCost (env : WorkflowEnv) (d : WorkflowStep) (a : ℕ) : ℕ :=
  ∑ b ∈ Finset.Ico a (maxAttempts d + 1), ((attemptRows env d b).length + 2)

theorem attemptsCost_of_le {a : ℕ} (h : a ≤ maxAttempts d) :
    attemptsCost env d a = (attemptRows env d a).length + 2 + attemptsCost env d (a + 1) :=
  Finset.sum_eq_sum_Ico_succ_bot (Nat.lt_succ_iff.2 h) _

/-- The steps that a goroutine may still take. -/
def GoPC.cost (env : WorkflowEnv) (d : WorkflowStep) : GoPC → ℕ
  | .calling a => attemptsCost env d a + 1
  | .saving a res n =>
      ((resultRows env.run d.id res).length - n) + 1 + attemptsCost env d (a + 1) + 1
  | .sending _ => 1

theorem GoPC.cost_calling {a : ℕ} (h : a ≤ maxAttempts d) :
    (GoPC.calling a).cost env d =
      (attemptRows env d a).length + 2 + attemptsCost env d (a + 1) + 1 :=
  congrArg (· + 1) (attemptsCost_of_le h)

theorem GoPC.cost_saving (a n : ℕ) (res : AgentResult) :
    (GoPC.saving a res n).cost env d =
      ((resultRows env.run d.id res).length - n) + 1 + attemptsCost env d (a + 1) + 1 := rfl

theorem GoPC.cost_retry_le (env : WorkflowEnv) (d : WorkflowStep) (a : ℕ) (err : String) :
    (GoPC.retry d a err).cost env d ≤ attemptsCost env d (a + 1) + 1 := by
  unfold GoPC.retry
  split
  · exact le_refl _
  · exact Nat.le_add_left _ _

theorem GoPC.cost_processed_le (env : WorkflowEnv) (d : WorkflowStep) (a : ℕ)
    (res : AgentResult) :
    (GoPC.processed d a res).cost env d ≤ attemptsCost env d (a + 1) + 1 := by
  unfold GoPC.processed
  split
  · exact Nat.le_add_left _ _
  · exact GoPC.cost_retry_le env d a _

/-- A goroutine gets closer to its send with every step. -/
theorem GoPC.Ok.cost_lt {pc pc' : GoPC} {row : Option TestResult} (h : GoPC.Ok env d pc)
    (hnx : pc.next env d = some (pc', row)) : pc'.cost env d < pc.cost env d := by
  cases pc with
  | calling a =>
      rw [GoPC.cost_calling h.1]
      simp only [GoPC.next] at hnx
      split at hnx
      · next err hans =>
          cases hnx
          have hle := GoPC.cost_retry_le env d a err
          omega
      · next res hans =>
          cases hnx
          rw [GoPC.cost_saving]
          simp only [attemptRows, hans]
          omega
  | saving a res n =>
      rw [GoPC.cost_saving]
      simp only [GoPC.next] at hnx
      split at hnx
      · next row hrow =>
          cases hnx
          have hlt := (List.getElem?_eq_some_iff.1 hrow).1
          rw [GoPC.cost_saving]
          omega
      · cases hnx
        have hle := GoPC.cost_processed_le env d a res
        omega
  | sending r => cases hnx

/-- How far the loop is from its end. -/
def LoopPC.weight : LoopPC → ℕ
  | .top => 2
  | .select => 1
  | .returned _ => 0

namespace LoopState

variable {s s' : LoopState}

/-- What the pending steps may still cost. -/
def pendingCost (env : WorkflowEnv) (w : Workflow) : ℕ :=
  (env.suite.steps.map fun d =>
    if w.stepStatus d.id = some .pending then (GoPC.calling 0).cost env d + 2 else 0).sum

def goCost (env : WorkflowEnv) (gos : List Goroutine) : ℕ :=
  (gos.map fun g => g.pc.cost env g.defn + 2).sum

def work (env : WorkflowEnv) (s : LoopState) : ℕ :=
  pendingCost env s.w + goCost env s.gos + 2 * s.results.length

/-- **The measure.** -/
def measure (env : WorkflowEnv) (s : LoopState) : ℕ :=
  s.work env + s.pc.weight + if s.ctx = none then 1 else 0

/-- Starting a pending step takes its cost from the pending ones. -/
theorem Core.pendingCost_started (h : Core env s) (hd : d ∈ env.suite.steps)
    (hpend : s.w.stepStatus d.id = some .pending) :
    pendingCost env (s.w.started d.id) + ((GoPC.calling 0).cost env d + 2) =
      pendingCost env s.w := by
  have hkey : d.id ∈ s.w.steps.keys := Workflow.mem_keys_iff_stepStatus.2 ⟨_, hpend⟩
  obtain ⟨l₁, l₂, hsplit⟩ := List.append_of_mem hd
  have hnd := h.winv.wf.distinct
  rw [hsplit, List.map_append, List.map_cons, List.perm_middle.nodup_iff, List.nodup_cons] at hnd
  have hother : ∀ l : List WorkflowStep, (∀ d' ∈ l, d' ∈ l₁ ++ l₂) →
      (l.map fun d' => if (s.w.started d.id).stepStatus d'.id = some .pending then
        (GoPC.calling 0).cost env d' + 2 else 0) =
      l.map fun d' => if s.w.stepStatus d'.id = some .pending then
        (GoPC.calling 0).cost env d' + 2 else 0 := by
    intro l hl
    refine List.map_congr_left fun d' hd' => ?_
    have hne : d'.id ≠ d.id := by
      intro heq
      refine hnd.1 ?_
      rw [← heq, ← List.map_append]
      exact List.mem_map_of_mem (hl d' hd')
    rw [Workflow.stepStatus_started hkey, if_neg hne]
  unfold pendingCost
  rw [hsplit, List.map_append, List.map_append, List.map_cons, List.map_cons,
    hother l₁ fun d' hd' => List.mem_append_left _ hd',
    hother l₂ fun d' hd' => List.mem_append_right _ hd',
    Workflow.stepStatus_started hkey, if_pos rfl, if_neg (by simp), if_pos hpend]
  simp only [List.sum_append, List.sum_cons]
  omega

theorem Core.work_dispatch (h : Core env s) {sid : String} (hr : sid ∈ s.w.ready) :
    (s.dispatch sid).work env = s.work env := by
  obtain ⟨_, hpend, _⟩ := Workflow.mem_ready_iff.1 hr
  obtain ⟨d, hd, rfl, heq⟩ := h.dispatch_eq hr
  have hp := h.pendingCost_started hd hpend
  rw [heq]
  simp only [work, goCost, List.map_append, List.sum_append, List.map_cons, List.map_nil,
    List.sum_cons, List.sum_nil]
  omega

theorem pendingCost_le (env : WorkflowEnv) {w w' : Workflow}
    (h : ∀ k, w'.stepStatus k = some .pending → w.stepStatus k = some .pending) :
    pendingCost env w' ≤ pendingCost env w := by
  refine List.sum_le_sum fun d _ => ?_
  split
  · next hp => rw [if_pos (h d.id hp)]
  · exact Nat.zero_le _

/-- **Every action decreases the measure.** -/
theorem Inv.measure_lt (h : Inv env s) {a : LoopAct} (hs : s.step env a = some s') :
    s'.measure env < s.measure env := by
  cases a with
  | loop =>
      obtain ⟨hpc, ⟨_, rfl⟩ | ⟨_, rfl⟩⟩ := step_loop hs
      · simp only [measure, work, hpc, LoopPC.weight]
        omega
      · obtain ⟨_, ⟨hw, hctx⟩, _⟩ := h.toCore.dispatch_induction
          (P := fun t => t.work env = s.work env ∧ t.ctx = s.ctx)
          (fun t sid hc hr ht => by
            obtain ⟨d, _, _, heq⟩ := hc.dispatch_eq hr
            exact ⟨by rw [hc.work_dispatch hr, ht.1], by rw [heq]; exact ht.2⟩) ⟨rfl, rfl⟩
        change (s.w.ready.foldl LoopState.dispatch s).work env + 1 +
          (if (s.w.ready.foldl LoopState.dispatch s).ctx = none then 1 else 0) < _
        rw [hw, hctx]
        simp only [measure, hpc, LoopPC.weight]
        omega
  | receive =>
      obtain ⟨hpc, r, rs, hres, rfl⟩ := step_receive hs
      obtain ⟨_, _, _, w', hw', _, _, hp⟩ := h.toCore.advance hres
      have hle := pendingCost_le env hp
      simp only [measure, work, hw', hpc, hres, List.length_cons, LoopPC.weight]
      omega
  | cancelled =>
      obtain ⟨hpc, e, he, rfl⟩ := step_cancelled hs
      simp only [measure, work, hpc, LoopPC.weight]
      omega
  | go i =>
      obtain ⟨l₁, g, l₂, hgos, ⟨r, hgpc, _, rfl⟩ | ⟨pc, row, hnx, rfl⟩⟩ := step_go hs
      · simp only [measure, work, goCost, hgos, List.map_append, List.map_cons, List.sum_append,
          List.sum_cons, hgpc, GoPC.cost, List.length_append, List.length_cons, List.length_nil]
        omega
      · have hlt := (h.go_ok g (by simp [hgos])).2.cost_lt hnx
        simp only [measure, work, goCost, hgos, List.map_append, List.map_cons, List.sum_append,
          List.sum_cons]
        omega
  | expire e =>
      obtain ⟨hctx, rfl⟩ := step_expire hs
      simp only [measure, work, hctx, if_true, reduceCtorEq, if_false]
      omega

end LoopState

/-! ### The end of a workflow -/

open Classical in
/-- **The final status of a step**, from the outcomes of the steps: skipped if some proper
transitive dependency is to fail, otherwise its own outcome. -/
noncomputable def finalStatus (defs : List WorkflowStep) (outcome : String → Bool)
    (sid : String) : StepStatus :=
  if ∃ f, Relation.TransGen (DependsOn defs) f sid ∧ outcome f = false then .skipped
  else outcomeStatus (outcome sid)

/-- How many steps end with the status `st`. -/
noncomputable def finalCount (defs : List WorkflowStep) (outcome : String → Bool)
    (st : StepStatus) : ℕ :=
  (defs.map WorkflowStep.id).countP fun sid => finalStatus defs outcome sid = st

/-- The final numbers of passed, failed and skipped steps. -/
noncomputable def finalSummary (defs : List WorkflowStep) (outcome : String → Bool) :
    ℕ × ℕ × ℕ :=
  (finalCount defs outcome .passed, finalCount defs outcome .failed,
    finalCount defs outcome .skipped)

theorem finalStatus_cases (defs : List WorkflowStep) (outcome : String → Bool) (sid : String) :
    finalStatus defs outcome sid = .passed ∨ finalStatus defs outcome sid = .failed ∨
      finalStatus defs outcome sid = .skipped := by
  unfold finalStatus
  split
  · simp
  · cases outcome sid <;> simp [outcomeStatus]

/-- The three counts add up to the number of steps. -/
theorem finalCount_add (defs : List WorkflowStep) (outcome : String → Bool) :
    finalCount defs outcome .passed + finalCount defs outcome .failed +
      finalCount defs outcome .skipped = defs.length := by
  -- each id is counted once; the induction is over a list of ids, the definitions stay fixed
  have hlist : ∀ l : List String,
      (l.countP fun sid => finalStatus defs outcome sid = .passed) +
        (l.countP fun sid => finalStatus defs outcome sid = .failed) +
        (l.countP fun sid => finalStatus defs outcome sid = .skipped) = l.length := by
    intro l
    induction l with
    | nil => rfl
    | cons sid l ih =>
        simp only [List.countP_cons, List.length_cons]
        rcases finalStatus_cases defs outcome sid with h | h | h <;>
          · simp only [h, decide_true, if_true, reduceCtorEq, decide_false, Bool.false_eq_true,
              if_false]
            omega
  rw [finalCount, finalCount, finalCount, hlist, List.length_map]

namespace LoopState

variable {s : LoopState} {outcome : String → Bool}

/-- **The statuses of a finished workflow** are decided by the outcomes of its steps. -/
theorem Core.stepStatus_of_isDone (h : Core env s) (hd : s.w.isDone = true)
    (hout : ∀ d ∈ env.suite.steps, stepOutcome env d = outcome d.id) {sid : String}
    (hsid : sid ∈ env.suite.steps.map WorkflowStep.id) :
    s.w.stepStatus sid = some (finalStatus env.suite.steps outcome sid) := by
  have hended : ∀ k ∈ s.w.steps.keys, s.w.stepStatus k = some .passed ∨
      s.w.stepStatus k = some .failed ∨ s.w.stepStatus k = some .skipped := by
    intro k hk
    obtain ⟨st, hst⟩ := Workflow.mem_keys_iff_stepStatus.1 hk
    have hnot := Workflow.isDone_iff.1 hd k hk
    cases st <;> simp_all
  have hoc : ∀ b k, s.w.stepStatus k = some (outcomeStatus b) → outcome k = b := by
    intro b k hk
    have hkey := h.winv.keys_perm.mem_iff.1 (Workflow.mem_keys_iff_stepStatus.2 ⟨_, hk⟩)
    obtain ⟨d, hd, rfl⟩ := List.mem_map.1 hkey
    rw [← hout d hd, h.outcome_ok d hd b hk]
  have hskip : s.w.stepStatus sid = some .skipped ↔
      ∃ f, Relation.TransGen (DependsOn env.suite.steps) f sid ∧ outcome f = false := by
    simp only [← h.winv.below_iff]
    refine h.winv.safe.skipped_iff_of_outcome (hoc true) (hoc false) (fun a b hb => ?_) sid
    have hmem : b ∈ s.w.order := by
      obtain ⟨c, hca, _⟩ := Dag.below_iff.1 hb
      have hord := h.winv.mem_order_iff.2 (Workflow.mem_keys_of_mem_deps hca)
      exact h.winv.topo.below_mem hord hb
    exact hended b (h.winv.mem_order_iff.1 hmem)
  unfold finalStatus
  rcases hended sid (h.winv.keys_perm.mem_iff.2 hsid) with hσ | hσ | hσ
  · rw [if_neg (by rw [← hskip, hσ]; simp), hoc true sid hσ]
    exact hσ
  · rw [if_neg (by rw [← hskip, hσ]; simp), hoc false sid hσ]
    exact hσ
  · rw [if_pos (hskip.1 hσ)]
    exact hσ

theorem Core.summary_of_isDone (h : Core env s) (hd : s.w.isDone = true)
    (hout : ∀ d ∈ env.suite.steps, stepOutcome env d = outcome d.id) :
    s.w.summary = finalSummary env.suite.steps outcome := by
  have hcount : ∀ st, s.w.countStatus st = finalCount env.suite.steps outcome st := by
    intro st
    unfold Workflow.countStatus finalCount
    rw [h.winv.keys_perm.countP_eq]
    refine List.countP_congr fun sid hsid => ?_
    rw [h.stepStatus_of_isDone hd hout hsid]
    simp
  simp only [Workflow.summary, finalSummary, hcount]

end LoopState

/-- **Schedule independence.**  Let `outcome` assign an outcome to each step and let the agent
answer accordingly.  Every interleaving of the loop and the goroutines, without an end of the
context, is of bounded length; it can be continued until the loop has returned; and then the
workflow is done, each step that has a proper transitive dependency assigned to fail is skipped and
every other one ended as assigned, the summary is the one these statuses give, and its three counts
add up to the number of steps. -/
theorem runWorkflow_schedule_independent {env : WorkflowEnv} {o : NewWorkflowOrders}
    {w₀ : Workflow} (h₀ : newWorkflow o env.suite.id env.run.id env.suite.steps = .ok w₀)
    (outcome : String → Bool) (hout : ∀ d ∈ env.suite.steps, stepOutcome env d = outcome d.id)
    {store : Store} {as : List LoopAct} {s : LoopState}
    (hrun : Machine.run (LoopState.step env) (LoopState.start w₀ none store) as = some s)
    (hexp : ∀ a ∈ as, a.isExpire = false) :
    as.length ≤ (LoopState.start w₀ none store).measure env ∧
    ((∀ x, s.pc ≠ .returned x) → ∃ a s', a.isExpire = false ∧ s.step env a = some s') ∧
    ∀ x, s.pc = .returned x →
      s.w.isDone = true ∧ x = s.w.exit ∧
      (∀ d ∈ env.suite.steps,
        s.w.stepStatus d.id = some (finalStatus env.suite.steps outcome d.id)) ∧
      s.w.summary = finalSummary env.suite.steps outcome ∧
      s.w.summary.1 + s.w.summary.2.1 + s.w.summary.2.2 = env.suite.steps.length := by
  have hF : Fresh env.suite.steps w₀ := newWorkflow_fresh h₀
  have hstart : (LoopState.start w₀ none store).Inv env := LoopState.Inv.start hF none store
  have hI : s.Inv env := LoopState.Inv.of_reachable hF ⟨as, hrun⟩
  have hctx : s.ctx = none := (LoopState.ctx_of_run hrun).2 ⟨rfl, hexp⟩
  refine ⟨?_, hI.exists_step, fun x hx => ?_⟩
  · exact Nat.le_of_add_right_le (Machine.length_add_le_of_run
      (fun _ _ _ hI hs => LoopState.Inv.step hI hs)
      (fun _ _ _ hI hs => LoopState.Inv.measure_lt hI hs) hstart hrun)
  · have hpc := hI.pc_ok
    unfold LoopState.PcOk at hpc
    rw [hx] at hpc
    have hend : s.w.isDone = true ∧ x = s.w.exit := by
      cases x with
      | ok => exact hpc
      | failed f sk => exact hpc
      | ctxErr e =>
          rw [hctx] at hpc
          cases hpc
    have hsum := hI.toCore.summary_of_isDone hend.1 hout
    refine ⟨hend.1, hend.2, fun d hd => ?_, hsum, ?_⟩
    · exact hI.toCore.stepStatus_of_isDone hend.1 hout (List.mem_map_of_mem hd)
    · rw [hsum]
      exact finalCount_add env.suite.steps outcome

/-- The two-step suite with a first step that is never answered: the second one is skipped. -/
theorem runWorkflow_schedule_independent_chain :
    ∃ s, Machine.run (LoopState.step chainEnv) (LoopState.start chainWorkflow none newMemoryStore)
        [.loop, .go 0, .go 0, .receive, .loop] = some s ∧
      s.pc = .returned (.failed 1 1) ∧
      s.w.stepStatus "b" = some (finalStatus chainSteps (fun sid => sid ≠ "a") "b") := by
  have hrun : (Machine.run (LoopState.step chainEnv)
      (LoopState.start chainWorkflow none newMemoryStore)
      [.loop, .go 0, .go 0, .receive, .loop]).map LoopState.pc =
        some (.returned (.failed 1 1)) := by decide
  obtain ⟨s, hs, hpc⟩ := Option.map_eq_some_iff.1 hrun
  obtain ⟨_, _, hend⟩ := runWorkflow_schedule_independent newWorkflow_chain
    (fun sid => sid ≠ "a") (by decide) hs (by decide)
  obtain ⟨_, _, hst, _⟩ := hend _ hpc
  exact ⟨s, hs, hpc, hst { id := "b", dependsOn := ["a"] } (by decide)⟩

end Dvf
