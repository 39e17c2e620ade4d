/-
**The safety invariant of a workflow.**

`propagateSkip` makes one pass over the order and looks at direct dependencies only.  Because the
order is topological, the dependencies of a step have been visited when its turn comes, so the pass
computes `Dvf.skipBelow`: it skips exactly the pending steps with a failed transitive dependency.
With this, the operations of the workflow manager are the three moves of `Dvf/StepPlan.lean`, and
the safety of the plan is an invariant of every run of the engine's discipline.

Main definitions:

* `Dvf.Workflow.Shape` — the static part of a workflow: which steps, which order;
* `Dvf.Workflow.Inv` — the invariant: a safe plan, and every started step was started once;
* `Dvf.WorkflowAct`, `Dvf.Workflow.act` — the engine's discipline: only ready steps are marked
  running, only running steps are advanced.

Main results:

* `Dvf.Workflow.stepStatus_propagateSkip` — **the single pass skips the transitive closure**;
* `Dvf.Workflow.Inv.start`, `Dvf.Workflow.Inv.pass`, `Dvf.Workflow.Inv.fail` — the operations keep
  the invariant;
* `Dvf.Workflow.Inv.exists_running_or_ready`, `Dvf.Workflow.Inv.isBlocked_iff` — no deadlock, and
  what a blocked workflow is;
* `Dvf.workflow_safe` — **safety in every state the discipline reaches.**
-/

import Dvf.Machine
import Dvf.StepPlan
import Dvf.WorkflowNew

set_option autoImplicit false

namespace Dvf

namespace Workflow

/-! ### The static part -/

/-- The static part of a workflow for `defs`: its steps, and a topological order of them. -/
structure Shape (defs : List WorkflowStep) (w : Workflow) : Prop where
  wf : WellFormed defs
  keys_perm : w.steps.keys.Perm (defs.map WorkflowStep.id)
  stepDef_eq : ∀ d ∈ defs, w.stepDef d.id = some d
  order_perm : w.order.Perm (defs.map WorkflowStep.id)
  topo : Dag.Topological w.deps w.order

variable {defs : List WorkflowStep} {w : Workflow}

theorem Shape.mem_order_iff (h : Shape defs w) {sid : String} :
    sid ∈ w.order ↔ sid ∈ w.steps.keys := by
  rw [h.order_perm.mem_iff, h.keys_perm.mem_iff]

theorem Shape.order_nodup (h : Shape defs w) : w.order.Nodup :=
  h.order_perm.nodup_iff.2 h.wf.distinct

theorem Shape.deps_eq (h : Shape defs w) {d : WorkflowStep} (hd : d ∈ defs) :
    w.deps d.id = d.dependsOn := by
  rw [Workflow.deps_eq, h.stepDef_eq d hd]
  rfl

theorem mem_keys_of_mem_deps {a b : String} (h : a ∈ w.deps b) : b ∈ w.steps.keys := by
  by_contra hb
  rw [deps, depsOf_of_notMem hb] at h
  exact List.not_mem_nil h

theorem Shape.mem_deps_iff (h : Shape defs w) {a b : String} :
    a ∈ w.deps b ↔ DependsOn defs a b := by
  constructor
  · intro ha
    have hb : b ∈ defs.map WorkflowStep.id := h.keys_perm.mem_iff.1 (mem_keys_of_mem_deps ha)
    obtain ⟨d, hd, rfl⟩ := List.mem_map.1 hb
    exact ⟨d, hd, rfl, by rwa [h.deps_eq hd] at ha⟩
  · rintro ⟨d, hd, rfl, ha⟩
    rwa [h.deps_eq hd]

theorem Shape.below_iff (h : Shape defs w) {a b : String} :
    Dag.Below w.deps a b ↔ Relation.TransGen (DependsOn defs) a b := by
  have : Dag.Dep w.deps = DependsOn defs := by
    funext a b
    exact propext h.mem_deps_iff
  rw [Dag.Below, this]

theorem Shape.acyclic (h : Shape defs w) : Dag.Acyclic w.deps :=
  fun a ha => h.wf.acyclic a (h.below_iff.1 ha)

theorem Shape.modifyStep (h : Shape defs w) (sid : String) {f : Step → Step}
    (hf : ∀ s, (f s).defn = s.defn) : Shape defs (w.modifyStep sid f) where
  wf := h.wf
  keys_perm := (keys_modifyStep w sid f).trans h.keys_perm
  stepDef_eq := fun d hd => by rw [stepDef_modifyStep w sid hf, h.stepDef_eq d hd]
  order_perm := by rw [order_modifyStep]; exact h.order_perm
  topo := by
    have hdeps : (w.modifyStep sid f).deps = w.deps := by
      funext k
      rw [Workflow.deps_eq, Workflow.deps_eq, stepDef_modifyStep w sid hf]
    rw [hdeps, order_modifyStep]
    exact h.topo

theorem Shape.setStatus (h : Shape defs w) (sid : String) (st : StepStatus) :
    Shape defs (w.setStatus sid st) := h.modifyStep sid (by intro s; rfl)

theorem Shape.started (h : Shape defs w) (sid : String) : Shape defs (w.started sid) :=
  h.modifyStep sid (by intro s; rfl)

theorem Shape.of_fresh (h : Fresh defs w) : Shape defs w where
  wf := h.wf
  keys_perm := h.indexed.keys_perm
  stepDef_eq := fun d hd => by simp [stepDef, h.indexed.lookup_eq d hd]
  order_perm := h.order_perm
  topo := h.topo

/-! ### The pass of `propagateSkip` -/

theorem foldl_skipStep_induction {P : Workflow → Prop}
    (hset : ∀ w sid, P w → P (w.setStatus sid .skipped)) (l : List String) (h : P w) :
    P (l.foldl skipStep w) := by
  induction l generalizing w with
  | nil => exact h
  | cons sid l ih =>
      refine ih ?_
      unfold skipStep
      split
      · exact hset w sid h
      · exact h

theorem deps_foldl_skipStep (w : Workflow) (l : List String) :
    (l.foldl skipStep w).deps = w.deps :=
  foldl_skipStep_induction (P := fun w' => w'.deps = w.deps)
    (fun w' sid hw' => by
      rw [← hw']
      funext k
      exact deps_setStatus w' sid .skipped k) l rfl

theorem Shape.foldl_skipStep (h : Shape defs w) (l : List String) :
    Shape defs (l.foldl skipStep w) :=
  foldl_skipStep_induction (P := Shape defs) (fun _ sid hw' => hw'.setStatus sid .skipped) l h

theorem attempts_propagateSkip (w : Workflow) (k : String) :
    w.propagateSkip.attempts k = w.attempts k :=
  foldl_skipStep_induction (P := fun w' => w'.attempts k = w.attempts k)
    (fun w' sid hw' => by rw [attempts_setStatus]; exact hw') w.order rfl

section Pass

variable (hstarted : ∀ b st, w.stepStatus b = some st → st.isStarted = true →
    ¬ FailedBelow w.deps w.stepStatus b)
  (hskipped : ∀ b, w.stepStatus b = some .skipped → FailedBelow w.deps w.stepStatus b)

include hstarted hskipped

/-- The test of the loop, on a step whose dependencies have been visited: it is whether a transitive
dependency has failed. -/
theorem depsAnyFailed_iff_failedBelow {v : Workflow} {a : String} (hdeps : v.deps a = w.deps a)
    (hvisited : ∀ d ∈ w.deps a, v.stepStatus d = skipBelow w.deps w.stepStatus d)
    (hkeys : ∀ d ∈ w.deps a, d ∈ w.steps.keys) :
    v.depsAnyFailed (v.deps a) = true ↔ FailedBelow w.deps w.stepStatus a := by
  rw [depsAnyFailed_iff, hdeps]
  constructor
  · rintro ⟨d, hd, hbad⟩
    rw [hvisited d hd] at hbad
    rcases hbad with hbad | hbad
    · rw [skipBelow_eq_iff (by simp) (by simp)] at hbad
      exact ⟨d, Dag.Below.single hd, hbad⟩
    · have hfb : FailedBelow w.deps w.stepStatus d := by
        unfold skipBelow at hbad
        split at hbad
        · next hc => exact hc.2
        · exact hskipped d hbad
      obtain ⟨f, hf, hfail⟩ := hfb
      exact ⟨f, hf.trans (Dag.Below.single hd), hfail⟩
  · rintro ⟨f, hf, hfail⟩
    obtain ⟨d, hd, hfd⟩ := Dag.below_iff.1 hf
    refine ⟨d, hd, ?_⟩
    rw [hvisited d hd]
    rcases hfd with rfl | hfd
    · exact Or.inl ((skipBelow_eq_iff (by simp) (by simp)).2 hfail)
    · have hfb : FailedBelow w.deps w.stepStatus d := ⟨f, hfd, hfail⟩
      obtain ⟨st, hst⟩ := mem_keys_iff_stepStatus.1 (hkeys d hd)
      right
      cases st with
      | pending => simp [skipBelow, hst, hfb]
      | skipped => simp [skipBelow, hst]
      | running => exact absurd hfb (hstarted d _ hst rfl)
      | passed => exact absurd hfb (hstarted d _ hst rfl)
      | failed => exact absurd hfb (hstarted d _ hst rfl)

omit hstarted hskipped in
/-- The visit of a step that still has its status. -/
theorem stepStatus_skipStep {v : Workflow} {a : String} (hkey : a ∈ v.steps.keys)
    (ha : v.stepStatus a = w.stepStatus a)
    (htest : v.depsAnyFailed (v.deps a) = true ↔ FailedBelow w.deps w.stepStatus a) (k : String) :
    (v.skipStep a).stepStatus k =
      if k = a then skipBelow w.deps w.stepStatus a else v.stepStatus k := by
  simp only [skipStep, ha]
  by_cases hc : w.stepStatus a = some .pending ∧ FailedBelow w.deps w.stepStatus a
  · have hcond : (decide (w.stepStatus a = some .pending) &&
        v.depsAnyFailed (v.deps a)) = true := by
      simp [hc.1, htest.2 hc.2]
    rw [if_pos hcond, stepStatus_setStatus hkey]
    simp [skipBelow, hc]
  · have hcond : ¬ (decide (w.stepStatus a = some .pending) &&
        v.depsAnyFailed (v.deps a)) = true := by
      rw [Bool.and_eq_true, decide_eq_true_eq, htest]
      exact hc
    rw [if_neg hcond]
    by_cases hk : k = a
    · subst hk
      simp [skipBelow, hc, ha]
    · rw [if_neg hk]

/-- The pass over a prefix `l` of the order has skipped the pending steps of `l` with a failed
transitive dependency, and changed nothing else. -/
theorem stepStatus_foldl_skipStep (h : Shape defs w) (l l' : List String)
    (hl : w.order = l ++ l') :
    (∀ k ∈ l, (l.foldl skipStep w).stepStatus k = skipBelow w.deps w.stepStatus k) ∧
      ∀ k, k ∉ l → (l.foldl skipStep w).stepStatus k = w.stepStatus k := by
  -- induction on the prefix: when a step is visited, its dependencies are in the part before it
  induction l using List.reverseRecOn generalizing l' with
  | nil => simp
  | append_singleton l a ih =>
      obtain ⟨ih₁, ih₂⟩ := ih ([a] ++ l') (by rw [hl, List.append_assoc])
      have hnd : (l ++ [a]).Nodup := (hl ▸ h.order_nodup).sublist (List.sublist_append_left _ _)
      have hal : a ∉ l := fun hal =>
        (List.nodup_append.1 hnd).2.2 a hal a List.mem_cons_self rfl
      have hdeps : ∀ d ∈ w.deps a, d ∈ l := h.topo l a l' (by simpa using hl)
      have hkeys : ∀ d ∈ l ++ [a], d ∈ w.steps.keys := fun d hd =>
        h.mem_order_iff.1 (hl ▸ List.mem_append_left l' hd)
      have htest := depsAnyFailed_iff_failedBelow hstarted hskipped (v := l.foldl skipStep w)
        (by rw [deps_foldl_skipStep w l]) (fun d hd => ih₁ d (hdeps d hd))
        (fun d hd => hkeys d (List.mem_append_left _ (hdeps d hd)))
      have hkey : a ∈ (l.foldl skipStep w).steps.keys :=
        (h.foldl_skipStep l).keys_perm.mem_iff.2 (h.keys_perm.mem_iff.1 (hkeys a (by simp)))
      rw [List.foldl_append, List.foldl_cons, List.foldl_nil]
      refine ⟨fun k hk => ?_, fun k hk => ?_⟩
      · rw [stepStatus_skipStep hkey (ih₂ a hal) htest]
        by_cases hka : k = a
        · rw [if_pos hka, hka]
        · rw [if_neg hka]
          exact ih₁ k (by simpa [hka] using hk)
      · rw [List.mem_append, List.mem_singleton, not_or] at hk
        rw [stepStatus_skipStep hkey (ih₂ a hal) htest, if_neg hk.2]
        exact ih₂ k hk.1

end Pass

/-- **The single pass skips the transitive closure**: `propagateSkip` skips exactly the pending
steps with a failed transitive dependency. -/
theorem stepStatus_propagateSkip (h : Shape defs w)
    (hstarted : ∀ b st, w.stepStatus b = some st → st.isStarted = true →
      ¬ FailedBelow w.deps w.stepStatus b)
    (hskipped : ∀ b, w.stepStatus b = some .skipped → FailedBelow w.deps w.stepStatus b) :
    w.propagateSkip.stepStatus = skipBelow w.deps w.stepStatus := by
  funext k
  obtain ⟨h₁, h₂⟩ := stepStatus_foldl_skipStep hstarted hskipped h w.order [] (by simp)
  by_cases hk : k ∈ w.order
  · exact h₁ k hk
  · rw [propagateSkip, h₂ k hk]
    have hnone : w.stepStatus k = none := by
      rw [← Option.not_isSome_iff_eq_none, Option.isSome_iff_exists, ← mem_keys_iff_stepStatus]
      exact fun hk' => hk (h.mem_order_iff.2 hk')
    simp [skipBelow, hnone]

/-! ### The invariant -/

/-- **The invariant of a workflow**: the static part, a safe plan, and one attempt per started
step. -/
structure Inv (defs : List WorkflowStep) (w : Workflow) : Prop extends Shape defs w where
  safe : Safe w.deps w.stepStatus
  attempts_eq : ∀ sid st, w.stepStatus sid = some st →
    w.attempts sid = if st.isStarted = true then 1 else 0

theorem Inv.of_fresh (h : Fresh defs w) : Inv defs w where
  toShape := Shape.of_fresh h
  safe := by
    refine ⟨fun a st ha hst => ?_, fun a => ⟨fun ha => ?_, ?_⟩⟩
    · rw [h.stepStatus_eq ha] at hst
      cases hst
    · cases h.stepStatus_eq ha
    · rintro ⟨f, _, hf⟩
      cases h.stepStatus_eq hf
  attempts_eq := by
    intro sid st hst
    have hsid : sid ∈ w.steps.keys := mem_keys_iff_stepStatus.2 ⟨st, hst⟩
    obtain ⟨d, hd, rfl⟩ := List.mem_map.1 (h.indexed.mem_keys.1 hsid)
    rw [h.stepStatus_eq hst]
    simp [attempts, h.indexed.lookup_eq d hd, StepStatus.isStarted]

theorem stepStatus_started_eq {sid : String} (h : sid ∈ w.steps.keys) :
    (w.started sid).stepStatus = Function.update w.stepStatus sid (some .running) := by
  funext k
  rw [stepStatus_started h]
  by_cases hk : k = sid
  · simp [hk]
  · simp [hk]

theorem stepStatus_setStatus_eq {sid : String} (h : sid ∈ w.steps.keys) (st : StepStatus) :
    (w.setStatus sid st).stepStatus = Function.update w.stepStatus sid (some st) := by
  funext k
  rw [stepStatus_setStatus h]
  by_cases hk : k = sid
  · simp [hk]
  · simp [hk]

/-- Starting a ready step keeps the invariant. -/
theorem Inv.start (h : Inv defs w) {sid : String} (hr : sid ∈ w.ready) :
    Inv defs (w.started sid) := by
  obtain ⟨hord, hpend, hdeps⟩ := mem_ready_iff.1 hr
  have hkey : sid ∈ w.steps.keys := h.mem_order_iff.1 hord
  have hd : (w.started sid).deps = w.deps := funext (deps_started w sid)
  refine ⟨h.toShape.started sid, ?_, ?_⟩
  · rw [stepStatus_started_eq hkey, hd]
    exact h.safe.start hpend hdeps
  · intro k st hst
    rw [stepStatus_started hkey] at hst
    rw [attempts_started hkey]
    by_cases hk : k = sid
    · subst hk
      rw [if_pos rfl] at hst ⊢
      cases hst
      rw [h.attempts_eq k .pending hpend]
      rfl
    · rw [if_neg hk] at hst ⊢
      exact h.attempts_eq k st hst

/-- Passing a running step keeps the invariant. -/
theorem Inv.pass (h : Inv defs w) {sid : String} (hrun : w.stepStatus sid = some .running) :
    Inv defs (w.setStatus sid .passed) := by
  have hkey : sid ∈ w.steps.keys := mem_keys_iff_stepStatus.2 ⟨_, hrun⟩
  have hd : (w.setStatus sid .passed).deps = w.deps := funext (deps_setStatus w sid .passed)
  refine ⟨h.toShape.setStatus sid .passed, ?_, ?_⟩
  · rw [stepStatus_setStatus_eq hkey, hd]
    exact h.safe.pass hrun
  · intro k st hst
    rw [stepStatus_setStatus hkey] at hst
    rw [attempts_setStatus]
    by_cases hk : k = sid
    · subst hk
      rw [if_pos rfl] at hst
      cases hst
      exact h.attempts_eq k .running hrun
    · rw [if_neg hk] at hst
      exact h.attempts_eq k st hst

/-- The statuses after a running step failed. -/
theorem Inv.stepStatus_fail (h : Inv defs w) {sid : String}
    (hrun : w.stepStatus sid = some .running) :
    (w.setStatus sid .failed).propagateSkip.stepStatus =
      skipBelow w.deps (Function.update w.stepStatus sid (some .failed)) := by
  have hkey : sid ∈ w.steps.keys := mem_keys_iff_stepStatus.2 ⟨_, hrun⟩
  have hd : (w.setStatus sid .failed).deps = w.deps := funext (deps_setStatus w sid .failed)
  have hσ := stepStatus_setStatus_eq hkey .failed
  rw [stepStatus_propagateSkip (h.toShape.setStatus sid .failed), hd, hσ]
  · intro b st hb hst
    rw [hσ] at hb
    rw [hd, hσ]
    exact h.safe.not_failedBelow_of_fail hrun hb hst
  · intro b hb
    rw [hσ] at hb
    rw [hd, hσ]
    exact h.safe.failedBelow_of_skipped hrun hb

/-- Failing a running step and skipping its dependents keeps the invariant. -/
theorem Inv.fail (h : Inv defs w) {sid : String} (hrun : w.stepStatus sid = some .running) :
    Inv defs (w.setStatus sid .failed).propagateSkip := by
  have hd : (w.setStatus sid .failed).propagateSkip.deps = w.deps := by
    rw [propagateSkip, deps_foldl_skipStep]
    exact funext (deps_setStatus w sid .failed)
  refine ⟨(h.toShape.setStatus sid .failed).foldl_skipStep _, ?_, ?_⟩
  · rw [hd, h.stepStatus_fail hrun]
    refine h.safe.fail hrun fun b hb => mem_keys_iff_stepStatus.1 ?_
    obtain ⟨f, hf, _⟩ := hb
    obtain ⟨d, hdb, _⟩ := Dag.below_iff.1 hf
    exact mem_keys_of_mem_deps hdb
  · intro k st hst
    rw [attempts_propagateSkip, attempts_setStatus]
    rw [h.stepStatus_fail hrun] at hst
    unfold skipBelow at hst
    split at hst
    · next hc =>
        cases hst
        have hk : k ≠ sid := by
          rintro rfl
          simp at hc
        exact h.attempts_eq k .pending (by simpa [hk] using hc.1)
    · by_cases hk : k = sid
      · subst hk
        rw [Function.update_self] at hst
        cases hst
        exact h.attempts_eq k .running hrun
      · exact h.attempts_eq k st (by simpa [hk] using hst)

/-! ### The discipline of the engine -/

end Workflow

/-- What the engine does with a workflow: it marks a step as running, or reports an outcome. -/
inductive WorkflowAct
  | markRunning (stepID : String)
  | advance (stepID : String) (passed : Bool)
  deriving DecidableEq, Repr

/-- The status that an outcome is reported with. -/
def outcomeStatus (passed : Bool) : StepStatus := if passed = true then .passed else .failed

theorem isStarted_outcomeStatus (b : Bool) : (outcomeStatus b).isStarted = true := by
  cases b <;> rfl

theorem outcomeStatus_ne_running (b : Bool) : outcomeStatus b ≠ .running := by
  cases b <;> simp [outcomeStatus]

theorem outcomeStatus_injective : Function.Injective outcomeStatus := by decide

namespace Workflow

/-- The discipline: `MarkRunning` only on steps in `Ready`, `Advance` only on running steps and
only with an outcome. -/
def act (w : Workflow) : WorkflowAct → Option Workflow
  | .markRunning sid => if sid ∈ w.ready then (w.markRunning sid).toOption else none
  | .advance sid passed =>
      if w.stepStatus sid = some .running then (w.advance sid (outcomeStatus passed)).toOption
      else none

/-! ### The invariant along the operations -/

variable {defs : List WorkflowStep} {w : Workflow}

/-- **Reporting the outcome of a running step**: `Advance` succeeds and keeps the invariant, the
step gets its outcome, the other started steps keep their status, and nothing becomes pending. -/
theorem Inv.advance (h : Inv defs w) {sid : String} (hrun : w.stepStatus sid = some .running)
    (passed : Bool) :
    ∃ w', w.advance sid (outcomeStatus passed) = .ok w' ∧ Inv defs w' ∧
      (∀ k st, st.isStarted = true → (w'.stepStatus k = some st ↔
        if k = sid then st = outcomeStatus passed else w.stepStatus k = some st)) ∧
      ∀ k, w'.stepStatus k = some .pending → w.stepStatus k = some .pending := by
  have hkey : sid ∈ w.steps.keys := mem_keys_iff_stepStatus.2 ⟨_, hrun⟩
  refine ⟨_, advance_eq hkey _, ?_⟩
  cases passed with
  | true =>
      refine ⟨h.pass hrun, fun k st _ => ?_, fun k hk => ?_⟩
      · change (w.setStatus sid .passed).stepStatus k = some st ↔ _
        rw [stepStatus_setStatus hkey]
        split
        · simp [outcomeStatus, eq_comm]
        · rfl
      · change (w.setStatus sid .passed).stepStatus k = some .pending at hk
        rw [stepStatus_setStatus hkey] at hk
        split at hk
        · cases hk
        · exact hk
  | false =>
      refine ⟨h.fail hrun, fun k st hst => ?_, fun k hk => ?_⟩
      · change (w.setStatus sid .failed).propagateSkip.stepStatus k = some st ↔ _
        rw [h.stepStatus_fail hrun, skipBelow_eq_iff (by rintro rfl; cases hst)
          (by rintro rfl; cases hst)]
        split
        · next hk => simp [hk, outcomeStatus, eq_comm]
        · next hk => simp [hk]
      · change (w.setStatus sid .failed).propagateSkip.stepStatus k = some .pending at hk
        rw [h.stepStatus_fail hrun] at hk
        unfold skipBelow at hk
        split at hk
        · cases hk
        · by_cases hks : k = sid
          · simp [hks] at hk
          · simpa [hks] using hk

/-- Starting a ready step makes no other step ready, and takes readiness from no other. -/
theorem Inv.mem_ready_started_iff (h : Inv defs w) {a : String} (ha : a ∈ w.ready) {sid : String} :
    sid ∈ (w.started a).ready ↔ sid ∈ w.ready ∧ sid ≠ a := by
  obtain ⟨hord, hpend, _⟩ := mem_ready_iff.1 ha
  have hkey : a ∈ w.steps.keys := h.mem_order_iff.1 hord
  have hpassed : ∀ d, (w.started a).stepStatus d = some .passed ↔
      w.stepStatus d = some .passed := by
    intro d
    rw [stepStatus_started hkey]
    split
    · next hd => simp [hd, hpend]
    · rfl
  rw [mem_ready_iff, mem_ready_iff, order_started, stepStatus_started hkey]
  simp only [deps_started, hpassed]
  by_cases hs : sid = a
  · simp [hs]
  · simp [hs]

/-- A disciplined move keeps the invariant. -/
theorem Inv.act (h : Inv defs w) {a : WorkflowAct} {w' : Workflow} (ha : w.act a = some w') :
    Inv defs w' := by
  cases a with
  | markRunning sid =>
      simp only [Workflow.act] at ha
      split at ha
      · next hr =>
          have hkey : sid ∈ w.steps.keys := h.mem_order_iff.1 (mem_ready_iff.1 hr).1
          rw [markRunning_eq hkey] at ha
          cases ha
          exact h.start hr
      · cases ha
  | advance sid passed =>
      simp only [Workflow.act] at ha
      split at ha
      · next hrun =>
          obtain ⟨w₁, hw₁, hI, _⟩ := h.advance hrun passed
          rw [hw₁] at ha
          cases ha
          exact hI
      · cases ha

/-- **No deadlock**: while a workflow is not done, some step is running or ready. -/
theorem Inv.exists_running_or_ready (h : Inv defs w) (hd : w.isDone = false) :
    (∃ sid, w.stepStatus sid = some .running) ∨ w.ready ≠ [] := by
  -- among the steps that are pending or running, take one that depends on no other of them
  let S : Finset String := w.order.toFinset.filter fun sid =>
    w.stepStatus sid = some .pending ∨ w.stepStatus sid = some .running
  have hS : S.Nonempty := by
    by_contra hempty
    rw [Finset.not_nonempty_iff_eq_empty] at hempty
    have hdone : w.isDone = true := by
      refine isDone_iff.2 fun sid hsid => ?_
      have hnot : sid ∉ S := by simp [hempty]
      simp only [S, Finset.mem_filter, List.mem_toFinset, h.mem_order_iff, hsid, true_and,
        not_or] at hnot
      exact hnot
    rw [hd] at hdone
    cases hdone
  obtain ⟨a, ha, hmin⟩ := h.acyclic.exists_minimal S hS
  simp only [S, Finset.mem_filter, List.mem_toFinset] at ha
  obtain ⟨hord, hpend | hrun⟩ := ha
  · right
    have hready : a ∈ w.ready := by
      refine mem_ready_iff.2 ⟨hord, hpend, fun d hda => ?_⟩
      have hdord : d ∈ w.order := h.topo.dep_mem hord hda
      obtain ⟨st, hst⟩ := mem_keys_iff_stepStatus.1 (h.mem_order_iff.1 hdord)
      have hnot := hmin d hda
      simp only [S, Finset.mem_filter, List.mem_toFinset, hdord, true_and, hst] at hnot
      -- a failed or skipped dependency would have skipped the step
      have hskip : ¬ FailedBelow w.deps w.stepStatus a := by
        rw [← h.safe.skipped a, hpend]
        simp
      cases st with
      | pending => simp at hnot
      | running => simp at hnot
      | passed => exact hst
      | failed => exact absurd ⟨d, Dag.Below.single hda, hst⟩ hskip
      | skipped =>
          obtain ⟨f, hf, hfail⟩ := (h.safe.skipped d).1 hst
          exact absurd ⟨f, hf.trans (Dag.Below.single hda), hfail⟩ hskip
    exact List.ne_nil_of_mem hready
  · exact Or.inl ⟨a, hrun⟩

theorem not_isDone_of_running (sid : String) (h : w.stepStatus sid = some .running) :
    w.isDone = false := by
  rw [Bool.eq_false_iff]
  intro hd
  exact (isDone_iff.1 hd sid (mem_keys_iff_stepStatus.2 ⟨_, h⟩)).2 h

/-- `IsBlocked` is said to mean that no step is running or ready; it is true exactly when nothing is
ready and, therefore, some step is running. -/
theorem Inv.isBlocked_iff (h : Inv defs w) :
    w.isBlocked = true ↔ w.ready = [] ∧ ∃ sid, w.stepStatus sid = some .running := by
  simp only [isBlocked, Bool.and_eq_true, Bool.not_eq_true', List.isEmpty_iff]
  constructor
  · rintro ⟨hd, hready⟩
    rcases h.exists_running_or_ready hd with hrun | hne
    · exact ⟨hready, hrun⟩
    · exact absurd hready hne
  · rintro ⟨hready, sid, hrun⟩
    exact ⟨not_isDone_of_running sid hrun, hready⟩

end Workflow

/-- **Workflow safety.**  In every state that the engine's discipline reaches from a workflow
built by the constructor: running, passed and failed steps have all their dependencies passed; a
step is skipped exactly when some transitive dependency has failed; every other step that was not
started is pending; and a step that is started has all its dependencies passed at that moment. -/
theorem workflow_safe {o : NewWorkflowOrders} {id runID : String} {defs : List WorkflowStep}
    {w₀ w : Workflow} (h₀ : newWorkflow o id runID defs = .ok w₀)
    (hr : Machine.Reachable Workflow.act w₀ w) :
    (∀ d ∈ defs, ∀ st, w.stepStatus d.id = some st →
      (st = .running ∨ st = .passed ∨ st = .failed) →
        ∀ dep ∈ d.dependsOn, w.stepStatus dep = some .passed) ∧
    (∀ d ∈ defs, w.stepStatus d.id = some .skipped ↔
      ∃ f, Relation.TransGen (DependsOn defs) f d.id ∧ w.stepStatus f = some .failed) ∧
    (∀ d ∈ defs, w.attempts d.id = 0 → w.stepStatus d.id ≠ some .skipped →
      w.stepStatus d.id = some .pending) ∧
    (∀ sid w', w.act (.markRunning sid) = some w' → ∃ d ∈ defs, d.id = sid ∧
      ∀ dep ∈ d.dependsOn, w.stepStatus dep = some .passed) := by
  have hI : Workflow.Inv defs w :=
    hr.invariant (Workflow.Inv.of_fresh (newWorkflow_fresh h₀)) fun _ _ _ hs ha => hs.act ha
  refine ⟨?_, ?_, ?_, ?_⟩
  · intro d hd st hst hcase dep hdep
    rw [← hI.deps_eq hd] at hdep
    refine hI.safe.started d.id st hst ?_ dep hdep
    rcases hcase with rfl | rfl | rfl <;> rfl
  · intro d hd
    rw [hI.safe.skipped d.id]
    simp only [FailedBelow, hI.below_iff]
  · intro d hd hatt hskip
    have hkey : d.id ∈ w.steps.keys := hI.keys_perm.mem_iff.2 (List.mem_map_of_mem hd)
    obtain ⟨st, hst⟩ := Workflow.mem_keys_iff_stepStatus.1 hkey
    have hone := hI.attempts_eq d.id st hst
    rw [hatt] at hone
    rw [hst] at hskip ⊢
    cases st with
    | pending => rfl
    | skipped => exact absurd rfl hskip
    | running => cases hone
    | passed => cases hone
    | failed => cases hone
  · intro sid w' ha
    simp only [Workflow.act] at ha
    split at ha
    · next hready =>
        obtain ⟨hord, _, hdeps⟩ := Workflow.mem_ready_iff.1 hready
        obtain ⟨d, hd, rfl⟩ := List.mem_map.1 (hI.order_perm.mem_iff.1 hord)
        rw [hI.deps_eq hd] at hdeps
        exact ⟨d, hd, rfl, hdeps⟩
    · cases ha

/-- A first step that fails: the second one is skipped because of it. -/
theorem workflow_safe_chain :
    ∃ w, Machine.run Workflow.act chainWorkflow [.markRunning "a", .advance "a" false] = some w ∧
      (w.stepStatus "b" = some .skipped ↔ ∃ f, Relation.TransGen (DependsOn chainSteps) f "b" ∧
        w.stepStatus f = some .failed) := by
  have hsome : (Machine.run Workflow.act chainWorkflow
      [.markRunning "a", .advance "a" false]).isSome = true := by decide
  obtain ⟨w, hw⟩ := Option.isSome_iff_exists.1 hsome
  obtain ⟨_, hskip, _⟩ := workflow_safe newWorkflow_chain ⟨_, hw⟩
  exact ⟨w, hw, hskip { id := "b", dependsOn := ["a"] } (by decide)⟩

end Dvf
