/-
**The results that a workflow run leaves in the store.**

Every answer of the agent leads to rows that the goroutine of the step saves one by one: the
answers to failed attempts as well as the one that passes.  While the store takes the rows, the
rows of the run are those that were there before, those that the live goroutines have saved so far,
and all rows of the steps whose goroutine is through.

Main definitions:

* `Dvf.StepRow` — the rows of all attempts that a step makes;
* `Dvf.GoPC.Saved` — the rows that a goroutine has saved so far;
* `Dvf.LoopState.RowsOk` — the invariant.

Main results:

* `Dvf.GoPC.Ok.saved_next` — the steps of a goroutine save what they say;
* `Dvf.LoopState.rowsOk_of_run` — the invariant holds along every run;
* `Dvf.LoopState.mem_results_of_isDone` — **the rows after a finished workflow.**
-/

import Dvf.RunWorkflowEnd

set_option autoImplicit false

namespace Dvf

variable {env : WorkflowEnv} {d : WorkflowStep} {r : TestResult}

/-! ### The rows of a goroutine -/

/-- A row of one of the attempts that the step makes. -/
def StepRow (env : WorkflowEnv) (d : WorkflowStep) (r : TestResult) : Prop :=
  ∃ a, Attempted env d a ∧ r ∈ attemptRows env d a

/-- The rows that a goroutine has saved so far. -/
def GoPC.Saved (env : WorkflowEnv) (d : WorkflowStep) (r : TestResult) : GoPC → Prop
  | .calling a => ∃ b < a, r ∈ attemptRows env d b
  | .saving a _ n => (∃ b < a, r ∈ attemptRows env d b) ∨ r ∈ (attemptRows env d a).take n
  | .sending _ => StepRow env d r

/-- When no attempt after `a` is made, the rows of the step are those of the attempts up to `a`. -/
theorem stepRow_iff {a : ℕ} (ha : Attempted env d a)
    (hlast : passes env d a = true ∨ a = maxAttempts d) :
    StepRow env d r ↔ ∃ b < a + 1, r ∈ attemptRows env d b := by
  constructor
  · rintro ⟨b, hb, hr⟩
    refine ⟨b, ?_, hr⟩
    by_contra hlt
    rcases hlast with hp | rfl
    · rw [hb.2 a (by omega)] at hp
      cases hp
    · have hle := hb.1
      omega
  · rintro ⟨b, hb, hr⟩
    refine ⟨b, ⟨?_, fun c hc => ha.2 c (by omega)⟩, hr⟩
    have hle := ha.1
    omega

theorem GoPC.saved_retry {a : ℕ} (ha : Attempted env d a) (err : String) :
    (GoPC.retry d a err).Saved env d r ↔ ∃ b < a + 1, r ∈ attemptRows env d b := by
  unfold GoPC.retry
  split
  · rfl
  · next hlt =>
      have hle := ha.1
      exact stepRow_iff ha (Or.inr (by omega))

theorem GoPC.saved_processed {a : ℕ} {res : AgentResult} (ha : Attempted env d a)
    (hans : env.answer d a = .ok res) :
    (GoPC.processed d a res).Saved env d r ↔ ∃ b < a + 1, r ∈ attemptRows env d b := by
  unfold GoPC.processed
  split
  · next hst => exact stepRow_iff ha (Or.inl (by simp [passes, hans, hst]))
  · exact GoPC.saved_retry ha _

/-- **A step of a goroutine saves the row it says**, and none else. -/
theorem GoPC.Ok.saved_next {pc pc' : GoPC} {row : Option TestResult} (h : GoPC.Ok env d pc)
    (hnx : pc.next env d = some (pc', row)) :
    pc'.Saved env d r ↔ pc.Saved env d r ∨ row = some r := by
  cases pc with
  | calling a =>
      simp only [GoPC.next] at hnx
      split at hnx
      · next err hans =>
          cases hnx
          rw [GoPC.saved_retry h, Nat.exists_lt_succ_right]
          simp [GoPC.Saved, attemptRows, hans]
      · cases hnx
        simp [GoPC.Saved]
  | saving a res n =>
      obtain ⟨ha, hans, _⟩ := h
      have hrows : attemptRows env d a = resultRows env.run d.id res := by
        simp [attemptRows, hans]
      simp only [GoPC.next, ← hrows] at hnx
      split at hnx
      · next row hrow =>
          cases hnx
          simp only [GoPC.Saved, List.take_add_one, hrow, Option.toList_some, List.mem_append,
            List.mem_singleton, or_assoc, Option.some.injEq, eq_comm]
      · next hnone =>
          cases hnx
          rw [GoPC.saved_processed ha hans, Nat.exists_lt_succ_right]
          simp [GoPC.Saved, List.take_of_length_le (List.getElem?_eq_none_iff.1 hnone)]
  | sending r => cases hnx

namespace LoopState

variable {s s' : LoopState} {rows₀ : List TestResult}

/-! ### The invariant -/

/-- **The rows of the run**: those from before, those of the live goroutines so far, and those of
the steps whose goroutine is through. -/
def RowsOk (env : WorkflowEnv) (rows₀ : List TestResult) (s : LoopState) : Prop :=
  ∀ r, r ∈ s.store.getTestResults env.run.id ↔
    r ∈ rows₀ ∨ (∃ g ∈ s.gos, g.pc.Saved env g.defn r) ∨
      ∃ d ∈ env.suite.steps, d.id ∈ s.dispatched ∧ (∀ g ∈ s.gos, g.defn.id ≠ d.id) ∧
        StepRow env d r

/-- Dispatching saves nothing. -/
theorem RowsOk.dispatch (h : RowsOk env rows₀ s) (hc : Core env s) {sid : String}
    (hr : sid ∈ s.w.ready) : RowsOk env rows₀ (s.dispatch sid) := by
  obtain ⟨_, hpend, _⟩ := Workflow.mem_ready_iff.1 hr
  obtain ⟨d, hd, rfl, heq⟩ := hc.dispatch_eq hr
  have hnot : d.id ∉ s.dispatched := by
    rw [hc.dispatched_iff, hpend]
    rintro ⟨st, hst, hstarted⟩
    cases hst
    cases hstarted
  rw [heq]
  intro r
  rw [h r]
  refine or_congr Iff.rfl (or_congr ?_ ?_)
  · simp [GoPC.Saved]
  · refine exists_congr fun d' => and_congr Iff.rfl ?_
    simp only [List.mem_append, List.mem_singleton]
    constructor
    · rintro ⟨hmem, hgo, hrow⟩
      refine ⟨Or.inl hmem, ?_, hrow⟩
      rintro g (hg | rfl)
      · exact hgo g hg
      · rintro heq'
        exact hnot (heq' ▸ hmem)
    · rintro ⟨hmem, hgo, hrow⟩
      have hne : d'.id ≠ d.id := fun heq' => hgo ⟨d, .calling 0⟩ (Or.inr rfl) heq'.symm
      refine ⟨?_, fun g hg => hgo g (Or.inl hg), hrow⟩
      rcases hmem with hmem | hmem
      · exact hmem
      · exact absurd hmem hne

/-- A goroutine that sends its result has saved all rows of its step. -/
theorem RowsOk.send {l₁ l₂ : List Goroutine} {g : Goroutine} {res : StepResult}
    (h : RowsOk env rows₀ s) (hc : Core env s) (hgos : s.gos = l₁ ++ g :: l₂)
    (hpc : g.pc = .sending res) :
    RowsOk env rows₀
      { s with gos := l₁ ++ l₂, results := s.results ++ [res], sent := s.sent ++ [res] } := by
  obtain ⟨hd, _⟩ := hc.go_ok g (by simp [hgos])
  have hdisp : g.defn.id ∈ s.dispatched := by
    rw [hc.dispatched_iff]
    exact ⟨.running, (hc.live_iff _).1 (by simp [liveIDs, hgos]), rfl⟩
  have hother : ∀ g' ∈ l₁ ++ l₂, g'.defn.id ≠ g.defn.id := by
    have hnd := (List.nodup_append.1 hc.live_nodup).1
    rw [hgos, List.map_append, List.map_cons, List.perm_middle.nodup_iff, List.nodup_cons,
      ← List.map_append] at hnd
    intro g' hg' heq
    exact hnd.1 (heq ▸ List.mem_map_of_mem hg')
  intro r
  rw [h r]
  refine or_congr Iff.rfl ?_
  rw [hgos]
  constructor
  · rintro (⟨g', hg', hsaved⟩ | ⟨d', hd', hmem, hgo, hrow⟩)
    · rw [List.mem_append, List.mem_cons] at hg'
      rcases hg' with hg' | rfl | hg'
      · exact Or.inl ⟨g', List.mem_append_left _ hg', hsaved⟩
      · rw [hpc] at hsaved
        exact Or.inr ⟨g'.defn, hd, hdisp, hother, hsaved⟩
      · exact Or.inl ⟨g', List.mem_append_right _ hg', hsaved⟩
    · refine Or.inr ⟨d', hd', hmem, fun g' hg' => hgo g' ?_, hrow⟩
      rw [List.mem_append] at hg' ⊢
      exact hg'.imp_right (List.mem_cons_of_mem g)
  · rintro (⟨g', hg', hsaved⟩ | ⟨d', hd', hmem, hgo, hrow⟩)
    · refine Or.inl ⟨g', ?_, hsaved⟩
      rw [List.mem_append] at hg' ⊢
      exact hg'.imp_right (List.mem_cons_of_mem g)
    · by_cases heq : d' = g.defn
      · subst heq
        exact Or.inl ⟨g, by simp, by rw [hpc]; exact hrow⟩
      · refine Or.inr ⟨d', hd', hmem, fun g' hg' => ?_, hrow⟩
        rw [List.mem_append, List.mem_cons] at hg'
        rcases hg' with hg' | rfl | hg'
        · exact hgo g' (List.mem_append_left _ hg')
        · exact fun hid => heq (hc.winv.wf.eq_of_id_eq hd' hd hid.symm)
        · exact hgo g' (List.mem_append_right _ hg')

/-- A row that the store takes. -/
theorem mem_saveRow (hlive : env.honoursCtx = true → s.ctx = none) {row : Option TestResult}
    (hrow : ∀ r, row = some r → r.testRunID = env.run.id) {r : TestResult} :
    r ∈ (s.saveRow env row).getTestResults env.run.id ↔
      r ∈ s.store.getTestResults env.run.id ∨ row = some r := by
  cases row with
  | none => simp [saveRow]
  | some r' =>
      have hsave : s.saveRow env (some r') = s.store.saveTestResult r' := by
        simp only [saveRow, Store.withCtx]
        cases hctx : s.ctx with
        | none => rfl
        | some e =>
            have hh : env.honoursCtx ≠ true := fun hh => by
              rw [hlive hh] at hctx
              cases hctx
            simp only [if_neg hh]
      rw [hsave, Store.results_save, if_pos (hrow r' rfl).symm]
      simp [eq_comm]

/-- The rows of a goroutine carry the id of the run. -/
theorem testRunID_of_next {pc pc' : GoPC} {row : Option TestResult} {d : WorkflowStep}
    (hnx : pc.next env d = some (pc', row)) (r : TestResult) (hr : row = some r) :
    r.testRunID = env.run.id := by
  subst hr
  cases pc with
  | calling a =>
      simp only [GoPC.next] at hnx
      split at hnx <;> cases hnx
  | saving a res n =>
      simp only [GoPC.next] at hnx
      split at hnx
      · next row hrow =>
          cases hnx
          exact testRunID_of_mem_resultRows (List.mem_of_getElem? hrow)
      · cases hnx
  | sending _ => cases hnx

/-- A step of a goroutine. -/
theorem RowsOk.next {l₁ l₂ : List Goroutine} {g : Goroutine} {pc : GoPC} {row : Option TestResult}
    (h : RowsOk env rows₀ s) (hc : Core env s) (hlive : env.honoursCtx = true → s.ctx = none)
    (hgos : s.gos = l₁ ++ g :: l₂) (hnx : g.pc.next env g.defn = some (pc, row)) :
    RowsOk env rows₀
      { s with gos := l₁ ++ ⟨g.defn, pc⟩ :: l₂, store := s.saveRow env row } := by
  obtain ⟨_, hok⟩ := hc.go_ok g (by simp [hgos])
  have hids : ∀ d : WorkflowStep,
      (∀ g' ∈ l₁ ++ (⟨g.defn, pc⟩ : Goroutine) :: l₂, g'.defn.id ≠ d.id) ↔
        ∀ g' ∈ l₁ ++ g :: l₂, g'.defn.id ≠ d.id := by
    intro d
    simp only [List.forall_mem_append, List.forall_mem_cons]
  intro r
  have hsaved : (∃ g' ∈ l₁ ++ (⟨g.defn, pc⟩ : Goroutine) :: l₂, g'.pc.Saved env g'.defn r) ↔
      (∃ g' ∈ l₁ ++ g :: l₂, g'.pc.Saved env g'.defn r) ∨ row = some r := by
    simp only [List.mem_append, List.mem_cons, or_and_right, exists_or, exists_eq_left,
      hok.saved_next hnx]
    simp only [or_assoc, or_left_comm, or_comm]
  rw [mem_saveRow hlive (testRunID_of_next hnx), h r, hgos]
  simp only [hsaved, hids]
  simp only [or_assoc, or_left_comm, or_comm]

/-- **Every action keeps the rows right**, as long as the store takes them. -/
theorem RowsOk.step (h : RowsOk env rows₀ s) (hc : Core env s)
    (hlive : env.honoursCtx = true → s.ctx = none) {a : LoopAct}
    (hs : s.step env a = some s') : RowsOk env rows₀ s' := by
  cases a with
  | loop =>
      obtain ⟨_, ⟨_, rfl⟩ | ⟨_, rfl⟩⟩ := step_loop hs
      · exact h
      · exact (hc.dispatch_induction (P := RowsOk env rows₀)
          (fun t sid hc' hr ht => ht.dispatch hc' hr) h).2.1
  | receive =>
      obtain ⟨_, _, _, _, rfl⟩ := step_receive hs
      exact h
  | cancelled =>
      obtain ⟨_, _, _, rfl⟩ := step_cancelled hs
      exact h
  | go i =>
      obtain ⟨l₁, g, l₂, hgos, ⟨res, hpc, _, rfl⟩ | ⟨pc, row, hnx, rfl⟩⟩ := step_go hs
      · exact h.send hc hgos hpc
      · exact h.next hc hlive hgos hnx
  | expire e =>
      obtain ⟨_, rfl⟩ := step_expire hs
      exact h

/-- The rows are right along every run during which the store takes them. -/
theorem rowsOk_of_run {w : Workflow} {ctx : Option CtxErr} {store : Store}
    (hF : Fresh env.suite.steps w) {as : List LoopAct}
    (hrun : Machine.run (LoopState.step env) (LoopState.start w ctx store) as = some s)
    (hlive : env.honoursCtx = true → s.ctx = none) :
    RowsOk env (store.getTestResults env.run.id) s := by
  have hreach : Machine.Reachable (LoopState.step env) (LoopState.start w ctx store) s := ⟨as, hrun⟩
  have hinv : s.Inv env ∧ ((env.honoursCtx = true → s.ctx = none) →
      RowsOk env (store.getTestResults env.run.id) s) := by
    refine hreach.invariant
      (I := fun s => s.Inv env ∧ ((env.honoursCtx = true → s.ctx = none) →
        RowsOk env (store.getTestResults env.run.id) s)) ⟨Inv.start hF ctx store, ?_⟩ ?_
    · intro _ r
      simp [LoopState.start]
    · rintro t a t' ⟨hI, hrows⟩ hs
      refine ⟨hI.step hs, fun hlive' => ?_⟩
      -- a context that is live after the action was live before it
      have hlive₀ : env.honoursCtx = true → t.ctx = none := fun hh =>
        ((ctx_step hs).1 (hlive' hh)).1
      exact (hrows hlive₀).step hI.toCore hlive₀ hs
  exact hinv.2 hlive

end LoopState

/-! ### The end of the workflow -/

/-- A step is started in a workflow that comes to its end when all its transitive dependencies
pass. -/
def Started (env : WorkflowEnv) (d : WorkflowStep) : Prop :=
  ∀ d' ∈ env.suite.steps, Relation.TransGen (DependsOn env.suite.steps) d'.id d.id →
    stepOutcome env d' = true

/-- The outcome of the step with the given id. -/
def outcomeOf (env : WorkflowEnv) (sid : String) : Bool :=
  env.suite.steps.all fun d => d.id ≠ sid || stepOutcome env d

theorem outcomeOf_eq (hwf : WellFormed env.suite.steps) {d : WorkflowStep}
    (hd : d ∈ env.suite.steps) : outcomeOf env d.id = stepOutcome env d := by
  rw [Bool.eq_iff_iff]
  simp only [outcomeOf, List.all_eq_true, Bool.or_eq_true, decide_eq_true_eq, ne_eq]
  constructor
  · intro h
    exact (h d hd).resolve_left fun hne => hne rfl
  · intro h d' hd'
    by_cases hid : d'.id = d.id
    · rw [hwf.eq_of_id_eq hd' hd hid]
      exact Or.inr h
    · exact Or.inl hid

namespace LoopState

variable {s : LoopState}

/-- In a finished workflow a step has been dispatched when all its dependencies pass. -/
theorem Core.mem_dispatched_iff (h : Core env s) (hdone : s.w.isDone = true) {d : WorkflowStep}
    (hd : d ∈ env.suite.steps) : d.id ∈ s.dispatched ↔ Started env d := by
  have hst := h.stepStatus_of_isDone hdone
    (fun d' hd' => (outcomeOf_eq h.winv.wf hd').symm) (List.mem_map_of_mem hd)
  rw [h.dispatched_iff]
  constructor
  · rintro ⟨st, hσ, hstarted⟩ d' hd' hbelow
    rw [hst] at hσ
    cases hσ
    by_contra hfail
    rw [Bool.not_eq_true, ← outcomeOf_eq h.winv.wf hd'] at hfail
    rw [finalStatus, if_pos ⟨d'.id, hbelow, hfail⟩] at hstarted
    cases hstarted
  · intro hstart
    refine ⟨_, hst, ?_⟩
    rw [finalStatus, if_neg ?_]
    · exact isStarted_outcomeStatus _
    · rintro ⟨f, hf, hfail⟩
      obtain ⟨d', hd', rfl⟩ := List.mem_map.1 (h.winv.wf.mem_ids_of_transGen hf)
      rw [outcomeOf_eq h.winv.wf hd', hstart d' hd' hf] at hfail
      cases hfail

theorem Core.all_passed_iff (h : Core env s) (hdone : s.w.isDone = true) :
    (∀ d ∈ env.suite.steps, s.w.stepStatus d.id = some .passed) ↔
      ∀ d ∈ env.suite.steps, stepOutcome env d = true := by
  constructor
  · intro hall d hd
    exact h.outcome_ok d hd true (hall d hd)
  · intro hall d hd
    rw [h.stepStatus_of_isDone hdone (fun d' hd' => (outcomeOf_eq h.winv.wf hd').symm)
      (List.mem_map_of_mem hd), finalStatus, if_neg ?_, outcomeOf_eq h.winv.wf hd, hall d hd]
    · rfl
    · rintro ⟨f, hf, hfail⟩
      obtain ⟨d', hd', rfl⟩ := List.mem_map.1 (h.winv.wf.mem_ids_of_transGen hf)
      rw [outcomeOf_eq h.winv.wf hd', hall d' hd'] at hfail
      cases hfail

theorem Core.gos_eq_nil (h : Core env s) (hdone : s.w.isDone = true) : s.gos = [] := by
  refine List.eq_nil_iff_forall_not_mem.2 fun g hg => ?_
  have hrun := (h.live_iff g.defn.id).1
    (List.mem_append_left _ (List.mem_map_of_mem (f := fun g => g.defn.id) hg))
  rw [Workflow.not_isDone_of_running _ hrun] at hdone
  cases hdone

/-- **The rows after a finished workflow**: those from before, and those of every attempt of every
step whose dependencies pass. -/
theorem mem_results_of_isDone {w : Workflow} {ctx : Option CtxErr} {store : Store}
    (hF : Fresh env.suite.steps w) {as : List LoopAct}
    (hrun : Machine.run (LoopState.step env) (LoopState.start w ctx store) as = some s)
    (hlive : env.honoursCtx = true → s.ctx = none) (hdone : s.w.isDone = true) (r : TestResult) :
    r ∈ s.store.getTestResults env.run.id ↔ r ∈ store.getTestResults env.run.id ∨
      ∃ d ∈ env.suite.steps, Started env d ∧ StepRow env d r := by
  have hI : s.Inv env := Inv.of_reachable hF ⟨as, hrun⟩
  rw [rowsOk_of_run hF hrun hlive r, hI.toCore.gos_eq_nil hdone]
  refine or_congr Iff.rfl ?_
  simp only [List.not_mem_nil, false_and, exists_false, false_or, false_imp_iff, implies_true,
    true_and]
  refine exists_congr fun d => and_congr_right fun hd => ?_
  rw [hI.toCore.mem_dispatched_iff hdone hd]

end LoopState

end Dvf
