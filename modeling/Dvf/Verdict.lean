/-
**What the recorded verdict says about the workflow.**

The verdict of a run is not taken from its workflow: it is `FAILED` when some stored row of the run
is failed or errored, and `PASSED` otherwise.  A step can fail without leaving a row, and a failed
attempt of a step that passes later leaves its rows for good.  So the verdict is too good in the
first case and too bad in the second; this module says exactly when.

Main definitions:

* `Dvf.VerdictRow` — the rows that the verdict is about;
* `Dvf.RunEnv.ReachesVerdict` — what leads an execution to a verdict.

Main results:

* `Dvf.verdict_of_reaches`, `Dvf.reaches_of_written` — an execution writes a verdict exactly when it
  is led to one;
* `Dvf.Verdict.spec` — the verdict is `PASSED` when no row from before, and no row of any attempt of
  a started step, is failing;
* `Dvf.verdict_sound_iff` — **a recorded `PASSED` means that all steps passed exactly when every
  failing workflow has a failing row;**
* `Dvf.verdict_complete_iff` — **a workflow whose steps finally pass is recorded as `PASSED` exactly
  when neither an earlier execution nor a failed attempt has left a failing row.**
-/

import Dvf.EngineExit
import Dvf.RunWorkflowRows

set_option autoImplicit false

namespace Dvf

variable {e : EngineConfig} {env : RunEnv} {run : TestRun} {device : DeviceEntry}
  {suite : TestSuite} {rows₀ : List TestResult} {w w' m : World} {r : Except String Unit}
  {st : TestRunStatus}

/-! ### The verdict and the rows -/

/-- The rows that the verdict is about: those from before and those of the attempts of the started
steps. -/
def VerdictRow (env : WorkflowEnv) (rows₀ : List TestResult) (row : TestResult) : Prop :=
  row ∈ rows₀ ∨ ∃ d ∈ env.suite.steps, Started env d ∧ StepRow env d row

theorem exists_failing_iff {env : WorkflowEnv} :
    (¬ ∀ row, VerdictRow env rows₀ row → isFailing row = false) ↔
      (∃ row ∈ rows₀, isFailing row = true) ∨
      ∃ d ∈ env.suite.steps, Started env d ∧ ∃ a, Attempted env d a ∧
        ∃ row ∈ attemptRows env d a, isFailing row = true := by
  simp only [not_forall, Bool.not_eq_false, exists_prop]
  constructor
  · rintro ⟨row, hrow | ⟨d, hd, hs, a, ha, hrow⟩, hf⟩
    · exact Or.inl ⟨row, hrow, hf⟩
    · exact Or.inr ⟨d, hd, hs, a, ha, row, hrow, hf⟩
  · rintro (⟨row, hrow, hf⟩ | ⟨d, hd, hs, a, ha, row, hrow, hf⟩)
    · exact ⟨row, Or.inl hrow, hf⟩
    · exact ⟨row, Or.inr ⟨d, hd, hs, a, ha, hrow⟩, hf⟩

/-- **The verdict**, with a coordinator and a store that takes the rows: it is `PASSED` when no row
is failing, and the workflow has only passed steps when every step has an attempt that passes. -/
theorem Verdict.spec (h : Verdict e env run rows₀ m st) (hc : e.hasCoordinator = true)
    (hlive : env.honoursCtx = true → m.ctx = none)
    (hdev : findDevice env.registry run.deviceID = .ok device) (hsuite : env.suite = .ok suite) :
    (st = .passed ∨ st = .failed) ∧
    (st = .passed ↔ ∀ row, VerdictRow (env.workflowEnv run device suite) rows₀ row →
      isFailing row = false) ∧
    ∃ wf, m.workflow = some wf ∧
      ((∀ d ∈ suite.steps, wf.stepStatus d.id = some .passed) ↔
        ∀ d ∈ suite.steps, stepOutcome (env.workflowEnv run device suite) d = true) := by
  obtain ⟨rows, rfl, hrows⟩ := h.rows
  obtain ⟨device', suite', vmID, w₀, s, store₀, ctx₀, hdev', hsuite', hnew, hrun, hrows₀, hdone, _,
    hstore, hwf, hctx⟩ := h.workflow hc
  rw [hdev] at hdev'
  cases hdev'
  rw [hsuite] at hsuite'
  cases hsuite'
  have hF := newWorkflow_fresh hnew
  have hI : s.Inv (env.workflowEnv { run with vmID := vmID } device suite) :=
    LoopState.Inv.of_reachable hF ⟨_, hrun⟩
  refine ⟨verdict_cases rows, ?_, s.w, hwf, hI.toCore.all_passed_iff hdone⟩
  have hmem := LoopState.mem_results_of_isDone hF hrun (fun hh => hctx (hlive hh)) hdone
  rw [verdict_eq_passed_iff, hrows hlive, hstore]
  refine forall_congr' fun row => ?_
  rw [← hrows₀]
  exact imp_congr_left (hmem row)

/-- **What leads an execution to a verdict**: the run is known, the answers lead up to the verdict,
the loop of the workflow does not give up, and a store that honours contexts gets live ones. -/
def RunEnv.ReachesVerdict (env : RunEnv) (e : EngineConfig) (run : TestRun) (w : World) : Prop :=
  (∃ st₀, w.store.status run.id = some st₀) ∧ .results ∈ env.stages e run ∧
    (e.hasCoordinator = true → .cancelled ∉ env.schedule) ∧
    (env.honoursCtx = true →
      w.ctx = none ∧ ∀ stage ∈ env.stages e run, env.expiresDuring stage = false)

/-- Such an execution records its verdict. -/
theorem verdict_of_reaches (hr : env.ReachesVerdict e run w)
    (h : execute e env run w = some (r, w')) :
    ∃ m st, Verdict e env run (w.store.getTestResults run.id) m st ∧
      (env.honoursCtx = true → m.ctx = none) ∧ w'.store.status run.id = some st ∧
      w'.written = w.written ++ [.running, st] ∧ w'.workflow = m.workflow := by
  obtain ⟨⟨st₀, hknown⟩, hreach, hschedule, hlive⟩ := hr
  obtain ⟨store, hup, hresp, _⟩ :=
    World.write_of_live (fun hh => (hlive hh).1) hknown .running ""
  rcases ended_execute h with ⟨err, herr, _⟩ | ⟨store₁, hresp₁, hend⟩
  · rw [hresp] at herr
    cases herr
  · rw [hresp] at hresp₁
    cases hresp₁
    rw [Store.results_update hup] at hend
    rcases hend with ⟨m, st, msg, hm⟩ | ⟨_, hnot⟩
    · have hmctx : env.honoursCtx = true → m.ctx = none := fun hh => hm.ctx_iff.2 (hlive hh)
      have hmrun : m.store.status run.id = some .running := by
        rw [hm.status_eq, Store.status_update hup, if_pos rfl]
      obtain ⟨store', hst, _, hwrite⟩ := World.write_of_live hmctx hmrun st msg
      refine ⟨m, st, ?_, hmctx, ?_, ?_, hm.workflow_eq⟩
      · rcases hm.final with ⟨_, hdone⟩ | ⟨hverdict, _⟩
        · obtain ⟨_, hc, hcancelled⟩ := hdone hreach
          exact absurd hcancelled (hschedule hc)
        · exact hverdict
      · rw [hm.store_after, hwrite, Store.status_update hst, if_pos rfl]
      · rw [hm.written_after, hwrite, hm.written_eq, List.append_assoc]
        rfl
    · exact absurd hreach hnot

/-- Only such an execution writes `PASSED` or `FAILED`. -/
theorem reaches_of_written (h : execute e env run w = some (r, w')) (hw : w.written = [])
    (hv : .passed ∈ w'.written ∨ .failed ∈ w'.written) : env.ReachesVerdict e run w := by
  rcases ended_execute h with ⟨err, _, rfl⟩ | ⟨store₁, hresp, hend⟩
  · simp [hw] at hv
  · rcases hend with ⟨m, st, msg, hm⟩ | ⟨⟨_, hwr⟩, _⟩
    · have hwritten : m.written = [.running] := by rw [hm.written_eq, hw]; rfl
      -- a write that did not take effect leaves only `RUNNING`
      rcases World.written_write m run.id st msg with hsame | hnew
      · rw [hm.written_after, hsame, hwritten] at hv
        simp at hv
      · have hlive : env.honoursCtx = true → m.ctx = none := by
          intro hh
          by_contra hctx
          rw [World.write_of_done hh hctx] at hnew
          simp at hnew
        rcases hm.final with ⟨hst, _⟩ | ⟨hverdict, hreach⟩
        · rw [hm.written_after, hnew, hwritten] at hv
          rcases hst with rfl | rfl
          · simp at hv
          · simp at hv
        · refine ⟨Store.exists_status_of_update (World.update_of_writeResp hresp), hreach,
            fun hc => ?_, fun hh => hm.ctx_iff.1 (hlive hh)⟩
          obtain ⟨_, _, _, _, _, _, _, _, _, _, _, _, _, hschedule, _⟩ := hverdict.workflow hc
          exact hschedule
    · rcases hwr with hwr | hwr
      · rw [hwr] at hv
        simp [hw] at hv
      · rw [hwr] at hv
        simp [hw] at hv

/-! ### Soundness -/

/-- **Soundness of the verdict.**  For an execution with an agent coordinator, the implication "if
`PASSED` is written then every step of the workflow ended as passed" holds if and only if: when the
execution is led to a verdict and some step has no attempt that passes, then some row that the run
had before is failing, or some row of an attempt of a step whose dependencies all pass is
failing. -/
theorem verdict_sound_iff (hc : e.hasCoordinator = true)
    (h : execute e env run w = some (r, w')) (hw : w.written = [])
    (hdev : findDevice env.registry run.deviceID = .ok device) (hsuite : env.suite = .ok suite) :
    (.passed ∈ w'.written → ∃ wf, w'.workflow = some wf ∧
        ∀ d ∈ suite.steps, wf.stepStatus d.id = some .passed) ↔
      (env.ReachesVerdict e run w →
        (∃ d ∈ suite.steps, stepOutcome (env.workflowEnv run device suite) d = false) →
          (∃ row ∈ w.store.getTestResults run.id, isFailing row = true) ∨
          ∃ d ∈ suite.steps, Started (env.workflowEnv run device suite) d ∧
            ∃ a, Attempted (env.workflowEnv run device suite) d a ∧
              ∃ row ∈ attemptRows (env.workflowEnv run device suite) d a,
                isFailing row = true) := by
  by_cases hr : env.ReachesVerdict e run w
  · obtain ⟨m, st, hverdict, hlive, _, hwritten, hwf⟩ := verdict_of_reaches hr h
    obtain ⟨_, hpassed, wf, hmwf, hall⟩ := hverdict.spec hc hlive hdev hsuite
    have hmem : .passed ∈ w'.written ↔ st = .passed := by
      rw [hwritten, hw]
      simp [eq_comm]
    have hfail : (∃ d ∈ suite.steps, stepOutcome (env.workflowEnv run device suite) d = false) ↔
        ¬ ∀ d ∈ suite.steps, wf.stepStatus d.id = some .passed := by
      rw [hall]
      simp
    -- the right-hand side is the contrapositive, with "not `PASSED`" spelled out
    rw [hmem, hwf, hmwf, hfail]
    simp only [Option.some.injEq, exists_eq_left', hr, true_implies]
    exact not_imp_not.symm.trans (imp_congr_right fun _ => hpassed.not.trans exists_failing_iff)
  · refine iff_of_true (fun hp => ?_) fun hr' => absurd hr' hr
    exact absurd (reaches_of_written h hw (Or.inl hp)) hr

/-- Surroundings in which the first step of the two is never answered. -/
def silentEnv : RunEnv :=
  { chainRunEnv with
    agent := fun sid _ _ => if sid = "a" then .error "no answer" else .ok { status := "passed" }
    schedule := [.loop, .go 0, .go 0, .receive, .loop] }

/-- A step that is never answered fails without leaving a row: the run is recorded as `PASSED`
while its first step failed and its second was skipped. -/
theorem verdict_passed_with_failed_step :
    ∃ r w', execute chainConfig silentEnv chainRun chainWorld = some (r, w') ∧
      w'.written = [.running, .passed] ∧ w'.store.status "run" = some .passed ∧
      ∃ wf, w'.workflow = some wf ∧ wf.stepStatus "a" = some .failed ∧
        wf.stepStatus "b" = some .skipped := by
  have hrun : (execute chainConfig silentEnv chainRun chainWorld).map (fun x =>
      (x.2.written, x.2.store.status "run",
        x.2.workflow.map fun wf => (wf.stepStatus "a", wf.stepStatus "b"))) =
      some ([.running, .passed], some .passed, some (some .failed, some .skipped)) := by decide
  obtain ⟨⟨r, w'⟩, hx, heq⟩ := Option.map_eq_some_iff.1 hrun
  simp only [Prod.mk.injEq, Option.map_eq_some_iff] at heq
  exact ⟨r, w', hx, heq⟩

/-- Surroundings in which the first step of the two fails with an output. -/
def loudEnv : RunEnv :=
  { chainRunEnv with
    agent := fun sid _ _ =>
      if sid = "a" then .ok { status := "failed", output := "boom" } else .ok { status := "passed" }
    schedule := [.loop, .go 0, .go 0, .go 0, .go 0, .receive, .loop] }

theorem started_chain (env : RunEnv) (run : TestRun) (device : DeviceEntry) :
    Started (env.workflowEnv run device { id := "suite", steps := chainSteps }) { id := "a" } := by
  intro d' _ hbelow
  obtain ⟨x, _, hx⟩ := Relation.TransGen.tail'_iff.1 hbelow
  obtain ⟨d, hd, hid, hdep⟩ := hx
  simp only [RunEnv.workflowEnv, chainSteps, List.mem_cons, List.not_mem_nil, or_false] at hd
  rcases hd with rfl | rfl
  · simp at hdep
  · simp at hid

/-- A step that fails with an output leaves a row: the run is not recorded as `PASSED`. -/
theorem verdict_sound_loud :
    ∃ r w', execute chainConfig loudEnv chainRun chainWorld = some (r, w') ∧
      w'.written = [.running, .failed] ∧
      (.passed ∈ w'.written → ∃ wf, w'.workflow = some wf ∧
        ∀ d ∈ chainSteps, wf.stepStatus d.id = some .passed) := by
  have hrun : (execute chainConfig loudEnv chainRun chainWorld).map (fun x => x.2.written) =
      some [.running, .failed] := by decide
  obtain ⟨⟨r, w'⟩, hx, hwritten⟩ := Option.map_eq_some_iff.1 hrun
  refine ⟨r, w', hx, hwritten, (verdict_sound_iff rfl hx rfl rfl rfl).2 fun _ _ => Or.inr ?_⟩
  exact ⟨{ id := "a" }, by decide, started_chain _ _ _, 0, ⟨by decide, by simp⟩,
    ⟨"run", "a", .failed, "boom", ""⟩, by decide, by decide⟩

/-! ### Completeness -/

theorem started_of_forall {env : WorkflowEnv}
    (h : ∀ d ∈ env.suite.steps, stepOutcome env d = true) (d : WorkflowStep) : Started env d :=
  fun d' hd' _ => h d' hd'

theorem Attempted.eq_of_passes {env : WorkflowEnv} {d : WorkflowStep} {a b : ℕ}
    (ha : Attempted env d a) (hb : Attempted env d b) (hpa : passes env d a = true)
    (hpb : passes env d b = true) : a = b := by
  rcases Nat.lt_trichotomy a b with hlt | heq | hlt
  · rw [hb.2 a hlt] at hpa
    cases hpa
  · exact heq
  · rw [ha.2 b hlt] at hpb
    cases hpb

/-- **Completeness of the verdict.**  Take an execution with an agent coordinator that is led to a
verdict, and let every step finally pass: some attempt that it makes passes and has no failing row.
Then `PASSED` is recorded if and only if no row that the run had before is failing, and no attempt
that did not pass has a failing row. -/
theorem verdict_complete_iff (hc : e.hasCoordinator = true) (hr : env.ReachesVerdict e run w)
    (h : execute e env run w = some (r, w'))
    (hdev : findDevice env.registry run.deviceID = .ok device) (hsuite : env.suite = .ok suite)
    (hpass : ∀ d ∈ suite.steps, ∃ a, Attempted (env.workflowEnv run device suite) d a ∧
      passes (env.workflowEnv run device suite) d a = true ∧
      ∀ row ∈ attemptRows (env.workflowEnv run device suite) d a, isFailing row = false) :
    w'.store.status run.id = some .passed ↔
      (∀ row ∈ w.store.getTestResults run.id, isFailing row = false) ∧
      ∀ d ∈ suite.steps, ∀ a, Attempted (env.workflowEnv run device suite) d a →
        passes (env.workflowEnv run device suite) d a = false →
        ∀ row ∈ attemptRows (env.workflowEnv run device suite) d a, isFailing row = false := by
  obtain ⟨m, st, hverdict, hlive, hst, _⟩ := verdict_of_reaches hr h
  obtain ⟨_, hpassed, _⟩ := hverdict.spec hc hlive hdev hsuite
  have hstart : ∀ d, Started (env.workflowEnv run device suite) d := by
    refine started_of_forall fun d hd => ?_
    obtain ⟨a, ha, hp, _⟩ := hpass d hd
    exact stepOutcome_eq_true_iff.2 ⟨a, ha.1, hp⟩
  rw [hst, Option.some.injEq, hpassed]
  constructor
  · intro hrows
    exact ⟨fun row hrow => hrows row (Or.inl hrow), fun d hd a ha _ row hrow =>
      hrows row (Or.inr ⟨d, hd, hstart d, a, ha, hrow⟩)⟩
  · rintro ⟨hbefore, hfailed⟩ row (hrow | ⟨d, hd, _, a, ha, hrow⟩)
    · exact hbefore row hrow
    · cases hp : passes (env.workflowEnv run device suite) d a with
      | false => exact hfailed d hd a ha hp row hrow
      | true =>
          obtain ⟨b, hb, hpb, hclean⟩ := hpass d hd
          rw [ha.eq_of_passes hb hp hpb] at hrow
          exact hclean row hrow

/-- Two passing steps, and no rows from before: the run is recorded as `PASSED`. -/
theorem verdict_complete_chain :
    ∃ r w', execute chainConfig chainRunEnv chainRun chainWorld = some (r, w') ∧
      w'.store.status "run" = some .passed := by
  have hrun : (execute chainConfig chainRunEnv chainRun chainWorld).isSome = true := by decide
  obtain ⟨⟨r, w'⟩, hx⟩ := Option.isSome_iff_exists.1 hrun
  have hr : chainRunEnv.ReachesVerdict chainConfig chainRun chainWorld :=
    ⟨⟨.pending, by decide⟩, by decide, fun _ => by decide, fun _ => ⟨rfl, by decide⟩⟩
  refine ⟨r, w', hx, (verdict_complete_iff rfl hr hx rfl rfl fun d _ =>
    ⟨0, ⟨Nat.zero_le _, by simp⟩, rfl, by
      simp [attemptRows, WorkflowEnv.answer, RunEnv.workflowEnv, chainRunEnv, resultRows]⟩).2
    ⟨by decide, fun d _ a _ hp => ?_⟩⟩
  simp [passes, WorkflowEnv.answer, RunEnv.workflowEnv, chainRunEnv] at hp

/-- One step that may be tried twice; the first attempt fails with an output, the second passes. -/
def flakyEnv : RunEnv :=
  { chainRunEnv with
    suite := .ok { id := "suite", steps := [{ id := "a", retryMax := 1 }] }
    agent := fun _ attempt _ =>
      if attempt = 0 then .ok { status := "failed", output := "boom" }
      else .ok { status := "passed" }
    schedule := [.loop, .go 0, .go 0, .go 0, .go 0, .go 0, .go 0, .receive, .loop] }

/-- The step passes on its second attempt and the workflow with it, but the row of the first attempt
stays in the store: the run is recorded as `FAILED`. -/
theorem verdict_failed_after_retry :
    ∃ r w', execute chainConfig flakyEnv chainRun chainWorld = some (r, w') ∧
      w'.written = [.running, .failed] ∧ w'.store.status "run" = some .failed ∧
      ∃ wf, w'.workflow = some wf ∧ wf.stepStatus "a" = some .passed := by
  have hrun : (execute chainConfig flakyEnv chainRun chainWorld).map (fun x =>
      (x.2.written, x.2.store.status "run", x.2.workflow.map fun wf => wf.stepStatus "a")) =
      some ([.running, .failed], some .failed, some (some .passed)) := by decide
  obtain ⟨⟨r, w'⟩, hx, heq⟩ := Option.map_eq_some_iff.1 hrun
  simp only [Prod.mk.injEq, Option.map_eq_some_iff] at heq
  exact ⟨r, w', hx, heq⟩

end Dvf
