/-
**Deadlines of steps that are dispatched together** (`runWorkflow` in
`internal/core/execution_engine.go`, `command_loop` and `_handle_start_test` in
`python-agent/agent/__main__.py`).

`runWorkflow` dispatches every ready step at once, and each goroutine gives `SendCommand` a deadline
ten seconds after the time limit of its step.  The agent executes the commands one at a time, so a
step also waits for the steps before it in the queue.  If those use the time that their own limits
allow, the deadline of a later step may pass while it waits, although its own test would stay within
its limit.

The agent is a machine with a clock that counts seconds: it takes the next command when it is idle,
time passes while a test runs, and the test ends, or is killed at its limit.

Main definitions:

* `Dvf.SerialAgent`, `Dvf.SerialAgent.step` — the agent and its clock;
* `Dvf.hostDeadline` — when `SendCommand` gives up on a step;
* `Dvf.DeadlinesSuffice` — every step whose test stays within its limit is answered in time;
* `Dvf.WaitsAtMostTen` — the limits of the steps before a step add up to at most ten seconds.

Main results:

* `Dvf.SerialAgent.Served.step`, `Dvf.SerialAgent.served_of_run` — what the agent has done at any
  time;
* `Dvf.deadlinesSuffice_iff` — **when the deadlines suffice**.
-/

import Dvf.Machine
import Dvf.WorkflowNew
import Mathlib.Algebra.BigOperators.Group.List.Basic
import Mathlib.Algebra.Order.BigOperators.Group.List
import Mathlib.Algebra.Ring.Int.Defs

set_option autoImplicit false

namespace Dvf

/-! ### Steps that are dispatched together -/

/-- **Steps without dependencies are ready at once**: the first round of `runWorkflow` dispatches
them all. -/
theorem Fresh.ready_perm {defs : List WorkflowStep} {w : Workflow} (h : Fresh defs w)
    (hdeps : ∀ d ∈ defs, d.dependsOn = []) : w.ready.Perm (defs.map WorkflowStep.id) := by
  have hall : w.ready = w.order := by
    refine List.filter_eq_self.2 fun sid hsid => ?_
    obtain ⟨d, hd, rfl⟩ := List.mem_map.1 (h.order_perm.mem_iff.1 hsid)
    simp [Workflow.stepStatus, h.indexed.lookup_eq d hd, Workflow.deps, h.indexed.depsOf_eq hd,
      hdeps d hd, Workflow.depsAllPassed]
  rw [hall]
  exact h.order_perm

/-! ### The agent -/

/-- A command in the queue: the step, and how long its test would run. -/
abbrev StepJob := WorkflowStep × ℤ

/-- The agent: the clock, the commands that it has not taken, the one that it executes with the time
at which it began, and the steps that are through with the times at which they were. -/
structure SerialAgent where
  now : ℤ := 0
  queue : List StepJob
  current : Option (StepJob × ℤ) := none
  finished : List (WorkflowStep × ℤ) := []

/-- `_recv` returns the next command, a second passes, a test ends, or it is killed. -/
inductive AgentTick
  | take
  | second
  | exit
  | kill
  deriving DecidableEq, Repr

/-- When `SendCommand` gives up on a step that was dispatched at time 0, by the timeout of the step;
the limit of the whole run (`TestTimeoutSeconds`), which may come first, is not part of it. -/
def hostDeadline (d : WorkflowStep) : ℤ := d.timeoutSec + 10

namespace SerialAgent

/-- The agent with the commands `jobs`, all sent at time 0. -/
def start (jobs : List StepJob) : SerialAgent where
  queue := jobs

/-- **One action.**  Time passes only while a test runs, which has neither ended nor reached its
limit. -/
def step (s : SerialAgent) : AgentTick → Option SerialAgent
  | .take =>
      match s.current, s.queue with
      | none, job :: rest => some { s with queue := rest, current := some (job, s.now) }
      | _, _ => none
  | .second =>
      match s.current with
      | some (job, since) =>
          if s.now - since < job.2 ∧ s.now - since < job.1.timeoutSec then
            some { s with now := s.now + 1 }
          else none
      | none => none
  | .exit =>
      match s.current with
      | some (job, since) =>
          if s.now - since = job.2 then
            some { s with current := none, finished := s.finished ++ [(job.1, s.now)] }
          else none
      | none => none
  | .kill =>
      match s.current with
      | some (job, since) =>
          if job.1.timeoutSec ≤ s.now - since ∧ s.now - since < job.2 then
            some { s with current := none, finished := s.finished ++ [(job.1, s.now)] }
          else none
      | none => none

/-- Every test stays within the limit of its step. -/
def Within (jobs : List StepJob) : Prop := ∀ job ∈ jobs, 0 ≤ job.2 ∧ job.2 ≤ job.1.timeoutSec

/-- The time that the tests of a list take, one after the other. -/
def total (jobs : List StepJob) : ℤ := (jobs.map Prod.snd).sum

@[simp] theorem total_nil : total [] = 0 := rfl

@[simp] theorem total_cons (job : StepJob) (l : List StepJob) :
    total (job :: l) = job.2 + total l := by simp [total]

@[simp] theorem total_append (l l' : List StepJob) : total (l ++ l') = total l + total l' := by
  simp [total]

/-- The times at which the tests of a list end, if the first one begins at `now`. -/
def finishTimes (now : ℤ) : List StepJob → List (WorkflowStep × ℤ)
  | [] => []
  | job :: rest => (job.1, now + job.2) :: finishTimes (now + job.2) rest

@[simp] theorem finishTimes_concat (now : ℤ) (jobs : List StepJob) (job : StepJob) :
    finishTimes now (jobs ++ [job])
      = finishTimes now jobs ++ [(job.1, now + total (jobs ++ [job]))] := by
  induction jobs generalizing now with
  | nil => simp [finishTimes]
  | cons j jobs ih =>
      simp only [List.cons_append, finishTimes, ih, total_cons]
      rw [add_assoc]

theorem finishTimes_fst (now : ℤ) (jobs : List StepJob) :
    (finishTimes now jobs).map Prod.fst = jobs.map Prod.fst := by
  induction jobs generalizing now with
  | nil => rfl
  | cons j jobs ih => simp [finishTimes, ih]

/-- **A test ends when the tests up to it have run.** -/
theorem getElem?_finishTimes (now : ℤ) (jobs : List StepJob) (i : ℕ) :
    (finishTimes now jobs)[i]? =
      jobs[i]?.map fun job => (job.1, now + total (jobs.take (i + 1))) := by
  induction jobs generalizing now i with
  | nil => simp [finishTimes]
  | cons j jobs ih =>
      cases i with
      | zero => simp [finishTimes]
      | succ i => simp [finishTimes, ih, total_cons, add_assoc]

/-- What the agent has done at any time: the jobs `done` are through, one after the other, and the
next one has been running since then. -/
structure Served (jobs : List StepJob) (done : List StepJob) (s : SerialAgent) : Prop where
  order : jobs = done ++ s.current.toList.map Prod.fst ++ s.queue
  times : s.finished = finishTimes 0 done
  idle : s.current = none → s.now = total done
  busy : ∀ job since, s.current = some (job, since) →
    since = total done ∧ since ≤ s.now ∧ s.now - since ≤ job.2

theorem Served.start (jobs : List StepJob) : Served jobs [] (start jobs) where
  order := by simp [SerialAgent.start]
  times := rfl
  idle _ := rfl
  busy job since h := by cases h

/-- **One action keeps it.**  A test within its limit is not killed: the clock reaches its end
first. -/
theorem Served.step {jobs done : List StepJob} {s s' : SerialAgent} {a : AgentTick}
    (h : Served jobs done s) (hwithin : Within jobs) (hs : s.step a = some s') :
    ∃ done', Served jobs done' s' := by
  cases a with
  | take =>
      obtain ⟨now, queue, current, finished⟩ := s
      rcases current with _ | ⟨job, since⟩ <;> rcases queue with _ | ⟨next, rest⟩ <;> cases hs
      refine ⟨done, by simpa using h.order, h.times, by simp, fun job since he => ?_⟩
      obtain ⟨rfl, rfl⟩ : next = job ∧ now = since := by simpa using he
      have hjob : next ∈ jobs := by rw [h.order]; simp
      exact ⟨h.idle rfl, le_refl _, by simpa using (hwithin _ hjob).1⟩
  | second =>
      obtain ⟨now, queue, _ | ⟨job, since⟩, finished⟩ := s
      · cases hs
      · obtain ⟨hlt, hs⟩ := Option.ite_none_right_eq_some.1 hs
        cases hs
        refine ⟨done, h.order, h.times, by simp, fun job' since' he => ?_⟩
        obtain ⟨rfl, rfl⟩ : job = job' ∧ since = since' := by simpa using he
        obtain ⟨htotal, hle, -⟩ := h.busy job since rfl
        dsimp only at hle hlt ⊢
        exact ⟨htotal, by omega, by omega⟩
  | exit =>
      obtain ⟨now, queue, _ | ⟨job, since⟩, finished⟩ := s
      · cases hs
      · obtain ⟨heq, hs⟩ := Option.ite_none_right_eq_some.1 hs
        cases hs
        obtain ⟨htotal, -, -⟩ := h.busy job since rfl
        have hnow : now = total (done ++ [job]) := by
          rw [total_append, total_cons, total_nil]
          dsimp only at heq
          omega
        refine ⟨done ++ [job], by simpa using h.order, ?_, fun _ => hnow, by simp⟩
        rw [finishTimes_concat, zero_add, ← hnow]
        exact congrArg (· ++ [(job.1, now)]) h.times
  | kill =>
      obtain ⟨now, queue, _ | ⟨job, since⟩, finished⟩ := s
      · cases hs
      · obtain ⟨hlt, -⟩ := Option.ite_none_right_eq_some.1 hs
        have hjob : job ∈ jobs := by rw [h.order]; simp
        have := (hwithin _ hjob).2
        dsimp only at hlt
        omega

/-- **What the agent has done after any run.** -/
theorem served_of_run {jobs : List StepJob} (hwithin : Within jobs) {as : List AgentTick}
    {s : SerialAgent} (hrun : Machine.run step (start jobs) as = some s) :
    ∃ done, Served jobs done s :=
  Machine.Reachable.invariant (I := fun s => ∃ done, Served jobs done s) ⟨as, hrun⟩
    ⟨[], Served.start jobs⟩ fun _ _ _ ⟨_, h⟩ hs => h.step hwithin hs

/-- **When a step is through**: the tests up to it have run. -/
theorem Served.eq_of_finished {jobs done : List StepJob} {s : SerialAgent}
    (h : Served jobs done s) {i : ℕ} {d : WorkflowStep} {finish : ℤ}
    (hi : s.finished[i]? = some (d, finish)) :
    ∃ job, jobs[i]? = some job ∧ job.1 = d ∧ finish = total (jobs.take (i + 1)) := by
  rw [h.times, getElem?_finishTimes] at hi
  obtain ⟨job, hjob, heq⟩ := Option.map_eq_some_iff.1 hi
  obtain ⟨rfl, rfl⟩ := Prod.mk.injEq _ _ _ _ ▸ heq
  have hlt : i < done.length := (List.getElem?_eq_some_iff.1 hjob).1
  refine ⟨job, ?_, rfl, ?_⟩
  · rw [h.order, List.append_assoc, List.getElem?_append_left hlt, hjob]
  · rw [h.order, List.append_assoc, List.take_append_of_le_length (by omega), zero_add]

theorem total_le_limits {jobs : List StepJob} (hwithin : Within jobs) :
    total jobs ≤ ((jobs.map Prod.fst).map WorkflowStep.timeoutSec).sum := by
  rw [total, List.map_map]
  exact List.sum_le_sum fun job hjob => (hwithin job hjob).2

/-- The clock runs while a test does. -/
theorem run_seconds {job : StepJob} (hlimit : job.2 ≤ job.1.timeoutSec) (queue : List StepJob)
    (since : ℤ) (finished : List (WorkflowStep × ℤ)) (n : ℕ) :
    ∀ now : ℤ, now - since + n ≤ job.2 →
      Machine.run step ⟨now, queue, some (job, since), finished⟩ (List.replicate n .second)
        = some ⟨now + n, queue, some (job, since), finished⟩ := by
  induction n with
  | zero => intro now _; simp [Machine.run]
  | succ n ih =>
      intro now hle
      have hstep : step ⟨now, queue, some (job, since), finished⟩ .second
          = some ⟨now + 1, queue, some (job, since), finished⟩ :=
        if_pos ⟨by dsimp only; omega, by dsimp only; omega⟩
      rw [List.replicate_succ, Machine.run_cons_eq_some]
      refine ⟨_, hstep, ?_⟩
      rw [ih (now + 1) (by omega)]
      congr 2
      omega

/-- **The agent executes a command**: it takes it, the test runs for as long as it takes, and
ends. -/
theorem exists_run_job {job : StepJob} (h0 : 0 ≤ job.2) (hlimit : job.2 ≤ job.1.timeoutSec)
    (now : ℤ) (rest : List StepJob) (finished : List (WorkflowStep × ℤ)) :
    ∃ as, Machine.run step ⟨now, job :: rest, none, finished⟩ as
      = some ⟨now + job.2, rest, none, finished ++ [(job.1, now + job.2)]⟩ := by
  obtain ⟨n, hn⟩ := Int.eq_ofNat_of_zero_le h0
  refine ⟨.take :: (List.replicate n .second ++ [.exit]), ?_⟩
  rw [Machine.run_cons_eq_some]
  refine ⟨⟨now, rest, some (job, now), finished⟩, rfl, ?_⟩
  refine Machine.run_append_eq_some (run_seconds hlimit rest now finished n now (by omega)) ?_
  rw [Machine.run_cons_eq_some]
  refine ⟨_, if_pos (by dsimp only; omega), ?_⟩
  simp [Machine.run, hn]

/-- **The agent gets through its queue**, if every test stays within its limit. -/
theorem exists_run {jobs : List StepJob} (hwithin : Within jobs) (now : ℤ)
    (finished : List (WorkflowStep × ℤ)) :
    ∃ as s, Machine.run step ⟨now, jobs, none, finished⟩ as = some s ∧
      s.finished = finished ++ finishTimes now jobs := by
  induction jobs generalizing now finished with
  | nil => exact ⟨[], _, rfl, by simp [finishTimes]⟩
  | cons job rest ih =>
      obtain ⟨h0, hlimit⟩ := hwithin job List.mem_cons_self
      obtain ⟨as, has⟩ := exists_run_job h0 hlimit now rest finished
      obtain ⟨bs, s, hbs, hs⟩ := ih (fun j hj => hwithin j (List.mem_cons_of_mem _ hj))
        (now + job.2) (finished ++ [(job.1, now + job.2)])
      refine ⟨as ++ bs, s, Machine.run_append_eq_some has hbs, ?_⟩
      rw [hs, finishTimes, List.append_assoc, List.singleton_append]

end SerialAgent

/-! ### When the deadlines suffice -/

/-- **The deadlines suffice** for steps that were dispatched together, in the order of the queue:
whatever the tests take, each within the limit of its step, the agent gets through the queue, and in
every run a step is through when the tests up to it have run, which is not after its deadline.

A step whose deadline passes is sent again, behind the others: that does not change when the first
commands are through. -/
def DeadlinesSuffice (steps : List WorkflowStep) : Prop :=
  ∀ jobs : List StepJob, jobs.map Prod.fst = steps → SerialAgent.Within jobs →
    (∃ as s, Machine.run SerialAgent.step (SerialAgent.start jobs) as = some s ∧
      s.finished.map Prod.fst = steps) ∧
    ∀ as s, Machine.run SerialAgent.step (SerialAgent.start jobs) as = some s →
      ∀ i d finish, s.finished[i]? = some (d, finish) →
        steps[i]? = some d ∧ finish = ((jobs.take (i + 1)).map Prod.snd).sum ∧
          finish ≤ hostDeadline d

/-- The limits of the steps before a step add up to at most the ten seconds that the host adds. -/
def WaitsAtMostTen (steps : List WorkflowStep) : Prop :=
  ∀ i d, steps[i]? = some d → ((steps.take i).map WorkflowStep.timeoutSec).sum ≤ 10

def fullJobs (steps : List WorkflowStep) : List StepJob := steps.map fun d => (d, d.timeoutSec)

theorem fullJobs_fst (steps : List WorkflowStep) : (fullJobs steps).map Prod.fst = steps := by
  rw [fullJobs, List.map_map]
  exact List.map_id steps

theorem fullJobs_within {steps : List WorkflowStep} (h : ∀ d ∈ steps, 0 ≤ d.timeoutSec) :
    SerialAgent.Within (fullJobs steps) := by
  intro job hjob
  obtain ⟨d, hd, rfl⟩ := List.mem_map.1 hjob
  exact ⟨h d hd, le_refl _⟩

/-- **If the limits before each step add up to at most ten seconds, the deadlines suffice.** -/
theorem WaitsAtMostTen.deadlinesSuffice {steps : List WorkflowStep} (h : WaitsAtMostTen steps) :
    DeadlinesSuffice steps := by
  rintro jobs rfl hwithin
  constructor
  · obtain ⟨as, s, hrun, hs⟩ := SerialAgent.exists_run hwithin 0 []
    refine ⟨as, s, hrun, ?_⟩
    rw [hs, List.nil_append, SerialAgent.finishTimes_fst]
  · intro as s hrun i d finish hi
    obtain ⟨done, hserved⟩ := SerialAgent.served_of_run hwithin hrun
    obtain ⟨job, hjob, rfl, rfl⟩ := hserved.eq_of_finished hi
    have hstep : (jobs.map Prod.fst)[i]? = some job.1 := by simp [hjob]
    refine ⟨hstep, rfl, ?_⟩
    have hbefore : SerialAgent.total (jobs.take i) ≤ 10 := by
      have hsub : SerialAgent.Within (jobs.take i) := fun j hj =>
        hwithin j (List.mem_of_mem_take hj)
      have hlimits := SerialAgent.total_le_limits hsub
      rw [List.map_take] at hlimits
      exact hlimits.trans (h i job.1 hstep)
    have hown := (hwithin job (List.mem_of_getElem? hjob)).2
    rw [List.take_add_one, hjob, SerialAgent.total_append, hostDeadline]
    simp only [Option.toList_some, SerialAgent.total_cons, SerialAgent.total_nil]
    omega

/-- If the deadlines suffice for the longest tests, the waits are at most ten seconds. -/
theorem DeadlinesSuffice.waitsAtMostTen {steps : List WorkflowStep} (h : DeadlinesSuffice steps)
    (hlimits : ∀ d ∈ steps, 0 ≤ d.timeoutSec) : WaitsAtMostTen steps := by
  intro i d hd
  obtain ⟨⟨as, s, hrun, hs⟩, hall⟩ := h _ (fullJobs_fst steps) (fullJobs_within hlimits)
  obtain ⟨⟨d', finish⟩, hi, hfst⟩ : ∃ x, s.finished[i]? = some x ∧ x.1 = d := by
    rw [← hs, List.getElem?_map] at hd
    exact Option.map_eq_some_iff.1 hd
  obtain ⟨-, hfinish, hle⟩ := hall as s hrun i d' finish hi
  cases hfst
  rw [fullJobs, ← List.map_take, List.map_map, List.take_add_one, hd] at hfinish
  simp only [Option.toList_some, List.map_append, List.sum_append, List.map_cons, List.map_nil,
    List.sum_singleton, Function.comp_apply] at hfinish
  rw [hostDeadline] at hle
  change ((steps.take i).map (Prod.snd ∘ fun d : WorkflowStep => (d, d.timeoutSec))).sum ≤ 10
  omega

/-- **When the deadlines suffice.**  Unless some limit is negative, which no test stays within, it
is exactly when the limits of the steps before each step add up to at most ten seconds. -/
theorem deadlinesSuffice_iff (steps : List WorkflowStep) :
    DeadlinesSuffice steps ↔
      (∃ d ∈ steps, d.timeoutSec < 0) ∨ WaitsAtMostTen steps := by
  constructor
  · intro h
    by_cases hneg : ∃ d ∈ steps, d.timeoutSec < 0
    · exact Or.inl hneg
    · push Not at hneg
      exact Or.inr (h.waitsAtMostTen hneg)
  · rintro (⟨d, hd, hneg⟩ | hwaits)
    · rintro jobs rfl hwithin
      obtain ⟨job, hjob, rfl⟩ := List.mem_map.1 hd
      have := hwithin job hjob
      omega
    · exact hwaits.deadlinesSuffice

/-- A test of a suite file. -/
structure SuiteTest where
  binary : String
  timeoutSeconds : ℤ
  dependsOn : List String := []

/-- The step that `loadTestSuite` makes of a test. -/
def SuiteTest.toStep (t : SuiteTest) : WorkflowStep where
  id := t.binary
  testBinary := if t.binary.startsWith "/" then t.binary else "/mnt/share/dvf_tests/" ++ t.binary
  dependsOn := t.dependsOn
  timeoutSec := t.timeoutSeconds
  retryMax := 1

/-- The regression suite: six tests of at most a minute that do not depend on each other. -/
def regressionSteps : List WorkflowStep :=
  [⟨"read_write/test_register_rw", 60, []⟩, ⟨"read_write/test_offset_sweep", 60, []⟩,
    ⟨"data_integrity/test_patterns", 60, []⟩, ⟨"data_integrity/test_persistence", 60, []⟩,
    ⟨"error_injection/test_boundaries", 60, []⟩,
    ⟨"interrupt_handling/test_irq_basic", 60, []⟩].map SuiteTest.toStep

/-- **The regression suite can fail by its deadlines**: its steps are dispatched together, and if
each test takes forty seconds, within its limit of sixty, the second step is through ten seconds
after its deadline. -/
theorem regression_misses_deadline :
    (∃ w, newWorkflow storedOrders "regression" "run" regressionSteps = .ok w ∧
      w.ready.Perm (regressionSteps.map WorkflowStep.id)) ∧
    ∃ as s, Machine.run SerialAgent.step
        (SerialAgent.start (regressionSteps.map fun d => (d, 40))) as = some s ∧
      SerialAgent.Within (regressionSteps.map fun d => (d, 40)) ∧
      s.finished[1]?.map (fun x => (x.2, hostDeadline x.1)) = some (80, 70) := by
  constructor
  · obtain ⟨w, hw⟩ : ∃ w, newWorkflow storedOrders "regression" "run" regressionSteps = .ok w :=
      ⟨_, rfl⟩
    exact ⟨w, hw, (newWorkflow_fresh hw).ready_perm (by
      simp [regressionSteps, SuiteTest.toStep])⟩
  · have hwithin : SerialAgent.Within (regressionSteps.map fun d => (d, 40)) := by
      simp [SerialAgent.Within, regressionSteps, SuiteTest.toStep]
    obtain ⟨as, s, hrun, hs⟩ := SerialAgent.exists_run hwithin 0 []
    refine ⟨as, s, hrun, hwithin, ?_⟩
    rw [hs]
    rfl

end Dvf
