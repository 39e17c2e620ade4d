/-
**A `WAIT` that ends** (`GP_GPU_IOCTL_WAIT` and `gp_gpu_msix_handler` in
`src/gpgpu_pcie_ep_driver.c`).

A `WAIT` looks up the entry of a job and sleeps until the handler has marked it.  The sleep ends in
one of three ways: the entry is marked, the time is up, or a signal comes.  The call tells the
second from the others, but not the first from the third: after a signal it takes the entry of a job
that still runs from the list, frees it and returns 0.

Here the calls of `WAIT` run beside the calls of `SUBMIT`, the device and the handler of
`Dvf/GpuJobs.lean`.  A call holds a pointer to the entry it has found.  Nothing keeps another `WAIT`
from freeing the entry in the meantime; a use of the pointer after that ends the call in the model.

Main definitions:

* `Dvf.Gpu.WaitState`, `Dvf.Gpu.WaitState.step` — the calls of `WAIT` over the jobs;
* `Dvf.Gpu.WaitReturn.Truthful` — what the result of a call says is so;
* `Dvf.Gpu.WaitState.Allowed` — the condition on the steps of a call.

Main results:

* `Dvf.Gpu.WaitState.step_cases` — a return is truthful exactly when its step is allowed;
* `Dvf.Gpu.waits_exact` — **every return is truthful as long as the steps are allowed, and only
  so long**.
-/

import Dvf.GpuJobs

set_option autoImplicit false

namespace Dvf

namespace Gpu

/-! ### The source -/

/-- What `wait_event_interruptible_timeout` returns: a positive number, zero or a negative one. -/
inductive WaitOutcome
  | woken
  | timedOut
  | interrupted
  deriving DecidableEq, Repr

/-- How far a call of `WAIT` is: it has found the entry, it sleeps, it has returned. -/
inductive WaitPhase
  | found
  | asleep
  | returned
  deriving DecidableEq, Repr

/-- A call of `WAIT` with the entry it points to, given by the call of `SUBMIT` that made it. -/
structure WaitCall where
  entry : ℕ
  phase : WaitPhase := .found
  deriving DecidableEq, Repr

/-- The result of a call: 0, an error, or that of a call that has used a freed entry. -/
inductive WaitResult
  | ok
  | efault
  | einval
  | etimedout
  | dangling
  deriving DecidableEq, Repr

/-- The result with the entry that the call has found and `job_list` before and after its last
step. -/
structure WaitReturn where
  result : WaitResult
  job : Option JobEntry
  before : List JobEntry
  after : List JobEntry
  deriving DecidableEq, Repr

/-- The jobs, the calls of `WAIT` and what they have returned. -/
structure WaitState where
  jobs : JobState := {}
  waits : List WaitCall := []
  returns : List WaitReturn := []
  deriving DecidableEq, Repr

/-- The steps: one of the jobs; a call begins, where the copy of its argument may fail; a call looks
at the entry it has found; and the sleep of a call ends. -/
inductive WaitAct
  | job (a : JobAct)
  | call (jobID : UInt32) (copied : Bool)
  | test (w : ℕ)
  | wake (w : ℕ) (outcome : WaitOutcome)
  deriving DecidableEq, Repr

/-- The step that takes an entry from the list without a look at it. -/
def JobAct.isWait : JobAct → Bool
  | .wait _ => true
  | _ => false

namespace WaitState

def callAt (s : WaitState) (w : ℕ) (phase : WaitPhase) : Option WaitCall :=
  s.waits[w]?.filter fun c => c.phase = phase

def setWait (s : WaitState) (w : ℕ) (c : WaitCall) (phase : WaitPhase) : WaitState :=
  { s with waits := s.waits.set w { c with phase := phase } }

/-- A call returns and leaves `job_list` as given. -/
def ret (s : WaitState) (result : WaitResult) (job : Option JobEntry) (jobList : List JobEntry) :
    WaitState :=
  { s with
    jobs := { s.jobs with jobList := jobList }
    returns := s.returns ++
      [{ result := result, job := job, before := s.jobs.jobList, after := jobList }] }

/-- The entry that a call points to, as long as it is not freed. -/
def entryOf (s : WaitState) (c : WaitCall) : Option JobEntry :=
  s.jobs.jobList.find? fun e => e.call = c.entry

/-- The end of `WAIT`: `list_del`, `kfree` and 0. -/
def remove (s : WaitState) (e : JobEntry) : WaitState :=
  s.ret .ok (some e) (s.jobs.jobList.eraseP fun e' => e'.call = e.call)

/-- A call uses an entry that was freed. -/
def useFreed (s : WaitState) : WaitState := s.ret .dangling none s.jobs.jobList

/-- One step.  The coarse `JobAct.wait` is replaced by the steps of the calls. -/
def step (s : WaitState) : WaitAct → Option WaitState
  | .job a => if a.isWait then none else (s.jobs.step a).map fun jobs => { s with jobs := jobs }
  | .call jobID copied =>
      if copied then
        -- `find_job`
        some ((s.jobs.jobList.find? fun e => e.jobID = jobID).elim
          (s.ret .einval none s.jobs.jobList)
          fun e => { s with waits := s.waits ++ [{ entry := e.call }] })
      else some (s.ret .efault none s.jobs.jobList)
  | .test w =>
      (s.callAt w .found).map fun c =>
        (s.entryOf c).elim (s.useFreed.setWait w c .returned) fun e =>
          if e.done then (s.remove e).setWait w c .returned else s.setWait w c .asleep
  | .wake w outcome =>
      (s.callAt w .asleep).bind fun c =>
        (s.entryOf c).elim (some (s.useFreed.setWait w c .returned)) fun e =>
          match outcome with
          -- a positive result means that the condition was seen to hold
          | .woken => if e.done then some ((s.remove e).setWait w c .returned) else none
          | .timedOut =>
              some ((s.ret .etimedout (some e) s.jobs.jobList).setWait w c .returned)
          | .interrupted => some ((s.remove e).setWait w c .returned)

end WaitState

/-! ### The property and the condition -/

/-- What the result says is so: with 0 the entry was marked and is taken from the list; with an
error the list is as before, and the entry is on it if there was one. -/
def WaitReturn.Truthful (r : WaitReturn) : Prop :=
  (r.result = .ok ∧ ∃ e ∈ r.job, e.done = true ∧ e ∈ r.before ∧
    r.after = r.before.eraseP fun e' => e'.call = e.call) ∨
  ((r.result = .efault ∨ r.result = .einval ∨ r.result = .etimedout) ∧ r.after = r.before ∧
    ∀ e ∈ r.job, e ∈ r.after)

namespace WaitState

/-- A call has returned something that is not so. -/
def Untruthful (s : WaitState) : Prop := ∃ r ∈ s.returns, ¬ r.Truthful

/-- The condition: a call goes on only while its entry is on the list, and a signal ends a sleep
only when the entry is marked. -/
def Allowed (s : WaitState) : WaitAct → Prop
  | .test w => ∀ c ∈ s.waits[w]?, ∃ e, s.entryOf c = some e
  | .wake w outcome => ∀ c ∈ s.waits[w]?, ∃ e, s.entryOf c = some e ∧
      (outcome = .interrupted → e.done = true)
  | _ => True

/-! ### Returns -/

variable {s s' : WaitState} {a : WaitAct} {w : ℕ} {c : WaitCall} {e : JobEntry}

theorem callAt_eq_some_iff {phase : WaitPhase} :
    s.callAt w phase = some c ↔ s.waits[w]? = some c ∧ c.phase = phase := by
  rw [callAt, Option.filter_eq_some_iff, decide_eq_true_eq]

theorem truthful_error {result : WaitResult} {l : List JobEntry}
    (h : result = .efault ∨ result = .einval ∨ result = .etimedout) {job : Option JobEntry}
    (hjob : ∀ e ∈ job, e ∈ l) :
    WaitReturn.Truthful { result := result, job := job, before := l, after := l } :=
  .inr ⟨h, rfl, hjob⟩

theorem truthful_remove_iff (he : e ∈ s.jobs.jobList) :
    WaitReturn.Truthful
        { result := .ok, job := some e, before := s.jobs.jobList
          after := s.jobs.jobList.eraseP fun e' => e'.call = e.call } ↔ e.done = true := by
  constructor
  · rintro (⟨_, e', he', hdone, _⟩ | ⟨h | h | h, _⟩)
    · obtain rfl := Option.some.inj he'
      exact hdone
    · cases h
    · cases h
    · cases h
  · intro hdone
    exact .inl ⟨rfl, e, rfl, hdone, he, rfl⟩

theorem not_truthful_dangling (l : List JobEntry) :
    ¬ WaitReturn.Truthful { result := .dangling, job := none, before := l, after := l } := by
  rintro (⟨h, _⟩ | ⟨h | h | h, _⟩)
  · cases h
  · cases h
  · cases h
  · cases h

/-- **What a step returns**: nothing, and then it is allowed, or something that is truthful exactly
when the step is allowed. -/
theorem step_cases (h : s.step a = some s') :
    (s'.returns = s.returns ∧ s.Allowed a) ∨
      ∃ r, s'.returns = s.returns ++ [r] ∧ (r.Truthful ↔ s.Allowed a) := by
  cases a with
  | job a =>
      obtain ⟨_, h⟩ := Option.ite_none_left_eq_some.1 h
      obtain ⟨jobs, _, rfl⟩ := Option.map_eq_some_iff.1 h
      exact .inl ⟨rfl, trivial⟩
  | call jobID copied =>
      rw [step] at h
      cases copied with
      | false =>
          obtain rfl := Option.some.inj h
          exact .inr ⟨_, rfl, iff_of_true (truthful_error (.inl rfl) (by simp)) trivial⟩
      | true =>
          obtain rfl := Option.some.inj h
          cases hfind : s.jobs.jobList.find? fun e => e.jobID = jobID with
          | none =>
              exact .inr ⟨_, rfl, iff_of_true (truthful_error (.inr (.inl rfl)) (by simp)) trivial⟩
          | some e => exact .inl ⟨rfl, trivial⟩
  | test w =>
      obtain ⟨c, hc, rfl⟩ := Option.map_eq_some_iff.1 h
      obtain ⟨hw, _⟩ := callAt_eq_some_iff.1 hc
      cases he : s.entryOf c with
      | none =>
          refine .inr ⟨_, rfl, iff_of_false (not_truthful_dangling _) fun hallowed => ?_⟩
          obtain ⟨e, he'⟩ := hallowed c hw
          cases he.symm.trans he'
      | some e =>
          have hallowed : s.Allowed (.test w) := by
            intro c' hc'
            obtain rfl := Option.some.inj (hw.symm.trans hc')
            exact ⟨e, he⟩
          cases hdone : e.done with
          | false =>
              rw [Option.elim_some, if_neg (by simp [hdone])]
              exact .inl ⟨rfl, hallowed⟩
          | true =>
              rw [Option.elim_some, if_pos hdone]
              exact .inr ⟨_, rfl, iff_of_true
                ((truthful_remove_iff (List.mem_of_find?_eq_some he)).2 hdone) hallowed⟩
  | wake w outcome =>
      obtain ⟨c, hc, h⟩ := Option.bind_eq_some_iff.1 h
      obtain ⟨hw, _⟩ := callAt_eq_some_iff.1 hc
      cases he : s.entryOf c with
      | none =>
          rw [he, Option.elim_none] at h
          obtain rfl := Option.some.inj h
          refine .inr ⟨_, rfl, iff_of_false (not_truthful_dangling _) fun hallowed => ?_⟩
          obtain ⟨e, he', _⟩ := hallowed c hw
          cases he.symm.trans he'
      | some e =>
          have hmem : e ∈ s.jobs.jobList := List.mem_of_find?_eq_some he
          have hallowed : s.Allowed (.wake w outcome) ↔
              (outcome = .interrupted → e.done = true) := by
            constructor
            · intro hallowed
              obtain ⟨e', he', hdone⟩ := hallowed c hw
              obtain rfl := Option.some.inj (he.symm.trans he')
              exact hdone
            · intro hdone c' hc'
              obtain rfl := Option.some.inj (hw.symm.trans hc')
              exact ⟨e, he, hdone⟩
          rw [he, Option.elim_some] at h
          rw [hallowed]
          cases outcome with
          | woken =>
              obtain ⟨hdone, h⟩ := Option.ite_none_right_eq_some.1 h
              obtain rfl := Option.some.inj h
              exact .inr ⟨_, rfl, iff_of_true ((truthful_remove_iff hmem).2 hdone) fun _ => hdone⟩
          | timedOut =>
              obtain rfl := Option.some.inj h
              refine .inr ⟨_, rfl, iff_of_true (truthful_error (.inr (.inr rfl)) ?_) nofun⟩
              rintro _ ⟨⟩
              exact hmem
          | interrupted =>
              obtain rfl := Option.some.inj h
              refine .inr ⟨_, rfl, (truthful_remove_iff hmem).trans ?_⟩
              exact ⟨fun hdone _ => hdone, fun hdone => hdone rfl⟩

/-- **An allowed step keeps all returns truthful.** -/
theorem truthful_step (hI : ∀ r ∈ s.returns, r.Truthful) (hallowed : s.Allowed a)
    (h : s.step a = some s') : ∀ r ∈ s'.returns, r.Truthful := by
  obtain ⟨hsame, _⟩ | ⟨r, hnew, hr⟩ := step_cases h
  · rw [hsame]
    exact hI
  · rw [hnew, List.forall_mem_append, List.forall_mem_singleton]
    exact ⟨hI, hr.2 hallowed⟩

end WaitState

/-- **Every `WAIT` is truthful as long as the steps are allowed, and a step that is not makes one
untruthful**, whatever the register of the device holds at first. -/
theorem waits_exact (reg : UInt32) :
    Machine.ExactFor WaitState.step { jobs := { regJobID := reg } } WaitState.Allowed
      WaitState.Untruthful := by
  refine ⟨fun hobeys hrun => ?_, fun {_ s s' _} _ _ hstep hallowed => ⟨s', .refl s', ?_⟩⟩
  · rintro ⟨r, hr, hfalse⟩
    have hI := Machine.run_invariant (I := fun s : WaitState => ∀ r ∈ s.returns, r.Truthful)
      (fun _ _ _ hI hallowed hstep => WaitState.truthful_step hI hallowed hstep)
      (fun _ hr => absurd hr List.not_mem_nil) hobeys hrun
    exact hfalse (hI r hr)
  · obtain ⟨_, hyes⟩ | ⟨r, hnew, hr⟩ := WaitState.step_cases hstep
    · exact absurd hyes hallowed
    · refine ⟨r, ?_, fun htrue => hallowed (hr.1 htrue)⟩
      rw [hnew]
      exact List.mem_append_right _ List.mem_cons_self

/-- **A signal while the job runs**: the call returns 0, and the entry, which is not marked, is gone
from the list.  A second `WAIT` for the job fails. -/
theorem interrupted_wait_removes_running_job : ∃ s,
    Machine.run WaitState.step {}
      [.job .submit, .job (.readNext 0), .job (.storeNext 0), .job (.listAdd 0),
        .job (.writeJobID 0), .job (.writeStart 0), .call 1 true, .test 0, .wake 0 .interrupted,
        .call 1 true] = some s ∧
    s.jobs.jobList = [] ∧
    s.returns =
      [{ result := .ok, job := some { call := 0, jobID := 1, done := false }
         before := [{ call := 0, jobID := 1, done := false }], after := [] },
        { result := .einval, job := none, before := [], after := [] }] ∧
    s.Untruthful := by
  refine ⟨_, rfl, by decide, by decide, ?_⟩
  refine ⟨{ result := .ok, job := some { call := 0, jobID := 1, done := false }
            before := [{ call := 0, jobID := 1, done := false }], after := [] }, by decide, ?_⟩
  rintro (⟨_, e, he, hdone, _⟩ | ⟨h | h | h, _⟩)
  · obtain rfl := Option.some.inj he
    cases hdone
  · cases h
  · cases h
  · cases h

end Gpu

end Dvf
