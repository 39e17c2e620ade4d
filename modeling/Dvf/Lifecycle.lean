/-
**The lifecycle of test runs: submission, execution and cancellation over one store.**

Requests of the API (`SubmitTestRun` and `CancelTestRun` of `internal/api/grpc_server.go`), the
worker of the engine and the goroutines that execute runs share one store and one scheduler.  Each
of them makes its store calls one by one, and the calls of the others may come in between: a
cancellation reads the status and writes it in two calls, a submission creates the record and
queues the run in two steps, and an execution is a program in the sense of `Dvf/Prog.lean` of which
one call is performed at a time, with any answer.

The engine never looks at the stored status of a run.  So a cancellation is overwritten when the
engine still *holds* the run: when the run is about to be queued, queued, deferred, or executing
and not past its last status write.

Main definitions:

* `Dvf.statusProtocol` — a program writes the status of one run only, and nothing after it has given
  the run away;
* `Dvf.LifeState`, `Dvf.LifeAct`, `Dvf.LifeState.step` — the machine;
* `Dvf.LifeState.held` — the runs that the engine holds;
* `Dvf.LifeState.Careful` — a cancellation writes only when the engine does not hold the run and
  the run is not finished.

Main results:

* `Dvf.follows_executeTestRun` — `executeTestRun` follows the protocol, whatever it is answered;
* `Dvf.LifeState.Inv.step` — careful steps keep the invariant and every terminal status;
* `Dvf.terminal_final_of_careful` — **along careful runs terminal statuses are final, and a
  cancelled run is neither reported as passed or failed nor dispatched.**
-/

import Dvf.Engine
import Dvf.Machine
import Dvf.Scheduler

set_option autoImplicit false

namespace Dvf

open Go

/-! ### What an execution writes -/

/-- The calls by which an execution gives its run away: a terminal status, or a deferral. -/
def Call.releases : Call → Bool
  | .updateTestRunStatus _ st _ => st.isTerminal
  | .submitLater _ => true
  | _ => false

/-- **Holding a run**: until it gives the run away, a program may write the status of this run and
submit it again; afterwards it does neither.  The state says whether the run was given away. -/
def statusProtocol (id : String) : Protocol Call Call.Resp Bool where
  allowed released
    | .updateTestRunStatus id' _ _ => released = false ∧ id' = id
    | .submitLater run => released = false ∧ run.id = id
    | _ => True
  next released c _ := released || c.releases

section Follows

variable {e : EngineConfig} {run : TestRun} {device : DeviceEntry} {vm : VMInstance}
  {suite : TestSuite} {q : Bool}

theorem idle_of_not_releases {id : String} {c : Call}
    (hallowed : ∀ q, (statusProtocol id).allowed q c) (hreleases : c.releases = false) :
    (statusProtocol id).Idle c := by
  intro q
  refine ⟨hallowed q, fun _ => ?_⟩
  simp [statusProtocol, hreleases]

theorem follows_call_bind {α : Type} {c : Call} {f : c.Resp → EngineProg α}
    {post : α → Bool → Prop} (hallowed : ∀ q, (statusProtocol run.id).allowed q c)
    (hreleases : c.releases = false) (hf : ∀ r, (f r).Follows (statusProtocol run.id) post q) :
    (call c >>= f).Follows (statusProtocol run.id) post q :=
  (Prog.Calls.perform (idle_of_not_releases hallowed hreleases)).bind_follows hf

theorem follows_setStatus {st : TestRunStatus} {msg : String} :
    (setStatus run st msg).Follows (statusProtocol run.id) (fun _ q' => q' = st.isTerminal) false :=
  Prog.Follows.bind (Prog.Follows.perform ⟨rfl, rfl⟩) fun _ _ hq' => hq'

theorem idle_requirePassed {cmd : AgentCommand} {what : String} :
    (requirePassed vm cmd what).Calls (statusProtocol run.id).Idle :=
  calls_requirePassed (idle_of_not_releases (fun _ => trivial) rfl)

theorem idle_ifCoordinator {c : Call} (hallowed : ∀ q, (statusProtocol run.id).allowed q c)
    (hreleases : c.releases = false) :
    (ifCoordinator e c).Calls (statusProtocol run.id).Idle :=
  calls_ifCoordinator (idle_of_not_releases hallowed hreleases)

theorem follows_finish {st : TestRunStatus} {msg : String} {r : Except String Unit}
    (hst : st.isTerminal = true) :
    (setStatus run st msg >>= fun _ => (pure r : EngineProg (Except String Unit))).Follows
      (statusProtocol run.id) (fun _ q' => q' = true) false :=
  Prog.Follows.bind follows_setStatus fun _ _ hq' => hq'.trans hst

theorem follows_recordVerdict :
    (recordVerdict run).Follows (statusProtocol run.id) (fun _ q' => q' = true) false :=
  follows_call_bind (fun _ => trivial) rfl fun _ => follows_finish (isTerminal_verdict _)

theorem follows_runSuite :
    (runSuite run device vm suite).Follows (statusProtocol run.id) (fun _ q' => q' = true)
      false := by
  refine follows_call_bind (fun _ => trivial) rfl fun ret => ?_
  cases ret with
  | ok => exact follows_recordVerdict
  | failed f sk => exact follows_recordVerdict
  | error err => exact follows_finish rfl

theorem follows_verifyAndRun :
    (verifyAndRun run device vm suite).Follows (statusProtocol run.id) (fun _ q' => q' = true)
      false := by
  unfold verifyAndRun
  split
  · refine idle_requirePassed.bind_follows fun ans => ?_
    cases ans with
    | error err => exact follows_finish rfl
    | ok u => exact follows_runSuite
  · exact follows_runSuite

theorem follows_runTests (run : TestRun) :
    (runTests e run device vm suite).Follows (statusProtocol run.id) (fun _ q' => q' = true)
      false := by
  unfold runTests
  split
  · refine follows_call_bind (fun _ => trivial) rfl fun ans => ?_
    cases ans with
    | error err => exact follows_finish rfl
    | ok u =>
        refine idle_requirePassed.bind_follows fun ans => ?_
        cases ans with
        | error err => exact follows_finish rfl
        | ok u => exact follows_verifyAndRun
  · exact follows_recordVerdict

theorem idle_teardown : (teardown e vm).Calls (statusProtocol run.id).Idle := by
  refine calls_teardown ?_ ?_ ?_
  · exact idle_of_not_releases (fun _ => trivial) rfl
  · exact idle_of_not_releases (fun _ => trivial) rfl
  · exact idle_of_not_releases (fun _ => trivial) rfl

theorem follows_runOnVM :
    (runOnVM e run device suite).Follows (statusProtocol run.id) (fun _ q' => q' = true)
      false := by
  refine follows_call_bind (fun _ => trivial) rfl fun ans => ?_
  cases ans with
  | error err => exact follows_finish rfl
  | ok vm =>
      refine Prog.Calls.bind_follows (idle_ifCoordinator (fun _ => trivial) rfl) fun _ => ?_
      refine follows_call_bind (fun _ => trivial) rfl fun ans => ?_
      cases ans with
      | error err =>
          refine Prog.Calls.bind_follows (idle_ifCoordinator (fun _ => trivial) rfl) fun _ => ?_
          exact follows_call_bind (fun _ => trivial) rfl fun _ => follows_finish rfl
      | ok u =>
          -- the run is given away before the machine is torn down
          have htests : (runTests e { run with vmID := vm.id } device vm suite).Follows
              (statusProtocol run.id) (fun _ q' => q' = true) false :=
            follows_runTests { run with vmID := vm.id }
          exact htests.bind fun r q' hq' => idle_teardown.bind_follows fun _ => hq'

theorem follows_runWithBudget :
    (runWithBudget e run device suite).Follows (statusProtocol run.id) (fun _ q' => q' = true)
      false := by
  unfold runWithBudget
  cases e.allocator with
  | none => exact follows_runOnVM
  | some alloc =>
      refine follows_call_bind (fun _ => trivial) rfl fun acquired => ?_
      cases acquired with
      | true =>
          refine Prog.Follows.bind follows_runOnVM fun r q' hq' => ?_
          exact follows_call_bind (fun _ => trivial) rfl fun _ => hq'
      | false =>
          refine Prog.Follows.bind follows_setStatus fun _ q₁ hq₁ => ?_
          rw [hq₁]
          exact Prog.Follows.bind (Prog.Follows.perform ⟨rfl, rfl⟩) fun _ q₂ hq₂ => hq₂

/-- **An execution writes only the status of its own run, and nothing after it has given the run
away**, whatever its calls are answered. -/
theorem follows_executeTestRun (e : EngineConfig) (run : TestRun) :
    (executeTestRun e run).Follows (statusProtocol run.id) (fun _ _ => True) false := by
  refine Prog.Follows.bind (Prog.Follows.perform ⟨rfl, rfl⟩) fun ans q' hq' => ?_
  have hq' : q' = false := hq'
  rw [hq']
  cases ans with
  | error err => trivial
  | ok u =>
      refine follows_call_bind (fun _ => trivial) rfl fun ans => ?_
      cases ans with
      | error err => exact (follows_finish rfl).mono fun _ _ _ => trivial
      | ok device =>
          dsimp only
          split
          · refine follows_call_bind (fun _ => trivial) rfl fun ans => ?_
            cases ans with
            | error err => exact (follows_finish rfl).mono fun _ _ _ => trivial
            | ok suite => exact follows_runWithBudget.mono fun _ _ _ => trivial
          · exact (follows_finish rfl).mono fun _ _ _ => trivial

end Follows

/-! ### Requests -/

/-- A request to run a suite on a device. -/
structure SubmitRequest where
  deviceID : String
  testSuiteID : String
  priority : ℤ := 0
  tags : List String := []
  requestedBy : String := ""

/-- What `SubmitTestRun` checks before it creates a record. -/
def SubmitRequest.check (registry : List DeviceEntry) (req : SubmitRequest) : Except String Unit :=
  match findDevice registry req.deviceID with
  | .error err => .error ("device not found: " ++ err)
  | .ok _ => if req.testSuiteID = "" then .error "test_suite_id is required" else .ok ()

/-- The record that `SubmitTestRun` creates; the store fills in the id. -/
def SubmitRequest.toRun (req : SubmitRequest) : TestRun :=
  { id := "", deviceID := req.deviceID, testSuiteID := req.testSuiteID, priority := req.priority
    status := .pending, tags := req.tags, requestedBy := req.requestedBy }

/-- What `CancelTestRun` answers: an error, `Success = false` with a message, or
`Success = true`. -/
inductive CancelAnswer
  | invalidArgument (msg : String)
  | notFound (msg : String)
  | internal (msg : String)
  | refused (msg : String)
  | cancelled
  deriving DecidableEq, Repr

/-- The first half of `CancelTestRun`: it answers at once, or goes on to the write. -/
def cancelRead (store : Store) (id : String) : Option CancelAnswer :=
  if id = "" then some (.invalidArgument "id is required")
  else
    match store.getTestRun id with
    | .error err => some (.notFound ("test run not found: " ++ err))
    | .ok run =>
        if run.status ≠ .pending ∧ run.status ≠ .running ∧ run.status ≠ .queued then
          some (.refused ("cannot cancel test run in status " ++ run.status.toString))
        else none

/-! ### The machine -/

/-- What does not change: the engine, the device registry, and the kind of store. -/
structure LifeEnv where
  engine : EngineConfig
  registry : List DeviceEntry
  honoursCtx : Bool

/-- A goroutine that executes a run, with the rest of its program.  That the run has been given
away is recorded; no action reads it. -/
structure Thread where
  run : TestRun
  prog : EngineProg (Except String Unit)
  released : Bool := false

/-- The state: the store and the scheduler; the submissions that have created a record and not
queued it yet; the cancellations that have read and not written yet; the executions; the deferred
runs.  The last two fields record the answers to cancellations and the dispatches. -/
structure LifeState where
  store : Store
  scheduler : Scheduler
  submitting : List TestRun := []
  cancels : List String := []
  threads : List Thread := []
  deferred : List TestRun := []
  answers : List (String × CancelAnswer) := []
  dispatched : List String := []

/-- The actions.  A store call is made at some time and with some context; every other call of an
execution gets any answer. -/
inductive LifeAct
  | create (id : String) (now : ℤ) (req : SubmitRequest)
  | submit (i : ℕ)
  | next
  | exec (i : ℕ) (now : ℤ) (ctx : Option CtxErr) (ans : (c : Call) → c.Resp)
  | finish (i : ℕ)
  | resubmit (i : ℕ)
  | cancelRead (id : String)
  | cancelWrite (i : ℕ) (now : ℤ) (ctx : Option CtxErr)

namespace LifeState

/-- The answer to a call of an execution, and the state after it.  What a workflow leaves in the
results of its run is not tracked: the results are read back as any answer. -/
def perform (honoursCtx : Bool) (now : ℤ) (ctx : Option CtxErr) (ans : (c : Call) → c.Resp)
    (s : LifeState) : (c : Call) → c.Resp × LifeState
  | .updateTestRunStatus id st msg =>
      match Store.withCtx honoursCtx ctx (s.store.updateTestRunStatus now id st msg) with
      | .ok store => (.ok (), { s with store := store })
      | .error err => (.error err, s)
  | .submitLater run => ((), { s with deferred := s.deferred ++ [run] })
  | c => (ans c, s)

/-- **One action of the machine.** -/
def step (env : LifeEnv) (s : LifeState) : LifeAct → Option LifeState
  | .create id now req =>
      match req.check env.registry, s.store.status id with
      | .ok (), none =>
          let (run, store) := s.store.createTestRun id now req.toRun
          some { s with store := store, submitting := s.submitting ++ [run] }
      | _, _ => none
  | .submit i =>
      match s.submitting[i]? with
      | some run =>
          some { s with
            submitting := s.submitting.eraseIdx i
            scheduler := s.scheduler.enqueue run }
      | none => none
  | .next =>
      match s.scheduler.tryNext with
      | some (run, scheduler) =>
          some { s with
            scheduler := scheduler
            threads := s.threads ++ [{ run := run, prog := executeTestRun env.engine run }]
            dispatched := s.dispatched ++ [run.id] }
      | none => none
  | .exec i now ctx ans =>
      match s.threads[i]? with
      | some ⟨run, .call c k, released⟩ =>
          let (r, s') := s.perform env.honoursCtx now ctx ans c
          some { s' with threads := s.threads.set i ⟨run, k r, released || c.releases⟩ }
      | _ => none
  | .finish i =>
      match s.threads[i]? with
      | some ⟨_, .pure _, _⟩ =>
          some { s with threads := s.threads.eraseIdx i, scheduler := s.scheduler.release }
      | _ => none
  | .resubmit i =>
      match s.deferred[i]? with
      | some run =>
          some { s with
            deferred := s.deferred.eraseIdx i
            scheduler := s.scheduler.enqueue run }
      | none => none
  | .cancelRead id =>
      match Dvf.cancelRead s.store id with
      | some ans => some { s with answers := s.answers ++ [(id, ans)] }
      | none => some { s with cancels := s.cancels ++ [id] }
  | .cancelWrite i now ctx =>
      match s.cancels[i]? with
      | some id =>
          match Store.withCtx env.honoursCtx ctx
              (s.store.updateTestRunStatus now id .cancelled "cancelled by user") with
          | .ok store =>
              some { s with
                store := store
                cancels := s.cancels.eraseIdx i
                answers := s.answers ++ [(id, .cancelled)] }
          | .error err =>
              some { s with
                cancels := s.cancels.eraseIdx i
                answers := s.answers ++ [(id, .internal ("failed to cancel: " ++ err))] }
      | none => none

def start (store : Store) (maxConcurrent : ℤ) : LifeState where
  store := store
  scheduler := newScheduler maxConcurrent

/-! ### Holding runs -/

/-- The runs that are executing and not given away. -/
def executing (threads : List Thread) : List String :=
  (threads.filter fun t => !t.released).map fun t => t.run.id

/-- **The runs that the engine holds**: about to be queued, queued, deferred, or executing and not
given away. -/
def held (s : LifeState) : List String :=
  (s.submitting ++ s.scheduler.queue ++ s.deferred).map TestRun.id ++ executing s.threads

/-- `CancelTestRun` answered `Success = true` for this run. -/
def Acked (s : LifeState) (id : String) : Prop := (id, .cancelled) ∈ s.answers

/-- **Care with cancellations**: one that is about to write finds that the engine does not hold the
run, and that the run is not finished. -/
def Careful (s : LifeState) : LifeAct → Prop
  | .cancelWrite i _ _ =>
      ∀ id ∈ s.cancels[i]?, id ∉ s.held ∧ ∀ st ∈ s.store.status id, st.isTerminal = false
  | _ => True

instance (s : LifeState) : (a : LifeAct) → Decidable (s.Careful a)
  | .cancelWrite i _ _ => inferInstanceAs (Decidable
      (∀ id ∈ s.cancels[i]?, id ∉ s.held ∧ ∀ st ∈ s.store.status id, st.isTerminal = false))
  | .create .. | .submit _ | .next | .exec .. | .finish _ | .resubmit _ | .cancelRead _ =>
      isTrue trivial

/-- **The invariant**: every run is held at most once; held runs are not finished; a run whose
cancellation was acknowledged is not held, and stored as cancelled; and what is left of every
execution follows the protocol. -/
structure Inv (s : LifeState) : Prop where
  once : ∀ id, s.held.count id ≤ 1
  live : ∀ id ∈ s.held, ∃ st, s.store.status id = some st ∧ st.isTerminal = false
  acked : ∀ id, s.Acked id → id ∉ s.held ∧ s.store.status id = some .cancelled
  follows : ∀ t ∈ s.threads, t.prog.Follows (statusProtocol t.run.id) (fun _ _ => True) t.released

variable {env : LifeEnv} {s s' : LifeState}

/-! ### What the actions can do -/

theorem step_create {id : String} {now : ℤ} {req : SubmitRequest}
    (h : s.step env (.create id now req) = some s') :
    s.store.status id = none ∧ ∃ (run : TestRun) (hid : run.id = id), run.status = .pending ∧
      s' = { s with
        store := s.store.insertRun id run hid
        submitting := s.submitting ++ [run] } := by
  simp only [step] at h
  split at h
  · next hcheck hnone =>
      cases h
      exact ⟨hnone, _, rfl, rfl, rfl⟩
  · cases h

theorem step_submit {i : ℕ} (h : s.step env (.submit i) = some s') :
    ∃ l₁ run l₂, s.submitting = l₁ ++ run :: l₂ ∧
      s' = { s with submitting := l₁ ++ l₂, scheduler := s.scheduler.enqueue run } := by
  simp only [step] at h
  split at h
  · next run hrun =>
      obtain ⟨l₁, l₂, hsplit, herase, _⟩ := Machine.split_of_getElem? hrun
      cases h
      exact ⟨l₁, run, l₂, hsplit, by rw [herase]⟩
  · cases h

theorem step_resubmit {i : ℕ} (h : s.step env (.resubmit i) = some s') :
    ∃ l₁ run l₂, s.deferred = l₁ ++ run :: l₂ ∧
      s' = { s with deferred := l₁ ++ l₂, scheduler := s.scheduler.enqueue run } := by
  simp only [step] at h
  split at h
  · next run hrun =>
      obtain ⟨l₁, l₂, hsplit, herase, _⟩ := Machine.split_of_getElem? hrun
      cases h
      exact ⟨l₁, run, l₂, hsplit, by rw [herase]⟩
  · cases h

theorem step_next (h : s.step env .next = some s') :
    ∃ run scheduler, s.scheduler.queue = run :: scheduler.queue ∧
      s' = { s with
        scheduler := scheduler
        threads := s.threads ++ [{ run := run, prog := executeTestRun env.engine run }]
        dispatched := s.dispatched ++ [run.id] } := by
  simp only [step] at h
  split at h
  · next run scheduler hnext =>
      cases h
      exact ⟨run, scheduler, (Scheduler.tryNext_eq_some_iff.1 hnext).1, rfl⟩
  · cases h

theorem step_exec {i : ℕ} {now : ℤ} {ctx : Option CtxErr} {ans : (c : Call) → c.Resp}
    (h : s.step env (.exec i now ctx ans) = some s') :
    ∃ l₁ run c k released l₂, s.threads = l₁ ++ ⟨run, .call c k, released⟩ :: l₂ ∧
      s' = { (s.perform env.honoursCtx now ctx ans c).2 with
        threads := l₁ ++ ⟨run, k (s.perform env.honoursCtx now ctx ans c).1,
          released || c.releases⟩ :: l₂ } := by
  simp only [step] at h
  split at h
  · next run c k released ht =>
      obtain ⟨l₁, l₂, hsplit, _, hset⟩ := Machine.split_of_getElem? ht
      cases h
      exact ⟨l₁, run, c, k, released, l₂, hsplit, by rw [hset]⟩
  · cases h

theorem step_finish {i : ℕ} (h : s.step env (.finish i) = some s') :
    ∃ l₁ t l₂, s.threads = l₁ ++ t :: l₂ ∧
      s' = { s with threads := l₁ ++ l₂, scheduler := s.scheduler.release } := by
  simp only [step] at h
  split at h
  · next ht =>
      obtain ⟨l₁, l₂, hsplit, herase, _⟩ := Machine.split_of_getElem? ht
      cases h
      exact ⟨l₁, _, l₂, hsplit, by rw [herase]⟩
  · cases h

theorem step_cancelRead {id : String} (h : s.step env (.cancelRead id) = some s') :
    (∃ ans, ans ≠ .cancelled ∧ s' = { s with answers := s.answers ++ [(id, ans)] }) ∨
      s' = { s with cancels := s.cancels ++ [id] } := by
  simp only [step] at h
  split at h
  · next ans hans =>
      cases h
      refine Or.inl ⟨ans, ?_, rfl⟩
      rintro rfl
      unfold Dvf.cancelRead at hans
      split at hans
      · cases hans
      · split at hans
        · cases hans
        · split at hans <;> cases hans
  · cases h
    exact Or.inr rfl

theorem step_cancelWrite {i : ℕ} {now : ℤ} {ctx : Option CtxErr}
    (h : s.step env (.cancelWrite i now ctx) = some s') :
    ∃ id l, s.cancels[i]? = some id ∧
      ((∃ store msg, s.store.updateTestRunStatus now id .cancelled msg = .ok store ∧
          s' = { s with
            store := store
            cancels := l
            answers := s.answers ++ [(id, .cancelled)] }) ∨
        ∃ msg, s' = { s with cancels := l, answers := s.answers ++ [(id, .internal msg)] }) := by
  simp only [step] at h
  split at h
  · next id hid =>
      refine ⟨id, s.cancels.eraseIdx i, hid, ?_⟩
      split at h
      · next store hstore =>
          cases h
          exact Or.inl ⟨store, _, Store.ok_of_withCtx hstore, rfl⟩
      · cases h
        exact Or.inr ⟨_, rfl⟩
  · cases h

/-- A call of an execution writes a status, defers a run, or leaves the state alone. -/
theorem perform_cases (s : LifeState) (honoursCtx : Bool) (now : ℤ) (ctx : Option CtxErr)
    (ans : (c : Call) → c.Resp) (c : Call) :
    (∃ id st msg store, c = .updateTestRunStatus id st msg ∧
        s.store.updateTestRunStatus now id st msg = .ok store ∧
        (s.perform honoursCtx now ctx ans c).2 = { s with store := store }) ∨
      (∃ run, c = .submitLater run ∧
        (s.perform honoursCtx now ctx ans c).2 = { s with deferred := s.deferred ++ [run] }) ∨
      (s.perform honoursCtx now ctx ans c).2 = s := by
  cases c with
  | updateTestRunStatus id st msg =>
      simp only [perform]
      split
      · next store hstore =>
          exact Or.inl ⟨id, st, msg, store, rfl, Store.ok_of_withCtx hstore, rfl⟩
      · exact Or.inr (Or.inr rfl)
  | submitLater run => exact Or.inr (Or.inl ⟨run, rfl, rfl⟩)
  | _ => exact Or.inr (Or.inr rfl)

/-! ### The invariant -/

theorem count_held (s : LifeState) (id : String) :
    s.held.count id = (s.submitting.map TestRun.id).count id +
      (s.scheduler.queue.map TestRun.id).count id + (s.deferred.map TestRun.id).count id +
      (executing s.threads).count id := by
  simp [held, List.count_append]
  omega

theorem count_executing_append (l₁ l₂ : List Thread) (id : String) :
    (executing (l₁ ++ l₂)).count id = (executing l₁).count id + (executing l₂).count id := by
  simp [executing, List.count_append]

theorem count_executing_cons (t : Thread) (l : List Thread) (id : String) :
    (executing (t :: l)).count id =
      (if t.released = false ∧ t.run.id = id then 1 else 0) + (executing l).count id := by
  cases hr : t.released with
  | true => simp [executing, hr]
  | false => simp [executing, hr, List.count_cons, Nat.add_comm]

theorem mem_held_of_count_le (hheld : ∀ id, s'.held.count id ≤ s.held.count id) {id : String}
    (hid : id ∈ s'.held) : id ∈ s.held :=
  (List.subperm_ext_iff.2 fun k _ => hheld k).subset hid

/-- A step keeps the invariant if it touches only what is held. -/
theorem Inv.of_frame (h : Inv s) (hstore : s'.store = s.store)
    (hacked : ∀ id, s'.Acked id → s.Acked id) (hheld : ∀ id, s'.held.count id ≤ s.held.count id)
    (hthreads : ∀ t ∈ s'.threads,
      t.prog.Follows (statusProtocol t.run.id) (fun _ _ => True) t.released) : Inv s' where
  once id := (hheld id).trans (h.once id)
  live id hid := by
    rw [hstore]
    exact h.live id (mem_held_of_count_le hheld hid)
  acked id hid := by
    obtain ⟨hnot, hst⟩ := h.acked id (hacked id hid)
    exact ⟨fun hmem => hnot (mem_held_of_count_le hheld hmem), by rw [hstore, hst]⟩
  follows := hthreads

/-- **What a step keeps**: terminal statuses, acknowledgements, and the number of dispatches of
each run whose cancellation was acknowledged. -/
structure Keeps (s s' : LifeState) : Prop where
  terminal : ∀ id st, s.store.status id = some st → st.isTerminal = true →
    s'.store.status id = some st
  acked : ∀ id, s.Acked id → s'.Acked id
  dispatched : ∀ id, s.Acked id → s'.dispatched.count id = s.dispatched.count id

theorem Keeps.refl (s : LifeState) : Keeps s s := ⟨fun _ _ h _ => h, fun _ h => h, fun _ _ => rfl⟩

theorem Keeps.trans {s t u : LifeState} (h₁ : Keeps s t) (h₂ : Keeps t u) : Keeps s u where
  terminal id st hst hterm := h₂.terminal id st (h₁.terminal id st hst hterm) hterm
  acked id hid := h₂.acked id (h₁.acked id hid)
  dispatched id hid := (h₂.dispatched id (h₁.acked id hid)).trans (h₁.dispatched id hid)

theorem Keeps.of_frame (hstore : s'.store = s.store) (hanswers : s'.answers = s.answers)
    (hdispatched : s'.dispatched = s.dispatched) : Keeps s s' where
  terminal id st hst _ := by rw [hstore, hst]
  acked id hid := by rwa [Acked, hanswers]
  dispatched id _ := by rw [hdispatched]

theorem Inv.start (store : Store) (n : ℤ) : Inv (start store n) where
  once := by simp [held, executing, LifeState.start]
  live := by simp [held, executing, LifeState.start]
  acked := by simp [Acked, LifeState.start]
  follows := by simp [LifeState.start]

theorem mem_held_of_thread {t : Thread} (ht : t ∈ s.threads) (hr : t.released = false) :
    t.run.id ∈ s.held := by
  refine List.mem_append_right _ (List.mem_map.2 ⟨t, List.mem_filter.2 ⟨ht, ?_⟩, rfl⟩)
  simp [hr]

/-- **A status write of an execution** is on a run that it holds; a terminal one gives the run
away. -/
theorem Inv.exec_write {l₁ l₂ : List Thread} {run : TestRun} {id msg : String} {st : TestRunStatus}
    {k : (Call.updateTestRunStatus id st msg).Resp → EngineProg (Except String Unit)}
    {released : Bool} {now : ℤ} {store : Store} (h : Inv s)
    (hthreads : s.threads = l₁ ++ ⟨run, .call (.updateTestRunStatus id st msg) k, released⟩ :: l₂)
    (hup : s.store.updateTestRunStatus now id st msg = .ok store)
    (r : (Call.updateTestRunStatus id st msg).Resp)
    (hs' : s' = { s with
      store := store
      threads := l₁ ++ ⟨run, k r, released || st.isTerminal⟩ :: l₂ })
    (hfollows : ∀ t ∈ s'.threads,
      t.prog.Follows (statusProtocol t.run.id) (fun _ _ => True) t.released) :
    Inv s' ∧ Keeps s s' := by
  have hmem : (⟨run, .call (.updateTestRunStatus id st msg) k, released⟩ : Thread) ∈ s.threads := by
    rw [hthreads]
    simp
  obtain ⟨hallowed, _⟩ := h.follows _ hmem
  obtain ⟨hr, hid⟩ := hallowed
  simp only at hr hid
  subst hr hid
  have hheld : run.id ∈ s.held := mem_held_of_thread hmem rfl
  have hstatus := Store.status_update hup
  -- the write takes one holder of the run away if it is terminal, and none otherwise
  have hcount : ∀ k, s'.held.count k + (if st.isTerminal = true ∧ run.id = k then 1 else 0) =
      s.held.count k := by
    intro k
    rw [hs', count_held, count_held, hthreads]
    simp only [count_executing_append, count_executing_cons, Bool.false_or]
    by_cases hk : run.id = k
    · cases st.isTerminal
      · simp [hk]
      · simp [hk]
        omega
    · simp [hk]
  have hsub : ∀ k, s'.held.count k ≤ s.held.count k := fun k => by
    rw [← hcount k]
    exact Nat.le_add_right _ _
  have hne : ∀ k, k ≠ run.id → s'.store.status k = s.store.status k := by
    intro k hk
    rw [hs', hstatus, if_neg hk]
  refine ⟨⟨fun k => (hsub k).trans (h.once k), fun k hk => ?_, fun k hk => ?_, hfollows⟩, ?_⟩
  · by_cases hkr : k = run.id
    · subst hkr
      refine ⟨st, by rw [hs', hstatus, if_pos rfl], ?_⟩
      by_contra hterm
      have honce := h.once run.id
      have hpos := List.count_pos_iff.2 hk
      have heq := hcount run.id
      simp only [Bool.not_eq_false] at hterm
      simp only [hterm, and_self, if_true] at heq
      omega
    · rw [hne k hkr]
      exact h.live k (mem_held_of_count_le hsub hk)
  · have hack : s.Acked k := by
      rw [hs'] at hk
      exact hk
    obtain ⟨hnot, hst⟩ := h.acked k hack
    refine ⟨fun hmem' => hnot (mem_held_of_count_le hsub hmem'), ?_⟩
    rw [hne k fun heq => hnot (heq ▸ hheld), hst]
  · refine ⟨fun k st' hst' hterm => ?_, fun k hk => by rw [hs']; exact hk, fun k _ => by rw [hs']⟩
    have hkr : k ≠ run.id := by
      rintro rfl
      obtain ⟨st'', hst'', hlive⟩ := h.live run.id hheld
      rw [hst'] at hst''
      cases hst''
      rw [hterm] at hlive
      cases hlive
    rw [hne k hkr, hst']

/-- A step of an execution. -/
theorem Inv.exec {i : ℕ} {now : ℤ} {ctx : Option CtxErr} {ans : (c : Call) → c.Resp} (h : Inv s)
    (hs : s.step env (.exec i now ctx ans) = some s') : Inv s' ∧ Keeps s s' := by
  obtain ⟨l₁, run, c, k, released, l₂, hthreads, hs'⟩ := step_exec hs
  have hmem : (⟨run, .call c k, released⟩ : Thread) ∈ s.threads := by
    rw [hthreads]
    simp
  obtain ⟨hallowed, hk⟩ := h.follows _ hmem
  -- the other executions are untouched, and this one goes on along the protocol
  have hfollows : ∀ t ∈ s'.threads,
      t.prog.Follows (statusProtocol t.run.id) (fun _ _ => True) t.released := by
    intro t ht
    rw [hs'] at ht
    simp only [List.mem_append, List.mem_cons] at ht
    rcases ht with ht | rfl | ht
    · exact h.follows t (by rw [hthreads]; simp [ht])
    · exact hk _
    · exact h.follows t (by rw [hthreads]; simp [ht])
  rcases s.perform_cases env.honoursCtx now ctx ans c with
    ⟨id, st, msg, store, rfl, hup, hstate⟩ | ⟨run', rfl, hstate⟩ | hstate
  · rw [hstate] at hs'
    exact h.exec_write hthreads hup _ hs' hfollows
  · obtain ⟨hr, hid⟩ := hallowed
    simp only at hr hid
    subst hr
    rw [hstate] at hs'
    refine ⟨h.of_frame (by rw [hs']) (fun id hid => by rw [hs'] at hid; exact hid) (fun id => ?_)
      hfollows, Keeps.of_frame (by rw [hs']) (by rw [hs']) (by rw [hs'])⟩
    rw [hs', count_held, count_held, hthreads]
    simp only [count_executing_append, count_executing_cons, Call.releases, List.map_append,
      List.count_append, List.map_cons, List.map_nil, List.count_cons, List.count_nil, hid]
    by_cases hk : run.id = id
    · simp [hk]
      omega
    · simp [hk]
  · rw [hstate] at hs'
    refine ⟨h.of_frame (by rw [hs']) (fun id hid => by rw [hs'] at hid; exact hid) (fun id => ?_)
      hfollows, Keeps.of_frame (by rw [hs']) (by rw [hs']) (by rw [hs'])⟩
    rw [hs', count_held, count_held, hthreads]
    simp only [count_executing_append, count_executing_cons, Bool.or_eq_false_iff]
    -- giving the run away can only make it held less often
    have hle : (if (released = false ∧ c.releases = false) ∧ run.id = id then 1 else 0) ≤
        if released = false ∧ run.id = id then 1 else 0 := by
      split
      · next hcond => rw [if_pos ⟨hcond.1.1, hcond.2⟩]
      · exact Nat.zero_le _
    omega

/-- The record of a new run. -/
theorem Inv.create {id : String} {run : TestRun} (h : Inv s) (hnone : s.store.status id = none)
    (hid : run.id = id) (hpending : run.status = .pending) :
    Inv { s with
        store := s.store.insertRun id run hid
        submitting := s.submitting ++ [run] } ∧
      Keeps s { s with
        store := s.store.insertRun id run hid
        submitting := s.submitting ++ [run] } := by
  set s' : LifeState := { s with
    store := s.store.insertRun id run hid
    submitting := s.submitting ++ [run] } with hs'
  have hfresh : id ∉ s.held := by
    intro hmem
    obtain ⟨st, hst, _⟩ := h.live id hmem
    rw [hnone] at hst
    cases hst
  have hcount : ∀ k, s'.held.count k = s.held.count k + if id = k then 1 else 0 := by
    intro k
    rw [count_held, count_held, hs']
    simp [List.count_cons, hid]
    omega
  have hne : ∀ k, k ≠ id → s'.store.status k = s.store.status k := by
    intro k hk
    rw [hs', Store.status_insertRun, if_neg hk]
  have hmem : ∀ k ∈ s'.held, k = id ∨ k ∈ s.held := by
    intro k hk
    have hpos := List.count_pos_iff.2 hk
    rw [hcount k] at hpos
    by_cases hki : id = k
    · exact Or.inl hki.symm
    · rw [if_neg hki] at hpos
      exact Or.inr (List.count_pos_iff.1 hpos)
  have hne_of_some : ∀ k st, s.store.status k = some st → k ≠ id := by
    rintro k st hst rfl
    rw [hnone] at hst
    cases hst
  refine ⟨⟨fun k => ?_, fun k hk => ?_, fun k hk => ?_, h.follows⟩,
    ⟨fun k st hst _ => by rw [hne k (hne_of_some k st hst), hst], fun _ hk => hk, fun _ _ => rfl⟩⟩
  · rw [hcount k]
    split
    · next hki => rw [← hki, List.count_eq_zero.2 hfresh]
    · exact h.once k
  · rcases hmem k hk with rfl | hk
    · refine ⟨.pending, ?_, rfl⟩
      rw [hs', Store.status_insertRun, if_pos rfl, hpending]
    · obtain ⟨st, hst, hlive⟩ := h.live k hk
      exact ⟨st, by rw [hne k (hne_of_some k st hst), hst], hlive⟩
  · obtain ⟨hnot, hst⟩ := h.acked k hk
    have hki := hne_of_some k _ hst
    refine ⟨fun hk' => ?_, by rw [hne k hki, hst]⟩
    rcases hmem k hk' with rfl | hk'
    · exact hki rfl
    · exact hnot hk'

/-- The write of a cancellation, on a run that is not held and not finished. -/
theorem Inv.cancel_write {id msg : String} {now : ℤ} {store : Store} {l : List String} (h : Inv s)
    (hup : s.store.updateTestRunStatus now id .cancelled msg = .ok store) (hnot : id ∉ s.held)
    (hopen : ∀ st ∈ s.store.status id, st.isTerminal = false) :
    Inv { s with store := store, cancels := l, answers := s.answers ++ [(id, .cancelled)] } ∧
      Keeps s
        { s with store := store, cancels := l, answers := s.answers ++ [(id, .cancelled)] } := by
  have hstatus := Store.status_update hup
  refine ⟨⟨h.once, fun k hk => ?_, fun k hk => ?_, h.follows⟩,
    ⟨fun k st hst hterm => ?_, fun k hk => List.mem_append_left _ hk, fun _ _ => rfl⟩⟩
  · have hk : k ∈ s.held := hk
    have hki : k ≠ id := fun heq => hnot (heq ▸ hk)
    obtain ⟨st, hst, hlive⟩ := h.live k hk
    exact ⟨st, by rw [hstatus, if_neg hki, hst], hlive⟩
  · by_cases hki : k = id
    · subst hki
      exact ⟨hnot, by rw [hstatus, if_pos rfl]⟩
    · rcases List.mem_append.1 hk with hk | hk
      · obtain ⟨hnot', hst⟩ := h.acked k hk
        exact ⟨hnot', by rw [hstatus, if_neg hki, hst]⟩
      · cases List.mem_singleton.1 hk
        exact absurd rfl hki
  · have hki : k ≠ id := by
      rintro rfl
      rw [hopen st hst] at hterm
      cases hterm
    rw [hstatus, if_neg hki, hst]

/-- **Careful steps keep the invariant**, every terminal status and every acknowledgement, and
dispatch no run whose cancellation was acknowledged. -/
theorem Inv.step {a : LifeAct} (h : Inv s) (hc : s.Careful a) (hs : s.step env a = some s') :
    Inv s' ∧ Keeps s s' := by
  cases a with
  | create id now req =>
      obtain ⟨hnone, run, hid, hpending, rfl⟩ := step_create hs
      exact h.create hnone hid hpending
  | submit i =>
      obtain ⟨l₁, run, l₂, hsub, rfl⟩ := step_submit hs
      refine ⟨h.of_frame rfl (fun _ hid => hid) (fun id => ?_) h.follows,
        Keeps.of_frame rfl rfl rfl⟩
      rw [count_held, count_held, hsub]
      simp [List.count_append, List.count_cons]
      omega
  | next =>
      obtain ⟨run, scheduler, hqueue, rfl⟩ := step_next hs
      have hheld : run.id ∈ s.held := by
        refine List.mem_append_left _ (List.mem_map_of_mem ?_)
        simp [hqueue]
      refine ⟨h.of_frame rfl (fun _ hid => hid) (fun id => ?_) fun t ht => ?_,
        ⟨fun _ _ hst _ => hst, fun _ hid => hid, fun id hid => ?_⟩⟩
      · rw [count_held, count_held, hqueue]
        simp [List.count_cons, executing]
        omega
      · rcases List.mem_append.1 ht with ht | ht
        · exact h.follows t ht
        · rw [List.mem_singleton.1 ht]
          exact follows_executeTestRun env.engine run
      · have hne : run.id ≠ id := fun heq => (h.acked id hid).1 (heq ▸ hheld)
        simp [List.count_append, hne]
  | exec i now ctx ans => exact h.exec hs
  | finish i =>
      obtain ⟨l₁, t, l₂, hthreads, rfl⟩ := step_finish hs
      refine ⟨h.of_frame rfl (fun _ hid => hid) (fun id => ?_) fun t' ht' => ?_,
        Keeps.of_frame rfl rfl rfl⟩
      · rw [count_held, count_held, hthreads]
        simp only [count_executing_append, count_executing_cons, Scheduler.queue_release]
        omega
      · refine h.follows t' ?_
        rw [hthreads]
        rcases List.mem_append.1 ht' with ht' | ht'
        · simp [ht']
        · simp [ht']
  | resubmit i =>
      obtain ⟨l₁, run, l₂, hdef, rfl⟩ := step_resubmit hs
      refine ⟨h.of_frame rfl (fun _ hid => hid) (fun id => ?_) h.follows,
        Keeps.of_frame rfl rfl rfl⟩
      rw [count_held, count_held, hdef]
      simp [List.count_append, List.count_cons]
      omega
  | cancelRead id =>
      rcases step_cancelRead hs with ⟨ans, hans, rfl⟩ | rfl
      · refine ⟨h.of_frame rfl (fun k hk => ?_) (fun _ => le_rfl) h.follows,
          ⟨fun _ _ hst _ => hst, fun k hk => List.mem_append_left _ hk, fun _ _ => rfl⟩⟩
        rcases List.mem_append.1 hk with hk | hk
        · exact hk
        · cases List.mem_singleton.1 hk
          exact absurd rfl hans
      · exact ⟨h.of_frame rfl (fun _ hk => hk) (fun _ => le_rfl) h.follows,
          Keeps.of_frame rfl rfl rfl⟩
  | cancelWrite i now ctx =>
      obtain ⟨id, l, hid, ⟨store, msg, hup, rfl⟩ | ⟨msg, rfl⟩⟩ := step_cancelWrite hs
      · exact h.cancel_write hup (hc id hid).1 (hc id hid).2
      · refine ⟨h.of_frame rfl (fun k hk => ?_) (fun _ => le_rfl) h.follows,
          ⟨fun _ _ hst _ => hst, fun k hk => List.mem_append_left _ hk, fun _ _ => rfl⟩⟩
        rcases List.mem_append.1 hk with hk | hk
        · exact hk
        · cases List.mem_singleton.1 hk

/-- **Careful runs** keep all that careful steps keep. -/
theorem Inv.of_run {as : List LifeAct} {t : LifeState} (h : Inv s)
    (hc : Machine.Obeys (LifeState.step env) Careful s as)
    (hrun : Machine.run (LifeState.step env) s as = some t) : Inv t ∧ Keeps s t := by
  refine Machine.run_invariant (I := fun t => Inv t ∧ Keeps s t) ?_ ⟨h, Keeps.refl s⟩ hc hrun
  rintro u a u' ⟨hI, hK⟩ hca hua
  obtain ⟨hI', hK'⟩ := hI.step hca hua
  exact ⟨hI', hK.trans hK'⟩

end LifeState

/-! ### Terminal statuses are final -/

/-- **Along careful runs terminal statuses are final.**  Take any interleaving of submissions,
cancellations, dispatches, executions and deferrals that leads from a store with nothing going on to
`s` and further to `t`, in which a cancellation writes only when the engine does not hold the run
and the run is not finished.  A terminal status in `s` is the status in `t`; a run whose
cancellation was acknowledged is not reported as passed or failed; and no run whose cancellation was
acknowledged in `s` is dispatched on the way to `t`. -/
theorem terminal_final_of_careful {env : LifeEnv} {store : Store} {n : ℤ} {as bs : List LifeAct}
    {s t : LifeState}
    (h₁ : Machine.run (LifeState.step env) (LifeState.start store n) as = some s)
    (h₂ : Machine.run (LifeState.step env) s bs = some t)
    (hc₁ : Machine.Obeys (LifeState.step env) LifeState.Careful (LifeState.start store n) as)
    (hc₂ : Machine.Obeys (LifeState.step env) LifeState.Careful s bs) :
    (∀ id st, s.store.status id = some st → st.isTerminal = true →
        t.store.status id = some st) ∧
      (∀ id, t.Acked id → t.store.status id ≠ some .passed ∧ t.store.status id ≠ some .failed) ∧
      ∀ id, s.Acked id → t.dispatched.count id = s.dispatched.count id := by
  obtain ⟨hI, _⟩ := (LifeState.Inv.start store n).of_run hc₁ h₁
  obtain ⟨hI', hK⟩ := hI.of_run hc₂ h₂
  refine ⟨hK.terminal, fun id hid => ?_, hK.dispatched⟩
  rw [(hI'.acked id hid).2]
  simp

/-- An engine without allocator and coordinator, and one device. -/
def plainEnv : LifeEnv := ⟨⟨none, false⟩, [{ id := "dev" }], true⟩

/-- Answers with which every call succeeds. -/
def goodAnswers : (c : Call) → c.Resp
  | .updateTestRunStatus .. => Except.ok ()
  | .getTestResults _ => Except.ok []
  | .findDevice _ => Except.ok { id := "dev" }
  | .loadTestSuite .. => Except.ok { id := "suite", steps := [] }
  | .tryAcquire _ => true
  | .release _ => ()
  | .submitLater _ => ()
  | .createVM _ => Except.ok { id := "vm", status := .creating }
  | .startVM _ => Except.ok ()
  | .stopVM .. => Except.ok ()
  | .destroyVM .. => Except.ok ()
  | .registerVM _ => ()
  | .unregisterVM _ => ()
  | .waitForAgent _ => Except.ok ()
  | .sendCommand .. => Except.ok { status := "passed" }
  | .runWorkflow .. => WorkflowReturn.ok

/-- A run is submitted and dispatched, its execution fails at the first write because the context of
the engine is done, and then the run is cancelled. -/
def orphanActs : List LifeAct :=
  [.create "run" 0 ⟨"dev", "suite", 0, [], ""⟩, .submit 0, .next,
    .exec 0 1 (some .canceled) goodAnswers, .finish 0, .cancelRead "run", .cancelWrite 0 2 none]

/-- The cancellation of a run that the engine has dropped is final: a second request is refused. -/
theorem terminal_final_orphan :
    ∃ s t, Machine.run (LifeState.step plainEnv) (LifeState.start newMemoryStore 1) orphanActs =
        some s ∧
      Machine.run (LifeState.step plainEnv) s [.cancelRead "run"] = some t ∧
      s.store.status "run" = some .cancelled ∧ t.store.status "run" = some .cancelled := by
  have hs : ((Machine.run (LifeState.step plainEnv) (LifeState.start newMemoryStore 1)
      orphanActs).bind fun s =>
      (Machine.run (LifeState.step plainEnv) s [.cancelRead "run"]).map fun _ =>
        s.store.status "run") = some (some .cancelled) := by decide
  obtain ⟨s, h₁, hs⟩ := Option.bind_eq_some_iff.1 hs
  obtain ⟨t, h₂, hst⟩ := Option.map_eq_some_iff.1 hs
  have hc₁ : Machine.Obeys (LifeState.step plainEnv) LifeState.Careful
      (LifeState.start newMemoryStore 1) orphanActs := by decide
  exact ⟨s, t, h₁, h₂, hst, (terminal_final_of_careful h₁ h₂ hc₁ ⟨trivial, fun _ _ => trivial⟩).1
    "run" .cancelled hst rfl⟩

/-- **A cancelled run is executed and passes**: the run is cancelled while it is queued, the request
is answered with `Success = true`, and then the worker takes the run from the queue and the engine
overwrites the status. -/
theorem cancelled_run_passes :
    ((Machine.run (LifeState.step plainEnv) (LifeState.start newMemoryStore 1)
        [.create "run" 0 ⟨"dev", "suite", 0, [], ""⟩, .submit 0, .cancelRead "run",
          .cancelWrite 0 1 none]).map fun s =>
      (s.store.status "run", s.answers, s.scheduler.queue.map TestRun.id)) =
        some (some .cancelled, [("run", .cancelled)], ["run"]) ∧
    ((Machine.run (LifeState.step plainEnv) (LifeState.start newMemoryStore 1)
        ([.create "run" 0 ⟨"dev", "suite", 0, [], ""⟩, .submit 0, .cancelRead "run",
          .cancelWrite 0 1 none, .next] ++
            List.replicate 7 (.exec 0 2 none goodAnswers))).map fun s =>
      (s.store.status "run", s.answers, s.dispatched)) =
        some (some .passed, [("run", .cancelled)], ["run"]) := by
  decide

end Dvf
