/-
**The last status of a virtual machine** (`internal/core/execution_engine.go`,
`internal/vm/manager.go`, `internal/api/agent_server.go`).

A run creates its machine, announces it to the coordinator, starts it, and at the end takes the
announcement back, stops the machine and destroys it; `DESTROYED` is the last status that it writes.
At the same time the agent of the machine may register, any number of times.  `RegisterAgent` asks
the coordinator whether the machine is announced and then, in a second step, writes `READY`.
Between the two the run may take the announcement back and get as far as it likes, so the `READY`
may come after the `DESTROYED`, and then it stays.

The condition is on one step of the run: the announcement is taken back while no registration is
between its two steps.  `Dvf.Teardown.destroyed_final_exact` shows that it is exact: in runs that
obey it `DESTROYED` is final, and after a step that breaks it `DESTROYED` can be overwritten.

Main definitions:

* `Dvf.Teardown.RunCall`, `Dvf.Teardown.runVM` — the calls of a run about its machine, and the run;
* `Dvf.Teardown.World`, `Dvf.Teardown.State`, `Dvf.Teardown.Act`, `Dvf.Teardown.step` — the run and
  the registrations at the same time;
* `Dvf.Teardown.runProtocol`, `Dvf.Teardown.agentProtocol` — what the two write, and when;
* `Dvf.Teardown.Settled` — the condition.

Main results:

* `Dvf.Teardown.follows_runVM`, `Dvf.Teardown.follows_registerAgent` — the programs follow the
  protocols;
* `Dvf.Teardown.Inv.step`, `Dvf.Teardown.Clean.step` — what every step keeps, and what a step that
  meets the condition keeps;
* `Dvf.Teardown.exists_destroyed` — a run that has taken its announcement back can get to the end;
* `Dvf.Teardown.destroyed_final_exact` — **when `DESTROYED` is final**.
-/

import Dvf.VMOrphans

set_option autoImplicit false

namespace Dvf.Teardown

open Go

/-! ### The run -/

/-- The calls of a run about its machine: those of the manager, and the announcement. -/
inductive RunCall
  | vm (c : VMCall)
  | registerVM (vmID : String)
  | unregisterVM (vmID : String)

/-- The answer to a call. -/
def RunCall.Resp : RunCall → Type
  | .vm c => c.Resp
  | .registerVM _ => Unit
  | .unregisterVM _ => Unit

abbrev RunProg := Prog RunCall RunCall.Resp

def runCall (c : RunCall) : RunProg c.Resp := Prog.perform c

/-- An operation of the manager as a part of a run. -/
def manager {α : Type} (p : VMProg α) : RunProg α := Prog.embed RunCall.vm p

/-- The end of a run whose machine could not be started. -/
def afterFailedStart (vmID : String) : RunProg Unit := do
  let _ ← runCall (.unregisterVM vmID)
  let _ ← manager (destroyVM vmID)
  return ()

/-- The end of a run. -/
def tearDown (vmID : String) : RunProg Unit := do
  let _ ← runCall (.unregisterVM vmID)
  let _ ← manager (stopVM vmID)
  let _ ← manager (destroyVM vmID)
  return ()

/-- What `executeTestRun` does with its machine.  The tests, between the start and the end, leave
the record alone. -/
def runVM (qCfg : QEMUConfig) (vmCfg : VMConfig) : RunProg Unit := do
  match ← manager (createVM qCfg vmCfg) with
  | .error _ => return ()
  | .ok vm => do
      let _ ← runCall (.registerVM vm.id)
      match ← manager (startVM qCfg vm.id) with
      | .error _ => afterFailedStart vm.id
      | .ok _ => tearDown vm.id

/-! ### The run and the registrations at the same time -/

/-- The host, and the machines that are announced to the coordinator. -/
structure World where
  host : VMHost
  agents : List String := []

/-- The status of a machine in the store. -/
def World.status (w : World) (id : String) : Option VMStatus := w.host.store.vmStatus id

/-- The answer to a call of the manager or of the agent server.  `NotifyAgentReady` succeeds if the
machine is announced. -/
def World.answerVM (w : World) : (c : VMCall) → VMOutcome → Option (c.Resp × World)
  | .notifyAgentReady vmID _, _ =>
      if vmID ∈ w.agents then some (.ok (), w)
      else some (.error ("no agent state for VM " ++ vmID), w)
  | c, o => (w.host.answer c o).map fun x => (x.1, { w with host := x.2 })

/-- The answer to a call of the run. -/
def World.answer (w : World) : (c : RunCall) → VMOutcome → Option (c.Resp × World)
  | .vm c, o => w.answerVM c o
  | .registerVM vmID, _ => some ((), { w with agents := vmID :: w.agents.filter (· ≠ vmID) })
  | .unregisterVM vmID, _ => some ((), { w with agents := w.agents.filter (· ≠ vmID) })

def World.exit (w : World) (pid : ℤ) : World :=
  { w with host := { w.host with processes := w.host.processes.filter (·.2 ≠ pid) } }

/-- How far the run has got: it has the id of its machine, the record is saved, the machine is
announced, it is no longer, `DESTROYED` is stored; or the run has given up. -/
inductive Phase
  | fresh
  | named (id : String)
  | created (id : String)
  | up (id : String)
  | down (id : String)
  | gone (id : String)
  | givenUp
  deriving DecidableEq, Repr

/-- How far a registration has got: it has not asked the coordinator, it will write `READY`, or it
has ended. -/
inductive AgentPhase
  | asking
  | pending (id : String)
  | ended
  deriving DecidableEq, Repr

/-- A call that neither concerns the records of the machines nor the coordinator. -/
def quiet : VMCall → Bool
  | .nextID | .saveVM _ | .updateVMStatus _ _ | .notifyAgentReady _ _ => false
  | _ => true

/-- What a run may do in each phase. -/
def runAllowed : Phase → RunCall → Prop
  | .fresh, .vm c => c = .nextID
  | .named id, .vm c => ∃ vm, c = .saveVM vm ∧ vm.id = id ∧ vm.status = .creating
  | .created id, .registerVM id' => id' = id
  | .up id, .unregisterVM id' => id' = id
  | .up id, .vm c => quiet c = true ∨ ∃ st, c = .updateVMStatus id st ∧ st ≠ .destroyed
  | .down id, .vm c => quiet c = true ∨ ∃ st, c = .updateVMStatus id st
  | .gone _, .vm c => quiet c = true
  | .givenUp, .vm c => quiet c = true
  | _, _ => False

/-- The phase after an answer. -/
def runNext : Phase → (c : RunCall) → c.Resp → Phase
  | .fresh, .vm .nextID, id => .named id
  | .named id, .vm (.saveVM _), .ok _ => .created id
  | .named _, .vm (.saveVM _), .error _ => .givenUp
  | .created id, .registerVM _, _ => .up id
  | .up id, .unregisterVM _, _ => .down id
  | .down id, .vm (.updateVMStatus _ .destroyed), .ok _ => .gone id
  | .down _, .vm (.updateVMStatus _ .destroyed), .error _ => .givenUp
  | q, _, _ => q

/-- **The protocol of a run**: `DESTROYED` is written after the announcement was taken back, and
nothing is written after it. -/
def runProtocol : Protocol RunCall RunCall.Resp Phase := ⟨runAllowed, runNext⟩

/-- **The protocol of a registration**: `READY` is written after the coordinator has agreed. -/
def agentProtocol : Protocol VMCall VMCall.Resp AgentPhase where
  allowed
    | .asking, .notifyAgentReady _ _ => True
    | .pending id, .updateVMStatus id' st => id' = id ∧ st = .ready
    | _, _ => False
  next
    | .asking, .notifyAgentReady id _, .ok _ => .pending id
    | .asking, .notifyAgentReady _ _, .error _ => .ended
    | .pending _, .updateVMStatus _ _, _ => .ended
    | q, _, _ => q

abbrev AgentThread := Prog.Thread VMCall VMCall.Resp (Except String String) AgentPhase

/-- The world, the run, and the registrations under way. -/
structure State where
  world : World
  run : Prog.Thread RunCall RunCall.Resp Unit Phase
  agents : List AgentThread := []

/-- An agent registers, one of the registrations makes its next call, the run does, or a process
ends by itself. -/
inductive Act
  | registerAgent (vmID : String)
  | advanceAgent (k : ℕ) (o : VMOutcome)
  | advanceRun (o : VMOutcome)
  | exit (pid : ℤ)

/-- The next call of the run. -/
def State.advanceRun (s : State) (o : VMOutcome) : Option State :=
  match s.run with
  | ⟨.pure _, _⟩ => none
  | ⟨.call c f, q⟩ =>
      (s.world.answer c o).map fun x => { s with world := x.2, run := ⟨f x.1, runNext q c x.1⟩ }

/-- **One action.** -/
def step (s : State) : Act → Option State
  | .registerAgent vmID => some { s with agents := s.agents ++ [⟨registerAgent vmID, .asking⟩] }
  | .advanceAgent k o =>
      (Prog.Thread.advance agentProtocol World.answerVM s.world s.agents k o).map fun x =>
        { s with world := x.1, agents := x.2 }
  | .advanceRun o => s.advanceRun o
  | .exit pid => some { s with world := s.world.exit pid }

/-- The start of a run, with an empty store. -/
def start (qCfg : QEMUConfig) (vmCfg : VMConfig) : State where
  world := { host := { store := newMemoryStore } }
  run := ⟨runVM qCfg vmCfg, .fresh⟩

/-- The machine whose announcement the run takes back with its next call. -/
def State.takesBack (s : State) : Option String :=
  match s.run.prog with
  | .call (.unregisterVM id) _ => some id
  | _ => none

/-- **The condition**: the run takes the announcement back while no registration of the machine is
between the answer of the coordinator and its write. -/
def Settled (s : State) : Act → Prop
  | .advanceRun _ => ∀ id ∈ s.takesBack, ∀ th ∈ s.agents, th.state ≠ .pending id
  | _ => True

instance (s : State) : ∀ a, Decidable (Settled s a)
  | .advanceRun _ =>
      inferInstanceAs (Decidable (∀ id ∈ s.takesBack, ∀ th ∈ s.agents, th.state ≠ .pending id))
  | .registerAgent _ => isTrue trivial
  | .advanceAgent _ _ => isTrue trivial
  | .exit _ => isTrue trivial

/-! ### The programs follow the protocols -/

/-- The protocol of a run for the calls of the manager. -/
def managerProtocol : Protocol VMCall VMCall.Resp Phase :=
  ⟨fun q c => runAllowed q (.vm c), fun q c r => runNext q (.vm c) r⟩

def atPhase {α : Type} (q : Phase) : α → Phase → Prop := fun _ q' => q' = q

theorem follows_manager {α : Type} {p : VMProg α} {post : α → Phase → Prop} {q : Phase}
    (h : p.Follows managerProtocol post q) : (manager p).Follows runProtocol post q :=
  Prog.Follows.embed h

section Follows

variable {α β : Type} {id : String} {q : Phase}

theorem follows_setVMStatus_bind {st : VMStatus} {f : PUnit → VMProg β} {post : β → Phase → Prop}
    (hc : runAllowed q (.vm (.updateVMStatus id st)))
    (hf : ∀ r, (f ⟨⟩).Follows managerProtocol post (runNext q (.vm (.updateVMStatus id st)) r)) :
    (setVMStatus id st >>= f).Follows managerProtocol post q :=
  ⟨hc, hf⟩

theorem follows_createVM (qCfg : QEMUConfig) (vmCfg : VMConfig) :
    (createVM qCfg vmCfg).Follows managerProtocol
      (fun r q => (∃ e, r = .error e ∧ q = .givenUp) ∨ ∃ vm, r = .ok vm ∧ q = .created vm.id)
      .fresh := by
  refine Prog.Follows.perform_bind rfl fun vmID => ?_
  refine Prog.Follows.perform_bind ⟨_, rfl, rfl, rfl⟩ fun r => ?_
  cases r with
  | error err => exact Or.inl ⟨_, rfl, rfl⟩
  | ok _ => exact Or.inr ⟨_, rfl, rfl⟩

/-- **Starting and stopping** a machine is allowed before and after the announcement is taken back,
and does not end either phase. -/
theorem follows_of_isWork {p : VMProg α} (h : p.Calls (VMCall.IsWork id))
    (hq : q = .up id ∨ q = .down id) : p.Follows managerProtocol (atPhase q) q := by
  have hcall : ∀ c, VMCall.IsWork id c →
      runAllowed q (.vm c) ∧ ∀ r, runNext q (.vm c) r = q := by
    intro c hc
    rcases hq with rfl | rfl
    · cases c with
      | nextID => cases hc
      | saveVM vm => cases hc
      | notifyAgentReady vmID agentID => cases hc
      | updateVMStatus id' st =>
          obtain ⟨rfl, hst⟩ := hc
          exact ⟨Or.inr ⟨st, rfl, hst⟩, fun _ => rfl⟩
      | _ => exact ⟨Or.inl rfl, fun _ => rfl⟩
    · cases c with
      | nextID => cases hc
      | saveVM vm => cases hc
      | notifyAgentReady vmID agentID => cases hc
      | updateVMStatus id' st =>
          obtain ⟨rfl, hst⟩ := hc
          refine ⟨Or.inr ⟨st, rfl⟩, fun _ => ?_⟩
          cases st with
          | destroyed => exact absurd rfl hst
          | _ => rfl
      | _ => exact ⟨Or.inl rfl, fun _ => rfl⟩
  refine h.follows (· = q) ?_ ?_ rfl
  · rintro _ c rfl hc
    exact (hcall c hc).1
  · rintro _ c r rfl hc
    exact (hcall c hc).2 r

/-- The run is not on its way to `DESTROYED`. -/
def ended {α : Type} : α → Phase → Prop := fun _ q => ∀ id, q ≠ .down id

theorem follows_clearVM : (clearVM id).Follows managerProtocol ended (.down id) := by
  refine clearVM_follows (· = .down id) rfl ?_ ?_ ?_
  · rintro _ rfl
    exact ⟨Or.inl rfl, fun _ => rfl⟩
  · rintro _ path rfl
    exact ⟨Or.inl rfl, fun _ => rfl⟩
  · rintro _ rfl
    refine follows_setVMStatus_bind (Or.inr ⟨_, rfl⟩) fun r => ?_
    cases r with
    | ok _ => exact Prog.Follows.perform_bind rfl fun _ => by rintro id' ⟨⟩
    | error err => exact Prog.Follows.perform_bind rfl fun _ => by rintro id' ⟨⟩

theorem follows_destroyVM : (destroyVM id).Follows managerProtocol ended (.down id) := by
  refine Prog.Follows.perform_bind (Or.inl rfl) fun r => ?_
  cases r with
  | none => exact follows_clearVM
  | some pid =>
      refine Prog.Follows.bind (follows_of_isWork (calls_stopVM id) (Or.inr rfl)) fun _ q hq => ?_
      obtain rfl : q = .down id := hq
      exact follows_clearVM

/-- **A run follows its protocol**, and once it has taken the announcement back it does not end
before it has written `DESTROYED`. -/
theorem follows_runVM (qCfg : QEMUConfig) (vmCfg : VMConfig) :
    (runVM qCfg vmCfg).Follows runProtocol ended .fresh := by
  have hdestroy : ∀ id, (manager (destroyVM id) >>= fun _ => return ()).Follows runProtocol ended
      (.down id) := fun id =>
    Prog.Follows.bind (follows_manager follows_destroyVM) fun _ _ hq => hq
  refine Prog.Follows.bind (follows_manager (follows_createVM qCfg vmCfg)) ?_
  rintro r q (⟨e, rfl, rfl⟩ | ⟨vm, rfl, rfl⟩)
  · rintro id ⟨⟩
  · refine Prog.Follows.perform_bind rfl fun _ => ?_
    have hstart := follows_of_isWork (calls_startVM qCfg vm.id) (Or.inl rfl)
    refine Prog.Follows.bind (follows_manager hstart) fun r q hq => ?_
    obtain rfl : q = .up vm.id := hq
    cases r with
    | error err => exact Prog.Follows.perform_bind rfl fun _ => hdestroy vm.id
    | ok _ =>
        refine Prog.Follows.perform_bind rfl fun _ => ?_
        have hstop := follows_of_isWork (calls_stopVM vm.id) (Or.inr rfl)
        refine Prog.Follows.bind (follows_manager hstop) fun _ q hq => ?_
        obtain rfl : q = .down vm.id := hq
        exact hdestroy vm.id

/-- The registration has nothing left to write. -/
def written {α : Type} : α → AgentPhase → Prop := fun _ q => ∀ id, q ≠ .pending id

/-- **A registration follows its protocol.** -/
theorem follows_registerAgent (vmID : String) :
    (registerAgent vmID).Follows agentProtocol written .asking := by
  rw [registerAgent]
  split
  · rintro id ⟨⟩
  · refine ⟨trivial, fun r => ?_⟩
    cases r with
    | error err => rintro id ⟨⟩
    | ok _ => exact ⟨⟨rfl, rfl⟩, fun _ => by rintro id ⟨⟩⟩

end Follows

/-! ### What the calls do to the record -/

/-- Calls that write no record leave the store alone. -/
theorem store_of_answer {w w' : VMHost} {c : VMCall} {o : VMOutcome} {r : c.Resp}
    (hsave : ∀ vm, c ≠ .saveVM vm) (hupdate : ∀ id st, c ≠ .updateVMStatus id st)
    (h : w.answer c o = some (r, w')) : w'.store = w.store := by
  cases c with
  | saveVM vm => exact absurd rfl (hsave vm)
  | updateVMStatus id st => exact absurd rfl (hupdate id st)
  | startProcess vmID bin args =>
      rw [VMHost.answer] at h
      split at h
      · cases h
        rfl
      · split at h
        · cases h
          rfl
        · cases h
  | waitExit pid =>
      rw [VMHost.answer] at h
      split at h
      · cases h
      · cases h
        rfl
  | queryStatus vmID | kill pid =>
      rw [VMHost.answer] at h
      split at h <;> cases h <;> rfl
  | _ =>
      cases h
      rfl

namespace World

variable {w w' : World} {o : VMOutcome}

theorem exists_host {c : VMCall} {r : c.Resp} (hc : ∀ id agent, c ≠ .notifyAgentReady id agent)
    (h : w.answerVM c o = some (r, w')) :
    ∃ host, w.host.answer c o = some (r, host) ∧ w' = { w with host := host } := by
  have heq : w.answerVM c o = (w.host.answer c o).map fun x => (x.1, { w with host := x.2 }) := by
    cases c with
    | notifyAgentReady id agent => exact absurd rfl (hc id agent)
    | _ => rfl
  rw [heq] at h
  obtain ⟨⟨_, host⟩, hr, heq⟩ := Option.map_eq_some_iff.1 h
  cases heq
  exact ⟨host, hr, rfl⟩

theorem same_of_quiet {c : VMCall} {r : c.Resp} (hc : quiet c = true ∨ c = .nextID)
    (h : w.answerVM c o = some (r, w')) :
    (∀ id, w'.status id = w.status id) ∧ w'.agents = w.agents := by
  have hnot : (∀ vm, c ≠ .saveVM vm) ∧ (∀ id st, c ≠ .updateVMStatus id st) ∧
      ∀ id agent, c ≠ .notifyAgentReady id agent := by
    refine ⟨?_, ?_, ?_⟩ <;> rintro x <;> intros <;> rintro rfl <;> simp [quiet] at hc
  obtain ⟨host, hr, rfl⟩ := exists_host hnot.2.2 h
  refine ⟨fun id => ?_, rfl⟩
  rw [status, status, store_of_answer hnot.1 hnot.2.1 hr]

/-- A status write that succeeds. -/
theorem status_of_update {id : String} {st : VMStatus} {u : Unit}
    (h : w.answerVM (.updateVMStatus id st) o = some (.ok u, w')) :
    (∀ k, w'.status k = if k = id then (w.status id).map fun _ => st else w.status k) ∧
      w'.agents = w.agents := by
  obtain ⟨host, hr, rfl⟩ := exists_host (by rintro id agent ⟨⟩) h
  rw [VMHost.answer] at hr
  split at hr
  · cases hr
  · next store hstore =>
      cases hr
      refine ⟨fun k => ?_, rfl⟩
      rw [status, Store.vmStatus, Store.vms_updateVM (ok_of_tryStore hstore) k]
      split
      · rw [status, Store.vmStatus, Option.map_map, Option.map_map]
        rfl
      · rfl

theorem eq_of_update_error {id err : String} {st : VMStatus}
    (h : w.answerVM (.updateVMStatus id st) o = some (.error err, w')) : w' = w := by
  obtain ⟨host, hr, rfl⟩ := exists_host (by rintro id agent ⟨⟩) h
  rw [VMHost.answer] at hr
  split at hr
  · cases hr
    rfl
  · cases hr

/-- A record is saved. -/
theorem status_of_save {vm : VMInstance} {u : Unit}
    (h : w.answerVM (.saveVM vm) o = some (.ok u, w')) :
    (∀ k, w'.status k = if k = vm.id then some vm.status else w.status k) ∧
      w'.agents = w.agents := by
  obtain ⟨host, hr, rfl⟩ := exists_host (by rintro id agent ⟨⟩) h
  rw [VMHost.answer] at hr
  split at hr
  · cases hr
  · cases hr
    refine ⟨fun k => ?_, rfl⟩
    by_cases hk : k = vm.id
    · subst hk
      simp [status, Store.vmStatus, Store.saveVM, Store.insertVM]
    · simp [status, Store.vmStatus, Store.saveVM, Store.insertVM, hk, AList.lookup_insert_ne hk]

theorem eq_of_save_error {vm : VMInstance} {err : String}
    (h : w.answerVM (.saveVM vm) o = some (.error err, w')) : w' = w := by
  obtain ⟨host, hr, rfl⟩ := exists_host (by rintro id agent ⟨⟩) h
  rw [VMHost.answer] at hr
  split at hr
  · cases hr
    rfl
  · cases hr

end World

/-- What a call of the run does to the record, the announcement and the phase. -/
inductive RunEffect : World → Phase → World → Phase → Prop
  | idle {w w' : World} {q : Phase} (hstatus : ∀ id, w'.status id = w.status id)
      (hagents : w'.agents = w.agents) : RunEffect w q w' q
  | named {w w' : World} {id : String} (hstatus : ∀ id, w'.status id = w.status id)
      (hagents : w'.agents = w.agents) : RunEffect w .fresh w' (.named id)
  | gaveUp {w : World} {q : Phase} {id : String} (hq : q = .named id ∨ q = .down id) :
      RunEffect w q w .givenUp
  | saved {w w' : World} {id : String}
      (hstatus : ∀ k, w'.status k = if k = id then some .creating else w.status k)
      (hagents : w'.agents = w.agents) : RunEffect w (.named id) w' (.created id)
  | announced {w : World} {id : String} :
      RunEffect w (.created id) { w with agents := id :: w.agents.filter (· ≠ id) } (.up id)
  | takenBack {w : World} {id : String} :
      RunEffect w (.up id) { w with agents := w.agents.filter (· ≠ id) } (.down id)
  | wrote {w w' : World} {q : Phase} {id : String} {st : VMStatus} (hq : q = .up id ∨ q = .down id)
      (hst : st ≠ .destroyed)
      (hstatus : ∀ k, w'.status k = if k = id then (w.status id).map fun _ => st else w.status k)
      (hagents : w'.agents = w.agents) : RunEffect w q w' q
  | destroyed {w w' : World} {id : String}
      (hstatus : ∀ k,
        w'.status k = if k = id then (w.status id).map fun _ => .destroyed else w.status k)
      (hagents : w'.agents = w.agents) : RunEffect w (.down id) w' (.gone id)

theorem runNext_of_quiet {q : Phase} {c : VMCall} {r : (RunCall.vm c).Resp}
    (h : quiet c = true) :
    runNext q (.vm c) r = q := by
  cases q <;> cases c <;> first | rfl | cases h

theorem runNext_up {id : String} {c : VMCall} {r : (RunCall.vm c).Resp} :
    runNext (.up id) (.vm c) r = .up id := by
  cases c <;> rfl

theorem runNext_down {id id' : String} {st : VMStatus} (h : st ≠ .destroyed)
    {r : (RunCall.vm (.updateVMStatus id' st)).Resp} :
    runNext (.down id) (.vm (.updateVMStatus id' st)) r = .down id := by
  cases st <;> first | rfl | exact absurd rfl h

theorem RunEffect.of_quiet {w w' : World} {q : Phase} {c : VMCall} {o : VMOutcome}
    {r : (RunCall.vm c).Resp} (hc : quiet c = true) (h : w.answerVM c o = some (r, w')) :
    RunEffect w q w' (runNext q (.vm c) r) := by
  obtain ⟨hstatus, hagents⟩ := World.same_of_quiet (Or.inl hc) h
  rw [runNext_of_quiet hc]
  exact .idle hstatus hagents

theorem RunEffect.of_update {w w' : World} {q : Phase} {id : String} {st : VMStatus}
    {o : VMOutcome} {r : Except String Unit} (hq : q = .up id ∨ q = .down id)
    (hst : st ≠ .destroyed) (h : w.answerVM (.updateVMStatus id st) o = some (r, w')) :
    RunEffect w q w' q := by
  cases r with
  | error err =>
      obtain rfl := World.eq_of_update_error h
      exact .idle (fun _ => rfl) rfl
  | ok u =>
      obtain ⟨hstatus, hagents⟩ := World.status_of_update h
      exact .wrote hq hst hstatus hagents

/-- **Every call that the protocol allows has one of the effects.** -/
theorem effect_of_answer {w w' : World} {q : Phase} {c : RunCall} {o : VMOutcome} {r : c.Resp}
    (hc : runAllowed q c) (h : w.answer c o = some (r, w')) :
    RunEffect w q w' (runNext q c r) := by
  cases c with
  | registerVM id' =>
      cases q with
      | created id =>
          obtain rfl : id' = id := hc
          cases h
          exact .announced
      | _ => exact absurd hc id
  | unregisterVM id' =>
      cases q with
      | up id =>
          obtain rfl : id' = id := hc
          cases h
          exact .takenBack
      | _ => exact absurd hc id
  | vm c =>
      have h : w.answerVM c o = some (r, w') := h
      cases q with
      | fresh =>
          obtain rfl : c = .nextID := hc
          obtain ⟨hstatus, hagents⟩ := World.same_of_quiet (Or.inr rfl) h
          exact .named hstatus hagents
      | named id =>
          obtain ⟨vm, rfl, rfl, hvm⟩ := hc
          cases r with
          | error err =>
              obtain rfl := World.eq_of_save_error h
              exact .gaveUp (Or.inl rfl)
          | ok u =>
              obtain ⟨hstatus, hagents⟩ := World.status_of_save h
              rw [hvm] at hstatus
              exact .saved hstatus hagents
      | created id => exact absurd hc fun h => h
      | up id =>
          obtain hquiet | ⟨st, rfl, hst⟩ := hc
          · exact .of_quiet hquiet h
          · rw [runNext_up]
            exact .of_update (Or.inl rfl) hst h
      | down id =>
          obtain hquiet | ⟨st, rfl⟩ := hc
          · exact .of_quiet hquiet h
          · by_cases hst : st = .destroyed
            · subst hst
              cases r with
              | error err =>
                  obtain rfl := World.eq_of_update_error h
                  exact .gaveUp (Or.inr rfl)
              | ok u =>
                  obtain ⟨hstatus, hagents⟩ := World.status_of_update h
                  exact .destroyed hstatus hagents
            · rw [runNext_down hst]
              exact .of_update (Or.inr rfl) hst h
      | gone id => exact .of_quiet hc h
      | givenUp => exact .of_quiet hc h

/-- What a call of a registration does. -/
inductive AgentEffect : World → AgentPhase → World → AgentPhase → Prop
  | asked {w : World} {id : String} (hmem : id ∈ w.agents) :
      AgentEffect w .asking w (.pending id)
  | ended {w : World} {q : AgentPhase} : AgentEffect w q w .ended
  | wrote {w w' : World} {id : String}
      (hstatus : ∀ k, w'.status k =
        if k = id then (w.status id).map fun _ => .ready else w.status k)
      (hagents : w'.agents = w.agents) : AgentEffect w (.pending id) w' .ended

theorem agentEffect_of_answer {w w' : World} {q : AgentPhase} {c : VMCall} {o : VMOutcome}
    {r : c.Resp} (hc : agentProtocol.allowed q c) (h : w.answerVM c o = some (r, w')) :
    AgentEffect w q w' (agentProtocol.next q c r) := by
  cases q with
  | asking =>
      cases c with
      | notifyAgentReady id agent =>
          by_cases hmem : id ∈ w.agents
          · rw [World.answerVM, if_pos hmem] at h
            cases h
            exact .asked hmem
          · rw [World.answerVM, if_neg hmem] at h
            cases h
            exact .ended
      | _ => exact absurd hc id
  | pending id =>
      cases c with
      | updateVMStatus id' st =>
          obtain ⟨rfl, rfl⟩ : id' = id ∧ st = .ready := hc
          cases r with
          | error err =>
              obtain rfl := World.eq_of_update_error h
              exact .ended
          | ok u =>
              obtain ⟨hstatus, hagents⟩ := World.status_of_update h
              exact .wrote hstatus hagents
      | _ => exact absurd hc fun h => h
  | ended => exact absurd hc fun h => by cases c <;> exact h

/-! ### What every step keeps -/

/-- The machine whose record the run has saved. -/
def Phase.recorded : Phase → Option String
  | .created id | .up id | .down id | .gone id => some id
  | _ => none

/-- The world and the phase of the run fit together. -/
structure Fits (w : World) (q : Phase) : Prop where
  announced : ∀ id, id ∈ w.agents ↔ q = .up id
  recorded : ∀ id, q.recorded = some id → (w.status id).isSome = true
  destroyed : ∀ id, w.status id = some .destroyed → q = .gone id

theorem isSome_of_write {w w' : World} {id : String} {st : VMStatus}
    (hstatus : ∀ k, w'.status k = if k = id then (w.status id).map fun _ => st else w.status k)
    {k : String} (h : (w.status k).isSome = true) : (w'.status k).isSome = true := by
  rw [hstatus k]
  split
  · next hk =>
      rw [Option.isSome_map, ← hk]
      exact h
  · exact h

theorem Fits.write {w w' : World} {q : Phase} {id : String} {st : VMStatus} (h : Fits w q)
    (hst : st ≠ .destroyed)
    (hstatus : ∀ k, w'.status k = if k = id then (w.status id).map fun _ => st else w.status k)
    (hagents : w'.agents = w.agents) : Fits w' q where
  announced := by
    rw [hagents]
    exact h.announced
  recorded k hk := isSome_of_write hstatus (h.recorded k hk)
  destroyed := by
    intro k hk
    rw [hstatus k] at hk
    split at hk
    · obtain ⟨_, -, rfl⟩ := Option.map_eq_some_iff.1 hk
      exact absurd rfl hst
    · exact h.destroyed k hk

/-- **The calls of the run keep the world and its phase fitting.** -/
theorem Fits.effect {w w' : World} {q q' : Phase} (h : Fits w q) (he : RunEffect w q w' q') :
    Fits w' q' := by
  cases he with
  | idle hstatus hagents =>
      refine ⟨fun id => ?_, fun id hid => ?_, fun id hid => ?_⟩
      · rw [hagents, h.announced id]
      · rw [hstatus id, h.recorded id hid]
      · rw [hstatus id] at hid
        exact h.destroyed id hid
  | named hstatus hagents =>
      refine ⟨fun id => ?_, ?_, fun id hid => ?_⟩
      · rw [hagents, h.announced id]
        simp
      · rintro id ⟨⟩
      · rw [hstatus id] at hid
        cases h.destroyed id hid
  | gaveUp hq =>
      refine ⟨fun id => ?_, ?_, fun id hid => ?_⟩
      · rw [h.announced id]
        obtain rfl | rfl := hq <;> simp
      · rintro id ⟨⟩
      · have := h.destroyed id hid
        obtain rfl | rfl := hq <;> cases this
  | @saved _ id hstatus hagents =>
      refine ⟨fun k => ?_, ?_, fun k hk => ?_⟩
      · rw [hagents, h.announced k]
        simp
      · rintro k ⟨⟩
        rw [hstatus id, if_pos rfl]
        rfl
      · rw [hstatus k] at hk
        split at hk
        · cases hk
        · cases h.destroyed k hk
  | @announced id =>
      refine ⟨fun k => ?_, ?_, fun k hk => ?_⟩
      · have hnone : k ∉ w.agents := fun hk => by cases (h.announced k).1 hk
        simp only [List.mem_cons, List.mem_filter, hnone, false_and, or_false, Phase.up.injEq]
        exact eq_comm
      · rintro k ⟨⟩
        exact h.recorded id rfl
      · cases h.destroyed k hk
  | @takenBack id =>
      refine ⟨fun k => ?_, ?_, fun k hk => ?_⟩
      · refine iff_of_false (fun hk => ?_) (by simp)
        obtain ⟨hmem, hne⟩ := List.mem_filter.1 hk
        cases (h.announced k).1 hmem
        simp at hne
      · rintro k ⟨⟩
        exact h.recorded id rfl
      · cases h.destroyed k hk
  | wrote hq hst hstatus hagents => exact h.write hst hstatus hagents
  | @destroyed _ id hstatus hagents =>
      refine ⟨fun k => ?_, ?_, fun k hk => ?_⟩
      · rw [hagents, h.announced k]
        simp
      · rintro k ⟨⟩
        exact isSome_of_write hstatus (h.recorded id rfl)
      · rw [hstatus k] at hk
        split at hk
        · next hid => rw [hid]
        · cases h.destroyed k hk

theorem Fits.agentEffect {w w' : World} {q : Phase} {a a' : AgentPhase} (h : Fits w q)
    (he : AgentEffect w a w' a') : Fits w' q := by
  cases he with
  | asked hmem => exact h
  | ended => exact h
  | wrote hstatus hagents => exact h.write (by decide) hstatus hagents

/-- **The invariant of every run.** -/
structure Inv (s : State) : Prop where
  run_ok : s.run.Ok runProtocol ended
  agents_ok : ∀ (k : ℕ) (th : AgentThread), s.agents[k]? = some th → th.Ok agentProtocol written
  fits : Fits s.world s.run.state

theorem Inv.start (qCfg : QEMUConfig) (vmCfg : VMConfig) : Inv (start qCfg vmCfg) where
  run_ok := follows_runVM qCfg vmCfg
  agents_ok _ _ h := by cases h
  fits := ⟨fun id => by simp [Teardown.start], by rintro id ⟨⟩, by rintro id ⟨⟩⟩

theorem advanceRun_cases {s s' : State} {o : VMOutcome} (h : s.advanceRun o = some s') :
    ∃ c f q r w, s.run = ⟨.call c f, q⟩ ∧ s.world.answer c o = some (r, w) ∧
      s' = { s with world := w, run := ⟨f r, runNext q c r⟩ } := by
  obtain ⟨world, ⟨p, q⟩, agents⟩ := s
  cases p with
  | pure a => cases h
  | call c f =>
      obtain ⟨⟨r, w⟩, hr, rfl⟩ := Option.map_eq_some_iff.1 h
      exact ⟨c, f, q, r, w, rfl, hr, rfl⟩

theorem advanceAgent_cases {s s' : State} {k : ℕ} {o : VMOutcome}
    (h : step s (.advanceAgent k o) = some s') :
    ∃ c f q r w, s.agents[k]? = some ⟨.call c f, q⟩ ∧ s.world.answerVM c o = some (r, w) ∧
      s' = { s with world := w, agents := s.agents.set k ⟨f r, agentProtocol.next q c r⟩ } := by
  obtain ⟨⟨w, agents⟩, hadv, rfl⟩ := Option.map_eq_some_iff.1 h
  obtain ⟨c, f, q, r, hk, hr, rfl⟩ := Prog.Thread.exists_of_advance hadv
  exact ⟨c, f, q, r, w, hk, hr, rfl⟩

theorem Fits.exit {w : World} {q : Phase} (h : Fits w q) (pid : ℤ) : Fits (w.exit pid) q :=
  ⟨h.announced, h.recorded, h.destroyed⟩

/-- **Every step keeps the invariant.** -/
theorem Inv.step {s s' : State} {a : Act} (h : Inv s) (hs : step s a = some s') : Inv s' := by
  cases a with
  | registerAgent vmID =>
      cases hs
      exact ⟨h.run_ok, Machine.forall_concat h.agents_ok (follows_registerAgent vmID), h.fits⟩
  | advanceAgent k o =>
      obtain ⟨c, f, q, r, w, hk, hr, rfl⟩ := advanceAgent_cases hs
      obtain ⟨hc, hf⟩ := h.agents_ok k _ hk
      exact ⟨h.run_ok, Machine.forall_set h.agents_ok (hf r),
        h.fits.agentEffect (agentEffect_of_answer hc hr)⟩
  | advanceRun o =>
      obtain ⟨c, f, q, r, w, hrun, hr, rfl⟩ := advanceRun_cases hs
      have hok := h.run_ok
      have hfits := h.fits
      rw [hrun] at hok hfits
      exact ⟨hok.2 r, h.agents_ok, hfits.effect (effect_of_answer hok.1 hr)⟩
  | exit pid =>
      cases hs
      exact ⟨h.run_ok, h.agents_ok, h.fits.exit pid⟩

/-! ### What the condition keeps -/

/-- No registration is about to write once the announcement has been taken back, and `DESTROYED`
has not been overwritten. -/
structure Clean (s : State) : Prop where
  pending : ∀ (k : ℕ) (th : AgentThread), s.agents[k]? = some th → ∀ id, th.state = .pending id →
    s.run.state = .up id
  final : ∀ id, s.run.state = .gone id → s.world.status id = some .destroyed

theorem Clean.start (qCfg : QEMUConfig) (vmCfg : VMConfig) : Clean (start qCfg vmCfg) where
  pending _ _ h := by cases h
  final := by rintro id ⟨⟩

/-- The calls of the run, when the announcement is taken back without a registration. -/
theorem Clean.effect {s : State} {w : World} {q : Phase} {p : RunProg Unit} (h : Clean s)
    (hfits : Fits s.world s.run.state) (he : RunEffect s.world s.run.state w q)
    (hsettled : ∀ id, s.run.state = .up id → q = .down id → ∀ th ∈ s.agents,
      th.state ≠ .pending id) :
    Clean { s with world := w, run := ⟨p, q⟩ } := by
  obtain ⟨world, ⟨p₀, q₀⟩, agents⟩ := s
  -- unless the announcement is taken back, an announced machine stays announced
  have hup : ∀ id, q₀ = .up id → q = .up id ∨ q = .down id := by
    rintro id rfl
    cases he with
    | gaveUp hq => rcases hq with hq | hq <;> cases hq
    | takenBack => exact Or.inr rfl
    | idle | wrote => exact Or.inl rfl
  refine ⟨fun k th hth id hid => ?_, fun id hid => ?_⟩
  · have hq₀ := h.pending k th hth id hid
    obtain hq | hq := hup id hq₀
    · exact hq
    · exact absurd hid (hsettled id hq₀ hq th (List.mem_of_getElem? hth))
  · obtain rfl : q = .gone id := hid
    cases he with
    | idle hstatus hagents =>
        rw [show w.status id = _ from hstatus id]
        exact h.final id rfl
    | wrote hq => rcases hq with hq | hq <;> cases hq
    | destroyed hstatus hagents =>
        have hsome := hfits.recorded id rfl
        obtain ⟨st, hst⟩ := Option.isSome_iff_exists.1 hsome
        rw [show w.status id = _ from hstatus id, if_pos rfl, show world.status id = _ from hst]
        rfl

/-- The calls of the registrations. -/
theorem Clean.agentEffect {s : State} {w : World} {k : ℕ} {th : AgentThread} {q : AgentPhase}
    {p : VMProg (Except String String)} (h : Clean s) (hfits : Fits s.world s.run.state)
    (hk : s.agents[k]? = some th) (he : AgentEffect s.world th.state w q) :
    Clean { s with world := w, agents := s.agents.set k ⟨p, q⟩ } := by
  refine ⟨Machine.forall_set h.pending fun id hid => ?_, fun id hid => ?_⟩
  · obtain rfl : q = .pending id := hid
    generalize th.state = q₀ at he
    cases he with
    | asked hmem => exact (hfits.announced id).1 hmem
  · have hfinal := h.final id hid
    have hpend := h.pending k th hk
    generalize th.state = q₀ at he hpend
    cases he with
    | asked hmem => exact hfinal
    | ended => exact hfinal
    | @wrote _ id' hstatus hagents =>
        -- a registration that writes does so while the machine is announced
        have hup : Phase.gone id = .up id' := hid.symm.trans (hpend id' rfl)
        cases hup

/-- **A step that meets the condition leaves no registration behind.** -/
theorem Clean.step {s s' : State} {a : Act} (hinv : Inv s) (h : Clean s) (hc : Settled s a)
    (hs : step s a = some s') : Clean s' := by
  cases a with
  | registerAgent vmID =>
      cases hs
      exact ⟨Machine.forall_concat h.pending (by rintro id ⟨⟩), h.final⟩
  | advanceAgent k o =>
      obtain ⟨c, f, q, r, w, hk, hr, rfl⟩ := advanceAgent_cases hs
      exact h.agentEffect hinv.fits hk (agentEffect_of_answer (hinv.agents_ok k _ hk).1 hr)
  | advanceRun o =>
      obtain ⟨c, f, q, r, w, hrun, hr, rfl⟩ := advanceRun_cases hs
      have hok := hinv.run_ok
      rw [hrun] at hok
      have he : RunEffect s.world s.run.state w (runNext q c r) := by
        rw [hrun]
        exact effect_of_answer hok.1 hr
      refine h.effect hinv.fits he fun id hup hdown => ?_
      obtain rfl : q = .up id := by rw [hrun] at hup; exact hup
      cases c with
      | unregisterVM id' =>
          obtain rfl : id' = id := hok.1
          exact hc id' (by rw [State.takesBack, hrun]; rfl)
      | registerVM id' => exact absurd hok.1 fun h => h
      | vm c =>
          rw [runNext_up] at hdown
          cases hdown
  | exit pid =>
      cases hs
      exact ⟨h.pending, h.final⟩

/-! ### What happens without it -/

theorem exists_answer_of_quiet (w : World) {c : VMCall} (h : quiet c = true) :
    ∃ r w', w.answerVM c { err := some "failed" } = some (r, w') := by
  cases c <;> first | exact ⟨_, _, rfl⟩ | cases h

theorem exists_answer_of_update (w : World) {id : String} (st : VMStatus)
    (h : (w.status id).isSome = true) :
    ∃ w', w.answerVM (.updateVMStatus id st) {} = some (.ok (), w') := by
  rw [World.status, Store.vmStatus, Option.isSome_map] at h
  obtain ⟨vm, hvm⟩ := Option.isSome_iff_exists.1 h
  obtain ⟨store, hstore⟩ := Store.exists_updateVM hvm st
  refine ⟨{ w with host := { w.host with store := store } }, ?_⟩
  simp [World.answerVM, VMHost.answer, tryStore, hstore]

/-- **A run that has taken its announcement back can get to `DESTROYED`.**  By induction on what is
left of the program, with answers that let it go on. -/
theorem exists_destroyed {id : String} (agents : List AgentThread) :
    ∀ (p : RunProg Unit) (w : World), p.Follows runProtocol ended (.down id) →
      (w.status id).isSome = true →
        ∃ as t, Machine.run step ⟨w, ⟨p, .down id⟩, agents⟩ as = some t ∧
          t.world.status id = some .destroyed ∧ t.agents = agents := by
  intro p
  induction p with
  | pure a =>
      intro w h _
      exact absurd rfl (h id)
  | call c f ih =>
      intro w h hsome
      obtain ⟨hc, hf⟩ := h
      -- the call is answered, and the run goes on from there
      have hgo : ∀ {o : VMOutcome} {r : c.Resp} {w' : World}, w.answer c o = some (r, w') →
          runNext (.down id) c r = .down id → (w'.status id).isSome = true →
          ∃ as t, Machine.run step ⟨w, ⟨.call c f, .down id⟩, agents⟩ as = some t ∧
            t.world.status id = some .destroyed ∧ t.agents = agents := by
        intro o r w' hr hnext hsome'
        have hrest := hf r
        rw [show runProtocol.next (.down id) c r = _ from hnext] at hrest
        obtain ⟨as, t, hrun, ht⟩ := ih r w' hrest hsome'
        refine ⟨.advanceRun o :: as, t, ?_, ht⟩
        refine Machine.run_cons_eq_some.2 ⟨⟨w', ⟨f r, .down id⟩, agents⟩, ?_, hrun⟩
        simp [step, State.advanceRun, hr, hnext]
      cases c with
      | registerVM id' => exact absurd hc fun h => h
      | unregisterVM id' => exact absurd hc fun h => h
      | vm c =>
          obtain hquiet | ⟨st, rfl⟩ := hc
          · obtain ⟨r, w', hr⟩ := exists_answer_of_quiet w hquiet
            refine hgo hr (runNext_of_quiet hquiet) ?_
            rw [(World.same_of_quiet (Or.inl hquiet) hr).1 id, hsome]
          · obtain ⟨w', hr⟩ := exists_answer_of_update w st hsome
            have hstatus := (World.status_of_update hr).1
            by_cases hst : st = .destroyed
            · subst hst
              refine ⟨[.advanceRun {}], ⟨w', ⟨f (.ok ()), .gone id⟩, agents⟩, ?_, ?_, rfl⟩
              · refine Machine.run_cons_eq_some.2 ⟨_, ?_, rfl⟩
                simp only [step, State.advanceRun, World.answer, hr]
                rfl
              · obtain ⟨st, hst⟩ := Option.isSome_iff_exists.1 hsome
                rw [show w'.status id = _ from hstatus id, if_pos rfl, hst]
                rfl
            · exact hgo hr (runNext_down hst) (isSome_of_write hstatus hsome)

/-- A registration that is about to write can do so, to a record that is there. -/
theorem exists_ready {s : State} (hinv : Inv s) {k : ℕ} {th : AgentThread} {id : String}
    (hk : s.agents[k]? = some th) (hth : th.state = .pending id)
    (hsome : (s.world.status id).isSome = true) :
    ∃ t, step s (.advanceAgent k {}) = some t ∧ t.world.status id = some .ready := by
  obtain ⟨p, q⟩ := th
  obtain rfl : q = .pending id := hth
  have hok := hinv.agents_ok k _ hk
  cases p with
  | pure a => exact absurd rfl (hok id)
  | call c f =>
      obtain ⟨hc, -⟩ := hok
      cases c with
      | updateVMStatus id' st =>
          obtain ⟨rfl, rfl⟩ : id' = id ∧ st = .ready := hc
          obtain ⟨w, hw⟩ := exists_answer_of_update s.world .ready hsome
          refine ⟨{ s with world := w, agents := s.agents.set k ⟨f (.ok ()), .ended⟩ }, ?_, ?_⟩
          · simp only [step, Prog.Thread.advance, hk, hw]
            rfl
          · obtain ⟨st, hst⟩ := Option.isSome_iff_exists.1 hsome
            rw [show w.status id' = _ from (World.status_of_update hw).1 id', if_pos rfl, hst]
            rfl
      | _ => exact absurd hc fun h => h

/-- A run that has stored `DESTROYED` is at its end. -/
theorem gone_of_step {s s' : State} {a : Act} {id : String} (hinv : Inv s)
    (h : s.run.state = .gone id) (hs : step s a = some s') : s'.run.state = .gone id := by
  cases a with
  | registerAgent vmID =>
      cases hs
      exact h
  | advanceAgent k o =>
      obtain ⟨c, f, q, r, w, hk, hr, rfl⟩ := advanceAgent_cases hs
      exact h
  | advanceRun o =>
      obtain ⟨c, f, q, r, w, hrun, hr, rfl⟩ := advanceRun_cases hs
      have hok := hinv.run_ok
      rw [hrun] at hok h
      obtain rfl : q = .gone id := h
      cases c with
      | vm c =>
          change runNext (.gone id) (.vm c) r = .gone id
          exact runNext_of_quiet hok.1
      | registerVM id' => exact absurd hok.1 fun h => h
      | unregisterVM id' => exact absurd hok.1 fun h => h
  | exit pid =>
      cases hs
      exact h

/-- A step breaks the condition if it comes while a registration is about to write. -/
theorem broken_cases {s s' : State} {a : Act} (hinv : Inv s) (hs : step s a = some s')
    (hc : ¬ Settled s a) :
    ∃ (id : String) (k : ℕ) (th : AgentThread),
      s'.run.state = .down id ∧ s'.agents[k]? = some th ∧ th.state = .pending id := by
  cases a with
  | registerAgent vmID => exact absurd trivial hc
  | advanceAgent k o => exact absurd trivial hc
  | exit pid => exact absurd trivial hc
  | advanceRun o =>
      obtain ⟨c, f, q, r, w, hrun, hr, rfl⟩ := advanceRun_cases hs
      have hok := hinv.run_ok
      simp only [Settled, State.takesBack, hrun] at hc
      rw [hrun] at hok
      cases c with
      | vm c => simp at hc
      | registerVM id => simp at hc
      | unregisterVM id =>
          simp only [Option.mem_some_iff, forall_eq', not_forall, not_not] at hc
          obtain ⟨th, hth, hpending⟩ := hc
          obtain ⟨k, hk⟩ := List.getElem?_of_mem hth
          refine ⟨id, k, th, ?_, hk, hpending⟩
          cases q with
          | up id' =>
              obtain rfl : id = id' := hok.1
              rfl
          | _ => exact absurd hok.1 fun h => h

/-- **When `DESTROYED` is final.**  If the run takes its announcement back only while no
registration of the machine is between its two steps, then `DESTROYED`, once stored, stays.  And
after a step that breaks this, `DESTROYED` can be stored and then be overwritten with `READY`. -/
theorem destroyed_final_exact (qCfg : QEMUConfig) (vmCfg : VMConfig) :
    (∀ {as bs : List Act} {s t : State} {id : String},
      Machine.run step (start qCfg vmCfg) as = some s → s.world.status id = some .destroyed →
      Machine.run step s bs = some t →
      Machine.Obeys step Settled (start qCfg vmCfg) (as ++ bs) →
        t.world.status id = some .destroyed) ∧
    ∀ {as : List Act} {s s' : State} {a : Act},
      Machine.run step (start qCfg vmCfg) as = some s → step s a = some s' → ¬ Settled s a →
        ∃ bs cs t t' id, Machine.run step s' bs = some t ∧ t.world.status id = some .destroyed ∧
          Machine.run step t cs = some t' ∧ t'.world.status id = some .ready := by
  have hinv : ∀ {as : List Act} {s : State}, Machine.run step (start qCfg vmCfg) as = some s →
      Inv s := fun has =>
    Machine.Reachable.invariant ⟨_, has⟩ (Inv.start qCfg vmCfg) fun _ _ _ h hs => h.step hs
  refine ⟨fun {as bs s t id} has hd hbs hobeys => ?_, fun {as s s' a} has hs hc => ?_⟩
  · have hclean : Inv t ∧ Clean t :=
      Machine.run_invariant (I := fun s => Inv s ∧ Clean s)
        (fun _ _ _ h hc hs => ⟨h.1.step hs, h.2.step h.1 hc hs⟩)
        ⟨Inv.start qCfg vmCfg, Clean.start qCfg vmCfg⟩ hobeys
        (Machine.run_append_eq_some has hbs)
    -- only the run stores `DESTROYED`, and it is at its end then
    have hgone : Inv t ∧ t.run.state = .gone id :=
      Machine.Reachable.invariant (I := fun s => Inv s ∧ s.run.state = .gone id) ⟨bs, hbs⟩
        ⟨hinv has, (hinv has).fits.destroyed id hd⟩
        fun _ _ _ h hs => ⟨h.1.step hs, gone_of_step h.1 h.2 hs⟩
    exact hclean.2.final id hgone.2
  · have hinv' := (hinv has).step hs
    obtain ⟨id, k, th, hdown, hk, hpending⟩ := broken_cases (hinv has) hs hc
    have hsome : (s'.world.status id).isSome = true := hinv'.fits.recorded id (by rw [hdown]; rfl)
    obtain ⟨world, ⟨p, q⟩, agents⟩ := s'
    obtain rfl : q = .down id := hdown
    obtain ⟨bs, t, hbs, hd, hagents⟩ := exists_destroyed agents p world hinv'.run_ok hsome
    have hinvt : Inv t :=
      Machine.Reachable.invariant ⟨bs, hbs⟩ hinv' fun _ _ _ h hs => h.step hs
    obtain ⟨t', ht', hready⟩ := exists_ready hinvt (hagents ▸ hk) hpending (by rw [hd]; rfl)
    refine ⟨bs, [.advanceAgent k {}], t, t', id, hbs, hd, ?_, hready⟩
    exact Machine.run_cons_eq_some.2 ⟨t', ht', rfl⟩

/-- A run up to the point where its tests are over; the machine is `vm-1700000000-1`, and its agent
registers, the first step of it. -/
def testsOver : List Act :=
  [.advanceRun { unix := 1700000000 }, .advanceRun {}, .advanceRun {}, .advanceRun {},
    .advanceRun {}, .advanceRun {}, .advanceRun {}, .advanceRun {}, .advanceRun {},
    .advanceRun { pid := 4242 }, .advanceRun {}, .advanceRun {}, .advanceRun {},
    .advanceRun { flag := true }, .advanceRun {}, .registerAgent "vm-1700000000-1",
    .advanceAgent 0 {}]

/-- The end of the run: the announcement is taken back, and the machine is stopped and destroyed. -/
def toDestroyed : List Act :=
  [.advanceRun {}, .advanceRun {}, .advanceRun {}, .advanceRun {}, .exit 4242,
    .advanceRun { flag := true }, .advanceRun {}, .advanceRun {}, .advanceRun {}, .advanceRun {},
    .advanceRun {}, .advanceRun {}]

/-- The agent gets to its second step in time, and `DESTROYED` stays, also when another registration
is refused. -/
theorem destroyed_final_in_time :
    ∃ t, Machine.run step (start {} {}) ((testsOver ++ [.advanceAgent 0 {}] ++ toDestroyed) ++
        [.registerAgent "vm-1700000000-1", .advanceAgent 1 {}]) = some t ∧
      t.world.status "vm-1700000000-1" = some .destroyed := by
  have hd : (Machine.run step (start {} {})
      (testsOver ++ [.advanceAgent 0 {}] ++ toDestroyed)).map
        (·.world.status "vm-1700000000-1") = some (some .destroyed) := by decide +kernel
  obtain ⟨s, hs, hstatus⟩ := Option.map_eq_some_iff.1 hd
  have hrun : (Machine.run step (start {} {}) ((testsOver ++ [.advanceAgent 0 {}] ++ toDestroyed) ++
      [.registerAgent "vm-1700000000-1", .advanceAgent 1 {}])).isSome = true := by decide +kernel
  obtain ⟨t, ht⟩ := Option.isSome_iff_exists.1 hrun
  have hbs := ht
  rw [Machine.run_append, hs, Option.bind_some] at hbs
  refine ⟨t, ht, (destroyed_final_exact {} {}).1 hs hstatus hbs ?_⟩
  decide +kernel

/-- **`READY` after `DESTROYED`**: the second step of the registration comes last. -/
theorem ready_after_destroyed :
    (Machine.run step (start {} {}) (testsOver ++ toDestroyed)).map
        (·.world.status "vm-1700000000-1") = some (some .destroyed) ∧
      (Machine.run step (start {} {}) (testsOver ++ toDestroyed ++ [.advanceAgent 0 {}])).map
        (·.world.status "vm-1700000000-1") = some (some .ready) := by
  decide +kernel

end Dvf.Teardown
