/-
**QEMU processes that outlive the orchestrator** (`internal/vm/manager.go`,
`internal/core/state_manager.go`).

The operations of the VM manager and the registrations of agents run at the same time, one call at a
time; calls may fail, and processes may end by themselves.  At any moment the orchestrator may
crash. Its QEMU processes go on running, and the next orchestrator recovers from the store.

The recovery can kill a process only if its id is in the store.  But the id is known only after the
record has been saved, `UpdateVMStatus` writes the status alone, and `StartVM` puts the id into its
own copy of the record.  So the stored id is always `0`: **no process is ever killed**, whatever
state the machine was in.  And a machine that has booted is `READY`, which is not among the states
that the recovery looks for, so its record is left alone as well.

Main definitions:

* `Dvf.VMHost`, `Dvf.VMHost.answer` — the store, the manager's map and the processes;
* `Dvf.VMSystem`, `Dvf.VMAct`, `Dvf.VMSystem.step` — operations that run at the same time;
* `Dvf.VMSystem.recover` — a crash and the recovery after it.

Main results:

* `Dvf.VMHost.noPid_of_answer`, `Dvf.VMSystem.NoPid.step` — no process id gets into the store;
* `Dvf.orphans_recovered_iff` — **a recovery takes care of all processes just when there are none**.
-/

import Dvf.Recovery
import Dvf.Threads
import Dvf.VMManager

set_option autoImplicit false

namespace Dvf

open Go

/-! ### The host -/

/-- What comes from outside in an answer: a failure, the time, the id of a new process, and what a
socket or a process does. -/
structure VMOutcome where
  err : Option String := none
  unix : ℕ := 0
  pid : ℤ := 0
  flag : Bool := false
  ctx : Option CtxErr := none
  deriving DecidableEq, Repr

/-- The store, the manager's counter and its map, and the QEMU processes that are alive, each with
the machine that it runs. -/
structure VMHost where
  store : Store
  counter : ℕ := 0
  liveVMs : GoMap String ℤ := ∅
  processes : List (String × ℤ) := []

namespace VMHost

/-- A call that has no effect but may fail. -/
def mayFail (w : VMHost) (o : VMOutcome) : Except String Unit × VMHost :=
  (match o.err with
    | some err => .error err
    | none => .ok (), w)

/-- **The answer to a call.**  A new process has an id that no other living process has; a process
that was waited for has ended. -/
def answer (w : VMHost) : (c : VMCall) → VMOutcome → Option (c.Resp × VMHost)
  | .nextID, o =>
      some ("vm-" ++ toString o.unix ++ "-" ++ toString (w.counter + 1),
        { w with counter := w.counter + 1 })
  | .saveVM vm, o =>
      match o.err with
      | some err => some (.error err, w)
      | none => some (.ok (), { w with store := w.store.saveVM vm })
  | .getVM id, o => some (tryStore o.err (w.store.getVM id), w)
  | .updateVMStatus id status, o =>
      match tryStore o.err (w.store.updateVMStatus id status) with
      | .error err => some (.error err, w)
      | .ok store => some (.ok (), { w with store := store })
  | .mkdirAll _, o => some (w.mayFail o)
  | .removeFile _, _ => some ((), w)
  | .createOverlay _ _, o => some (w.mayFail o)
  | .startProcess vmID _ _, o =>
      match o.err with
      | some err => some (.error err, w)
      | none =>
          if 0 < o.pid ∧ o.pid ∉ w.processes.map Prod.snd then
            some (.ok o.pid, { w with processes := w.processes ++ [(vmID, o.pid)] })
          else none
  | .connect _, o => some (w.mayFail o)
  | .pause, o => some (o.ctx, w)
  | .addLive vmID pid, _ => some ((), { w with liveVMs := w.liveVMs.insert vmID pid })
  | .queryStatus _, o =>
      match o.err with
      | some err => some (.error err, w)
      | none => some (.ok o.flag, w)
  | .lookupLive vmID, _ => some (w.liveVMs.lookup vmID, w)
  | .powerdown _, o => some (w.mayFail o)
  | .waitExit pid, o =>
      if o.flag = true ∧ pid ∈ w.processes.map Prod.snd then none else some (o.flag, w)
  | .sigterm _, _ => some ((), w)
  | .kill pid, o =>
      match o.err with
      | some _ => some ((), w)
      | none => some ((), { w with processes := w.processes.filter (·.2 ≠ pid) })
  | .cleanup vmID, _ => some ((), { w with liveVMs := w.liveVMs.erase vmID })
  | .notifyAgentReady _ _, o => some (w.mayFail o)

end VMHost

/-! ### Operations that run at the same time -/

/-- The operations. -/
inductive VMOp
  | createVM (vmCfg : VMConfig)
  | startVM (vmID : String)
  | stopVM (vmID : String)
  | destroyVM (vmID : String)
  | registerAgent (vmID : String)
  deriving DecidableEq, Repr

/-- The program of an operation; nobody looks at what it returns. -/
def VMOp.prog (qCfg : QEMUConfig) : VMOp → VMProg Unit
  | .createVM vmCfg => do
      let _ ← Dvf.createVM qCfg vmCfg
      return ()
  | .startVM vmID => do
      let _ ← Dvf.startVM qCfg vmID
      return ()
  | .stopVM vmID => do
      let _ ← Dvf.stopVM vmID
      return ()
  | .destroyVM vmID => do
      let _ ← Dvf.destroyVM vmID
      return ()
  | .registerAgent vmID => do
      let _ ← Dvf.registerAgent vmID
      return ()

/-- The one rule that the operations follow: a record is saved without a process id. -/
def pidless : Protocol VMCall VMCall.Resp Unit where
  allowed _ c := ∀ vm, c = .saveVM vm → vm.pid = 0
  next _ _ _ := ()

/-- The host and the operations that are under way. -/
structure VMSystem where
  host : VMHost
  threads : List (Prog.Thread VMCall VMCall.Resp Unit Unit) := []

/-- An operation starts, one of them makes its next call, or a process ends by itself. -/
inductive VMAct
  | call (op : VMOp)
  | advance (k : ℕ) (o : VMOutcome)
  | exit (pid : ℤ)
  deriving DecidableEq, Repr

namespace VMSystem

/-- **One action.** -/
def step (qCfg : QEMUConfig) (s : VMSystem) : VMAct → Option VMSystem
  | .call op => some { s with threads := s.threads ++ [⟨op.prog qCfg, ()⟩] }
  | .advance k o =>
      (Prog.Thread.advance pidless VMHost.answer s.host s.threads k o).map fun x => ⟨x.1, x.2⟩
  | .exit pid =>
      some { s with host := { s.host with processes := s.host.processes.filter (·.2 ≠ pid) } }

/-- `NewVMManager` on an empty store. -/
def start : VMSystem where
  host := { store := newMemoryStore }

/-- **A crash and the recovery after it**: the processes and the store are all that is left. -/
def recover (s : VMSystem) (env : RecoverEnv) (maxConcurrent : ℤ) : Recovery :=
  (recoverState env ⟨s.host.store, newScheduler maxConcurrent, []⟩).2

end VMSystem

/-! ### No process id gets into the store -/

section Pidless

variable {β γ : Type}

def anyEnd {α : Type} : α → Unit → Prop := fun _ _ => True

theorem follows_setVMStatus_bind (vmID : String) (status : VMStatus) {f : PUnit → VMProg β}
    (hf : (f ⟨⟩).Follows pidless anyEnd ()) :
    (setVMStatus vmID status >>= f).Follows pidless anyEnd () :=
  ⟨by simp [pidless], fun _ => hf⟩

theorem follows_createVM (qCfg : QEMUConfig) (vmCfg : VMConfig) :
    (createVM qCfg vmCfg).Follows pidless anyEnd () := by
  refine Prog.Follows.perform_bind (by simp [pidless]) fun vmID => ?_
  refine Prog.Follows.perform_bind ?_ fun r => ?_
  · rintro vm ⟨⟩
    rfl
  · cases r <;> trivial

theorem follows_of_isWork {p : VMProg β} {vmID : String} (h : p.Calls (VMCall.IsWork vmID)) :
    p.Follows pidless anyEnd () := by
  refine h.follows (fun _ => True) ?_ (fun _ _ _ _ _ => trivial) trivial
  rintro _ c _ hc vm rfl
  exact absurd hc id

theorem follows_clearVM (vmID : String) : (clearVM vmID).Follows pidless anyEnd () := by
  refine clearVM_follows (fun _ => True) trivial ?_ ?_ ?_
  · exact fun _ _ => ⟨by simp [pidless], fun _ => trivial⟩
  · exact fun _ _ _ => ⟨by simp [pidless], fun _ => trivial⟩
  · intro _ _
    refine follows_setVMStatus_bind vmID .destroyed ?_
    exact Prog.Follows.perform_bind (by simp [pidless]) fun _ => trivial

theorem follows_destroyVM (vmID : String) : (destroyVM vmID).Follows pidless anyEnd () := by
  refine Prog.Follows.perform_bind (by simp [pidless]) fun r => ?_
  cases r with
  | none => exact follows_clearVM vmID
  | some pid =>
      refine Prog.Follows.bind (follows_of_isWork (calls_stopVM vmID)) fun _ _ _ => ?_
      exact follows_clearVM vmID

theorem follows_registerAgent (vmID : String) :
    (registerAgent vmID).Follows pidless anyEnd () := by
  rw [registerAgent]
  split
  · trivial
  · refine Prog.Follows.perform_bind (by simp [pidless]) fun r => ?_
    cases r with
    | error err => trivial
    | ok _ => exact follows_setVMStatus_bind vmID .ready trivial

/-- **Every operation saves records without a process id.** -/
theorem follows_prog (qCfg : QEMUConfig) (op : VMOp) :
    (op.prog qCfg).Follows pidless anyEnd () := by
  cases op with
  | createVM vmCfg =>
      exact Prog.Follows.bind (follows_createVM qCfg vmCfg) fun _ _ _ => trivial
  | startVM vmID =>
      exact Prog.Follows.bind (follows_of_isWork (calls_startVM qCfg vmID)) fun _ _ _ => trivial
  | stopVM vmID =>
      exact Prog.Follows.bind (follows_of_isWork (calls_stopVM vmID)) fun _ _ _ => trivial
  | destroyVM vmID => exact Prog.Follows.bind (follows_destroyVM vmID) fun _ _ _ => trivial
  | registerAgent vmID =>
      exact Prog.Follows.bind (follows_registerAgent vmID) fun _ _ _ => trivial

end Pidless

def VMHost.NoPid (w : VMHost) : Prop := ∀ id vm, w.store.vms.lookup id = some vm → vm.pid = 0

/-- **No answer brings a process id into the store**: a status write keeps the id of the record. -/
theorem VMHost.noPid_of_answer {w w' : VMHost} {c : VMCall} {o : VMOutcome} {r : c.Resp}
    (hw : w.NoPid) (hc : pidless.allowed () c) (h : w.answer c o = some (r, w')) : w'.NoPid := by
  cases c with
  | saveVM vm =>
      rw [answer] at h
      split at h
      · cases h
        exact hw
      · cases h
        intro id vm' hl
        obtain ⟨rfl, rfl⟩ | ⟨-, hl⟩ := lookup_of_insert hl
        · exact hc _ rfl
        · exact hw id vm' hl
  | updateVMStatus id st =>
      rw [answer] at h
      split at h
      · cases h
        exact hw
      · next store hstore =>
          cases h
          intro k vm' hl
          rw [Store.vms_updateVM (ok_of_tryStore hstore) k] at hl
          split at hl
          · obtain ⟨vm, hvm, rfl⟩ := Option.map_eq_some_iff.1 hl
            exact hw id vm hvm
          · exact hw k vm' hl
  | startProcess vmID bin args =>
      rw [answer] at h
      split at h
      · cases h
        exact hw
      · split at h
        · cases h
          exact hw
        · cases h
  | waitExit pid =>
      rw [answer] at h
      split at h
      · cases h
      · cases h
        exact hw
  | queryStatus vmID | kill pid =>
      rw [answer] at h
      split at h <;> cases h <;> exact hw
  | _ =>
      cases h
      exact hw

namespace VMSystem

variable {qCfg : QEMUConfig} {s s' : VMSystem} {a : VMAct}

/-- No process id is in the store, and the operations under way bring none there. -/
structure NoPid (s : VMSystem) : Prop where
  store : s.host.NoPid
  threads : ∀ (k : ℕ) (th : Prog.Thread VMCall VMCall.Resp Unit Unit), s.threads[k]? = some th →
    th.Ok pidless anyEnd

theorem NoPid.start : VMSystem.start.NoPid where
  store _ _ h := by cases h
  threads _ _ h := by cases h

theorem NoPid.step (hs : s.NoPid) (h : s.step qCfg a = some s') : s'.NoPid := by
  cases a with
  | call op =>
      cases h
      exact ⟨hs.store, Machine.forall_concat hs.threads (follows_prog qCfg op)⟩
  | advance k o =>
      obtain ⟨⟨w, ts⟩, hadv, rfl⟩ := Option.map_eq_some_iff.1 h
      obtain ⟨c, f, q, r, hk, hr, -⟩ := Prog.Thread.exists_of_advance hadv
      exact ⟨VMHost.noPid_of_answer hs.store (Prog.Thread.allowed_of_ok hs.threads hk) hr,
        Prog.Thread.forall_ok_of_advance hadv hs.threads⟩
  | exit pid =>
      cases h
      exact ⟨hs.store, hs.threads⟩

theorem NoPid.recover (hs : s.NoPid) {env : RecoverEnv} (hok : env.AllOk) (maxConcurrent : ℤ) :
    (s.recover env maxConcurrent).killed = [] ∧
      ∀ id, (s.recover env maxConcurrent).store.vmStatus id =
        (s.host.store.vmStatus id).map VMStatus.recovered := by
  obtain ⟨hlookup, vms, hvms, hkilled⟩ :=
    recoverState_vms ⟨s.host.store, newScheduler maxConcurrent, []⟩ hok
  refine ⟨?_, fun id => ?_⟩
  · rw [VMSystem.recover, hkilled, List.nil_append, List.filter_eq_nil_iff]
    intro pid hpid
    obtain ⟨vm, hvm, rfl⟩ := List.mem_map.1 hpid
    rw [hs.store vm.id vm ((hvms vm).1 hvm).1]
    simp
  · rw [VMSystem.recover, Store.vmStatus, hlookup id, Store.vmStatus, Option.map_map,
      Option.map_map]
    rfl

end VMSystem

/-- **A recovery takes care of all QEMU processes just when there are none.**  In every state that
operations of the VM manager and registrations of agents lead to, if the orchestrator crashes and
the next one recovers with a store that answers: all processes are sent `SIGKILL` and their records
are set to `ERROR` if and only if no process is alive.  For no process is sent `SIGKILL` at all, and
a record becomes `ERROR` only from `CREATING`, `BOOTING` and `RUNNING_TEST`. -/
theorem orphans_recovered_iff {qCfg : QEMUConfig} {as : List VMAct} {s : VMSystem}
    (h : Machine.run (VMSystem.step qCfg) VMSystem.start as = some s) {env : RecoverEnv}
    (hok : env.AllOk) (maxConcurrent : ℤ) :
    ((∀ p ∈ s.host.processes, p.2 ∈ (s.recover env maxConcurrent).killed ∧
        (s.recover env maxConcurrent).store.vmStatus p.1 = some .error) ↔
      s.host.processes = []) ∧
    (s.recover env maxConcurrent).killed = [] ∧
    ∀ id, (s.recover env maxConcurrent).store.vmStatus id =
      (s.host.store.vmStatus id).map VMStatus.recovered := by
  have hs : s.NoPid :=
    Machine.Reachable.invariant ⟨as, h⟩ .start fun _ _ _ hs h => hs.step h
  obtain ⟨hkilled, hstatus⟩ := hs.recover hok maxConcurrent
  refine ⟨⟨fun hall => ?_, fun hnone => ?_⟩, hkilled, hstatus⟩
  · rw [List.eq_nil_iff_forall_not_mem]
    intro p hp
    have hmem := (hall p hp).1
    rw [hkilled] at hmem
    cases hmem
  · rw [hnone]
    intro p hp
    cases hp

/-- A machine is created and started, and boots. -/
def bootedVM : List VMAct :=
  [.call (.createVM {}), .advance 0 { unix := 1700000000 }, .advance 0 {},
    .call (.startVM "vm-1700000000-1"), .advance 1 {}, .advance 1 {}, .advance 1 {}, .advance 1 {},
    .advance 1 {}, .advance 1 {}, .advance 1 { pid := 4242 }, .advance 1 {}, .advance 1 {},
    .advance 1 {}, .advance 1 { flag := true }, .advance 1 {}]

/-- A machine whose process has ended by itself before the crash. -/
theorem orphans_recovered_iff_ended :
    ∃ s, Machine.run (VMSystem.step {}) VMSystem.start (bootedVM ++ [.exit 4242]) = some s ∧
      ∀ p ∈ s.host.processes, p.2 ∈ (s.recover quietRecovery 4).killed ∧
        (s.recover quietRecovery 4).store.vmStatus p.1 = some .error := by
  have hrun : (Machine.run (VMSystem.step {}) VMSystem.start (bootedVM ++ [.exit 4242])).map
      (·.host.processes) = some [] := by
    decide
  obtain ⟨s, hs, hnone⟩ := Option.map_eq_some_iff.1 hrun
  exact ⟨s, hs, (orphans_recovered_iff hs quietRecovery_allOk 4).1.2 hnone⟩

/-- **A machine that has booted survives the recovery**: its process is not killed, and its record
stays `READY`. -/
theorem recovery_misses_ready_vm :
    (Machine.run (VMSystem.step {}) VMSystem.start bootedVM).map (fun s =>
      (s.host.processes, (s.recover quietRecovery 4).killed,
        (s.recover quietRecovery 4).store.vmStatus "vm-1700000000-1")) =
      some ([("vm-1700000000-1", 4242)], [], some .ready) := by
  decide

end Dvf
