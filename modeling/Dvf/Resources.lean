/-
**What a run takes and gives back** (`internal/core/execution_engine.go`).

An execution takes a share of the budget, creates a machine, enters it into the agent coordinator
and starts it.  Some of this is undone inline when a later step fails, some by deferred functions
that were registered at different points.  This module says what each call takes and gives back, and
proves that every execution ends with nothing in its hands, whatever its calls are answered.

Main definitions:

* `Dvf.Resource`, `Dvf.engineLedger` — resources, and which calls take and give them;
* `Dvf.Held`, `Dvf.engineProtocol` — what an execution holds, and which machines are its own.

Main results:

* `Dvf.Held.follows_executeTestRun` — **an execution gives back what it has taken, only its own, and
  all of it**.
-/

import Dvf.Allocator
import Dvf.Ledger
import Dvf.Scheduler
import Dvf.Threads

set_option autoImplicit false

namespace Dvf

/-! ### The ledger -/

/-- What an execution can hold: a share of the budget, an entry of the coordinator, a machine that
was created, and a machine that was started. -/
inductive Resource
  | budget (alloc : Allocation)
  | entry (vmID : String)
  | machine (vmID : String)
  | started (vmID : String)
  deriving DecidableEq, Repr

/-- **Which calls take and give resources.** -/
def engineLedger : Ledger Call Call.Resp Resource where
  gives
    | .release alloc => {.budget alloc}
    | .unregisterVM vmID => {.entry vmID}
    | .stopVM _ vmID => {.started vmID}
    | .destroyVM _ vmID => {.machine vmID}
    | _ => 0
  takes
    | .tryAcquire alloc, true => {.budget alloc}
    | .registerVM vmID, _ => {.entry vmID}
    | .createVM _, .ok vm => {.machine vm.id}
    | .startVM vmID, .ok _ => {.started vmID}
    | _, _ => 0

/-- The machine that a call is about, for the calls that change what is held of it. -/
def Call.machine : Call → Option String
  | .registerVM vmID => some vmID
  | .unregisterVM vmID => some vmID
  | .startVM vmID => some vmID
  | .stopVM _ vmID => some vmID
  | .destroyVM _ vmID => some vmID
  | _ => none

/-- The machine that an answer hands out. -/
def Call.created : (c : Call) → c.Resp → List String
  | .createVM _, .ok vm => [vm.id]
  | _, _ => []

/-- What an execution holds, and the machines that it has created. -/
structure Held where
  resources : Multiset Resource := 0
  mine : List String := []

/-- **The protocol of an execution**: it gives back only what it holds, and is concerned only with
machines that it has created. -/
def engineProtocol : Protocol Call Call.Resp Held where
  allowed q c := engineLedger.gives c ≤ q.resources ∧ ∀ vmID ∈ c.machine, vmID ∈ q.mine
  next q c r := ⟨engineLedger.protocol.next q.resources c r, q.mine ++ c.created r⟩

namespace Held

variable {e : EngineConfig} {run : TestRun} {device : DeviceEntry} {vm : VMInstance}
  {suite : TestSuite} {q : Held}

/-- What is held together with one more resource. -/
def add (q : Held) (ρ : Resource) : Held := { q with resources := q.resources + {ρ} }

/-- The entry in the coordinator, if there is a coordinator. -/
def addEntry (e : EngineConfig) (q : Held) (vmID : String) : Held :=
  if e.hasCoordinator = true then q.add (.entry vmID) else q

/-! ### An execution keeps its ledger -/

theorem follows_take {c : Call} (hgives : engineLedger.gives c = 0)
    (hmachine : ∀ vmID ∈ c.machine, vmID ∈ q.mine) :
    (call c).Follows engineProtocol
      (fun r q' => q' = ⟨q.resources + engineLedger.takes c r, q.mine ++ c.created r⟩) q := by
  have hallowed : engineProtocol.allowed q c := ⟨by rw [hgives]; exact Multiset.zero_le _, hmachine⟩
  refine (Prog.Follows.perform hallowed).mono fun r q' hq' => ?_
  rw [hq']
  simp [engineProtocol, Ledger.protocol, hgives]

theorem idle_call {c : Call} (hgives : engineLedger.gives c = 0) (hmachine : c.machine = none)
    (htakes : ∀ r, engineLedger.takes c r = 0) (hcreated : ∀ r, c.created r = []) :
    engineProtocol.Idle c := by
  intro q
  refine ⟨⟨by rw [hgives]; exact Multiset.zero_le _, by simp [hmachine]⟩, fun r => ?_⟩
  simp [engineProtocol, Ledger.protocol, hgives, htakes, hcreated]

theorem idle_updateTestRunStatus (id : String) (st : TestRunStatus) (msg : String) :
    engineProtocol.Idle (.updateTestRunStatus id st msg) :=
  idle_call rfl rfl (fun _ => rfl) (fun _ => rfl)

theorem follows_finish {st : TestRunStatus} {msg : String} {r : Except String Unit} :
    (setStatus run st msg >>= fun _ => (pure r : EngineProg (Except String Unit))).Follows
      engineProtocol (fun _ q' => q' = q) q :=
  (calls_finish (idle_updateTestRunStatus _ _ _)).follows_idle q

theorem idle_runTests : (runTests e run device vm suite).Calls engineProtocol.Idle := by
  refine calls_runTests ?_ (fun cmd => ?_) ?_ ?_ (idle_updateTestRunStatus _)
  · exact idle_call rfl rfl (fun _ => rfl) (fun _ => rfl)
  · exact idle_call rfl rfl (fun _ => rfl) (fun _ => rfl)
  · exact idle_call rfl rfl (fun _ => rfl) (fun _ => rfl)
  · exact idle_call rfl rfl (fun _ => rfl) (fun _ => rfl)

theorem follows_give {c : Call} {ρ : Resource} (hgives : engineLedger.gives c = {ρ})
    (hmachine : ∀ vmID ∈ c.machine, vmID ∈ q.mine) (htakes : ∀ r, engineLedger.takes c r = 0)
    (hcreated : ∀ r, c.created r = []) :
    (call c).Follows engineProtocol (fun _ q' => q' = q) (q.add ρ) := by
  have hallowed : engineProtocol.allowed (q.add ρ) c :=
    ⟨by rw [hgives]; exact Multiset.le_add_left _ _, hmachine⟩
  refine (Prog.Follows.perform hallowed).mono fun r q' hq' => ?_
  rw [hq']
  simp [engineProtocol, Ledger.protocol, hgives, htakes, hcreated, add]

theorem follows_tryAcquire {alloc : Allocation} :
    (call (.tryAcquire alloc)).Follows engineProtocol
      (fun acquired q' => match acquired with
        | true => q' = q.add (.budget alloc)
        | false => q' = q) q := by
  refine (follows_take rfl (by simp [Call.machine])).mono fun acquired q' hq' => ?_
  rw [hq']
  cases acquired with
  | true => exact congrArg (Held.mk _) (List.append_nil _)
  | false => exact congrArg₂ Held.mk (add_zero _) (List.append_nil _)

theorem follows_createVM :
    (call (.createVM device)).Follows engineProtocol
      (fun ans q' => match ans with
        | .ok vm => q' = ({ q with mine := q.mine ++ [vm.id] } : Held).add (.machine vm.id)
        | .error _ => q' = q) q := by
  refine (follows_take rfl (by simp [Call.machine])).mono fun ans q' hq' => ?_
  rw [hq']
  cases ans with
  | ok vm => rfl
  | error err => exact congrArg₂ Held.mk (add_zero _) (List.append_nil _)

theorem follows_startVM {vmID : String} (hmine : vmID ∈ q.mine) :
    (call (.startVM vmID)).Follows engineProtocol
      (fun ans q' => match ans with
        | .ok _ => q' = q.add (.started vmID)
        | .error _ => q' = q) q := by
  refine (follows_take rfl ?_).mono fun ans q' hq' => ?_
  · rintro id ⟨⟩
    exact hmine
  · rw [hq']
    cases ans with
    | ok u => exact congrArg (Held.mk _) (List.append_nil _)
    | error err => exact congrArg₂ Held.mk (add_zero _) (List.append_nil _)

theorem follows_registerVM {vmID : String} (hmine : vmID ∈ q.mine) :
    (ifCoordinator e (.registerVM vmID)).Follows engineProtocol
      (fun _ q' => q' = q.addEntry e vmID) q := by
  unfold ifCoordinator addEntry
  split
  · refine Prog.Follows.bind (follows_take rfl ?_) fun r q' hq' => ?_
    · rintro id ⟨⟩
      exact hmine
    · rw [hq']
      exact congrArg (Held.mk _) (List.append_nil _)
  · rfl

theorem follows_unregisterVM {vmID : String} (hmine : vmID ∈ q.mine) :
    (ifCoordinator e (.unregisterVM vmID)).Follows engineProtocol (fun _ q' => q' = q)
      (q.addEntry e vmID) := by
  unfold ifCoordinator addEntry
  split
  · refine Prog.Follows.bind (follows_give rfl ?_ (fun _ => rfl) (fun _ => rfl)) fun _ _ hq' => hq'
    rintro id ⟨⟩
    exact hmine
  · rfl

theorem follows_teardown (hmine : vm.id ∈ q.mine) :
    (teardown e vm).Follows engineProtocol (fun _ q' => q' = q)
      (((q.add (.machine vm.id)).add (.started vm.id)).addEntry e vm.id) := by
  have hid : ∀ id ∈ some vm.id, id ∈ q.mine := by
    rintro id ⟨⟩
    exact hmine
  refine Prog.Follows.bind (follows_unregisterVM hmine) fun _ q₁ hq₁ => ?_
  rw [hq₁]
  refine Prog.Follows.bind (follows_give rfl hid (fun _ => rfl) (fun _ => rfl)) fun _ q₂ hq₂ => ?_
  rw [hq₂]
  exact Prog.Follows.bind (follows_give rfl hid (fun _ => rfl) (fun _ => rfl)) fun _ _ hq₃ => hq₃

theorem mine_addEntry (q : Held) (vmID : String) : (q.addEntry e vmID).mine = q.mine := by
  unfold addEntry
  split <;> rfl

theorem add_addEntry (q : Held) (ρ : Resource) (vmID : String) :
    (q.addEntry e vmID).add ρ = (q.add ρ).addEntry e vmID := by
  unfold addEntry
  split
  · exact congrArg (Held.mk · _) (add_right_comm _ _ _)
  · rfl

/-- The machine is created, entered and started, and all of this is undone: inline if it does not
start, by the teardown if it does. -/
theorem follows_runOnVM :
    (runOnVM e run device suite).Follows engineProtocol
      (fun _ q' => q'.resources = q.resources) q := by
  refine Prog.Follows.bind follows_createVM fun ans q₁ hq₁ => ?_
  cases ans with
  | error err =>
      rw [show q₁ = q from hq₁]
      exact follows_finish.mono fun _ q' hq' => by rw [hq']
  | ok vm =>
      -- the machine is the execution's own from here on
      set own : Held := { q with mine := q.mine ++ [vm.id] } with hown
      have hmine : vm.id ∈ own.mine := by simp [hown]
      have hid : ∀ id ∈ some vm.id, id ∈ own.mine := by
        rintro id ⟨⟩
        exact hmine
      rw [show q₁ = own.add (.machine vm.id) from hq₁]
      refine Prog.Follows.bind (follows_registerVM hmine) fun _ q₂ hq₂ => ?_
      rw [hq₂]
      refine Prog.Follows.bind (follows_startVM ?_) fun ans q₃ hq₃ => ?_
      · rw [mine_addEntry]
        exact hmine
      cases ans with
      | error err =>
          rw [show q₃ = _ from hq₃]
          refine Prog.Follows.bind (follows_unregisterVM hmine) fun _ q₄ hq₄ => ?_
          rw [hq₄]
          refine Prog.Follows.bind (follows_give rfl hid (fun _ => rfl) (fun _ => rfl))
            fun _ q₅ hq₅ => ?_
          rw [hq₅]
          exact follows_finish.mono fun _ q' hq' => by rw [hq', hown]
      | ok u =>
          rw [show q₃ = _ from hq₃, add_addEntry]
          refine idle_runTests.bind_follows fun r => ?_
          exact Prog.Follows.bind (follows_teardown hmine) fun _ q₄ hq₄ => by
            rw [show q₄ = own from hq₄, hown]
            exact rfl

theorem follows_runWithBudget :
    (runWithBudget e run device suite).Follows engineProtocol
      (fun _ q' => q'.resources = q.resources) q := by
  unfold runWithBudget
  cases e.allocator with
  | none => exact follows_runOnVM
  | some alloc =>
      refine Prog.Follows.bind follows_tryAcquire fun acquired q₁ hq₁ => ?_
      cases acquired with
      | true =>
          rw [show q₁ = q.add (.budget alloc) from hq₁]
          refine Prog.Follows.bind follows_runOnVM fun r q₂ hq₂ => ?_
          -- the deferred release comes last
          obtain ⟨res, mine⟩ := q₂
          obtain rfl : res = (q.add (.budget alloc)).resources := hq₂
          refine Prog.Follows.bind (follows_give (q := ⟨q.resources, mine⟩) rfl
            (by simp [Call.machine]) (fun _ => rfl) (fun _ => rfl)) fun _ q₃ hq₃ => ?_
          rw [hq₃]
          exact rfl
      | false =>
          rw [show q₁ = q from hq₁]
          refine (calls_setStatus (idle_updateTestRunStatus _ _ _)).bind_follows fun _ => ?_
          have hlater : engineProtocol.Idle (.submitLater run) :=
            idle_call rfl rfl (fun _ => rfl) (fun _ => rfl)
          exact (Prog.Calls.perform hlater).bind_follows fun _ => rfl

/-- **An execution gives back what it has taken, only its own, and all of it**, whatever its calls
are answered. -/
theorem follows_executeTestRun (e : EngineConfig) (run : TestRun) :
    (executeTestRun e run).Follows engineProtocol (fun _ q' => q'.resources = 0) {} := by
  have hkeep : ∀ {p : EngineProg (Except String Unit)},
      p.Follows engineProtocol (fun _ q' => q' = ({} : Held)) {} →
      p.Follows engineProtocol (fun _ q' => q'.resources = 0) {} :=
    fun h => h.mono fun _ q' hq' => by rw [hq']
  refine (Prog.Calls.perform (idle_updateTestRunStatus _ _ _)).bind_follows fun ans => ?_
  cases ans with
  | error err => exact rfl
  | ok u =>
      have hfind : engineProtocol.Idle (.findDevice run.deviceID) :=
        idle_call rfl rfl (fun _ => rfl) (fun _ => rfl)
      refine (Prog.Calls.perform hfind).bind_follows fun ans => ?_
      cases ans with
      | error err => exact hkeep follows_finish
      | ok device =>
          dsimp only
          split
          · have hload : engineProtocol.Idle (.loadTestSuite run.testSuiteID device) :=
              idle_call rfl rfl (fun _ => rfl) (fun _ => rfl)
            refine (Prog.Calls.perform hload).bind_follows fun ans => ?_
            cases ans with
            | error err => exact hkeep follows_finish
            | ok suite => exact follows_runWithBudget (q := {})
          · exact hkeep follows_finish

end Held

end Dvf
