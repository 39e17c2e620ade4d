/-
**Records of virtual machines in both stores** (`internal/storage/memory.go`,
`internal/storage/postgres.go`).

The in-memory store replaces the whole record when a machine is saved again; the database updates
the columns that its `ON CONFLICT` clause lists and keeps the others.  A record without a creation
time gets one in the database only.  Deleting a machine that is not there is an error in the
in-memory store, and not in the database.

The fields that `Dvf.VMInstance` has are those the manager works with; here the record is complete.
As for test runs, what the columns can hold is a parameter.

Main definitions:

* `Dvf.VMRecord`, `Dvf.PgVM` — the record, and the row;
* `Dvf.MemoryVMs`, `Dvf.PgVMs` — the two stores and their operations;
* `Dvf.VMPair` — calls that are made to both;
* `Dvf.VMPair.Kept` — the condition on a call.

Main results:

* `Dvf.PgVM.toRecord_insert_iff`, `Dvf.PgVM.toRecord_onConflict_iff` — when a saved record is read
  back from the database as it was;
* `Dvf.MemoryVMs.Projects` — the in-memory store of machines is the one of `Dvf.Store`;
* `Dvf.vm_stores_agree_iff` — **the stores agree after every call if and only if every call meets
  the condition**.
-/

import Dvf.Machine
import Dvf.Postgres

set_option autoImplicit false

namespace Dvf

open Go

/-! ### Records and rows -/

/-- The health state of a guest agent. -/
inductive AgentStatus
  | unknown
  | initializing
  | ready
  | executing
  | reporting
  | dead
  deriving DecidableEq, Repr

/-- The whole record of a machine.  A zero creation time is `none`. -/
structure VMRecord extends VMInstance where
  serialPorts : List String := []
  overlayPath : String := ""
  createdAt : Option ℤ := none
  agentStatus : AgentStatus := .unknown
  lastHeartbeat : Option ℤ := none
  currentTestRunID : String := ""
  deriving DecidableEq, Repr

/-- The fields that the database does not update are the same. -/
def VMRecord.SameFixed (vm old : VMRecord) : Prop :=
  vm.deviceID = old.deviceID ∧ vm.qemuDeviceName = old.qemuDeviceName ∧
    vm.allocatedCPUs = old.allocatedCPUs ∧ vm.allocatedMemMB = old.allocatedMemMB ∧
    vm.imagePath = old.imagePath ∧ vm.overlayPath = old.overlayPath ∧ vm.createdAt = old.createdAt

/-- A row of `vms`. -/
structure PgVM where
  id : String
  status : VMStatus
  deviceID : String
  qemuDeviceName : Option String
  qmpSocketPath : Option String
  serialPorts : List String
  pid : ℤ
  allocatedCPUs : ℤ
  allocatedMemMB : ℤ
  imagePath : Option String
  overlayPath : Option String
  createdAt : ℤ
  agentStatus : AgentStatus
  lastHeartbeat : Option ℤ
  currentTestRunID : Option String
  deriving DecidableEq, Repr

namespace PgVM

/-- The row that `INSERT` makes of a record at time `now`. -/
def insert (ty : PgColumns) (now : ℤ) (vm : VMRecord) : PgVM where
  id := vm.id
  status := vm.status
  deviceID := vm.deviceID
  qemuDeviceName := nullableStr vm.qemuDeviceName
  qmpSocketPath := nullableStr vm.qmpSocketPath
  serialPorts := vm.serialPorts
  pid := vm.pid
  allocatedCPUs := vm.allocatedCPUs
  allocatedMemMB := vm.allocatedMemMB
  imagePath := nullableStr vm.imagePath
  overlayPath := nullableStr vm.overlayPath
  createdAt := ty.timestamptz (vm.createdAt.getD now)
  agentStatus := vm.agentStatus
  lastHeartbeat := vm.lastHeartbeat.map ty.timestamptz
  currentTestRunID := nullableStr vm.currentTestRunID

/-- Every column can hold its value. -/
def accepted (ty : PgColumns) (row : PgVM) : Bool :=
  ty.text row.id && ty.text row.deviceID && row.qemuDeviceName.all ty.text &&
    row.qmpSocketPath.all ty.text && row.serialPorts.all ty.text && ty.int4 row.pid &&
    ty.int4 row.allocatedCPUs && ty.int4 row.allocatedMemMB && row.imagePath.all ty.text &&
    row.overlayPath.all ty.text && row.currentTestRunID.all ty.text

theorem text_id_of_accepted {ty : PgColumns} {row : PgVM} (h : row.accepted ty = true) :
    ty.text row.id = true := by
  simp only [accepted, Bool.and_eq_true] at h
  exact h.1.1.1.1.1.1.1.1.1.1

/-- The row after `ON CONFLICT (id) DO UPDATE`. -/
def onConflict (old excluded : PgVM) : PgVM :=
  { old with
    status := excluded.status
    qmpSocketPath := excluded.qmpSocketPath
    serialPorts := excluded.serialPorts
    pid := excluded.pid
    agentStatus := excluded.agentStatus
    lastHeartbeat := excluded.lastHeartbeat
    currentTestRunID := excluded.currentTestRunID }

/-- The columns as `SELECT` reads them into a record. -/
def toRecord (row : PgVM) : VMRecord where
  id := row.id
  status := row.status
  deviceID := row.deviceID
  pid := row.pid
  qemuDeviceName := row.qemuDeviceName.getD ""
  qmpSocketPath := row.qmpSocketPath.getD ""
  allocatedCPUs := row.allocatedCPUs
  allocatedMemMB := row.allocatedMemMB
  imagePath := row.imagePath.getD ""
  serialPorts := row.serialPorts
  overlayPath := row.overlayPath.getD ""
  createdAt := some row.createdAt
  agentStatus := row.agentStatus
  lastHeartbeat := row.lastHeartbeat
  currentTestRunID := row.currentTestRunID.getD ""

end PgVM

/-! ### The stores -/

/-- `MemoryStore.vms`. -/
abbrev MemoryVMs := GoMap String VMRecord

namespace MemoryVMs

/-- `SaveVM`, of a machine that has an id. -/
def saveVM (m : MemoryVMs) (vm : VMRecord) : Except String MemoryVMs := .ok (m.insert vm.id vm)

/-- `GetVM`. -/
def getVM (m : MemoryVMs) (id : String) : Except String VMRecord :=
  (m.lookup id).elim (.error ("vm " ++ quote id ++ " not found")) .ok

/-- `UpdateVMStatus`. -/
def updateVMStatus (m : MemoryVMs) (id : String) (status : VMStatus) : Except String MemoryVMs :=
  (m.lookup id).elim (.error ("vm " ++ quote id ++ " not found")) fun vm =>
    .ok (m.insert id { vm with status := status })

/-- `DeleteVM`. -/
def deleteVM (m : MemoryVMs) (id : String) : Except String MemoryVMs :=
  (m.lookup id).elim (.error ("vm " ++ quote id ++ " not found")) fun _ => .ok (m.erase id)

end MemoryVMs

theorem keyed_erase {ν : Type} {key : ν → String} {m : GoMap String ν}
    (h : ∀ k v, m.lookup k = some v → key v = k) {k : String} :
    ∀ k' v', (m.erase k).lookup k' = some v' → key v' = k' := by
  intro k' v' hv'
  by_cases heq : k' = k
  · subst heq
    rw [AList.lookup_erase] at hv'
    cases hv'
  · rw [AList.lookup_erase_ne heq] at hv'
    exact h k' v' hv'

/-- The table `vms` by its primary key, which is a text that the column can hold. -/
structure PgVMs (ty : PgColumns) where
  rows : GoMap String PgVM
  text : ∀ id ∈ rows, ty.text id = true
  keyed : ∀ id row, rows.lookup id = some row → row.id = id

namespace PgVMs

variable {ty : PgColumns}

/-- Writing a row under a key. -/
def insertRow (s : PgVMs ty) (id : String) (row : PgVM) (hid : ty.text id = true)
    (hrow : row.id = id) : PgVMs ty where
  rows := s.rows.insert id row
  keyed := keyed_insert s.keyed hrow
  text := by
    intro id' h
    rw [AList.mem_insert] at h
    obtain rfl | h := h
    · exact hid
    · exact s.text id' h

/-- The row under the id of a machine after `INSERT .. ON CONFLICT DO UPDATE`. -/
def upserted (s : PgVMs ty) (now : ℤ) (vm : VMRecord) : PgVM :=
  (s.rows.lookup vm.id).elim (.insert ty now vm) fun old => old.onConflict (.insert ty now vm)

theorem id_upserted (s : PgVMs ty) (now : ℤ) (vm : VMRecord) : (s.upserted now vm).id = vm.id := by
  unfold upserted
  cases h : s.rows.lookup vm.id with
  | none => rfl
  | some old => exact s.keyed vm.id old h

/-- `SaveVM`. -/
def saveVM (s : PgVMs ty) (now : ℤ) (vm : VMRecord) : Except String (PgVMs ty) :=
  if h : (PgVM.insert ty now vm).accepted ty = true then
    .ok (s.insertRow vm.id (s.upserted now vm) (PgVM.text_id_of_accepted h) (s.id_upserted now vm))
  else .error ty.rejected

/-- `GetVM`. -/
def getVM (s : PgVMs ty) (id : String) : Except String VMRecord :=
  if ty.text id = true then
    (s.rows.lookup id).elim (.error ("vm " ++ quote id ++ " not found")) fun row => .ok row.toRecord
  else .error ("querying vm: " ++ ty.rejected)

/-- `UpdateVMStatus`: no row is affected if none has this id. -/
def updateVMStatus (s : PgVMs ty) (id : String) (status : VMStatus) : Except String (PgVMs ty) :=
  if htext : ty.text id = true then
    match h : s.rows.lookup id with
    | some row => .ok (s.insertRow id { row with status := status } htext (s.keyed id row h))
    | none => .error ("vm " ++ quote id ++ " not found")
  else .error ("updating vm status: " ++ ty.rejected)

/-- `DeleteVM`. -/
def deleteVM (s : PgVMs ty) (id : String) : Except String (PgVMs ty) :=
  if ty.text id = true then
    .ok { rows := s.rows.erase id
          text := fun id' h => s.text id' (AList.mem_erase.1 h).2
          keyed := keyed_erase s.keyed }
  else .error ty.rejected

end PgVMs

/-! ### Calls to both stores -/

structure VMPair (ty : PgColumns) where
  mem : MemoryVMs
  pg : PgVMs ty

/-- A call that is made to both. -/
inductive VMStoreAct
  | save (now : ℤ) (vm : VMRecord)
  | update (id : String) (status : VMStatus)
  | delete (id : String)
  deriving DecidableEq, Repr

namespace VMPair

variable {ty : PgColumns}

def start (ty : PgColumns) : VMPair ty where
  mem := ∅
  pg :=
    { rows := ∅
      text := fun _ h => absurd h (AList.notMem_empty _)
      keyed := fun _ _ h => by rw [AList.lookup_empty] at h; cases h }

/-- The call to the in-memory store. -/
def callMemory (s : VMPair ty) : VMStoreAct → Except String MemoryVMs
  | .save _ vm => s.mem.saveVM vm
  | .update id status => s.mem.updateVMStatus id status
  | .delete id => s.mem.deleteVM id

/-- The call to the database. -/
def callPostgres (s : VMPair ty) : VMStoreAct → Except String (PgVMs ty)
  | .save now vm => s.pg.saveVM now vm
  | .update id status => s.pg.updateVMStatus id status
  | .delete id => s.pg.deleteVM id

/-- The stores after a call; a call that fails leaves its store as it is. -/
def next (s : VMPair ty) (a : VMStoreAct) : VMPair ty where
  mem := (s.callMemory a).toOption.getD s.mem
  pg := (s.callPostgres a).toOption.getD s.pg

/-- A call succeeds in both stores or fails in both. -/
def SameResult (s : VMPair ty) (a : VMStoreAct) : Prop :=
  (s.callMemory a).isOk = (s.callPostgres a).isOk

/-- The stores return the same record for every id, or none. -/
def Agree (s : VMPair ty) : Prop :=
  ∀ id, (s.mem.getVM id).toOption = (s.pg.getVM id).toOption

/-- After each of the calls, its result was the same and the stores agree. -/
def AgreeAlong : VMPair ty → List VMStoreAct → Prop
  | _, [] => True
  | s, a :: as => s.SameResult a ∧ (s.next a).Agree ∧ AgreeAlong (s.next a) as

/-- **The condition on a call.**  A record is saved only with values that the columns can hold; a
new one has a creation time, and one that is saved again keeps the fields that the database does not
update.  Only machines that are there are deleted. -/
def Kept (s : VMPair ty) : VMStoreAct → Prop
  | .save now vm =>
      (PgVM.insert ty now vm).accepted ty = true ∧
        vm.lastHeartbeat.map ty.timestamptz = vm.lastHeartbeat ∧
        (s.mem.lookup vm.id).elim
          (vm.createdAt ≠ none ∧ vm.createdAt.map ty.timestamptz = vm.createdAt) vm.SameFixed
  | .update _ _ => True
  | .delete id => s.mem.lookup id ≠ none ∨ ty.text id = false

end VMPair

/-! ### A record and its row -/

namespace PgVM

variable {ty : PgColumns} {now : ℤ} {vm : VMRecord}

theorem getD_nullableStr (s : String) : (nullableStr s).getD "" = s := by
  unfold nullableStr
  split
  · next h => exact h.symm
  · rfl

theorem toRecord_insert_iff : (insert ty now vm).toRecord = vm ↔
    (vm.createdAt ≠ none ∧ vm.createdAt.map ty.timestamptz = vm.createdAt) ∧
      vm.lastHeartbeat.map ty.timestamptz = vm.lastHeartbeat := by
  have hfields : (insert ty now vm).toRecord =
      { vm with
        createdAt := some (ty.timestamptz (vm.createdAt.getD now))
        lastHeartbeat := vm.lastHeartbeat.map ty.timestamptz } := by
    simp only [toRecord, insert, getD_nullableStr]
  rw [hfields]
  obtain ⟨vm₀, ports, overlay, created, agent, heartbeat, run⟩ := vm
  cases created with
  | none => simp
  | some t => simp

/-- A record that is saved again is read back as it was if it has the old values in the fields that
are not updated. -/
theorem toRecord_onConflict_iff {old : PgVM} (hid : old.id = vm.id) :
    (old.onConflict (insert ty now vm)).toRecord = vm ↔
      vm.lastHeartbeat.map ty.timestamptz = vm.lastHeartbeat ∧ vm.SameFixed old.toRecord := by
  have hfields : (old.onConflict (insert ty now vm)).toRecord =
      { vm with
        deviceID := old.toRecord.deviceID
        qemuDeviceName := old.toRecord.qemuDeviceName
        allocatedCPUs := old.toRecord.allocatedCPUs
        allocatedMemMB := old.toRecord.allocatedMemMB
        imagePath := old.toRecord.imagePath
        overlayPath := old.toRecord.overlayPath
        createdAt := old.toRecord.createdAt
        lastHeartbeat := vm.lastHeartbeat.map ty.timestamptz } := by
    simp only [toRecord, onConflict, insert, getD_nullableStr, hid]
  rw [hfields]
  obtain ⟨⟨id, status, device, pid, qemu, qmp, cpus, mem, image⟩, ports, overlay, created, agent,
    heartbeat, run⟩ := vm
  simp only [VMRecord.mk.injEq, VMInstance.mk.injEq, VMRecord.SameFixed, true_and, and_true]
  constructor
  · rintro ⟨⟨h₁, h₂, h₃, h₄, h₅⟩, h₆, h₇, h₈⟩
    exact ⟨h₈, h₁.symm, h₂.symm, h₃.symm, h₄.symm, h₅.symm, h₆.symm, h₇.symm⟩
  · rintro ⟨h₈, h₁, h₂, h₃, h₄, h₅, h₆, h₇⟩
    exact ⟨⟨h₁.symm, h₂.symm, h₃.symm, h₄.symm, h₅.symm⟩, h₆.symm, h₇.symm, h₈⟩

end PgVM

/-! ### One call -/

namespace PgVMs

variable {ty : PgColumns} {s : PgVMs ty} {id : String}

theorem exists_updateVMStatus {row : PgVM} (h : s.rows.lookup id = some row) (status : VMStatus) :
    ∃ s', s.updateVMStatus id status = .ok s' ∧
      s'.rows = s.rows.insert id { row with status := status } := by
  have htext : ty.text id = true := s.text id (AList.lookup_isSome.1 (by rw [h]; rfl))
  unfold updateVMStatus
  rw [dif_pos htext]
  split
  · next row' hrow =>
      rw [hrow] at h
      cases h
      exact ⟨_, rfl, rfl⟩
  · next hnone =>
      rw [hnone] at h
      cases h

theorem exists_updateVMStatus_error (h : s.rows.lookup id = none) (status : VMStatus) :
    ∃ err, s.updateVMStatus id status = .error err := by
  unfold updateVMStatus
  split
  · split
    · next row hrow =>
        rw [hrow] at h
        cases h
    · exact ⟨_, rfl⟩
  · exact ⟨_, rfl⟩

end PgVMs

namespace VMPair

variable {ty : PgColumns} {s : VMPair ty}

theorem getVM_memory (m : MemoryVMs) (id : String) : (m.getVM id).toOption = m.lookup id := by
  unfold MemoryVMs.getVM
  cases m.lookup id <;> rfl

theorem getVM_postgres (pg : PgVMs ty) (id : String) :
    (pg.getVM id).toOption = (pg.rows.lookup id).map PgVM.toRecord := by
  unfold PgVMs.getVM
  split
  · cases pg.rows.lookup id <;> rfl
  · next htext =>
      have hnone : pg.rows.lookup id = none :=
        AList.lookup_eq_none.2 fun h => htext (pg.text id h)
      rw [hnone]
      rfl

theorem agree_iff : s.Agree ↔ ∀ id, s.mem.lookup id = (s.pg.rows.lookup id).map PgVM.toRecord := by
  simp only [Agree, getVM_memory, getVM_postgres]

/-- Stores that agree still do after a write under one id if what is written is the same. -/
theorem agree_insert_iff {mem : MemoryVMs} {rows : GoMap String PgVM}
    (h : ∀ id, mem.lookup id = (rows.lookup id).map PgVM.toRecord) (id : String) (vm : VMRecord)
    (row : PgVM) :
    (∀ k, (mem.insert id vm).lookup k = ((rows.insert id row).lookup k).map PgVM.toRecord) ↔
      row.toRecord = vm := by
  constructor
  · intro hall
    have hid := hall id
    rw [AList.lookup_insert, AList.lookup_insert, Option.map_some] at hid
    exact (Option.some.inj hid).symm
  · rintro rfl k
    by_cases hk : k = id
    · subst hk
      rw [AList.lookup_insert, AList.lookup_insert, Option.map_some]
    · rw [AList.lookup_insert_ne hk, AList.lookup_insert_ne hk]
      exact h k

/-- Saving a machine. -/
theorem save_iff (hs : s.Agree) (now : ℤ) (vm : VMRecord) :
    s.SameResult (.save now vm) ∧ (s.next (.save now vm)).Agree ↔ s.Kept (.save now vm) := by
  rw [agree_iff] at hs ⊢
  rw [SameResult, Kept]
  by_cases hacc : (PgVM.insert ty now vm).accepted ty = true
  · have hmem : (s.next (.save now vm)).mem = s.mem.insert vm.id vm := rfl
    have hpg : s.callPostgres (.save now vm) = .ok (s.pg.insertRow vm.id (s.pg.upserted now vm)
        (PgVM.text_id_of_accepted hacc) (s.pg.id_upserted now vm)) := dif_pos hacc
    have hrows : (s.next (.save now vm)).pg.rows =
        s.pg.rows.insert vm.id (s.pg.upserted now vm) := by
      rw [next, hpg]
      rfl
    rw [hmem, hrows, hpg, agree_insert_iff hs, hs vm.id]
    -- whether there is a row already decides which columns are written
    have hrow : (s.pg.upserted now vm).toRecord = vm ↔
        vm.lastHeartbeat.map ty.timestamptz = vm.lastHeartbeat ∧
          ((s.pg.rows.lookup vm.id).map PgVM.toRecord).elim
            (vm.createdAt ≠ none ∧ vm.createdAt.map ty.timestamptz = vm.createdAt)
            vm.SameFixed := by
      unfold PgVMs.upserted
      cases hold : s.pg.rows.lookup vm.id with
      | none => exact PgVM.toRecord_insert_iff.trans and_comm
      | some old => exact PgVM.toRecord_onConflict_iff (s.pg.keyed vm.id old hold)
    rw [hrow]
    exact ⟨fun h => ⟨hacc, h.2⟩, fun h => ⟨rfl, h.2⟩⟩
  · have hpg : s.callPostgres (.save now vm) = .error ty.rejected := dif_neg hacc
    rw [hpg]
    constructor
    · rintro ⟨h, _⟩
      cases h
    · exact fun h => absurd h.1 hacc

/-- Writing a status: the stores always agree about it. -/
theorem update_agrees (hs : s.Agree) (id : String) (status : VMStatus) :
    s.SameResult (.update id status) ∧ (s.next (.update id status)).Agree := by
  rw [agree_iff] at hs ⊢
  have hvm := hs id
  cases hrow : s.pg.rows.lookup id with
  | none =>
      rw [hrow] at hvm
      have hmem : s.callMemory (.update id status) =
          .error ("vm " ++ quote id ++ " not found") := by
        rw [callMemory, MemoryVMs.updateVMStatus, hvm]
        rfl
      obtain ⟨err, hpg⟩ := PgVMs.exists_updateVMStatus_error hrow status
      have hpg' : s.callPostgres (.update id status) = .error err := hpg
      rw [SameResult, next, hmem, hpg']
      exact ⟨rfl, hs⟩
  | some row =>
      rw [hrow] at hvm
      have hmem : s.callMemory (.update id status) =
          .ok (s.mem.insert id { row.toRecord with status := status }) := by
        rw [callMemory, MemoryVMs.updateVMStatus, hvm]
        rfl
      obtain ⟨pg, hpg, hrows⟩ := PgVMs.exists_updateVMStatus hrow status
      have hpg' : s.callPostgres (.update id status) = .ok pg := hpg
      rw [SameResult, next, hmem, hpg']
      refine ⟨rfl, ?_⟩
      change ∀ k, (s.mem.insert id _).lookup k = (pg.rows.lookup k).map PgVM.toRecord
      rw [hrows]
      exact (agree_insert_iff hs id _ _).2 rfl

/-- Deleting a machine. -/
theorem delete_iff (hs : s.Agree) (id : String) :
    s.SameResult (.delete id) ∧ (s.next (.delete id)).Agree ↔ s.Kept (.delete id) := by
  have hlookup := agree_iff.1 hs
  rw [agree_iff, Kept]
  cases hvm : s.mem.lookup id with
  | none =>
      have hmem : s.callMemory (.delete id) = .error ("vm " ++ quote id ++ " not found") := by
        rw [callMemory, MemoryVMs.deleteVM, hvm]
        rfl
      by_cases htext : ty.text id = true
      · have hpg : (s.callPostgres (.delete id)).isOk = true := by
          rw [callPostgres, PgVMs.deleteVM, if_pos htext]
          rfl
        rw [SameResult, hmem, hpg, htext]
        simp [Except.isOk, Except.toBool]
      · have hpg : s.callPostgres (.delete id) = .error ty.rejected := if_neg htext
        rw [SameResult, next, hmem, hpg]
        exact iff_of_true ⟨rfl, hlookup⟩ (.inr (Bool.not_eq_true _ ▸ htext))
  | some vm =>
      obtain ⟨row, hrow, _⟩ := Option.map_eq_some_iff.1 ((hlookup id).symm.trans hvm)
      have htext : ty.text id = true := s.pg.text id (AList.lookup_isSome.1 (by rw [hrow]; rfl))
      have hmem : s.callMemory (.delete id) = .ok (s.mem.erase id) := by
        rw [callMemory, MemoryVMs.deleteVM, hvm]
        rfl
      obtain ⟨pg, hpg, hrows⟩ : ∃ pg, s.callPostgres (.delete id) = .ok pg ∧
          pg.rows = s.pg.rows.erase id := ⟨_, if_pos htext, rfl⟩
      refine iff_of_true ?_ (.inl (Option.some_ne_none vm))
      rw [SameResult, next, hmem, hpg]
      refine ⟨rfl, fun k => ?_⟩
      change (s.mem.erase id).lookup k = (pg.rows.lookup k).map PgVM.toRecord
      rw [hrows]
      by_cases hk : k = id
      · subst hk
        rw [AList.lookup_erase, AList.lookup_erase]
        rfl
      · rw [AList.lookup_erase_ne hk, AList.lookup_erase_ne hk]
        exact hlookup k

/-- **One call to stores that agree**: the result is the same and the stores still agree if and only
if the call meets the condition. -/
theorem call_iff (hs : s.Agree) (a : VMStoreAct) :
    s.SameResult a ∧ (s.next a).Agree ↔ s.Kept a := by
  cases a with
  | save now vm => exact save_iff hs now vm
  | update id status => exact iff_of_true (update_agrees hs id status) trivial
  | delete id => exact delete_iff hs id

def step (s : VMPair ty) (a : VMStoreAct) : Option (VMPair ty) := some (s.next a)

theorem agree_start (ty : PgColumns) : (start ty).Agree := by
  rw [agree_iff]
  intro id
  have hmem : (start ty).mem.lookup id = none := AList.lookup_empty id
  have hpg : (start ty).pg.rows.lookup id = none := AList.lookup_empty id
  rw [hmem, hpg]
  rfl

/-- Stores agree along the calls if and only if each call meets the condition. -/
theorem agreeAlong_iff (hs : s.Agree) (as : List VMStoreAct) :
    AgreeAlong s as ↔ Machine.Obeys step Kept s as := by
  induction as generalizing s with
  | nil => exact Iff.rfl
  | cons a as ih =>
      rw [AgreeAlong, Machine.Obeys]
      constructor
      · rintro ⟨hsame, hagree, hrest⟩
        refine ⟨(call_iff hs a).1 ⟨hsame, hagree⟩, fun s' hs' => ?_⟩
        cases hs'
        exact (ih hagree).1 hrest
      · rintro ⟨hkept, hrest⟩
        obtain ⟨hsame, hagree⟩ := (call_iff hs a).2 hkept
        exact ⟨hsame, hagree, (ih hagree).2 (hrest _ rfl)⟩

end VMPair

/-- **The stores agree about machines after every call if and only if every call meets the
condition**, for every sequence of calls. -/
theorem vm_stores_agree_iff (ty : PgColumns) (as : List VMStoreAct) :
    VMPair.AgreeAlong (.start ty) as ↔ Machine.Obeys VMPair.step VMPair.Kept (.start ty) as :=
  VMPair.agreeAlong_iff (VMPair.agree_start ty) as

/-- A machine is saved for another device: the in-memory store has the new device, the database the
old one.  A machine that is not there is deleted without an error in the database only. -/
theorem vm_stores_disagree_after_second_save :
    let vm : VMRecord :=
      { id := "vm-1", status := .creating, deviceID := "gpgpu", createdAt := some 1000 }
    let s := ((VMPair.start postgres16Columns).next (.save 0 vm)).next
      (.save 0 { vm with deviceID := "edge-npu" })
    (s.mem.getVM "vm-1").toOption = some { vm with deviceID := "edge-npu" } ∧
      (s.pg.getVM "vm-1").toOption = some vm ∧
      (s.callMemory (.delete "vm-2")).isOk = false ∧
      (s.callPostgres (.delete "vm-2")).isOk = true := by
  decide

/-! ### The store of the manager -/

namespace MemoryVMs

variable {m : MemoryVMs} {s : Store}

/-- The machines of the store that the manager works with are the whole records without the fields
that it does not use. -/
def Projects (m : MemoryVMs) (s : Store) : Prop :=
  ∀ id, s.vms.lookup id = (m.lookup id).map VMRecord.toVMInstance

theorem Projects.saveVM (h : m.Projects s) (vm : VMRecord) :
    ∃ m', m.saveVM vm = .ok m' ∧ m'.Projects (s.saveVM vm.toVMInstance) := by
  refine ⟨_, rfl, fun id => ?_⟩
  rw [Store.saveVM, Store.insertVM]
  by_cases hid : id = vm.id
  · subst hid
    rw [AList.lookup_insert, AList.lookup_insert, Option.map_some]
  · rw [AList.lookup_insert_ne hid, AList.lookup_insert_ne hid]
    exact h id

theorem Projects.updateVMStatus (h : m.Projects s) {id : String} {status : VMStatus} {s' : Store}
    (hs' : s.updateVMStatus id status = .ok s') :
    ∃ m', m.updateVMStatus id status = .ok m' ∧ m'.Projects s' := by
  have hlookup := Store.vms_updateVM hs'
  cases hvm : m.lookup id with
  | none =>
      have hnone := h id
      rw [hvm] at hnone
      unfold Store.updateVMStatus at hs'
      split at hs'
      · next vm hvm' => cases hnone.symm.trans hvm'
      · cases hs'
  | some vm =>
      refine ⟨m.insert id { vm with status := status }, ?_, fun k => ?_⟩
      · rw [MemoryVMs.updateVMStatus, hvm]
        rfl
      · rw [hlookup]
        by_cases hk : k = id
        · subst hk
          rw [if_pos rfl, h, hvm, AList.lookup_insert]
          rfl
        · rw [if_neg hk, AList.lookup_insert_ne hk]
          exact h k

end MemoryVMs

end Dvf
