/-
**A virtual machine is started from its record** (`internal/vm/manager.go`, `CreateVM`, `StartVM`
and `DestroyVM`).

`CreateVM` flattens the configuration of a machine into a record, with the defaults filled in, and
`StartVM` makes a configuration of the record again and builds the arguments of QEMU from that.  The
record has the memory, the processors, the root image and the name of the device, but neither the
kernel nor the shared directory, and an empty device name stands for no device.

So the arguments are those of the configuration exactly when it asks for no other kernel and no
other shared directory than the settings, and its device has a name.  The control socket is always
that of the record, and the overlay is always made of the root image that was asked for, and is the
file that `DestroyVM` removes.

Main definitions:

* `Dvf.VMLog`, `Dvf.startingAs` — what the calls of an operation have read and done, and the
  protocol that says how QEMU is to be started;
* `Dvf.StartedAsCreated` — every machine is started as it was created;
* `Dvf.OverridesKept` — the configurations for which that holds.

Main results:

* `Dvf.buildQEMUArgs_record_iff` — the arguments from the record and from the configuration;
* `Dvf.startedAsCreated_iff` — **machines are started as created exactly for those**.
-/

import Dvf.VMManager

set_option autoImplicit false

namespace Dvf

open Go

/-! ### What is to hold -/

/-- What the calls of an operation have read and done so far. -/
structure VMLog where
  /-- The record that was read. -/
  record : Option VMInstance := none
  /-- The overlays that were made, with their base images. -/
  overlays : List (String × String) := []
  /-- The files that were removed. -/
  removed : List String := []

/-- The log after a call and its answer. -/
def VMLog.next (q : VMLog) : (c : VMCall) → c.Resp → VMLog
  | .getVM _, .ok vm => { q with record := some vm }
  | .createOverlay base path, .ok _ => { q with overlays := (base, path) :: q.overlays }
  | .removeFile path, _ => { q with removed := path :: q.removed }
  | _, _ => q

def logging : Protocol VMCall VMCall.Resp VMLog := ⟨fun _ _ => True, VMLog.next⟩

def VMConfig.rootImage (qCfg : QEMUConfig) (vmCfg : VMConfig) : String :=
  defaultIfZero "" vmCfg.rootFSPath qCfg.rootFSPath

/-- **QEMU is started as the configuration says**: with its arguments, with the control socket of
the record, and with the overlay that was made of its root image and that `DestroyVM` removes. -/
structure StartsAs (qCfg : QEMUConfig) (vmCfg : VMConfig) (vm : VMInstance) (q : VMLog)
    (args : List String) : Prop where
  args_eq : args = buildQEMUArgs qCfg vm.id vmCfg
  socket : ["-qmp", "unix:" ++ vm.qmpSocketPath ++ ",server,wait=off"] <:+: args
  overlay : ∃ overlay, ["-drive", "file=" ++ overlay ++ ",format=qcow2,if=virtio"] <:+: args ∧
    (vmCfg.rootImage qCfg, overlay) ∈ q.overlays ∧
    (destroyVM vm.id).Follows logging (fun _ q' => overlay ∈ q'.removed) {}

/-- **The protocol of `StartVM`** for a machine with the record `vm`: when QEMU is started, a record
was read, and if that is the record but for the status, QEMU is started as the configuration
says. -/
def startingAs (qCfg : QEMUConfig) (vmCfg : VMConfig) (vm : VMInstance) :
    Protocol VMCall VMCall.Resp VMLog where
  allowed
    | q, .startProcess _ _ args => ∃ rec, q.record = some rec ∧
        (rec = { vm with status := rec.status } → StartsAs qCfg vmCfg vm q args)
    | _, _ => True
  next := VMLog.next

/-- **A machine is started as it was created**: whatever record `CreateVM` has returned, `StartVM`
starts it as the configuration says, whatever the answers to its calls are. -/
def StartedAsCreated (qCfg : QEMUConfig) (vmCfg : VMConfig) : Prop :=
  ∀ calls vm, (createVM qCfg vmCfg).Runs calls (.ok vm) →
    (startVM qCfg vm.id).Follows (startingAs qCfg vmCfg vm) (fun _ _ => True) {}

/-- **The configurations that the record keeps**: no other kernel and no other shared directory than
the settings, and a device with a name. -/
def OverridesKept (qCfg : QEMUConfig) (vmCfg : VMConfig) : Prop :=
  (vmCfg.kernelPath = "" ∨ vmCfg.kernelPath = qCfg.kernelPath) ∧
    (vmCfg.shareDir = "" ∨ vmCfg.shareDir = qCfg.shareDir) ∧
    ∀ device, vmCfg.deviceEntry = some device → device.qemuDeviceName ≠ ""

/-! ### The record -/

theorem eq_newInstance_of_runs {qCfg : QEMUConfig} {vmCfg : VMConfig}
    {calls : List ((c : VMCall) × c.Resp)} {vm : VMInstance}
    (h : (createVM qCfg vmCfg).Runs calls (.ok vm)) : vm = newInstance qCfg vmCfg vm.id := by
  cases h with
  | call h =>
      cases h with
      | @call _ _ saved _ _ h =>
          cases saved with
          | error err => cases h
          | ok _ =>
              cases h
              rfl

theorem runs_createVM (qCfg : QEMUConfig) (vmCfg : VMConfig) (vmID : String) :
    ∃ calls, (createVM qCfg vmCfg).Runs calls (.ok (newInstance qCfg vmCfg vmID)) :=
  ⟨[⟨.nextID, vmID⟩, ⟨.saveVM (newInstance qCfg vmCfg vmID), .ok ()⟩], .call (.call (.pure _))⟩

/-! ### The arguments -/

theorem defaultIfZero_self {α : Type} [DecidableEq α] (zero value default : α) :
    defaultIfZero zero (defaultIfZero zero value default) default =
      defaultIfZero zero value default := by
  unfold defaultIfZero
  by_cases h : value = zero
  · simp [h]
  · simp [h]

theorem defaultIfZero_eq_default_iff {value default : String} :
    defaultIfZero "" "" default = defaultIfZero "" value default ↔
      value = "" ∨ value = default := by
  unfold defaultIfZero
  by_cases h : value = ""
  · simp [h]
  · simp [h, eq_comm]

/-- The arguments for the device under test. -/
def deviceArgs (entry : Option DeviceEntry) : List String :=
  entry.elim [] fun device => ["-device", device.qemuDeviceName]

theorem buildQEMUArgs_eq_iff (qCfg : QEMUConfig) (vmID : String) (a b : VMConfig) :
    buildQEMUArgs qCfg vmID a = buildQEMUArgs qCfg vmID b ↔
      defaultIfZero "" a.kernelPath qCfg.kernelPath =
          defaultIfZero "" b.kernelPath qCfg.kernelPath ∧
        toString (defaultIfZero 0 a.memoryMB qCfg.defaultMemoryMB) =
          toString (defaultIfZero 0 b.memoryMB qCfg.defaultMemoryMB) ∧
        toString (defaultIfZero 0 a.cpus qCfg.defaultCPUs) =
          toString (defaultIfZero 0 b.cpus qCfg.defaultCPUs) ∧
        defaultIfZero "" a.shareDir qCfg.shareDir = defaultIfZero "" b.shareDir qCfg.shareDir ∧
        deviceArgs a.deviceEntry = deviceArgs b.deviceEntry := by
  cases ha : a.deviceEntry <;> cases hb : b.deviceEntry <;>
    simp only [buildQEMUArgs, ha, hb, List.cons_append, List.nil_append, List.cons.injEq, true_and,
      String.append_left_inj, String.append_right_inj, deviceArgs, Option.elim_none,
      Option.elim_some]

theorem deviceArgs_record_iff (qCfg : QEMUConfig) (vmCfg : VMConfig) (vmID : String) :
    deviceArgs (newInstance qCfg vmCfg vmID).vmConfig.deviceEntry = deviceArgs vmCfg.deviceEntry ↔
      ∀ device, vmCfg.deviceEntry = some device → device.qemuDeviceName ≠ "" := by
  cases hentry : vmCfg.deviceEntry with
  | none => simp [newInstance, VMInstance.vmConfig, hentry]
  | some device =>
      by_cases hname : device.qemuDeviceName = ""
      · simp [newInstance, VMInstance.vmConfig, hentry, hname, deviceArgs]
      · simp [newInstance, VMInstance.vmConfig, hentry, hname, deviceArgs]

/-- **The arguments from the record** are those of the configuration exactly when the record keeps
what the configuration asks for. -/
theorem buildQEMUArgs_record_iff (qCfg : QEMUConfig) (vmCfg : VMConfig) (vmID : String) :
    buildQEMUArgs qCfg vmID (newInstance qCfg vmCfg vmID).vmConfig =
        buildQEMUArgs qCfg vmID vmCfg ↔ OverridesKept qCfg vmCfg := by
  have hmem : defaultIfZero 0 (newInstance qCfg vmCfg vmID).vmConfig.memoryMB qCfg.defaultMemoryMB =
      defaultIfZero 0 vmCfg.memoryMB qCfg.defaultMemoryMB := defaultIfZero_self _ _ _
  have hcpus : defaultIfZero 0 (newInstance qCfg vmCfg vmID).vmConfig.cpus qCfg.defaultCPUs =
      defaultIfZero 0 vmCfg.cpus qCfg.defaultCPUs := defaultIfZero_self _ _ _
  have hkernel : (newInstance qCfg vmCfg vmID).vmConfig.kernelPath = "" := rfl
  have hshare : (newInstance qCfg vmCfg vmID).vmConfig.shareDir = "" := rfl
  rw [buildQEMUArgs_eq_iff, hmem, hcpus, hkernel, hshare, deviceArgs_record_iff]
  simp only [defaultIfZero_eq_default_iff, true_and, OverridesKept]

/-! ### Starting and destroying -/

theorem socket_infix (qCfg : QEMUConfig) (vmID : String) (vmCfg : VMConfig) :
    ["-qmp", "unix:" ++ qmpSocket qCfg vmID ++ ",server,wait=off"] <:+:
      buildQEMUArgs qCfg vmID vmCfg :=
  ⟨(buildQEMUArgs qCfg vmID vmCfg).take 20, (buildQEMUArgs qCfg vmID vmCfg).drop 22, rfl⟩

theorem overlay_infix (qCfg : QEMUConfig) (vmID : String) (vmCfg : VMConfig) :
    ["-drive", "file=" ++ overlayPath vmID ++ ",format=qcow2,if=virtio"] <:+:
      buildQEMUArgs qCfg vmID vmCfg :=
  ⟨(buildQEMUArgs qCfg vmID vmCfg).take 9, (buildQEMUArgs qCfg vmID vmCfg).drop 11, rfl⟩

theorem clearVM_removes_overlay (vmID : String) (q : VMLog) :
    (clearVM vmID).Follows logging (fun _ q' => overlayPath vmID ∈ q'.removed) q := by
  refine clearVM_follows (fun _ => True) trivial ?_ ?_ ?_
  · exact fun _ _ => ⟨trivial, fun _ => trivial⟩
  · exact fun _ _ _ => ⟨trivial, fun _ => trivial⟩
  · exact fun _ _ => ⟨trivial, fun _ => ⟨trivial, fun _ => List.mem_cons_self⟩⟩

/-- **`DestroyVM` removes the overlay**, whatever the answers to its calls are. -/
theorem destroyVM_removes_overlay (vmID : String) :
    (destroyVM vmID).Follows logging (fun _ q => overlayPath vmID ∈ q.removed) {} := by
  refine Prog.Follows.perform_bind trivial fun r => ?_
  cases r with
  | none => exact clearVM_removes_overlay vmID _
  | some pid =>
      exact Prog.Follows.bind (Prog.follows_of_forall (fun _ _ => trivial) (stopVM vmID) _)
        fun _ q _ => clearVM_removes_overlay vmID q

theorem follows_connectQMP_startingAs (qCfg : QEMUConfig) (vmCfg : VMConfig) (vm : VMInstance)
    (vmID socket : String) (n : ℕ) (err : Option String) (q : VMLog) :
    (connectQMP vmID socket n err).Follows (startingAs qCfg vmCfg vm) (fun _ _ => True) q := by
  have hcalls : (connectQMP vmID socket n err).Calls
      fun c => ∀ q, (startingAs qCfg vmCfg vm).allowed q c :=
    calls_connectQMP (fun _ _ => trivial) (fun _ => trivial) (fun _ => trivial) socket n err
  exact hcalls.follows (fun _ => True) (fun q _ _ hc => hc q) (fun _ _ _ _ _ => trivial) trivial

/-- `StartVM` from the start of the process on. -/
theorem follows_startQEMU_startingAs {qCfg : QEMUConfig} {vmCfg : VMConfig} {vm : VMInstance}
    {vmID socket : String} {vmCfg' : VMConfig} {q : VMLog}
    (hstart : (startingAs qCfg vmCfg vm).allowed q
      (.startProcess vmID qCfg.binaryPath (buildQEMUArgs qCfg vmID vmCfg'))) :
    (startQEMU qCfg vmID socket vmCfg').Follows (startingAs qCfg vmCfg vm) (fun _ _ => True) q := by
  refine Prog.Follows.perform_bind hstart fun r => ?_
  cases r with
  | error err => exact ⟨trivial, fun _ => trivial⟩
  | ok pid =>
      refine Prog.Follows.perform_bind trivial fun _ => ?_
      refine Prog.Follows.bind
        (follows_connectQMP_startingAs qCfg vmCfg vm vmID socket 30 none _) fun r q' _ => ?_
      cases r with
      | error err => trivial
      | ok _ =>
          refine Prog.Follows.perform_bind trivial fun _ => ?_
          refine Prog.Follows.perform_bind trivial fun r => ?_
          rcases r with err | _ | _
          · trivial
          · trivial
          · exact ⟨trivial, fun _ => trivial⟩

/-- **`StartVM` up to the start of the process**: it follows the protocol exactly when the start is
allowed with whatever record was read, and the overlay made of its image. -/
theorem follows_startVM_iff (qCfg : QEMUConfig) (vmCfg : VMConfig) (vm : VMInstance) :
    (startVM qCfg vm.id).Follows (startingAs qCfg vmCfg vm) (fun _ _ => True) {} ↔
      ∀ rec : VMInstance,
        (startingAs qCfg vmCfg vm).allowed
          { record := some rec, removed := [rec.qmpSocketPath],
            overlays := [(defaultIfZero "" rec.imagePath qCfg.rootFSPath, overlayPath vm.id)] }
          (.startProcess vm.id qCfg.binaryPath (buildQEMUArgs qCfg vm.id rec.vmConfig)) := by
  constructor
  · -- every call before it is answered well
    intro h rec
    exact ((((((h.2 (.ok rec)).2 (.ok ())).2 (.ok ())).2 ()).2 (.ok ())).2 (.ok ())).1
  · intro hstart
    refine Prog.Follows.perform_bind trivial fun r => ?_
    rcases r with err | rec
    · trivial
    -- each preparation may fail
    refine Prog.Follows.perform_bind trivial fun r => ?_
    rcases r with err | _
    · trivial
    refine Prog.Follows.perform_bind trivial fun r => ?_
    rcases r with err | _
    · trivial
    refine Prog.Follows.perform_bind trivial fun _ => ?_
    refine Prog.Follows.perform_bind trivial fun r => ?_
    rcases r with err | _
    · trivial
    refine Prog.Follows.perform_bind trivial fun r => ?_
    rcases r with err | _
    · trivial
    exact follows_startQEMU_startingAs (hstart rec)

/-- **A start from the record of a configuration.** -/
theorem follows_startVM_newInstance_iff (qCfg : QEMUConfig) (vmCfg : VMConfig) (vmID : String) :
    (startVM qCfg vmID).Follows (startingAs qCfg vmCfg (newInstance qCfg vmCfg vmID))
        (fun _ _ => True) {} ↔ OverridesKept qCfg vmCfg := by
  rw [← buildQEMUArgs_record_iff qCfg vmCfg vmID]
  refine (follows_startVM_iff qCfg vmCfg (newInstance qCfg vmCfg vmID)).trans
    ⟨fun h => ?_, fun h rec => ?_⟩
  · obtain ⟨rec, hrec, hstarts⟩ := h (newInstance qCfg vmCfg vmID)
    cases hrec
    exact (hstarts rfl).args_eq
  · refine ⟨rec, rfl, fun hrec => ?_⟩
    have hconfig : rec.vmConfig = (newInstance qCfg vmCfg vmID).vmConfig := by
      rw [hrec]
      rfl
    have himage : defaultIfZero "" rec.imagePath qCfg.rootFSPath = vmCfg.rootImage qCfg := by
      rw [hrec]
      exact defaultIfZero_self _ _ _
    rw [hconfig]
    refine ⟨h, socket_infix _ _ _, overlayPath vmID, overlay_infix _ _ _, ?_,
      destroyVM_removes_overlay vmID⟩
    rw [himage]
    exact List.mem_singleton_self _

/-- **Machines are started as they were created** exactly for the configurations that the record
keeps. -/
theorem startedAsCreated_iff (qCfg : QEMUConfig) (vmCfg : VMConfig) :
    StartedAsCreated qCfg vmCfg ↔ OverridesKept qCfg vmCfg := by
  constructor
  · intro h
    obtain ⟨calls, hcalls⟩ := runs_createVM qCfg vmCfg ""
    exact (follows_startVM_newInstance_iff qCfg vmCfg "").1 (h calls _ hcalls)
  · intro h calls vm hcalls
    have hvm := eq_newInstance_of_runs hcalls
    have hfollows := (follows_startVM_newInstance_iff qCfg vmCfg vm.id).2 h
    rwa [← hvm] at hfollows

/-- Settings of QEMU. -/
def qemuSettings : QEMUConfig where
  binaryPath := "/opt/qemu/bin/qemu-system-x86_64"
  kernelPath := "/boot/bzImage"
  rootFSPath := "/images/rootfs.ext4"
  shareDir := "/srv/share"
  defaultMemoryMB := 2048
  defaultCPUs := 2

/-- A machine with a kernel and a shared directory of its own. -/
def testKernel : VMConfig where
  kernelPath := "/boot/test-kernel"
  shareDir := "/tmp/share"

/-- **The overrides that are lost**: the machine is started with the kernel and the shared directory
of the settings. -/
theorem kernel_override_lost :
    ((buildQEMUArgs qemuSettings "vm-1" testKernel).drop 7).take 2 =
        ["-kernel", "/boot/test-kernel"] ∧
      ((buildQEMUArgs qemuSettings "vm-1"
          (newInstance qemuSettings testKernel "vm-1").vmConfig).drop 7).take 2 =
        ["-kernel", "/boot/bzImage"] ∧
      ¬ StartedAsCreated qemuSettings testKernel := by
  refine ⟨by decide +kernel, by decide +kernel, fun h => ?_⟩
  obtain ⟨calls, hcalls⟩ := runs_createVM qemuSettings testKernel "vm-1"
  have hkept := (follows_startVM_newInstance_iff _ _ _).1 (h calls _ hcalls)
  exact absurd hkept.1 (by decide)

end Dvf
