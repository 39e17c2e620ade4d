/-
**The VM manager** (`internal/vm/manager.go`) and the registration of agents
(`internal/api/agent_server.go`).

`CreateVM` stores a record, `StartVM` starts a QEMU process for it and connects to its control
socket, `StopVM` asks the process to power down and kills it if it does not, `DestroyVM` stops the
machine and marks the record.  The guest's agent announces itself through `RegisterAgent`.  All of
them are programs over the calls to the store, to the operating system, to the control socket and to
the manager's own map, so that calls of different operations can be interleaved.  Logging, the
permissions of directories and the log file of the process are left out.

Main definitions:

* `Dvf.QEMUConfig`, `Dvf.VMConfig` — the configuration, as far as it is used here;
* `Dvf.VMCall`, `Dvf.VMProg` — calls, and programs that make them;
* `Dvf.buildQEMUArgs` — the arguments of QEMU;
* `Dvf.createVM`, `Dvf.startVM`, `Dvf.stopVM`, `Dvf.destroyVM`, `Dvf.registerAgent`;
* `Dvf.calls_startVM`, `Dvf.calls_stopVM` — which calls starting and stopping a machine makes.
-/

import Dvf.Prog
import Dvf.Store

set_option autoImplicit false

namespace Dvf

open Go

/-! ### Configuration -/

/-- The settings of QEMU. -/
structure QEMUConfig where
  binaryPath : String := ""
  dataDir : String := ""
  kernelPath : String := ""
  rootFSPath : String := ""
  shareDir : String := ""
  defaultMemoryMB : ℤ := 0
  defaultCPUs : ℤ := 0
  socketDir : String := ""
  deriving DecidableEq, Repr

/-- What a machine is asked to be; `0` and the empty string stand for the defaults. -/
structure VMConfig where
  deviceEntry : Option DeviceEntry := none
  memoryMB : ℤ := 0
  cpus : ℤ := 0
  kernelPath : String := ""
  rootFSPath : String := ""
  shareDir : String := ""
  deriving DecidableEq, Repr

/-- A value, or the default in place of the zero value. -/
def defaultIfZero {α : Type} [DecidableEq α] (zero value default : α) : α :=
  if value = zero then default else value

def qmpSocket (qCfg : QEMUConfig) (vmID : String) : String :=
  pathJoin [defaultIfZero "" qCfg.socketDir "/tmp/dvf/qmp", vmID ++ ".sock"]

/-- The overlay of a machine's root image. -/
def overlayPath (vmID : String) : String := pathJoin ["/tmp/dvf/overlays", vmID ++ ".qcow2"]

/-- `BuildQEMUArgs`. -/
def buildQEMUArgs (qCfg : QEMUConfig) (vmID : String) (vmCfg : VMConfig) : List String :=
  let memMB := defaultIfZero 0 vmCfg.memoryMB qCfg.defaultMemoryMB
  let cpus := defaultIfZero 0 vmCfg.cpus qCfg.defaultCPUs
  let kernelPath := defaultIfZero "" vmCfg.kernelPath qCfg.kernelPath
  let shareDir := defaultIfZero "" vmCfg.shareDir qCfg.shareDir
  let agentSocket := pathJoin ["/tmp/dvf/agent", vmID ++ ".sock"]
  let dataDir := defaultIfZero "" qCfg.dataDir
    (pathJoin [pathDir (pathDir qCfg.binaryPath), "share", "qemu"])
  ["-L", dataDir,
    "-machine", "q35",
    "-enable-kvm",
    "-cpu", "host",
    "-kernel", kernelPath,
    "-drive", "file=" ++ overlayPath vmID ++ ",format=qcow2,if=virtio",
    "-append", "root=/dev/vda console=ttyS0 rw init=/dvf-init dvf_vm_id=" ++ vmID,
    "-m", toString memMB,
    "-smp", toString cpus,
    "-nographic",
    "-virtfs", "local,path=" ++ shareDir ++ ",mount_tag=hostshare,security_model=none,id=hostshare",
    "-qmp", "unix:" ++ qmpSocket qCfg vmID ++ ",server,wait=off",
    "-chardev", "socket,id=agent-chr,path=" ++ agentSocket ++ ",server=on,wait=off",
    "-device", "virtio-serial-pci",
    "-device", "virtserialport,chardev=agent-chr,name=dvf.agent.0"] ++
  match vmCfg.deviceEntry with
  | some device => ["-device", device.qemuDeviceName]
  | none => []

/-! ### Calls -/

/-- The calls of the manager and of the agent server.  A process is named by its id. -/
inductive VMCall
  | nextID
  | saveVM (vm : VMInstance)
  | getVM (id : String)
  | updateVMStatus (id : String) (status : VMStatus)
  | mkdirAll (dir : String)
  | removeFile (path : String)
  | createOverlay (base path : String)
  | startProcess (vmID bin : String) (args : List String)
  | connect (socket : String)
  | pause
  | addLive (vmID : String) (pid : ℤ)
  | queryStatus (vmID : String)
  | lookupLive (vmID : String)
  | powerdown (vmID : String)
  | waitExit (pid : ℤ)
  | sigterm (pid : ℤ)
  | kill (pid : ℤ)
  | cleanup (vmID : String)
  | notifyAgentReady (vmID agentID : String)

/-- The answer to a call.  The error of `createOverlay` has the output of `qemu-img` after it, a
pause ends early when the context does, `waitExit` tells whether the process has ended within ten
seconds, and `lookupLive` which process a machine runs in. -/
def VMCall.Resp : VMCall → Type
  | .nextID => String
  | .saveVM _ => Except String Unit
  | .getVM _ => Except String VMInstance
  | .updateVMStatus .. => Except String Unit
  | .mkdirAll _ => Except String Unit
  | .removeFile _ => Unit
  | .createOverlay .. => Except String Unit
  | .startProcess .. => Except String ℤ
  | .connect _ => Except String Unit
  | .pause => Option CtxErr
  | .addLive .. => Unit
  | .queryStatus _ => Except String Bool
  | .lookupLive _ => Option ℤ
  | .powerdown _ => Except String Unit
  | .waitExit _ => Bool
  | .sigterm _ => Unit
  | .kill _ => Unit
  | .cleanup _ => Unit
  | .notifyAgentReady .. => Except String Unit

abbrev VMProg := Prog VMCall VMCall.Resp

def vmCall (c : VMCall) : VMProg c.Resp := Prog.perform c

/-- Writing a status, with the error ignored. -/
def setVMStatus (vmID : String) (status : VMStatus) : VMProg PUnit := do
  let _ ← vmCall (.updateVMStatus vmID status)
  return ⟨⟩

/-! ### Creating a machine -/

/-- The record of a new machine. -/
def newInstance (qCfg : QEMUConfig) (vmCfg : VMConfig) (vmID : String) : VMInstance where
  id := vmID
  status := .creating
  deviceID := (vmCfg.deviceEntry.map DeviceEntry.id).getD ""
  qemuDeviceName := (vmCfg.deviceEntry.map DeviceEntry.qemuDeviceName).getD ""
  qmpSocketPath := qmpSocket qCfg vmID
  allocatedCPUs := defaultIfZero 0 vmCfg.cpus qCfg.defaultCPUs
  allocatedMemMB := defaultIfZero 0 vmCfg.memoryMB qCfg.defaultMemoryMB
  imagePath := defaultIfZero "" vmCfg.rootFSPath qCfg.rootFSPath

/-- `CreateVM`. -/
def createVM (qCfg : QEMUConfig) (vmCfg : VMConfig) : VMProg (Except String VMInstance) := do
  let vmID ← vmCall .nextID
  let vm := newInstance qCfg vmCfg vmID
  match ← vmCall (.saveVM vm) with
  | .error err => return .error ("saving VM record: " ++ err)
  | .ok _ => return .ok vm

/-! ### Starting a machine -/

/-- The loop that connects to the control socket: `n` attempts are left, and `err` is the error of
the last one. -/
def connectQMP (vmID socket : String) :
    (n : ℕ) → (err : Option String) → VMProg (Except String Unit)
  | 0, none => return .ok ()
  | 0, some err => do
      setVMStatus vmID .error
      return .error ("connecting QMP for VM " ++ vmID ++ ": " ++ err)
  | n + 1, _ => do
      match ← vmCall (.connect socket) with
      | .ok _ => return .ok ()
      | .error err =>
          match ← vmCall .pause with
          | some ctxErr => do
              setVMStatus vmID .error
              return .error ("QMP connect timeout for VM " ++ vmID ++ ": " ++ ctxErr.error)
          | none => connectQMP vmID socket n (some err)

/-- `StartVM` from the start of the process on.  The process id is written into the manager's copy
of the record only. -/
def startQEMU (qCfg : QEMUConfig) (vmID socket : String) (vmCfg : VMConfig) :
    VMProg (Except String Unit) := do
  match ← vmCall (.startProcess vmID qCfg.binaryPath (buildQEMUArgs qCfg vmID vmCfg)) with
  | .error err => do
      setVMStatus vmID .error
      return .error ("starting QEMU process: " ++ err)
  | .ok pid => do
      setVMStatus vmID .booting
      match ← connectQMP vmID socket 30 none with
      | .error err => return .error err
      | .ok _ => do
          let _ ← vmCall (.addLive vmID pid)
          match ← vmCall (.queryStatus vmID) with
          | .ok true => do
              setVMStatus vmID .ready
              return .ok ()
          | _ => return .ok ()

/-- The configuration that `StartVM` makes from the stored record. -/
def VMInstance.vmConfig (vm : VMInstance) : VMConfig where
  deviceEntry :=
    if vm.qemuDeviceName = "" then none
    else some { id := "", qemuDeviceName := vm.qemuDeviceName }
  memoryMB := vm.allocatedMemMB
  cpus := vm.allocatedCPUs

/-- `StartVM`. -/
def startVM (qCfg : QEMUConfig) (vmID : String) : VMProg (Except String Unit) := do
  match ← vmCall (.getVM vmID) with
  | .error err => return .error ("getting VM " ++ vmID ++ ": " ++ err)
  | .ok vm =>
      let socketDir := pathDir vm.qmpSocketPath
      match ← vmCall (.mkdirAll socketDir) with
      | .error err => return .error ("creating socket dir " ++ socketDir ++ ": " ++ err)
      | .ok _ =>
          match ← vmCall (.mkdirAll "/tmp/dvf/agent") with
          | .error err => return .error ("creating agent socket dir: " ++ err)
          | .ok _ => do
              let _ ← vmCall (.removeFile vm.qmpSocketPath)
              match ← vmCall (.mkdirAll "/tmp/dvf/overlays") with
              | .error err => return .error ("creating overlay dir: " ++ err)
              | .ok _ =>
                  let overlaySrc := defaultIfZero "" vm.imagePath qCfg.rootFSPath
                  match ← vmCall (.createOverlay overlaySrc (overlayPath vmID)) with
                  | .error err =>
                      return .error ("creating qcow2 overlay for " ++ vmID ++ ": " ++ err)
                  | .ok _ => startQEMU qCfg vmID vm.qmpSocketPath vm.vmConfig

/-! ### Stopping and destroying a machine -/

/-- The end of `StopVM` when the process has not powered down. -/
def forceStop (vmID : String) (pid : ℤ) : VMProg (Except String Unit) := do
  let _ ← vmCall (.sigterm pid)
  let _ ← vmCall (.kill pid)
  let _ ← vmCall (.cleanup vmID)
  setVMStatus vmID .stopped
  return .ok ()

/-- `StopVM`. -/
def stopVM (vmID : String) : VMProg (Except String Unit) := do
  match ← vmCall (.lookupLive vmID) with
  | none => return .error ("VM " ++ vmID ++ " is not running")
  | some pid => do
      setVMStatus vmID .stopping
      match ← vmCall (.powerdown vmID) with
      | .error _ => forceStop vmID pid
      | .ok _ =>
          match ← vmCall (.waitExit pid) with
          | true => do
              let _ ← vmCall (.cleanup vmID)
              setVMStatus vmID .stopped
              return .ok ()
          | false => forceStop vmID pid

/-- The end of `DestroyVM`, when the machine has been stopped: its files are removed. -/
def clearVM (vmID : String) : VMProg (Except String Unit) := do
  match ← vmCall (.getVM vmID) with
  | .ok vm =>
      if vm.qmpSocketPath ≠ "" then
        let _ ← vmCall (.removeFile vm.qmpSocketPath)
  | .error _ => pure ()
  setVMStatus vmID .destroyed
  let _ ← vmCall (.removeFile (overlayPath vmID))
  return .ok ()

/-- `DestroyVM`. -/
def destroyVM (vmID : String) : VMProg (Except String Unit) := do
  match ← vmCall (.lookupLive vmID) with
  | some _ =>
      let _ ← stopVM vmID
  | none => pure ()
  clearVM vmID

/-! ### Agents -/

/-- `RegisterAgent`: the id of the agent. -/
def registerAgent (vmID : String) : VMProg (Except String String) := do
  if vmID = "" then return .error "vm_id is required"
  else
    let agentID := "agent-" ++ vmID
    match ← vmCall (.notifyAgentReady vmID agentID) with
    | .error err => return .error ("VM not registered: " ++ err)
    | .ok _ => do
        setVMStatus vmID .ready
        return .ok agentID

/-! ### The calls of an operation -/

/-- A call of an operation that starts or stops a machine: it saves no record and announces nothing,
and it writes no status but that of the machine, which is not `DESTROYED`. -/
def VMCall.IsWork (vmID : String) : VMCall → Prop
  | .nextID | .saveVM _ | .notifyAgentReady .. => False
  | .updateVMStatus id status => id = vmID ∧ status ≠ .destroyed
  | _ => True

theorem calls_setVMStatus_bind {β : Type} {S : VMCall → Prop} {vmID : String} {status : VMStatus}
    {f : PUnit → VMProg β} (hc : S (.updateVMStatus vmID status)) (hf : (f ⟨⟩).Calls S) :
    (setVMStatus vmID status >>= f).Calls S := ⟨hc, fun _ => hf⟩

/-- Connecting to the control socket. -/
theorem calls_connectQMP {S : VMCall → Prop} {vmID : String} (hconnect : ∀ path, S (.connect path))
    (hpause : S .pause) (herror : S (.updateVMStatus vmID .error)) (socket : String) (n : ℕ)
    (err : Option String) : (connectQMP vmID socket n err).Calls S := by
  induction n generalizing err with
  | zero =>
      cases err with
      | none => trivial
      | some err => exact calls_setVMStatus_bind herror trivial
  | succ n ih =>
      refine Prog.Calls.perform_bind (hconnect socket) fun r => ?_
      cases r with
      | ok _ => trivial
      | error err =>
          refine Prog.Calls.perform_bind hpause fun r => ?_
          cases r with
          | some e => exact calls_setVMStatus_bind herror trivial
          | none => exact ih (some err)

theorem calls_startQEMU (qCfg : QEMUConfig) (vmID socket : String) (vmCfg : VMConfig) :
    (startQEMU qCfg vmID socket vmCfg).Calls (VMCall.IsWork vmID) := by
  have herror : VMCall.IsWork vmID (.updateVMStatus vmID .error) := ⟨rfl, by decide⟩
  refine Prog.Calls.perform_bind trivial fun r => ?_
  cases r with
  | error err => exact calls_setVMStatus_bind herror trivial
  | ok pid =>
      refine calls_setVMStatus_bind ⟨rfl, by decide⟩ ?_
      refine (calls_connectQMP (fun _ => trivial) trivial herror socket 30 none).bind fun r => ?_
      cases r with
      | error err => trivial
      | ok _ =>
          refine Prog.Calls.perform_bind trivial fun _ => ?_
          refine Prog.Calls.perform_bind trivial fun r => ?_
          rcases r with err | _ | _
          · trivial
          · trivial
          · exact calls_setVMStatus_bind ⟨rfl, by decide⟩ trivial

/-- **The calls of `StartVM`.** -/
theorem calls_startVM (qCfg : QEMUConfig) (vmID : String) :
    (startVM qCfg vmID).Calls (VMCall.IsWork vmID) := by
  refine Prog.Calls.perform_bind trivial fun r => ?_
  rcases r with err | vm
  · trivial
  -- each preparation may fail
  refine Prog.Calls.perform_bind trivial fun r => ?_
  rcases r with err | _
  · trivial
  refine Prog.Calls.perform_bind trivial fun r => ?_
  rcases r with err | _
  · trivial
  refine Prog.Calls.perform_bind trivial fun _ => ?_
  refine Prog.Calls.perform_bind trivial fun r => ?_
  rcases r with err | _
  · trivial
  refine Prog.Calls.perform_bind trivial fun r => ?_
  rcases r with err | _
  · trivial
  exact calls_startQEMU qCfg vmID vm.qmpSocketPath vm.vmConfig

theorem calls_forceStop (vmID : String) (pid : ℤ) :
    (forceStop vmID pid).Calls (VMCall.IsWork vmID) := by
  refine Prog.Calls.perform_bind trivial fun _ => ?_
  refine Prog.Calls.perform_bind trivial fun _ => ?_
  refine Prog.Calls.perform_bind trivial fun _ => ?_
  exact calls_setVMStatus_bind ⟨rfl, by decide⟩ trivial

/-- **The calls of `StopVM`.** -/
theorem calls_stopVM (vmID : String) : (stopVM vmID).Calls (VMCall.IsWork vmID) := by
  refine Prog.Calls.perform_bind trivial fun r => ?_
  cases r with
  | none => trivial
  | some pid =>
      refine calls_setVMStatus_bind ⟨rfl, by decide⟩ ?_
      refine Prog.Calls.perform_bind trivial fun r => ?_
      cases r with
      | error err => exact calls_forceStop vmID pid
      | ok _ =>
          refine Prog.Calls.perform_bind trivial fun r => ?_
          cases r with
          | true =>
              refine Prog.Calls.perform_bind trivial fun _ => ?_
              exact calls_setVMStatus_bind ⟨rfl, by decide⟩ trivial
          | false => exact calls_forceStop vmID pid

/-- What `DestroyVM` does last: the record is marked, and the overlay is removed. -/
def markDestroyed (vmID : String) : VMProg (Except String Unit) := do
  setVMStatus vmID .destroyed
  let _ ← vmCall (.removeFile (overlayPath vmID))
  return .ok ()

/-- **The end of `DestroyVM` follows a protocol** if the last part does, from every state of `I`,
which reading the record and removing a file do not leave. -/
theorem clearVM_follows {Q : Type} {P : Protocol VMCall VMCall.Resp Q} {vmID : String}
    {post : Except String Unit → Q → Prop} {q : Q} (I : Q → Prop) (hq : I q)
    (hget : ∀ q, I q → P.allowed q (.getVM vmID) ∧ ∀ r, I (P.next q (.getVM vmID) r))
    (hremove : ∀ q path, I q → P.allowed q (.removeFile path) ∧
      ∀ r, I (P.next q (.removeFile path) r))
    (hmark : ∀ q, I q → (markDestroyed vmID).Follows P post q) :
    (clearVM vmID).Follows P post q := by
  refine Prog.Follows.perform_bind (hget q hq).1 fun r => ?_
  have hq' := (hget q hq).2 r
  cases r with
  | error err => exact hmark _ hq'
  | ok vm =>
      by_cases hpath : vm.qmpSocketPath ≠ ""
      · simp only [if_pos hpath]
        have hfile := hremove _ vm.qmpSocketPath hq'
        exact Prog.Follows.perform_bind hfile.1 fun r => hmark _ (hfile.2 r)
      · simp only [if_neg hpath]
        exact hmark _ hq'

end Dvf
