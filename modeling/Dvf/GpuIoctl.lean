/-
**The calls of the GPU driver, with every way they fail** (`gp_gpu_ioctl` in
`src/gpgpu_pcie_ep_driver.c`).

A call copies its argument from the user, changes lists, tables and registers, and copies a result
back.  Each copy can fail, and so can every allocation on the way; the call then returns an error.
Three calls change the state before they copy their result out and do not undo it when that copy
fails: `REQ_BUF`, `CTX_CREATE` and `SUBMIT`.

What the surroundings do is part of a call here: whether a copy succeeds, what an allocation
returns, how a sleep ends.  A call is not answered when the driver uses a null pointer or a context
outside of the array, or when the device fails.

Main definitions:

* `Dvf.Gpu.IoctlState`, `Dvf.Gpu.IoctlCall`, `Dvf.Gpu.IoctlState.ioctl` — the source;
* `Dvf.Gpu.IoctlState.NoTrace` — the lists, the bump pointer and the contexts are as before;
* `Dvf.Gpu.IoctlState.Clean` — the condition on a call.

Main results:

* `Dvf.Gpu.IoctlState.ioctl_of_step` — the calls of `Dvf/GpuBuffers.lean` are those that succeed;
* `Dvf.Gpu.ioctl_noTrace_iff` — **when a failed call leaves no trace**;
* `Dvf.Gpu.failed_submit_leaves_job` — a job on the list that its `SUBMIT` has failed for.
-/

import Dvf.GpuFree
import Dvf.GpuVectorAdd
import Dvf.GpuWait

set_option autoImplicit false

namespace Dvf

namespace Gpu

/-! ### The source -/

/-- The errors of the calls. -/
inductive IoctlError
  | efault
  | einval
  | enomem
  | etimedout
  deriving DecidableEq, Repr

/-- `struct gp_gpu_buffer` with the address of its host memory, which is null when
`dma_alloc_coherent` has failed. -/
structure KernelBuffer extends Buffer where
  cpuAddr : Option ℕ
  deriving DecidableEq, Repr

/-- `struct gp_gpu_buf` without the handle that the driver fills in. -/
structure BufRequest where
  size : UInt32
  ctxID : UInt32
  deriving DecidableEq, Repr

/-- `struct gp_gpu_buf_xfer` without the pointer, which stands for the memory of the user. -/
structure XferRequest where
  handle : ℕ
  size : UInt32
  deriving DecidableEq, Repr

/-- What the driver asks the PCI device for. -/
structure PciInfo where
  vendor : UInt32
  device : UInt32
  bar0Start : UInt64
  bar0Len : UInt32
  dmaMask64 : Bool
  deriving DecidableEq, Repr

/-- `struct gp_gpu_info`. -/
structure GpuInfo where
  vendorID : UInt32
  deviceID : UInt32
  bar0Addr : UInt64
  bar0Size : UInt32
  gpuDdrBase : UInt64 := 0x80000000
  gpuDdrSize : UInt64 := 128 * 1024 * 1024
  pageSize : UInt32 := 4096
  dmaBits : UInt32
  hasMmu : UInt32 := 1
  hasEdma : UInt32 := 1
  version : UInt32 := 1
  numThreads : UInt32 := 8
  numWarps : UInt32 := 32
  numCores : UInt32 := 64
  numBarriers : UInt32 := 4
  globalMemSize : UInt64 := 512
  localMemSize : UInt64 := 512
  localMemAddr : UInt64 := 0xC0000000
  isaCaps : UInt64 := 0x1
  deriving DecidableEq, Repr

/-- What a call copies to the user. -/
inductive Reply
  | nothing
  | handle (h : ℕ)
  | bytes (data : List UInt8)
  | info (i : GpuInfo)
  | ctxID (c : UInt32)
  | gpuVa (va : ℕ)
  | jobID (j : UInt32)
  deriving DecidableEq, Repr

/-- The state of the driver: memory manager and device, `buffer_list` and `job_list` with their
counters, and `active_job`, which names an entry as `JobEntry.call` does. -/
structure IoctlState where
  world : World
  bufferList : List KernelBuffer := []
  nextHandle : ℕ := 1
  jobList : List JobEntry := []
  nextJobID : UInt32 := 1
  activeJob : Option ℕ := none

/-- The calls.  An argument that cannot be copied is `none`, and so is what an allocation that fails
returns; `copied` says whether the result can be copied out, and for `WRITE_BUF` how many bytes of
the user can be read. -/
inductive IoctlCall
  | reqBuf (arg : Option BufRequest) (kzalloc : Bool) (block : Option ℕ) (copied : Bool)
  | wait (arg : Option UInt32) (outcome : WaitOutcome)
  | writeBuf (arg : Option XferRequest) (user : ByteMem) (copied : ℕ)
  | readBuf (arg : Option XferRequest) (copied : Bool)
  | getInfo (pci : PciInfo) (copied : Bool)
  | ctxCreate (arg : Option UInt32) (block : Option ℕ) (copied : Bool)
  | ctxDestroy
  | free (arg : Option (UInt64 × UInt32))
  | getVa (arg : Option ℕ) (copied : Bool)
  | submit (arg : Option KernelJob) (entry : Option ℕ) (copied : Bool)
  | other

/-- The block of a buffer for an access of `n` bytes; there is none behind a null pointer. -/
def KernelBuffer.block (b : KernelBuffer) (n : ℕ) : Option ℕ :=
  if n = 0 then some (b.cpuAddr.getD 0) else b.cpuAddr

/-- `copy_from_user` of `n` bytes, of which the first `copied` can be read; the others become
zero. -/
def copyFromUser (host : ByteMem) (a n : ℕ) (user : ByteMem) (copied : ℕ) : ByteMem :=
  (host.copy a (min copied n) user 0).zero (a + copied) (n - copied)

/-- `dma_alloc_coherent`: a zeroed block, or nothing. -/
def ManagerState.coherent (m : ManagerState) (block : Option ℕ) (n : ℕ) : ManagerState :=
  block.elim m fun b => { m with host := m.host.zero b n, blocks := (b, n) :: m.blocks }

theorem ManagerState.gdev_coherent (m : ManagerState) (block : Option ℕ) (n : ℕ) :
    (m.coherent block n).gdev = m.gdev := by
  cases block with
  | none => rfl
  | some b => rfl

theorem copyFromUser_all (host : ByteMem) (a n : ℕ) (user : ByteMem) :
    copyFromUser host a n user n = host.copy a n user 0 := by
  simp [copyFromUser, ByteMem.zero]

/-- The information about the device. -/
def GpuInfo.of (pci : PciInfo) : GpuInfo where
  vendorID := pci.vendor
  deviceID := pci.device
  bar0Addr := pci.bar0Start
  bar0Size := pci.bar0Len
  dmaBits := if pci.dmaMask64 then 64 else 32

namespace IoctlState

def fail (s : IoctlState) (e : IoctlError) : Option (Except IoctlError Reply × IoctlState) :=
  some (.error e, s)

/-- The call returns 0 after its result was copied out, or `-EFAULT`. -/
def reply (s : IoctlState) (r : Reply) (copied : Bool) :
    Option (Except IoctlError Reply × IoctlState) :=
  some (if copied then .ok r else .error .efault, s)

/-- `find_buffer`. -/
def findBuffer (s : IoctlState) (handle : ℕ) : Option KernelBuffer :=
  s.bufferList.find? fun b => b.handle = handle

/-- `gpu_alloc` for a request, after its block of host memory was allocated. -/
def gpuAlloc (s : IoctlState) (q : BufRequest) (block : Option ℕ) :
    Option (World × Option Allocated) :=
  ({ s.world with mgr := s.world.mgr.coherent block q.size.toNat } : World).alloc q.ctxID.toNat
    q.size

/-- `dma_free_coherent` for the block of a request that gets no buffer. -/
def releaseBlock (s : IoctlState) (w : World) : IoctlState :=
  { s with world := { w with mgr := { w.mgr with blocks := s.world.mgr.blocks } } }

/-- A buffer is put on the list. -/
def addBuffer (s : IoctlState) (w : World) (q : BufRequest) (block : Option ℕ) (a : Allocated) :
    IoctlState :=
  { s with
    world := w
    bufferList :=
      { handle := s.nextHandle, size := q.size.toNat, dmaHandle := block.getD 0, gpuVa := a.va
        gpuPa := a.pa, ctxID := q.ctxID.toNat, cpuAddr := block } :: s.bufferList
    nextHandle := s.nextHandle + 1 }

/-- `GP_GPU_IOCTL_REQ_BUF`. -/
def reqBuf (s : IoctlState) (arg : Option BufRequest) (kzalloc : Bool) (block : Option ℕ)
    (copied : Bool) : Option (Except IoctlError Reply × IoctlState) :=
  arg.elim (s.fail .efault) fun q =>
    if q.ctxID = 0 then s.fail .einval
    else if kzalloc = false then s.fail .enomem
    else
      (s.gpuAlloc q block).bind fun r =>
        r.2.elim ((s.releaseBlock r.1).fail .enomem) fun a =>
          (s.addBuffer r.1 q block a).reply (.handle s.nextHandle) copied

/-- `GP_GPU_IOCTL_WAIT`, with the end of the sleep if there is one. -/
def wait (s : IoctlState) (arg : Option UInt32) (outcome : WaitOutcome) :
    Option (Except IoctlError Reply × IoctlState) :=
  arg.elim (s.fail .efault) fun jobID =>
    (s.jobList.find? fun e => e.jobID = jobID).elim (s.fail .einval) fun e =>
      if e.done = false ∧ outcome = .timedOut then s.fail .etimedout
      else
        ({ s with jobList := s.jobList.eraseP fun e => e.jobID = jobID } : IoctlState).reply
          .nothing true

/-- `GP_GPU_IOCTL_WRITE_BUF`. -/
def writeBuf (s : IoctlState) (arg : Option XferRequest) (user : ByteMem) (copied : ℕ) :
    Option (Except IoctlError Reply × IoctlState) :=
  arg.elim (s.fail .efault) fun q =>
    (s.findBuffer q.handle).elim (s.fail .einval) fun b =>
      if b.size < q.size.toNat then s.fail .einval
      else
        (b.block q.size.toNat).bind fun p =>
          let host := copyFromUser s.world.mgr.host p q.size.toNat user copied
          if copied < q.size.toNat then
            ({ s with world := s.world.setMemories host s.world.dev } : IoctlState).fail .efault
          else
            (s.world.dma host ⟨b.dmaHandle, b.gpuPa, q.size.toNat, .h2d⟩).bind fun w =>
              ({ s with world := w } : IoctlState).reply .nothing true

/-- `GP_GPU_IOCTL_READ_BUF`. -/
def readBuf (s : IoctlState) (arg : Option XferRequest) (copied : Bool) :
    Option (Except IoctlError Reply × IoctlState) :=
  arg.elim (s.fail .efault) fun q =>
    (s.findBuffer q.handle).elim (s.fail .einval) fun b =>
      if b.size < q.size.toNat then s.fail .einval
      else
        (s.world.dma s.world.mgr.host ⟨b.gpuPa, b.dmaHandle, q.size.toNat, .d2h⟩).bind fun w =>
          (b.block q.size.toNat).bind fun p =>
            ({ s with world := w } : IoctlState).reply
              (.bytes ((List.range q.size.toNat).map fun k => w.mgr.host (p + k))) copied

/-- `GPU_IOCTL_CTX_CREATE`; the result of `gpu_ctx_create` is not looked at. -/
def ctxCreate (s : IoctlState) (arg : Option UInt32) (block : Option ℕ) (copied : Bool) :
    Option (Except IoctlError Reply × IoctlState) :=
  arg.elim (s.fail .efault) fun ctxID =>
    let r := s.world.mgr.createContext block
    ({ s with world := { s.world with mgr := r.2 } } : IoctlState).reply
      (.ctxID (r.1.toOption.elim ctxID fun i => UInt32.ofNat (i + 1))) copied

/-- `GPU_IOCTL_FREE`; the result of `gpu_free` is not looked at. -/
def free (s : IoctlState) (arg : Option (UInt64 × UInt32)) :
    Option (Except IoctlError Reply × IoctlState) :=
  arg.elim (s.fail .efault) fun q =>
    (s.world.mgr.gdev.freeChecked s.world.mgr.host q.1 q.2).bind fun r =>
      ({ s with world := s.world.setMemories r.2 s.world.dev } : IoctlState).reply .nothing true

/-- `GPU_IOCTL_GET_VA`. -/
def getVa (s : IoctlState) (arg : Option ℕ) (copied : Bool) :
    Option (Except IoctlError Reply × IoctlState) :=
  arg.elim (s.fail .efault) fun handle =>
    (s.findBuffer handle).elim (s.fail .einval) fun b => s.reply (.gpuVa b.gpuVa) copied

/-- The registers of a job are written and its context is bound. -/
def programJob (s : IoctlState) (job : KernelJob) : Option World :=
  (s.world.writeRegs job.regs).bind fun w => w.bindContext (job.kernelHandle.toNat >>> 48)

/-- A job is put on the list. -/
def addJob (s : IoctlState) (w : World) (entry : ℕ) : IoctlState :=
  { s with
    world := w
    nextJobID := s.nextJobID + 1
    jobList := s.jobList ++ [{ call := entry, jobID := s.nextJobID }] }

/-- `GP_GPU_IOCTL_SUBMIT`, with the entry that `kmalloc` returns. -/
def submit (s : IoctlState) (arg : Option KernelJob) (entry : Option ℕ) (copied : Bool) :
    Option (Except IoctlError Reply × IoctlState) :=
  arg.elim (s.fail .efault) fun job =>
    (s.programJob job).bind fun w =>
      entry.elim (({ s with world := w } : IoctlState).fail .enomem) fun e =>
        if copied = false then (s.addJob w e).fail .efault
        else
          (w.writeRegs [(0x28, s.nextJobID.toNat), (0x24, 1)]).bind fun w =>
            ({ s.addJob w e with activeJob := some e } : IoctlState).reply (.jobID s.nextJobID) true

/-- `gp_gpu_ioctl`: the result and the state after the call. -/
def ioctl (s : IoctlState) : IoctlCall → Option (Except IoctlError Reply × IoctlState)
  | .reqBuf arg kzalloc block copied => s.reqBuf arg kzalloc block copied
  | .wait arg outcome => s.wait arg outcome
  | .writeBuf arg user copied => s.writeBuf arg user copied
  | .readBuf arg copied => s.readBuf arg copied
  | .getInfo pci copied => s.reply (.info (.of pci)) copied
  | .ctxCreate arg block copied => s.ctxCreate arg block copied
  | .ctxDestroy => s.reply .nothing true
  | .free arg => s.free arg
  | .getVa arg copied => s.getVa arg copied
  | .submit arg entry copied => s.submit arg entry copied
  | .other => s.fail .einval

/-! ### The calls that succeed -/

/-- The buffers of a state of `Dvf/GpuBuffers.lean`, beside the jobs of this one. -/
def withDriver (t : IoctlState) (s : DriverState) : IoctlState :=
  { t with
    world := s.world
    bufferList := s.bufferList.map fun b => { b with cpuAddr := some b.dmaHandle }
    nextHandle := s.nextHandle }

/-- A call of `Dvf/GpuBuffers.lean`, where nothing fails. -/
def ofDriver : DriverAct → IoctlCall
  | .ctxCreate block => .ctxCreate (some 0) (some block) true
  | .reqBuf block ctxID size => .reqBuf (some ⟨size, UInt32.ofNat ctxID⟩) true (some block) true
  | .writeBuf handle data =>
      .writeBuf (some ⟨handle, UInt32.ofNat data.length⟩) (userBytes data) data.length
  | .readBuf handle size => .readBuf (some ⟨handle, size⟩) true

theorem findBuffer_withDriver (t : IoctlState) (s : DriverState) (handle : ℕ) :
    (t.withDriver s).findBuffer handle =
      (s.findBuffer handle).map fun b => { b with cpuAddr := some b.dmaHandle } := by
  simp only [findBuffer, withDriver, DriverState.findBuffer, List.find?_map]
  rfl

theorem block_of_driver (b : Buffer) (n : ℕ) :
    KernelBuffer.block { b with cpuAddr := some b.dmaHandle } n = some b.dmaHandle := by
  unfold KernelBuffer.block
  split
  · rfl
  · rfl

/-- **The calls of `Dvf/GpuBuffers.lean` are calls that return zero.**  The numbers in them have the
widths of the source. -/
theorem ioctl_of_step {s s' : DriverState} {a : DriverAct} (h : s.step a = some s')
    (hctx : ∀ block ctxID size, a = .reqBuf block ctxID size → ctxID < 2 ^ 32)
    (hdata : ∀ handle data, a = .writeBuf handle data → data.length < 2 ^ 32) (t : IoctlState) :
    ∃ r, (t.withDriver s).ioctl (ofDriver a) = some (.ok r, t.withDriver s') := by
  cases a with
  | ctxCreate block =>
      obtain ⟨w, hw, rfl⟩ := Option.map_eq_some_iff.1 h
      obtain ⟨m, hm, rfl⟩ := Option.map_eq_some_iff.1 hw
      rw [← ManagerState.createContext_of_ctxCreate hm]
      exact ⟨_, rfl⟩
  | reqBuf block ctxID size =>
      have hid := hctx block ctxID size rfl
      obtain ⟨hne, h⟩ := Option.ite_none_left_eq_some.1 h
      obtain ⟨m, hm, h⟩ := Option.bind_eq_some_iff.1 h
      obtain ⟨r, hr, h⟩ := Option.bind_eq_some_iff.1 h
      obtain ⟨q, hq, rfl⟩ := Option.map_eq_some_iff.1 h
      obtain ⟨_, hm⟩ := Option.ite_none_right_eq_some.1 hm
      obtain rfl := Option.some.inj hm
      have hnat : (UInt32.ofNat ctxID).toNat = ctxID := UInt32.toNat_ofNat_of_lt' hid
      have hzero : UInt32.ofNat ctxID ≠ 0 := by
        intro h0
        rw [h0] at hnat
        exact hne hnat.symm
      have halloc : (t.withDriver s).gpuAlloc ⟨size, UInt32.ofNat ctxID⟩ (some block) = some r := by
        rw [gpuAlloc, hnat]
        exact hr
      refine ⟨.handle s.nextHandle, ?_⟩
      rw [ofDriver, ioctl, reqBuf, Option.elim_some, if_neg hzero, if_neg (by decide), halloc,
        Option.bind_some, hq, Option.elim_some]
      simp only [addBuffer, withDriver, reply, hnat, List.map_cons, if_true]
      rfl
  | writeBuf handle data =>
      have hlen : (UInt32.ofNat data.length).toNat = data.length :=
        UInt32.toNat_ofNat_of_lt' (hdata handle data rfl)
      obtain ⟨b, hb, h⟩ := Option.bind_eq_some_iff.1 h
      obtain ⟨hle, h⟩ := Option.ite_none_left_eq_some.1 h
      obtain ⟨w, hw, rfl⟩ := Option.map_eq_some_iff.1 h
      refine ⟨.nothing, ?_⟩
      rw [ofDriver, ioctl, writeBuf, Option.elim_some, findBuffer_withDriver, hb, Option.map_some,
        Option.elim_some, hlen, if_neg hle, block_of_driver, Option.bind_some]
      simp only [lt_irrefl, if_false]
      change ((s.world.dma (copyFromUser s.world.mgr.host _ _ _ _) _).bind _) = _
      rw [copyFromUser_all, hw]
      rfl
  | readBuf handle size =>
      obtain ⟨⟨bytes, s''⟩, hr, rfl⟩ := Option.map_eq_some_iff.1 h
      obtain ⟨b, hb, h⟩ := Option.bind_eq_some_iff.1 hr
      obtain ⟨hle, h⟩ := Option.ite_none_left_eq_some.1 h
      obtain ⟨w, hw, heq⟩ := Option.map_eq_some_iff.1 h
      obtain ⟨rfl, rfl⟩ := Prod.mk.inj heq
      refine ⟨.bytes ((List.range size.toNat).map fun k => w.mgr.host (b.dmaHandle + k)), ?_⟩
      rw [ofDriver, ioctl, readBuf, Option.elim_some, findBuffer_withDriver, hb, Option.map_some,
        Option.elim_some, if_neg hle]
      change ((s.world.dma s.world.mgr.host _).bind _) = _
      rw [hw, Option.bind_some, block_of_driver, Option.bind_some]
      rfl

/-! ### The property and the condition -/

/-- The lists, `active_job`, the bump pointer of the DDR and the contexts are as before. -/
structure NoTrace (s s' : IoctlState) : Prop where
  bufferList : s'.bufferList = s.bufferList
  jobList : s'.jobList = s.jobList
  activeJob : s'.activeJob = s.activeJob
  ddrNext : s'.world.mgr.gdev.ddrNext = s.world.mgr.gdev.ddrNext
  ctx : s'.world.mgr.gdev.ctx = s.world.mgr.gdev.ctx

/-- What holds of the result and the state whenever a call is answered. -/
def Ensures (P : Except IoctlError Reply → IoctlState → Prop)
    (o : Option (Except IoctlError Reply × IoctlState)) : Prop :=
  ∀ r s', o = some (r, s') → P r s'

/-- If a result is an error, no trace of the call is left. -/
def Quiet (s : IoctlState) (o : Option (Except IoctlError Reply × IoctlState)) : Prop :=
  Ensures (fun r s' => ∀ e, r = .error e → s.NoTrace s') o

/-- `gpu_ddr_alloc` hands out the address zero, which reads as a failure, and moves on. -/
def HandsOutZero (g : Manager) (size : ℕ) : Prop :=
  (g.ddrAlloc size).1 = 0 ∧ (g.ddrAlloc size).2.ddrNext ≠ g.ddrNext

/-- The condition: a result can be copied out when there is something to undo, which is when
`gpu_alloc` has given a buffer, when there was a slot for a context, or when there is an entry for a
job; and the DDR does not begin at zero. -/
def Clean (s : IoctlState) : IoctlCall → Prop
  | .reqBuf arg kzalloc block copied => ∀ q ∈ arg, q.ctxID ≠ 0 → kzalloc = true →
      ∀ r ∈ s.gpuAlloc q block, (r.2 ≠ none → copied = true) ∧
        (r.2 = none → ¬ HandsOutZero s.world.mgr.gdev (pageAlign 64 q.size.toNat))
  | .ctxCreate arg _ copied => arg = none ∨ s.world.mgr.gdev.freeSlot = none ∨ copied = true
  | .submit arg entry copied => arg = none ∨ entry = none ∨ copied = true
  | _ => True

/-! ### Rules -/

variable {s t : IoctlState}

theorem NoTrace.refl (s : IoctlState) : s.NoTrace s := ⟨rfl, rfl, rfl, rfl, rfl⟩

theorem noTrace_world {w : World} (h : w.mgr.gdev = s.world.mgr.gdev) :
    s.NoTrace { s with world := w } :=
  ⟨rfl, rfl, rfl, congrArg Manager.ddrNext h, congrArg Manager.ctx h⟩

theorem noTrace_setMemories (host : ByteMem) (dev : Gpgpu) :
    s.NoTrace { s with world := s.world.setMemories host dev } := noTrace_world rfl

section Ensures

variable {P : Except IoctlError Reply → IoctlState → Prop}

theorem ensures_fail {e : IoctlError} (h : P (.error e) t) : Ensures P (t.fail e) := by
  rintro r s' ⟨⟩
  exact h

theorem ensures_reply {r : Reply} {copied : Bool} (hok : copied = true → P (.ok r) t)
    (herror : copied = false → P (.error .efault) t) : Ensures P (t.reply r copied) := by
  cases copied with
  | false =>
      rintro r s' ⟨⟩
      exact herror rfl
  | true =>
      rintro r s' ⟨⟩
      exact hok rfl

theorem ensures_elim {α : Type} {o : Option α} {x : Option (Except IoctlError Reply × IoctlState)}
    {f : α → Option (Except IoctlError Reply × IoctlState)} (hx : Ensures P x)
    (hf : ∀ a, o = some a → Ensures P (f a)) : Ensures P (o.elim x f) := by
  cases o with
  | none => exact hx
  | some a => exact hf a rfl

theorem ensures_bind {α : Type} {o : Option α}
    {f : α → Option (Except IoctlError Reply × IoctlState)}
    (hf : ∀ a, o = some a → Ensures P (f a)) : Ensures P (o.bind f) := by
  cases o with
  | none =>
      intro r s' heq
      cases heq
  | some a => exact hf a rfl

theorem ensures_ite {p : Prop} [Decidable p]
    {x y : Option (Except IoctlError Reply × IoctlState)} (hx : Ensures P x) (hy : Ensures P y) :
    Ensures P (if p then x else y) := by
  split
  · exact hx
  · exact hy

end Ensures

theorem quiet_fail (h : s.NoTrace t) (e : IoctlError) : s.Quiet (t.fail e) :=
  ensures_fail fun _ _ => h

theorem quiet_reply (h : s.NoTrace t) (r : Reply) (copied : Bool) : s.Quiet (t.reply r copied) :=
  ensures_reply (fun _ _ _ => h) fun _ _ _ => h

theorem quiet_reply_true (r : Reply) : s.Quiet (t.reply r true) :=
  ensures_reply (fun _ _ heq => by cases heq) fun h => by cases h

theorem not_quiet_reply_false (h : ¬ s.NoTrace t) (r : Reply) : ¬ s.Quiet (t.reply r false) :=
  fun hquiet => h (hquiet _ t rfl .efault rfl)

/-! ### What the parts of a call keep -/

theorem gdev_of_dma {w w' : World} {host : ByteMem} {q : DmaRequest} (h : w.dma host q = some w') :
    w'.mgr.gdev = w.mgr.gdev := by
  obtain ⟨r, _, rfl⟩ := Option.map_eq_some_iff.1 h
  rfl

theorem gdev_of_writeRegs {w w' : World} {ws : List (ℕ × ℕ)} (h : w.writeRegs ws = some w') :
    w'.mgr.gdev = w.mgr.gdev := by
  obtain ⟨r, _, rfl⟩ := Option.map_eq_some_iff.1 h
  rfl

theorem exists_programJob (s : IoctlState) (job : KernelJob) :
    ∃ d, s.programJob job = some { s.world with dev := d } := by
  have hjob : s.world.writeRegs job.regs = some (s.world.setMemories s.world.mgr.host
      (job.regs.foldl (fun d w => d.setReg w.1 w.2) s.world.dev)) := by
    rw [World.writeRegs, writeRegs_plain (plain_jobRegs job)]
    rfl
  rw [programJob, hjob, Option.bind_some, World.bindContext]
  cases ctxIndex (job.kernelHandle.toNat >>> 48) with
  | none => exact ⟨_, rfl⟩
  | some i =>
      obtain ⟨d, hbind, _⟩ := (s.world.setMemories s.world.mgr.host
        (job.regs.foldl (fun d w => d.setReg w.1 w.2) s.world.dev)).exists_bind i
      exact ⟨d, hbind⟩

/-- What `gpu_alloc` does to the manager: it asks for the DDR, and if there is a buffer, the context
has used more pages. -/
theorem gpuAlloc_cases {q : BufRequest} {block : Option ℕ} {w : World} {o : Option Allocated}
    (h : s.gpuAlloc q block = some (w, o)) : ∃ i, ctxIndex q.ctxID.toNat = some i ∧
      ((o = none ∧ (s.world.mgr.gdev.ddrAlloc (pageAlign 64 q.size.toNat)).1 = 0 ∧
          w.mgr.gdev = (s.world.mgr.gdev.ddrAlloc (pageAlign 64 q.size.toNat)).2) ∨
        (o ≠ none ∧ (s.world.mgr.gdev.ddrAlloc (pageAlign 64 q.size.toNat)).1 ≠ 0 ∧
          w.mgr.gdev =
            (s.world.mgr.gdev.ddrAlloc (pageAlign 64 q.size.toNat)).2.setContext i
              { s.world.mgr.gdev.ctx i with
                vpageNext := (s.world.mgr.gdev.ctx i).vpageNext +
                  pageAlign 64 q.size.toNat / 4096 })) := by
  unfold gpuAlloc World.alloc ManagerState.alloc at h
  cases hi : ctxIndex q.ctxID.toNat with
  | none =>
      simp only [hi] at h
      cases h
  | some i =>
      refine ⟨i, rfl, ?_⟩
      simp only [hi, Manager.alloc, ManagerState.gdev_coherent] at h
      by_cases hzero : (s.world.mgr.gdev.ddrAlloc (pageAlign 64 q.size.toNat)).1 = 0
      · left
        simp only [if_pos hzero] at h
        obtain ⟨rfl, rfl⟩ := Prod.mk.inj (Option.some.inj h)
        exact ⟨rfl, hzero, rfl⟩
      · right
        simp only [if_neg hzero] at h
        generalize Manager.storeThrough _ _ _ = stored at h
        cases stored with
        | none => cases h
        | some host =>
            simp only at h
            generalize gpGpuDma _ _ _ = moved at h
            cases moved with
            | error _ => cases h
            | ok x =>
                obtain ⟨rfl, rfl⟩ := Prod.mk.inj (Option.some.inj h)
                exact ⟨Option.some_ne_none _, hzero, rfl⟩

theorem gpuAlloc_of_no_room {q : BufRequest} {i : Fin 16} (hi : ctxIndex q.ctxID.toNat = some i)
    (hzero : (s.world.mgr.gdev.ddrAlloc (pageAlign 64 q.size.toNat)).1 = 0) (block : Option ℕ) :
    ∃ w, s.gpuAlloc q block = some (w, none) := by
  refine ⟨{ s.world with
    mgr := { s.world.mgr.coherent block q.size.toNat with
      gdev := (s.world.mgr.gdev.ddrAlloc (pageAlign 64 q.size.toNat)).2 } }, ?_⟩
  unfold gpuAlloc World.alloc ManagerState.alloc
  simp only [hi, Manager.alloc, ManagerState.gdev_coherent, if_pos hzero]

theorem not_noTrace_addBuffer (w : World) (q : BufRequest) (block : Option ℕ) (a : Allocated) :
    ¬ s.NoTrace (s.addBuffer w q block a) := by
  intro h
  have := congrArg List.length h.bufferList
  simp [addBuffer] at this

theorem ctx_createContext_ne {m : ManagerState} {i : Fin 16} (hslot : m.gdev.freeSlot = some i)
    (block : Option ℕ) : (m.createContext block).2.gdev.ctx ≠ m.gdev.ctx := by
  intro heq
  have hnew := (Manager.ctx_ctxCreate hslot m.host block).1
  rw [← m.gdev_createContext, heq, Manager.id_of_freeSlot hslot] at hnew
  omega

/-! ### The calls -/

theorem quiet_wait (arg : Option UInt32) (outcome : WaitOutcome) : s.Quiet (s.wait arg outcome) :=
  ensures_elim (quiet_fail (.refl s) _) fun _ _ =>
    ensures_elim (quiet_fail (.refl s) _) fun _ _ =>
      ensures_ite (quiet_fail (.refl s) _) (quiet_reply_true _)

theorem quiet_writeBuf (arg : Option XferRequest) (user : ByteMem) (copied : ℕ) :
    s.Quiet (s.writeBuf arg user copied) :=
  ensures_elim (quiet_fail (.refl s) _) fun _ _ =>
    ensures_elim (quiet_fail (.refl s) _) fun _ _ =>
      ensures_ite (quiet_fail (.refl s) _) <| ensures_bind fun _ _ =>
        ensures_ite (quiet_fail (noTrace_setMemories _ _) _) <| ensures_bind fun _ _ =>
          quiet_reply_true _

theorem quiet_readBuf (arg : Option XferRequest) (copied : Bool) : s.Quiet (s.readBuf arg copied) :=
  ensures_elim (quiet_fail (.refl s) _) fun _ _ =>
    ensures_elim (quiet_fail (.refl s) _) fun _ _ =>
      ensures_ite (quiet_fail (.refl s) _) <| ensures_bind fun _ hw => ensures_bind fun _ _ =>
        quiet_reply (noTrace_world (gdev_of_dma hw)) _ _

theorem quiet_free (arg : Option (UInt64 × UInt32)) : s.Quiet (s.free arg) :=
  ensures_elim (quiet_fail (.refl s) _) fun _ _ => ensures_bind fun _ _ => quiet_reply_true _

theorem quiet_getVa (arg : Option ℕ) (copied : Bool) : s.Quiet (s.getVa arg copied) :=
  ensures_elim (quiet_fail (.refl s) _) fun _ _ =>
    ensures_elim (quiet_fail (.refl s) _) fun _ _ => quiet_reply (.refl s) _ _

/-- A request that gets no buffer is quiet unless the DDR has moved on. -/
theorem quiet_releaseBlock_iff {q : BufRequest} {block : Option ℕ} {w : World}
    (h : s.gpuAlloc q block = some (w, none)) :
    s.Quiet ((s.releaseBlock w).fail .enomem) ↔
      ¬ HandsOutZero s.world.mgr.gdev (pageAlign 64 q.size.toNat) := by
  obtain ⟨_, _, ⟨_, hzero, hgdev⟩ | ⟨hsome, _⟩⟩ := gpuAlloc_cases h
  · constructor
    · intro hquiet hmoved
      refine hmoved.2 ?_
      rw [← hgdev]
      exact (hquiet _ _ rfl _ rfl).ddrNext
    · intro hkeep
      refine quiet_fail (s := s) (t := s.releaseBlock w) ⟨rfl, rfl, rfl, ?_, ?_⟩ _
      · by_contra hmoved
        exact hkeep ⟨hzero, fun heq => hmoved ((congrArg _ hgdev).trans heq)⟩
      · exact (congrArg Manager.ctx hgdev).trans (Manager.ctx_ddrAlloc _ _)
  · exact absurd rfl hsome

theorem quiet_addBuffer_iff (w : World) (q : BufRequest) (block : Option ℕ) (a : Allocated)
    (r : Reply) (copied : Bool) :
    s.Quiet ((s.addBuffer w q block a).reply r copied) ↔ copied = true := by
  cases copied with
  | false =>
      exact iff_of_false (not_quiet_reply_false (not_noTrace_addBuffer w q block a) _)
        Bool.false_ne_true
  | true => exact iff_of_true (quiet_reply_true _) rfl

theorem quiet_reqBuf_iff (arg : Option BufRequest) (kzalloc : Bool) (block : Option ℕ)
    (copied : Bool) :
    s.Quiet (s.reqBuf arg kzalloc block copied) ↔ s.Clean (.reqBuf arg kzalloc block copied) := by
  cases arg with
  | none => exact iff_of_true (quiet_fail (.refl s) _) (by simp [Clean])
  | some q =>
      rw [reqBuf, Option.elim_some]
      by_cases hctx : q.ctxID = 0
      · rw [if_pos hctx]
        refine iff_of_true (quiet_fail (.refl s) _) ?_
        rintro _ ⟨⟩ hne
        exact absurd hctx hne
      · rw [if_neg hctx]
        cases kzalloc with
        | false =>
            rw [if_pos rfl]
            exact iff_of_true (quiet_fail (.refl s) _) fun _ _ _ h => by cases h
        | true =>
            rw [if_neg (by decide)]
            have hclean : s.Clean (.reqBuf (some q) true block copied) ↔
                ∀ r ∈ s.gpuAlloc q block, (r.2 ≠ none → copied = true) ∧
                  (r.2 = none → ¬ HandsOutZero s.world.mgr.gdev (pageAlign 64 q.size.toNat)) := by
              constructor
              · intro h
                exact h q rfl hctx rfl
              · rintro h _ ⟨⟩ _ _
                exact h
            rw [hclean]
            cases halloc : s.gpuAlloc q block with
            | none => exact iff_of_true (ensures_bind fun _ h => by cases h) fun _ h => by cases h
            | some r =>
                obtain ⟨w, a⟩ := r
                rw [Option.bind_some]
                cases a with
                | none =>
                    rw [Option.elim_none, quiet_releaseBlock_iff halloc]
                    simp
                | some a =>
                    rw [Option.elim_some, quiet_addBuffer_iff]
                    simp

theorem quiet_ctxCreate_iff (arg : Option UInt32) (block : Option ℕ) (copied : Bool) :
    s.Quiet (s.ctxCreate arg block copied) ↔ s.Clean (.ctxCreate arg block copied) := by
  cases arg with
  | none => exact iff_of_true (quiet_fail (.refl s) _) (.inl rfl)
  | some ctxID =>
      cases copied with
      | true => exact iff_of_true (quiet_reply_true _) (.inr (.inr rfl))
      | false =>
          cases hslot : s.world.mgr.gdev.freeSlot with
          | none =>
              refine iff_of_true (quiet_reply (noTrace_world ?_) _ _) (.inr (.inl hslot))
              rw [ManagerState.createContext_of_no_slot hslot]
          | some i =>
              refine iff_of_false (not_quiet_reply_false (fun h => ?_) _) ?_
              · exact ctx_createContext_ne hslot block h.ctx
              · rintro (h | h | h)
                · cases h
                · cases hslot.symm.trans h
                · cases h

theorem quiet_submit_iff (arg : Option KernelJob) (entry : Option ℕ) (copied : Bool) :
    s.Quiet (s.submit arg entry copied) ↔ s.Clean (.submit arg entry copied) := by
  cases arg with
  | none => exact iff_of_true (quiet_fail (.refl s) _) (.inl rfl)
  | some job =>
      obtain ⟨d, hd⟩ := s.exists_programJob job
      rw [submit, Option.elim_some, hd, Option.bind_some]
      cases entry with
      | none =>
          exact iff_of_true (quiet_fail (noTrace_world (w := { s.world with dev := d }) rfl) _)
            (.inr (.inl rfl))
      | some e =>
          cases copied with
          | true =>
              exact iff_of_true (ensures_bind fun _ _ => quiet_reply_true _) (.inr (.inr rfl))
          | false =>
              refine iff_of_false (fun h => ?_) ?_
              · -- the job is on the list
                have := congrArg List.length (h _ _ rfl _ rfl).jobList
                simp [addJob] at this
              · rintro (h | h | h)
                · cases h
                · cases h
                · cases h

end IoctlState

/-- **When a failed call leaves no trace**, in every state and for every call. -/
theorem ioctl_noTrace_iff (s : IoctlState) (c : IoctlCall) :
    (∀ e s', s.ioctl c = some (.error e, s') → s.NoTrace s') ↔ s.Clean c := by
  have hquiet : (∀ e s', s.ioctl c = some (.error e, s') → s.NoTrace s') ↔ s.Quiet (s.ioctl c) := by
    constructor
    · rintro h _ s' heq e rfl
      exact h e s' heq
    · intro h e s' heq
      exact h _ s' heq e rfl
  rw [hquiet]
  cases c with
  | reqBuf arg kzalloc block copied => exact IoctlState.quiet_reqBuf_iff arg kzalloc block copied
  | wait arg outcome => exact iff_of_true (IoctlState.quiet_wait arg outcome) trivial
  | writeBuf arg user copied =>
      exact iff_of_true (IoctlState.quiet_writeBuf arg user copied) trivial
  | readBuf arg copied => exact iff_of_true (IoctlState.quiet_readBuf arg copied) trivial
  | getInfo pci copied => exact iff_of_true (IoctlState.quiet_reply (.refl s) _ _) trivial
  | ctxCreate arg block copied => exact IoctlState.quiet_ctxCreate_iff arg block copied
  | ctxDestroy => exact iff_of_true (IoctlState.quiet_reply_true _) trivial
  | free arg => exact iff_of_true (IoctlState.quiet_free arg) trivial
  | getVa arg copied => exact iff_of_true (IoctlState.quiet_getVa arg copied) trivial
  | submit arg entry copied => exact IoctlState.quiet_submit_iff arg entry copied
  | other => exact iff_of_true (IoctlState.quiet_fail (.refl s) _) trivial

/-- **A job that nobody knows of**: the id of the job cannot be copied to the user, `SUBMIT` returns
`-EFAULT`, and the job stays on the list without having been started. -/
theorem failed_submit_leaves_job : ∃ s',
    ({ world := .start (fun _ => 0) { mem := fun _ => 0 } } : IoctlState).ioctl
        (.submit (some { kernelHandle := 0, argHandle := 0 }) (some 0) false) =
      some (.error .efault, s') ∧
    s'.jobList = [{ call := 0, jobID := 1 }] ∧ s'.activeJob = none := by
  obtain ⟨d, hd⟩ := IoctlState.exists_programJob
    { world := .start (fun _ => 0) { mem := fun _ => 0 } } { kernelHandle := 0, argHandle := 0 }
  refine ⟨({ world := .start (fun _ => 0) { mem := fun _ => 0 } } : IoctlState).addJob
    { World.start (fun _ => 0) { mem := fun _ => 0 } with dev := d } 0, ?_, rfl, rfl⟩
  rw [IoctlState.ioctl, IoctlState.submit, Option.elim_some, hd]
  rfl

end Gpu

end Dvf
