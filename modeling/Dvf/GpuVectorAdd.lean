/-
**The vector addition, from the driver's call to the result** (`GP_GPU_IOCTL_SUBMIT`,
`process_vector_addition`).

`SUBMIT` writes the kernel's registers, binds the context that the address of the kernel names, and
starts the device.  The one kernel of the device model reads three virtual addresses from the
argument buffer, translates each of them once, and then adds 1024 words linearly in the DDR.

Main definitions:

* `Dvf.Gpu.KernelJob`, `Dvf.Gpu.DriverState.submit` — the source;
* `Dvf.Gpu.writtenWord` — the word that was last written to a place of a buffer.

Main results:

* `Dvf.Gpu.Gpgpu.load_sumWords`, `Dvf.Gpu.Gpgpu.sumWords_of_not_mem` — the loop of the kernel;
* `Dvf.Gpu.vector_addition` — **the destination holds the sums of what was written to the sources,
  and nothing else in the DDR has changed**.
-/

import Dvf.GpuBuffers

set_option autoImplicit false

namespace Dvf

namespace Gpu

/-! ### The source -/

/-- `struct gp_gpu_kernel_job` without the id that the driver fills in.  The two handles are virtual
addresses, since `GET_VIRTUAL_ADDRESS_FROM_HANDLE` is not defined. -/
structure KernelJob where
  kernelHandle : UInt64
  argHandle : UInt64
  tbSize : UInt32 := 0
  gridSize : UInt32 := 0
  sharedMem : UInt32 := 0
  globalTdsX : UInt32 := 0
  globalTdsY : UInt32 := 0
  deriving DecidableEq, Repr

/-- The registers that describe a job. -/
def KernelJob.regs (job : KernelJob) : List (ℕ × ℕ) :=
  [(0x00, lower32 job.kernelHandle.toNat), (0x04, upper32 job.kernelHandle.toNat),
    (0x08, lower32 job.argHandle.toNat), (0x0C, upper32 job.argHandle.toNat),
    (0x10, job.tbSize.toNat), (0x14, job.gridSize.toNat), (0x18, job.sharedMem.toNat),
    (0x1C, job.globalTdsX.toNat), (0x20, job.globalTdsY.toNat)]

def World.writeRegs (w : World) (ws : List (ℕ × ℕ)) : Option World :=
  (Gpu.writeRegs w.mgr.host w.dev ws).toOption.map fun r => w.setMemories r.1 r.2

/-- `gpu_bind_context`; an id outside of the array is refused, which the caller does not notice. -/
def World.bindContext (w : World) (ctxID : ℕ) : Option World :=
  (ctxIndex ctxID).elim (some w) w.bind

/-- `GP_GPU_IOCTL_SUBMIT` with the id that the job gets.  The device runs the kernel during the last
write. -/
def DriverState.submit (s : DriverState) (jobID : UInt32) (job : KernelJob) : Option DriverState :=
  (s.world.writeRegs job.regs).bind fun w =>
    (w.bindContext (job.kernelHandle.toNat >>> 48)).bind fun w =>
      (w.writeRegs [(0x28, jobID.toNat), (0x24, 1)]).map fun w => { s with world := w }

/-! ### The loop of the kernel -/

namespace Gpgpu

variable {m : ByteMem} {a b c n : ℕ}

theorem sumWords_of_not_mem {x : ℕ} (h : ¬ (c ≤ x ∧ x < c + 4 * n)) :
    sumWords m a b c n x = m x := by
  induction n with
  | zero => rfl
  | succ n ih =>
      rw [sumWords, ByteMem.store_of_not_mem (by omega)]
      exact ih (by omega)

theorem load_sumWords_of_apart {x k : ℕ} (h : ByteMem.Apart c (4 * n) x k) :
    (sumWords m a b c n).load x k = m.load x k := by
  refine ByteMem.load_congr fun i hi => sumWords_of_not_mem ?_
  unfold ByteMem.Apart at h
  omega

/-- **The words of the destination are the sums of the words of the sources.** -/
theorem load_sumWords (ha : ByteMem.Apart c (4 * n) a (4 * n))
    (hb : ByteMem.Apart c (4 * n) b (4 * n))
    {i : ℕ} (hi : i < n) :
    (sumWords m a b c n).load (c + 4 * i) 4 =
      (m.load (a + 4 * i) 4 + m.load (b + 4 * i) 4) % 2 ^ 32 := by
  induction n with
  | zero => omega
  | succ n ih =>
      unfold ByteMem.Apart at ha hb
      rw [sumWords]
      by_cases hin : i = n
      · -- the round that stores this word; the sources are still as they were
        subst hin
        rw [ByteMem.load_store, load_sumWords_of_apart (by unfold ByteMem.Apart; omega),
          load_sumWords_of_apart (by unfold ByteMem.Apart; omega)]
        norm_num
      · rw [ByteMem.load_store_of_apart (by unfold ByteMem.Apart; omega)]
        exact ih (by unfold ByteMem.Apart; omega) (by unfold ByteMem.Apart; omega) (by omega)

end Gpgpu

/-! ### Register writes -/

/-- The registers of a job tell the device the address of the arguments. -/
theorem reg_jobSet (d : Gpgpu) (job : KernelJob) :
    (job.regs.foldl (fun d w => d.setReg w.1 w.2) d).reg 0x08 = lower32 job.argHandle.toNat ∧
      (job.regs.foldl (fun d w => d.setReg w.1 w.2) d).reg 0x0C = upper32 job.argHandle.toNat := by
  have hlow : lower32 job.argHandle.toNat % 4294967296 = lower32 job.argHandle.toNat :=
    Nat.mod_mod _ _
  have hup : upper32 job.argHandle.toNat % 4294967296 = upper32 job.argHandle.toNat := by
    have hlt : job.argHandle.toNat < 2 ^ 64 := job.argHandle.toNat_lt
    refine Nat.mod_eq_of_lt ?_
    rw [upper32, Nat.shiftRight_eq_div_pow]
    omega
  simp [KernelJob.regs, Gpgpu.reg_setReg, hlow, hup]

theorem plain_jobRegs (job : KernelJob) : ∀ w ∈ job.regs, Plain w.1 := by
  simp [KernelJob.regs, Plain]

/-- The device when the kernel starts: its context is bound and the DDR is as before; and what
`SUBMIT` comes to when the kernel goes through. -/
theorem DriverState.submit_eq (s : DriverState) {i : Fin 16} {job : KernelJob}
    (hctx : job.kernelHandle.toNat >>> 48 = i + 1) (jobID : UInt32) : ∃ d : Gpgpu,
      d.mem = s.world.dev.mem ∧ d.reg 0x508 = lower32 (s.world.mgr.gdev.ctx i).pt.gpuPhys ∧
      ∀ d', d.processVectorAddition job.argHandle.toNat = .ok d' →
        s.submit jobID job = some { s with world := s.world.setMemories s.world.mgr.host d' } := by
  obtain ⟨harg₁, harg₂⟩ := reg_jobSet s.world.dev job
  have hjob : s.world.writeRegs job.regs = some (s.world.setMemories s.world.mgr.host
      (job.regs.foldl (fun d w => d.setReg w.1 w.2) s.world.dev)) := by
    rw [World.writeRegs, writeRegs_plain (plain_jobRegs job)]
    rfl
  obtain ⟨d, hbind, hmem, hreg, hother⟩ := (s.world.setMemories s.world.mgr.host
    (job.regs.foldl (fun d w => d.setReg w.1 w.2) s.world.dev)).exists_bind i
  have hcontext : (s.world.setMemories s.world.mgr.host
      (job.regs.foldl (fun d w => d.setReg w.1 w.2) s.world.dev)).bindContext
        (job.kernelHandle.toNat >>> 48) = some (s.world.setMemories s.world.mgr.host d) := by
    rw [World.bindContext, ctxIndex_eq_some_iff.2 hctx]
    exact hbind
  refine ⟨(d.setReg 0x28 jobID.toNat).setReg 0x24 1, ?_, ?_, fun d' hd' => ?_⟩
  · rw [Gpgpu.setReg_mem, Gpgpu.setReg_mem, hmem]
    exact mem_foldl_setReg _ _
  · rw [Gpgpu.reg_setReg_of_ne (by decide), Gpgpu.reg_setReg_of_ne (by decide), hreg]
    rfl
  · have hargs : ((d.setReg 0x28 jobID.toNat).setReg 0x24 1).reg64 0x08 0x0C =
        job.argHandle.toNat := by
      rw [Gpgpu.reg64, Gpgpu.reg_setReg_of_ne (by decide), Gpgpu.reg_setReg_of_ne (by decide),
        Gpgpu.reg_setReg_of_ne (by decide), Gpgpu.reg_setReg_of_ne (by decide),
        hother _ (by decide), hother _ (by decide)]
      change (job.regs.foldl (fun d w => d.setReg w.1 w.2) s.world.dev).reg 0x08 |||
        (job.regs.foldl (fun d w => d.setReg w.1 w.2) s.world.dev).reg 0x0C <<< 32 = _
      rw [harg₁, harg₂, lower32_or_upper32]
    have hstart : Gpu.writeRegs s.world.mgr.host d [(0x28, jobID.toNat), (0x24, 1)] =
        .ok (s.world.mgr.host, d') := by
      have hplain : Plain 0x28 := by decide
      rw [Gpu.writeRegs, Gpgpu.write_plain hplain]
      refine bind_eq_ok_iff.2 ⟨_, rfl, bind_eq_ok_iff.2 ⟨(s.world.mgr.host, d'), ?_, rfl⟩⟩
      unfold Gpgpu.write
      rw [if_pos (by decide), if_neg (by decide), if_pos (.inr rfl), hargs]
      exact bind_eq_ok_iff.2 ⟨d', hd', rfl⟩
    have hlast : (s.world.setMemories s.world.mgr.host d).writeRegs
        [(0x28, jobID.toNat), (0x24, 1)] = some (s.world.setMemories s.world.mgr.host d') := by
      rw [World.writeRegs]
      change Option.map _ (Gpu.writeRegs s.world.mgr.host d _).toOption = _
      rw [hstart]
      rfl
    rw [DriverState.submit, hjob, Option.bind_some, hcontext, Option.bind_some, hlast]
    rfl

/-! ### The operands -/

theorem localDdrAddress_of_mem {pa : ℕ} (h₁ : gpuDdr.base ≤ pa)
    (h₂ : pa ≤ gpuDdr.base + gpuDdr.size) : localDdrAddress pa = (pa - gpuDdr.base : ℕ) := by
  have hbase : gpuDdr.base = deviceDdrBase := rfl
  have hsize : gpuDdr.size = 2 ^ 27 := by decide
  rw [localDdrAddress, ← hbase, toInt32_of_lt (by omega) (by omega)]
  omega

namespace DriverState

variable {s : DriverState} {maps : Fin 16 → PageMap} {as : List DriverAct} {b : Buffer} {i : Fin 16}

/-- The device translates the address of a buffer of the context that is bound. -/
theorem Inv.translated (hI : Inv as s maps)
    (hreg : s.world.dev.reg 0x508 = lower32 (s.world.mgr.gdev.ctx i).pt.gpuPhys)
    (hb : b ∈ s.bufferList) (hctx : vaToCtx b.gpuVa = i + 1) (hsize : 0 < b.size) :
    InDdr (s.world.dev.pteOffset b.gpuVa) 8 ∧
      localDdrAddress (s.world.dev.translated b.gpuVa) = (b.gpuPa - gpuDdr.base : ℕ) := by
  obtain ⟨j, _, hg⟩ := (hI.buffer b hb).range
  obtain ⟨h₁, h₂⟩ := hI.range hb
  have hpages := le_mul_pagesOf b.size
  have hoff : 0 < (bufferRange j b).size := by
    change 0 < 4096 * pagesOf b.size
    omega
  have htrans := hI.agrees.translateVa_buffer hreg hg rfl hctx hoff
  obtain ⟨hin, hpa⟩ := Gpgpu.translateVa_eq_ok_iff.1 htrans
  refine ⟨hin, ?_⟩
  rw [Nat.add_zero] at hpa
  rw [hpa]
  exact localDdrAddress_of_mem h₁ (by change b.gpuPa ≤ _; omega)

theorem Inv.gpuVa_lt (hI : Inv as s maps) (hb : b ∈ s.bufferList) (hctx : vaToCtx b.gpuVa = i + 1) :
    b.gpuVa < 2 ^ 64 := by
  obtain ⟨j, _, hg⟩ := (hI.buffer b hb).range
  obtain ⟨_, v, n, _, hva, hle, _⟩ := hI.agrees.buffer_cases hg rfl hctx
  have hframes := gpuDdr.frames_lt
  have hi := i.isLt
  rw [hva, vaddr_eq (by omega)]
  omega

theorem Inv.afterKernel (hI : Inv as s maps) {dev : Gpgpu}
    (hdev : ∀ i, (s.world.mgr.gdev.ctx i).id ≠ 0 → ∀ x, s.world.tableIndex i ≤ x →
      x < s.world.tableIndex i + 8 * gpuDdr.frames → dev.mem x = s.world.dev.mem x) :
    Inv [] { s with world := s.world.setMemories s.world.mgr.host dev } maps :=
  hI.setMemories (hI.agrees.setMemories _ _ (fun _ _ _ _ _ => rfl) hdev) (fun _ _ _ => rfl)
    fun _ _ _ _ hx => by cases hx

theorem Inv.exists_context (hI : Inv as s maps) (hb : b ∈ s.bufferList) (hsize : 0 < b.size) :
    ∃ i : Fin 16, vaToCtx b.gpuVa = i + 1 := by
  obtain ⟨j, _, hg⟩ := (hI.buffer b hb).range
  have hpages := le_mul_pagesOf b.size
  obtain hnone | ⟨_, hzero⟩ | ⟨v, n, hg', hid, hle, _⟩ := hI.agrees.mapped _ hg
  · cases hnone
  · change 4096 * pagesOf b.size = 0 at hzero
    omega
  · have hframes := gpuDdr.frames_lt
    have hvle := hI.agrees.inv.mgr.vpageNext_le (hI.agrees.inv.mgr.contextOk hid)
    have hva : b.gpuVa = Manager.vaddr (j + 1) v := Option.some.inj (congrArg Grant.va hg')
    refine ⟨j, ?_⟩
    rw [hva, vaToCtx_vaddr (by omega) (by omega)]

theorem Inv.gpuVa_shiftRight (hI : Inv as s maps) (hb : b ∈ s.bufferList)
    (hctx : vaToCtx b.gpuVa = i + 1) : b.gpuVa >>> 48 = i + 1 := by
  have hlt := hI.gpuVa_lt hb hctx
  rw [vaToCtx_eq] at hctx
  rw [Nat.shiftRight_eq_div_pow]
  omega

section Operand

variable {args : Buffer} {d : Gpgpu} (hI : Inv as s maps) (hmem : d.mem = s.world.dev.mem)
  (hreg : d.reg 0x508 = lower32 (s.world.mgr.gdev.ctx i).pt.gpuPhys)

include hI hmem hreg

theorem Inv.translated_start (hb : b ∈ s.bufferList) (hctx : vaToCtx b.gpuVa = i + 1)
    (hsize : 0 < b.size) : InDdr (d.pteOffset b.gpuVa) 8 ∧
      localDdrAddress (d.translated b.gpuVa) = (b.gpuPa - gpuDdr.base : ℕ) :=
  (hI.afterKernel fun i hid x _ _ => by rw [hmem]).translated
    (s := { s with world := s.world.setMemories s.world.mgr.host d }) hreg hb hctx hsize

/-- An argument that was written with the address of a buffer is the place of that buffer. -/
theorem Inv.operand_inside (hargs : args ∈ s.bufferList) (hargs_ctx : vaToCtx args.gpuVa = i + 1)
    (hargs_size : 24 ≤ args.size) (hb : b ∈ s.bufferList) (hctx : vaToCtx b.gpuVa = i + 1)
    (hsize : 4096 ≤ b.size) {j : ℕ} (hj : j < 3)
    (hwritten : ∀ k < 8, lastWritten as args.handle (8 * j + k) =
      some (UInt8.ofNat (b.gpuVa / 256 ^ k))) :
    d.operandOffset args.gpuVa j = (b.gpuPa - gpuDdr.base : ℕ) ∧
      InDdr (d.pteOffset (d.operand args.gpuVa j)) 8 ∧
      InDdr (d.operandOffset args.gpuVa j) 4096 := by
  obtain ⟨_, hargs_at⟩ := hI.translated_start hmem hreg hargs hargs_ctx (by omega)
  obtain ⟨hpte, hat⟩ := hI.translated_start hmem hreg hb hctx (by omega)
  have hplace : (d.argsOffset args.gpuVa + 8 * j).toNat = args.gpuPa - gpuDdr.base + 8 * j := by
    have hcast : ∀ p : ℕ, ((p : ℤ) + 8 * j).toNat = p + 8 * j := fun p => by omega
    rw [Gpgpu.argsOffset, hargs_at, hcast]
  -- the argument is read from the bytes that were written last
  have hoperand : d.operand args.gpuVa j = b.gpuVa := by
    have hlt := hI.gpuVa_lt hb hctx
    have hload := ByteMem.load_digits (m := d.mem) (a := args.gpuPa - gpuDdr.base + 8 * j) (n := 8)
      b.gpuVa fun k hk => by
        rw [hmem, Nat.add_assoc]
        exact (hI.content args hargs _ _ (hwritten k hk)).2
    have hpow : (256 : ℕ) ^ 8 = 2 ^ 64 := by norm_num
    rw [Gpgpu.operand, hplace, hload, hpow, Nat.mod_eq_of_lt hlt]
  obtain ⟨h₁, h₂⟩ := hI.range hb
  have hpages := le_mul_pagesOf b.size
  rw [Gpgpu.operandOffset, hoperand]
  exact ⟨hat, hpte, by rw [hat]; exact World.inDdr_of_mem h₁ (by omega)⟩

end Operand

end DriverState

/-! ### The whole path -/

/-- The word that was last written to the `j`-th place of a buffer. -/
def writtenWord (as : List DriverAct) (handle j : ℕ) : ℕ :=
  ByteMem.load (fun k => (lastWritten as handle k).getD 0) (4 * j) 4

/-- The `k`-th byte of the arguments of the kernel: three virtual addresses. -/
def argumentByte (srcA srcB dest k : ℕ) : UInt8 :=
  UInt8.ofNat ((if k < 8 then srcA else if k < 16 then srcB else dest) / 256 ^ (k % 8))

theorem argumentByte_srcA (srcA srcB dest : ℕ) {k : ℕ} (hk : k < 8) :
    argumentByte srcA srcB dest (8 * 0 + k) = UInt8.ofNat (srcA / 256 ^ k) := by
  rw [argumentByte, if_pos (by omega), Nat.mul_add_mod, Nat.mod_eq_of_lt hk]

theorem argumentByte_srcB (srcA srcB dest : ℕ) {k : ℕ} (hk : k < 8) :
    argumentByte srcA srcB dest (8 * 1 + k) = UInt8.ofNat (srcB / 256 ^ k) := by
  rw [argumentByte, if_neg (by omega), if_pos (by omega), Nat.mul_add_mod, Nat.mod_eq_of_lt hk]

theorem argumentByte_dest (srcA srcB dest : ℕ) {k : ℕ} (hk : k < 8) :
    argumentByte srcA srcB dest (8 * 2 + k) = UInt8.ofNat (dest / 256 ^ k) := by
  rw [argumentByte, if_neg (by omega), if_neg (by omega), Nat.mul_add_mod, Nat.mod_eq_of_lt hk]

/-- After a history of calls a vector addition is prepared: the buffers belong to one context and
are large enough, the sources were written, and the argument buffer was last written with the
addresses of sources and destination. -/
structure Prepared (as : List DriverAct) (s : DriverState) (ctxID : ℕ)
    (kernel args srcA srcB dest : Buffer) : Prop where
  mem : ∀ b ∈ [kernel, args, srcA, srcB, dest], b ∈ s.bufferList
  context : ∀ b ∈ [kernel, args, srcA, srcB, dest], vaToCtx b.gpuVa = ctxID
  args_size : 24 ≤ args.size
  data_size : ∀ b ∈ [srcA, srcB, dest], 4096 ≤ b.size
  dest_ne : ∀ b ∈ [srcA, srcB], dest ≠ b
  written : ∀ b ∈ [srcA, srcB], ∀ k < 4096, lastWritten as b.handle k ≠ none
  arguments : ∀ k < 24, lastWritten as args.handle k =
    some (argumentByte srcA.gpuVa srcB.gpuVa dest.gpuVa k)

theorem DriverState.Inv.load_source {as : List DriverAct} {s : DriverState}
    {maps : Fin 16 → PageMap} {b : Buffer} (hI : DriverState.Inv as s maps) (hb : b ∈ s.bufferList)
    (hwritten : ∀ k < 4096, lastWritten as b.handle k ≠ none) {j : ℕ} (hj : j < 1024) :
    s.world.dev.mem.load (b.gpuPa - gpuDdr.base + 4 * j) 4 = writtenWord as b.handle j := by
  refine ByteMem.load_congr fun k hk => ?_
  obtain ⟨x, hx⟩ := Option.ne_none_iff_exists'.1 (hwritten (4 * j + k) (by omega))
  rw [hx, Option.getD_some, Nat.add_assoc]
  exact (hI.content b hb _ _ hx).2

section Prepared

variable {as : List DriverAct} {s : DriverState} {maps : Fin 16 → PageMap} {ctxID : ℕ}
  {kernel args srcA srcB dest : Buffer}

/-- The memory of the device after the kernel. -/
def sumsOf (s : DriverState) (srcA srcB dest : Buffer) : ByteMem :=
  Gpgpu.sumWords s.world.dev.mem (srcA.gpuPa - gpuDdr.base) (srcB.gpuPa - gpuDdr.base)
    (dest.gpuPa - gpuDdr.base) 1024

theorem Prepared.mem_bufferList (hprep : Prepared as s ctxID kernel args srcA srcB dest) :
    kernel ∈ s.bufferList ∧ args ∈ s.bufferList ∧ srcA ∈ s.bufferList ∧ srcB ∈ s.bufferList ∧
      dest ∈ s.bufferList := by
  simpa using hprep.mem

/-- **The kernel of a prepared addition goes through**: all its accesses lie inside of the DDR. -/
theorem Prepared.processVectorAddition {i : Fin 16}
    (hprep : Prepared as s (i + 1) kernel args srcA srcB dest) (hI : DriverState.Inv as s maps)
    {d : Gpgpu} (hmem : d.mem = s.world.dev.mem)
    (hreg : d.reg 0x508 = lower32 (s.world.mgr.gdev.ctx i).pt.gpuPhys) :
    ∃ d', d.processVectorAddition args.gpuVa = .ok d' ∧ d'.mem = sumsOf s srcA srcB dest := by
  have hargs_size := hprep.args_size
  obtain ⟨-, hmem_p, hmem_a, hmem_b, hmem_d⟩ := hprep.mem_bufferList
  obtain ⟨-, hctx_p, hctx_a, hctx_b, hctx_d⟩ : vaToCtx kernel.gpuVa = i + 1 ∧
      vaToCtx args.gpuVa = i + 1 ∧ vaToCtx srcA.gpuVa = i + 1 ∧ vaToCtx srcB.gpuVa = i + 1 ∧
      vaToCtx dest.gpuVa = i + 1 := by
    simpa using hprep.context
  obtain ⟨hsize_a, hsize_b, hsize_d⟩ : 4096 ≤ srcA.size ∧ 4096 ≤ srcB.size ∧ 4096 ≤ dest.size := by
    simpa using hprep.data_size
  obtain ⟨hpte, hplace⟩ := hI.translated_start hmem hreg hmem_p hctx_p (by omega)
  obtain ⟨hat_a, hin_a⟩ := hI.operand_inside hmem hreg hmem_p hctx_p hargs_size
    hmem_a hctx_a hsize_a
    (by omega : 0 < 3) fun k hk => by
      rw [hprep.arguments _ (by omega), argumentByte_srcA _ _ _ hk]
  obtain ⟨hat_b, hin_b⟩ := hI.operand_inside hmem hreg hmem_p hctx_p hargs_size
    hmem_b hctx_b hsize_b
    (by omega : 1 < 3) fun k hk => by
      rw [hprep.arguments _ (by omega), argumentByte_srcB _ _ _ hk]
  obtain ⟨hat_d, hin_d⟩ := hI.operand_inside hmem hreg hmem_p hctx_p hargs_size
    hmem_d hctx_d hsize_d
    (by omega : 2 < 3) fun k hk => by
      rw [hprep.arguments _ (by omega), argumentByte_dest _ _ _ hk]
  have hargs_in : InDdr (d.argsOffset args.gpuVa) 24 := by
    obtain ⟨h₁, h₂⟩ := hI.range hmem_p
    have hpages := DriverState.le_mul_pagesOf args.size
    rw [Gpgpu.argsOffset, hplace]
    exact World.inDdr_of_mem h₁ (by omega)
  have hinside : d.KernelInside args.gpuVa := by
    refine ⟨hpte, hargs_in, fun k hk => ?_⟩
    interval_cases k
    · exact hin_a
    · exact hin_b
    · exact hin_d
  refine ⟨_, Gpgpu.processVectorAddition_eq_ok_iff.2 ⟨hinside, rfl⟩, ?_⟩
  rw [hat_a, hat_b, hat_d, hmem, Int.toNat_natCast, Int.toNat_natCast, Int.toNat_natCast]
  rfl

/-- So does its `SUBMIT`. -/
theorem Prepared.submit (hprep : Prepared as s ctxID kernel args srcA srcB dest)
    (hI : DriverState.Inv as s maps) {job : KernelJob}
    (hkernel : job.kernelHandle.toNat = kernel.gpuVa) (hargs : job.argHandle.toNat = args.gpuVa)
    (jobID : UInt32) :
    ∃ d', s.submit jobID job = some { s with world := s.world.setMemories s.world.mgr.host d' } ∧
      d'.mem = sumsOf s srcA srcB dest := by
  have hargs_size := hprep.args_size
  obtain ⟨hmem_k, hmem_p, -⟩ := hprep.mem_bufferList
  obtain ⟨i, hi⟩ := hI.exists_context hmem_p (by omega)
  obtain rfl : ctxID = i + 1 := (hprep.context args (by simp)).symm.trans hi
  have hshift : job.kernelHandle.toNat >>> 48 = i + 1 := by
    rw [hkernel]
    exact hI.gpuVa_shiftRight hmem_k (hprep.context kernel (by simp))
  obtain ⟨d, hmem, hreg, hsubmit⟩ := s.submit_eq hshift jobID
  obtain ⟨d', hd', hsums⟩ := hprep.processVectorAddition hI hmem hreg
  rw [hargs] at hsubmit
  exact ⟨d', hsubmit d' hd', hsums⟩

theorem Prepared.dest_apart (hprep : Prepared as s ctxID kernel args srcA srcB dest)
    (hI : DriverState.Inv as s maps) {b : Buffer} (hb : b ∈ s.bufferList) (hne : dest ≠ b) :
    ByteMem.Apart (dest.gpuPa - gpuDdr.base) (4 * 1024) (b.gpuPa - gpuDdr.base) b.size := by
  obtain ⟨-, -, -, -, hmem_d⟩ := hprep.mem_bufferList
  have hsize := hprep.data_size dest (by simp)
  have hpages := DriverState.le_mul_pagesOf dest.size
  exact (hI.buffers_apart hmem_d hb hne).mono le_rfl (by omega) le_rfl
    (Nat.add_le_add_left (DriverState.le_mul_pagesOf b.size) _)

theorem Prepared.sumsOf_table (hprep : Prepared as s ctxID kernel args srcA srcB dest)
    (hI : DriverState.Inv as s maps) {j : Fin 16} (hid : (s.world.mgr.gdev.ctx j).id ≠ 0) {x : ℕ}
    (hx₁ : s.world.tableIndex j ≤ x) (hx₂ : x < s.world.tableIndex j + 8 * gpuDdr.frames) :
    sumsOf s srcA srcB dest x = s.world.dev.mem x := by
  obtain ⟨-, -, -, -, hmem_d⟩ := hprep.mem_bufferList
  have hsize := hprep.data_size dest (by simp)
  have hpages := DriverState.le_mul_pagesOf dest.size
  have hnot := (hI.table_apart hmem_d hid).symm.not_mem hx₁ hx₂
  exact Gpgpu.sumWords_of_not_mem (by omega)

/-- **The words of the destination are the sums of the words last written to the sources.** -/
theorem Prepared.load_sumsOf (hprep : Prepared as s ctxID kernel args srcA srcB dest)
    (hI : DriverState.Inv as s maps) {j : ℕ} (hj : j < 1024) :
    (sumsOf s srcA srcB dest).load (dest.gpuPa - gpuDdr.base + 4 * j) 4 =
      (writtenWord as srcA.handle j + writtenWord as srcB.handle j) % 2 ^ 32 := by
  obtain ⟨-, -, hmem_a, hmem_b, -⟩ := hprep.mem_bufferList
  have hapart : ∀ b ∈ [srcA, srcB], b ∈ s.bufferList → 4096 ≤ b.size →
      ByteMem.Apart (dest.gpuPa - gpuDdr.base) (4 * 1024) (b.gpuPa - gpuDdr.base) (4 * 1024) :=
    fun b hb hmem hsize =>
      (hprep.dest_apart hI hmem (hprep.dest_ne b hb)).mono le_rfl le_rfl le_rfl (by omega)
  rw [← hI.load_source hmem_a (hprep.written srcA (by simp)) hj,
    ← hI.load_source hmem_b (hprep.written srcB (by simp)) hj]
  exact Gpgpu.load_sumWords (hapart srcA (by simp) hmem_a (hprep.data_size srcA (by simp)))
    (hapart srcB (by simp) hmem_b (hprep.data_size srcB (by simp))) hj

end Prepared

/-- **The vector addition**: when it is prepared, `SUBMIT` goes through; a `READ_BUF` of the
destination then returns for each of the 1024 words the sum of the words last written to the
sources; and no byte of the DDR outside of the destination has changed, neither of another buffer
nor of a page table. -/
theorem vector_addition (host : ByteMem) (dev : Gpgpu) {as : List DriverAct} {s : DriverState}
    {ctxID : ℕ} {kernel args srcA srcB dest : Buffer} (jobID : UInt32) (job : KernelJob)
    (hrun : Machine.run DriverState.step (.start host dev) as = some s)
    (hprep : Prepared as s ctxID kernel args srcA srcB dest)
    (hkernel : job.kernelHandle.toNat = kernel.gpuVa) (hargs : job.argHandle.toNat = args.gpuVa) :
    ∃ s', s.submit jobID job = some s' ∧
      (∀ size : UInt32, 4096 ≤ size.toNat → size.toNat ≤ dest.size →
        ∃ out s'', s'.readBuf dest.handle size = some (out, s'') ∧ out.length = size.toNat ∧
          ∀ j < 1024, (userBytes out).load (4 * j) 4 =
            (writtenWord as srcA.handle j + writtenWord as srcB.handle j) % 2 ^ 32) ∧
      (∀ b ∈ s.bufferList, b ≠ dest → ∀ k < b.size,
        s'.world.dev.mem (b.gpuPa - gpuDdr.base + k) =
          s.world.dev.mem (b.gpuPa - gpuDdr.base + k)) ∧
      (∀ i, (s.world.mgr.gdev.ctx i).id ≠ 0 → ∀ k < 8 * (s.world.mgr.gdev.ctx i).pt.numEntries,
        s'.world.dev.mem (s.world.tableIndex i + k) =
          s.world.dev.mem (s.world.tableIndex i + k)) := by
  obtain ⟨maps, hI⟩ := DriverState.inv_of_run hrun
  obtain ⟨-, -, -, -, hmem_d⟩ := hprep.mem_bufferList
  obtain ⟨d', hsubmit, hsums⟩ := hprep.submit hI hkernel hargs jobID
  have htable : ∀ j, (s.world.mgr.gdev.ctx j).id ≠ 0 → ∀ x, s.world.tableIndex j ≤ x →
      x < s.world.tableIndex j + 8 * gpuDdr.frames → d'.mem x = s.world.dev.mem x := by
    intro j hid x hx₁ hx₂
    rw [hsums]
    exact hprep.sumsOf_table hI hid hx₁ hx₂
  refine ⟨_, hsubmit, fun size hsize₁ hsize₂ => ?_, fun b hb hne k hk => ?_,
    fun j hid k hk => ?_⟩
  · obtain ⟨s'', hread, _⟩ := (hI.afterKernel htable).readBuf hmem_d hsize₂
    refine ⟨_, s'', hread, by simp, fun j hj => ?_⟩
    rw [← hprep.load_sumsOf hI hj, ← hsums]
    refine ByteMem.load_congr fun k hk => ?_
    have hlt : 4 * j + k < size.toNat := by omega
    rw [userBytes, List.getD_eq_getElem?_getD, List.getElem?_map, List.getElem?_range hlt,
      Nat.add_assoc]
    rfl
  · have hnot := (hprep.dest_apart hI hb hne.symm).not_mem (x := b.gpuPa - gpuDdr.base + k)
      (by omega) (by omega)
    change d'.mem _ = _
    rw [hsums]
    exact Gpgpu.sumWords_of_not_mem hnot
  · rw [(hI.agrees.inv.mgr.contextOk hid).numEntries_eq] at hk
    exact htable j hid _ (by omega) (by omega)

/-- Calls that make a kernel, an argument buffer, two sources that hold 1 and 2 in every byte, and a
destination. -/
def additionCalls : List DriverAct :=
  [.ctxCreate 0x100000, .reqBuf 0x200000 1 16, .reqBuf 0x201000 1 24, .reqBuf 0x202000 1 4096,
    .reqBuf 0x203000 1 4096, .reqBuf 0x204000 1 4096, .writeBuf 3 (List.replicate 4096 1),
    .writeBuf 4 (List.replicate 4096 2),
    .writeBuf 2 ((List.range 24).map
      (argumentByte 0x1000000002000 0x1000000003000 0x1000000004000))]

/-- The prepared addition of the two sources. -/
theorem vector_addition_words : ∃ s s' out s'',
    Machine.run DriverState.step (.start (fun _ => 0) { mem := fun _ => 0xFF }) additionCalls =
      some s ∧
    s.submit 1 { kernelHandle := 0x1000000000000, argHandle := 0x1000000001000 } = some s' ∧
    s'.readBuf 5 4096 = some (out, s'') ∧ (userBytes out).load (4 * 7) 4 = 0x03030303 := by
  have hsome : (Machine.run DriverState.step (.start (fun _ => 0) { mem := fun _ => 0xFF })
      additionCalls).map DriverState.bufferList =
        some [⟨5, 4096, 0x204000, 0x1000000004000, 0x80044000, 1⟩,
          ⟨4, 4096, 0x203000, 0x1000000003000, 0x80043000, 1⟩,
          ⟨3, 4096, 0x202000, 0x1000000002000, 0x80042000, 1⟩,
          ⟨2, 24, 0x201000, 0x1000000001000, 0x80041000, 1⟩,
          ⟨1, 16, 0x200000, 0x1000000000000, 0x80040000, 1⟩] := by decide +kernel
  obtain ⟨s, hrun, hbuf⟩ := Option.map_eq_some_iff.1 hsome
  have hprep : Prepared additionCalls s 1 ⟨1, 16, 0x200000, 0x1000000000000, 0x80040000, 1⟩
      ⟨2, 24, 0x201000, 0x1000000001000, 0x80041000, 1⟩
      ⟨3, 4096, 0x202000, 0x1000000002000, 0x80042000, 1⟩
      ⟨4, 4096, 0x203000, 0x1000000003000, 0x80043000, 1⟩
      ⟨5, 4096, 0x204000, 0x1000000004000, 0x80044000, 1⟩ := by
    refine ⟨?_, by decide, by decide, by decide, by decide, ?_, by decide +kernel⟩
    · rw [hbuf]
      decide
    · intro b hb k hk
      simp only [List.mem_cons, List.not_mem_nil, or_false] at hb
      obtain rfl | rfl := hb <;>
        simp [lastWritten, additionCalls, DriverAct.written, hk, -List.reduceReplicate]
  obtain ⟨s', hsubmit, hsum, _⟩ := vector_addition _ _ 1
    { kernelHandle := 0x1000000000000, argHandle := 0x1000000001000 } hrun hprep rfl rfl
  obtain ⟨out, s'', hread, _, hword⟩ := hsum 4096 (by decide) (by decide)
  refine ⟨s, s', out, s'', hrun, hsubmit, hread, ?_⟩
  rw [hword 7 (by decide)]
  decide +kernel

end Gpu

end Dvf
