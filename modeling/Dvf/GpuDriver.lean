/-
**The GPU driver's accesses to the device** (`gpgpu_dma.c`, `gpu_program_context`).

The driver reaches the device through register writes only.  A transfer is seven of them, the last
of which rings the doorbell; binding a context is four.  For each of the two, one lemma says what
the device and the host memory are afterwards.

Main definitions:

* `Dvf.Gpu.writeRegs` — register writes, one after the other;
* `Dvf.Gpu.gpGpuDma`, `Dvf.Gpu.programContext` — the source.

Main results:

* `Dvf.Gpu.gpGpuDma_h2d`, `Dvf.Gpu.gpGpuDma_d2h` — **a transfer copies its bytes and nothing else**;
* `Dvf.Gpu.programContext_ok` — the page table that the device uses after a context was bound.
-/

import Dvf.GpuDevice
import Dvf.GpuManager

set_option autoImplicit false

namespace Dvf

namespace Gpu

/-! ### The source -/

/-- `lower_32_bits`. -/
def lower32 (x : ℕ) : ℕ := x % 2 ^ 32

/-- `upper_32_bits`. -/
def upper32 (x : ℕ) : ℕ := x >>> 32

/-- Writes to registers, one after the other. -/
def writeRegs (host : ByteMem) (d : Gpgpu) : List (ℕ × ℕ) → Except Fault (ByteMem × Gpgpu)
  | [] => .ok (host, d)
  | w :: ws => do
      let r ← d.write host w.1 w.2
      writeRegs r.1 r.2 ws

/-- The value of the control register for a direction. -/
def Direction.ctrl : Direction → ℕ
  | .h2d => 0
  | .d2h => 1

/-- The registers of a transfer, without the doorbell. -/
def DmaRequest.regs (q : DmaRequest) : List (ℕ × ℕ) :=
  [(0x100C, lower32 q.srcaddr), (0x1010, upper32 q.srcaddr), (0x1014, lower32 q.destaddr),
    (0x1018, upper32 q.destaddr), (0x1008, q.size), (0x1000, q.direction.ctrl)]

/-- `gp_gpu_dma`: the memory, the device and whether the status register says that the transfer is
done; otherwise the source returns `-ETIMEDOUT`, which none of its callers looks at. -/
def gpGpuDma (host : ByteMem) (d : Gpgpu) (q : DmaRequest) :
    Except Fault (ByteMem × Gpgpu × Bool) := do
  let r ← writeRegs host d q.regs
  let t ← r.2.write r.1 0x1100 1
  let status ← t.2.read 0x1104
  return (t.1, t.2, status &&& 1 = 1)

/-- `gpu_program_context`: the page table of a context, its id, and the switch of the MMU. -/
def programContext (host : ByteMem) (d : Gpgpu) (c : Context) : Except Fault (ByteMem × Gpgpu) :=
  writeRegs host d
    [(0x508, lower32 c.pt.gpuPhys), (0x50C, upper32 c.pt.gpuPhys), (0x510, c.id), (0x500, 1)]

/-! ### Plain registers -/

/-- A register that only holds its value. -/
def Plain (addr : ℕ) : Prop := addr < 0x4000 ∧ addr ≠ 0x1100 ∧ addr ≠ 0x201c ∧ addr ≠ 0x24

instance (addr : ℕ) : Decidable (Plain addr) := inferInstanceAs (Decidable (_ ∧ _))

theorem Gpgpu.write_plain {addr : ℕ} (h : Plain addr) (host : ByteMem) (d : Gpgpu) (val : ℕ) :
    d.write host addr val = .ok (host, d.setReg addr val) := by
  obtain ⟨hlt, h₁, h₂, h₃⟩ := h
  unfold Gpgpu.write
  rw [if_pos (Gpgpu.index_lt hlt), if_neg h₁, if_neg (by omega)]

theorem writeRegs_plain {ws : List (ℕ × ℕ)} (h : ∀ w ∈ ws, Plain w.1) (host : ByteMem) (d : Gpgpu) :
    writeRegs host d ws = .ok (host, ws.foldl (fun d w => d.setReg w.1 w.2) d) := by
  induction ws generalizing d with
  | nil => rfl
  | cons w ws ih =>
      rw [List.forall_mem_cons] at h
      rw [writeRegs, Gpgpu.write_plain h.1]
      exact ih h.2 (d.setReg w.1 w.2)

theorem reg_foldl_setReg {ws : List (ℕ × ℕ)} {a : ℕ} (h : ∀ w ∈ ws, a >>> 2 ≠ w.1 >>> 2)
    (d : Gpgpu) : (ws.foldl (fun d w => d.setReg w.1 w.2) d).reg a = d.reg a := by
  induction ws generalizing d with
  | nil => rfl
  | cons w ws ih =>
      rw [List.forall_mem_cons] at h
      rw [List.foldl_cons, ih h.2, Gpgpu.reg_setReg_of_ne h.1]

theorem mem_foldl_setReg (ws : List (ℕ × ℕ)) (d : Gpgpu) :
    (ws.foldl (fun d w => d.setReg w.1 w.2) d).mem = d.mem := by
  induction ws generalizing d with
  | nil => rfl
  | cons w ws ih => rw [List.foldl_cons, ih, Gpgpu.setReg_mem]

/-! ### Transfers -/

theorem lower32_or_upper32 (x : ℕ) : lower32 x ||| upper32 x <<< 32 = x := by
  have hlt : lower32 x < 2 ^ 32 := Nat.mod_lt _ (by norm_num)
  rw [Nat.or_comm, ← Nat.shiftLeft_add_eq_or_of_lt hlt, Nat.shiftLeft_eq, lower32, upper32,
    Nat.shiftRight_eq_div_pow, Nat.div_add_mod']

/-- The registers that a transfer leaves alone. -/
def NotDma (addr : ℕ) : Prop := addr >>> 2 < 0x400 ∨ 0x441 < addr >>> 2

instance (addr : ℕ) : Decidable (NotDma addr) := inferInstanceAs (Decidable (_ ∨ _))

/-- The device when a transfer starts: its registers are written and the doorbell is rung. -/
def dmaSet (d : Gpgpu) (q : DmaRequest) : Gpgpu :=
  ((q.regs.foldl (fun d w => d.setReg w.1 w.2) d).setReg 0x1100 1).setReg 0x1104 0

theorem dmaSet_mem (d : Gpgpu) (q : DmaRequest) : (dmaSet d q).mem = d.mem := by
  rw [dmaSet, Gpgpu.setReg_mem, Gpgpu.setReg_mem, mem_foldl_setReg]

/-- What the registers of a transfer tell the device. -/
theorem reg_dmaSet {q : DmaRequest} (hsrc : q.srcaddr < 2 ^ 64) (hdest : q.destaddr < 2 ^ 64)
    (hsize : q.size < 2 ^ 32) (d : Gpgpu) :
    (dmaSet d q).reg64 0x100c 0x1010 = q.srcaddr ∧ (dmaSet d q).reg64 0x1014 0x1018 = q.destaddr ∧
      (dmaSet d q).reg 0x1008 = q.size ∧ (dmaSet d q).reg 0x1000 = q.direction.ctrl := by
  have hlow : ∀ x, lower32 x % 4294967296 = lower32 x := fun x => Nat.mod_mod _ _
  have hup : ∀ x, x < 2 ^ 64 → upper32 x % 4294967296 = upper32 x := by
    intro x hx
    refine Nat.mod_eq_of_lt ?_
    rw [upper32, Nat.shiftRight_eq_div_pow]
    omega
  have hctrl : q.direction.ctrl % 4294967296 = q.direction.ctrl := by
    cases q.direction <;> rfl
  have hsize' : q.size % 4294967296 = q.size := Nat.mod_eq_of_lt hsize
  simp [dmaSet, DmaRequest.regs, Gpgpu.reg64, Gpgpu.reg_setReg, hlow, hup _ hsrc, hup _ hdest,
    lower32_or_upper32, hctrl, hsize']

theorem plain_regs (q : DmaRequest) : ∀ w ∈ q.regs, Plain w.1 := by
  simp [DmaRequest.regs, Plain]

theorem gpGpuDma_eq_ok {host : ByteMem} {d : Gpgpu} {q : DmaRequest}
    (hin : (dmaSet d q).DmaInside) :
    gpGpuDma host d q = .ok ((Gpgpu.transferred host (dmaSet d q)).1,
      (Gpgpu.transferred host (dmaSet d q)).2.setReg 0x1104 1, true) := by
  have hbell : (q.regs.foldl (fun d w => d.setReg w.1 w.2) d).write host 0x1100 1 =
      .ok ((Gpgpu.transferred host (dmaSet d q)).1,
        (Gpgpu.transferred host (dmaSet d q)).2.setReg 0x1104 1) := by
    unfold Gpgpu.write
    rw [if_pos (by decide), if_pos rfl]
    exact bind_eq_ok_iff.2 ⟨_, Gpgpu.dmaTransfer_eq_ok_iff.2 ⟨hin, rfl⟩, rfl⟩
  refine bind_eq_ok_iff.2 ⟨_, writeRegs_plain (plain_regs q) host d, ?_⟩
  refine bind_eq_ok_iff.2 ⟨_, hbell, ?_⟩
  refine bind_eq_ok_iff.2 ⟨1, ?_, rfl⟩
  rw [Gpgpu.read, if_pos (by decide), Gpgpu.reg_setReg, if_pos rfl]
  rfl

/-- A transfer keeps the registers that are not its own. -/
theorem reg_transferred {a : ℕ} (ha : NotDma a) (host : ByteMem) (d : Gpgpu) (q : DmaRequest) :
    ((Gpgpu.transferred host (dmaSet d q)).2.setReg 0x1104 1).reg a = d.reg a := by
  have hne : ∀ b ∈ [0x100C, 0x1010, 0x1014, 0x1018, 0x1008, 0x1000, 0x1100, 0x1104],
      a >>> 2 ≠ b >>> 2 := by
    intro b hb
    have hrange : ∀ b ∈ [0x100C, 0x1010, 0x1014, 0x1018, 0x1008, 0x1000, 0x1100, 0x1104],
        0x400 ≤ b >>> 2 ∧ b >>> 2 ≤ 0x441 := by decide
    have := hrange b hb
    unfold NotDma at ha
    omega
  have htransfer : (Gpgpu.transferred host (dmaSet d q)).2.reg a = (dmaSet d q).reg a := by
    unfold Gpgpu.transferred
    split <;> rfl
  have hregs : ∀ w ∈ q.regs, a >>> 2 ≠ w.1 >>> 2 := by
    intro w hw
    refine hne _ ?_
    simp only [DmaRequest.regs, List.mem_cons, List.not_mem_nil, or_false] at hw
    obtain rfl | rfl | rfl | rfl | rfl | rfl := hw <;> simp
  rw [Gpgpu.reg_setReg_of_ne (hne _ (by simp)), htransfer, dmaSet,
    Gpgpu.reg_setReg_of_ne (hne _ (by simp)), Gpgpu.reg_setReg_of_ne (hne _ (by simp)),
    reg_foldl_setReg hregs]

section Transfer

variable (host : ByteMem) (d : Gpgpu) {src dest size : ℕ}

/-- **A transfer to the device copies its bytes from the host memory into the DDR.** -/
theorem gpGpuDma_h2d (hsrc : src < 2 ^ 64) (hdest : dest < 2 ^ 64) (hsize : size < 2 ^ 32)
    (hin : InDdr (ddrIndex dest) size) :
    ∃ d', gpGpuDma host d ⟨src, dest, size, .h2d⟩ = .ok (host, d', true) ∧
      d'.mem = d.mem.copy (ddrIndex dest) size host src ∧ ∀ a, NotDma a → d'.reg a = d.reg a := by
  obtain ⟨h₁, h₂, h₃, h₄⟩ := reg_dmaSet (q := ⟨src, dest, size, .h2d⟩) hsrc hdest hsize d
  have hdir : (dmaSet d ⟨src, dest, size, .h2d⟩).reg 0x1000 = 0 := h₄
  have hinside : (dmaSet d ⟨src, dest, size, .h2d⟩).DmaInside := by
    rw [Gpgpu.DmaInside, if_pos hdir, h₂, h₃]
    exact hin
  have hdone : Gpgpu.transferred host (dmaSet d ⟨src, dest, size, .h2d⟩) =
      (host, (dmaSet d ⟨src, dest, size, .h2d⟩).setMem
        (d.mem.copy (ddrIndex dest) size host src)) := by
    rw [Gpgpu.transferred, if_pos hdir, h₁, h₂, h₃, dmaSet_mem]
  refine ⟨_, ?_, ?_, fun a ha => reg_transferred ha host d ⟨src, dest, size, .h2d⟩⟩
  · rw [gpGpuDma_eq_ok hinside, hdone]
  · rw [hdone, Gpgpu.setReg_mem]
    rfl

/-- **A transfer from the device copies its bytes from the DDR into the host memory.** -/
theorem gpGpuDma_d2h (hsrc : src < 2 ^ 64) (hdest : dest < 2 ^ 64) (hsize : size < 2 ^ 32)
    (hin : InDdr (ddrIndex src) size) :
    ∃ d', gpGpuDma host d ⟨src, dest, size, .d2h⟩ =
        .ok (host.copy dest size d.mem (ddrIndex src), d', true) ∧
      d'.mem = d.mem ∧ ∀ a, NotDma a → d'.reg a = d.reg a := by
  obtain ⟨h₁, h₂, h₃, h₄⟩ := reg_dmaSet (q := ⟨src, dest, size, .d2h⟩) hsrc hdest hsize d
  have hdir : (dmaSet d ⟨src, dest, size, .d2h⟩).reg 0x1000 ≠ 0 := by
    rw [h₄]
    exact Nat.one_ne_zero
  have hinside : (dmaSet d ⟨src, dest, size, .d2h⟩).DmaInside := by
    rw [Gpgpu.DmaInside, if_neg hdir, h₁, h₃]
    exact hin
  have hdone : Gpgpu.transferred host (dmaSet d ⟨src, dest, size, .d2h⟩) =
      (host.copy dest size d.mem (ddrIndex src), dmaSet d ⟨src, dest, size, .d2h⟩) := by
    rw [Gpgpu.transferred, if_neg hdir, h₁, h₂, h₃, dmaSet_mem]
  refine ⟨_, ?_, ?_, fun a ha => reg_transferred ha host d ⟨src, dest, size, .d2h⟩⟩
  · rw [gpGpuDma_eq_ok hinside, hdone]
  · rw [hdone, Gpgpu.setReg_mem, dmaSet_mem]

end Transfer

/-! ### Binding a context -/

/-- The device after a context was bound: the register of the page table holds the lower half of its
address, and the DDR is as before. -/
theorem programContext_ok (host : ByteMem) (d : Gpgpu) (c : Context) :
    ∃ d', programContext host d c = .ok (host, d') ∧ d'.mem = d.mem ∧
      d'.reg 0x508 = lower32 c.pt.gpuPhys ∧
      ∀ a, a >>> 2 < 0x140 ∨ 0x144 < a >>> 2 → d'.reg a = d.reg a := by
  refine ⟨_, writeRegs_plain (by simp [Plain]) host d, mem_foldl_setReg _ _, ?_, fun a ha => ?_⟩
  · simp [Gpgpu.reg_setReg, lower32]
  · refine reg_foldl_setReg (fun w hw => ?_) d
    simp only [List.mem_cons, List.not_mem_nil, or_false] at hw
    obtain rfl | rfl | rfl | rfl := hw <;> simp <;> omega

/-! ### Driver and device together -/

theorem vaddr_succ_ne_zero (c v : ℕ) : Manager.vaddr (c + 1) v ≠ 0 := by
  intro h
  have := (Nat.or_eq_zero_iff.1 h).1
  rw [Nat.shiftLeft_eq] at this
  omega

/-- The memory manager of the driver, with the host memory, and the device. -/
structure World where
  mgr : ManagerState
  dev : Gpgpu

namespace World

/-- The driver has been loaded; memories and registers hold anything. -/
def start (host : ByteMem) (dev : Gpgpu) : World where
  mgr := .start gpuDdr.base gpuDdr.size host
  dev := dev

/-- A successful `gpu_ctx_create`, which does not access the device. -/
def ctxCreate (w : World) (block : ℕ) : Option World :=
  (w.mgr.ctxCreate block).map fun m => { w with mgr := m }

/-- `gpu_alloc` with the transfer of the page table; it is not answered when the device fails. -/
def alloc (w : World) (ctxID : ℕ) (size : UInt32) : Option (World × Option Allocated) :=
  match w.mgr.alloc ctxID size with
  | none => none
  | some (m, none) => some ({ w with mgr := m }, none)
  | some (m, some r) =>
      match gpGpuDma m.host w.dev r.sync with
      | .ok (host, dev, _) => some ({ mgr := { m with host := host }, dev := dev }, some r)
      | .error _ => none

/-- `gpu_bind_context` on a context of the array. -/
def bind (w : World) (i : Fin 16) : Option World :=
  match programContext w.mgr.host w.dev (w.mgr.gdev.ctx i) with
  | .ok (host, dev) => some { mgr := { w.mgr with host := host }, dev := dev }
  | .error _ => none

/-- `gpu_free`, which does not access the device. -/
def free (w : World) (va : UInt64) (size : UInt32) : Bool × World :=
  ((w.mgr.free va size).1, { w with mgr := (w.mgr.free va size).2 })

variable {w w' : World} {maps dmaps : Fin 16 → PageMap} {i : Fin 16}

/-- A buffer was allocated for a context, so that its table was copied to the device. -/
def HasBuffer (w : World) (i : Fin 16) : Prop :=
  ∃ v a n, ManagerState.bufferGrant i v a n ∈ w.mgr.grants

/-- The place of a context's page table in the DDR. -/
def tableIndex (w : World) (i : Fin 16) : ℕ := (w.mgr.gdev.ctx i).pt.gpuPhys - gpuDdr.base

/-- **The invariant of driver and device**, with the page maps that the driver's tables and the
device's copies of them represent. -/
structure Inv (w : World) (maps dmaps : Fin 16 → PageMap) : Prop where
  mgr : ManagerState.Inv gpuDdr w.mgr maps
  table : ∀ i, (w.mgr.gdev.ctx i).id ≠ 0 → w.HasBuffer i →
    PageTable.Represents w.dev.mem (w.tableIndex i) gpuDdr.frames (dmaps i)

theorem inv_start (host : ByteMem) (dev : Gpgpu) :
    Inv (start host dev) (fun _ _ => none) fun _ _ => none where
  mgr := ManagerState.inv_start gpuDdr host
  table _ h := absurd rfl h

/-! ### Tables in the DDR -/

theorem tableSize_gpuDdr : gpuDdr.tableSize = 8 * gpuDdr.frames := by decide

theorem ddrIndex_of_mem {pa : ℕ} (h₁ : gpuDdr.base ≤ pa) (h₂ : pa ≤ gpuDdr.base + gpuDdr.size) :
    ddrIndex pa = pa - gpuDdr.base := by
  change 0x80000000 ≤ pa at h₁
  change pa ≤ 0x80000000 + 128 * 1024 * 1024 at h₂
  change (((pa : ℤ) - 0x80000000) % 2 ^ 32).toNat = pa - 0x80000000
  omega

theorem inDdr_of_mem {pa n : ℕ} (h₁ : gpuDdr.base ≤ pa) (h₂ : pa + n ≤ gpuDdr.base + gpuDdr.size) :
    InDdr ((pa - gpuDdr.base : ℕ) : ℤ) n := by
  have hsize : gpuDdr.size = deviceMemSize := rfl
  unfold InDdr
  omega

theorem Inv.table_range (hI : ManagerState.Inv gpuDdr w.mgr maps)
    (hid : (w.mgr.gdev.ctx i).id ≠ 0) : gpuDdr.base ≤ (w.mgr.gdev.ctx i).pt.gpuPhys ∧
      (w.mgr.gdev.ctx i).pt.gpuPhys + 8 * gpuDdr.frames ≤ gpuDdr.base + gpuDdr.size := by
  have hr := hI.range _ (hI.contextOk hid).table_mem
  have hupper := hr.upper
  have hnext := hI.next_le
  refine ⟨hr.lower, ?_⟩
  simp only [ManagerState.tableGrant, tableSize_gpuDdr] at hupper
  omega

theorem Inv.tables_apart (hI : ManagerState.Inv gpuDdr w.mgr maps) {j : Fin 16} (hij : i ≠ j)
    (hi : (w.mgr.gdev.ctx i).id ≠ 0) (hj : (w.mgr.gdev.ctx j).id ≠ 0) :
    ByteMem.Apart (w.tableIndex i) (8 * gpuDdr.frames) (w.tableIndex j) (8 * gpuDdr.frames) := by
  have hne : ManagerState.tableGrant gpuDdr i (w.mgr.gdev.ctx i).pt.gpuPhys ≠
      ManagerState.tableGrant gpuDdr j (w.mgr.gdev.ctx j).pt.gpuPhys :=
    fun h => hij (congrArg Grant.ctx h)
  have hapart := hI.grants_apart (hI.contextOk hi).table_mem (hI.contextOk hj).table_mem hne
  have h₁ := (Inv.table_range hI hi).1
  have h₂ := (Inv.table_range hI hj).1
  simp only [ByteMem.Apart, ManagerState.tableGrant, tableSize_gpuDdr] at hapart
  unfold ByteMem.Apart tableIndex
  omega

/-! ### What the calls do -/

theorem Inv.setDev (hI : Inv w maps dmaps) {dev : Gpgpu} (hmem : dev.mem = w.dev.mem) :
    Inv { w with dev := dev } maps dmaps :=
  ⟨hI.mgr, fun i hid hbuf => by rw [hmem]; exact hI.table i hid hbuf⟩

/-- `gpu_alloc` as the device sees it: the table of the context is copied into the DDR. -/
theorem Inv.alloc_cases (hI : ManagerState.Inv gpuDdr w.mgr maps) {ctxID : ℕ} {size : UInt32}
    {r : Option Allocated} (h : w.alloc ctxID size = some (w', r)) :
    ∃ i, ctxIndex ctxID = some i ∧
      ((w' = w ∧ r = none) ∨
        ((pagesOf size.toNat = 0 ∨ (w.mgr.gdev.ctx i).id ≠ 0) ∧
          w.mgr.gdev.ddrNext + 4096 * pagesOf size.toNat ≤ gpuDdr.base + gpuDdr.size ∧
          w'.mgr = w.mgr.withBuffer i (pagesOf size.toNat) ∧
          r = some (w.mgr.allocResult i) ∧
          ((w.mgr.gdev.ctx i).id = 0 → w'.dev.mem = w.dev.mem) ∧
          ((w.mgr.gdev.ctx i).id ≠ 0 → w'.dev.mem =
            w.dev.mem.copy (w.tableIndex i) (8 * gpuDdr.frames) w'.mgr.host
              (w.mgr.gdev.ctx i).pt.dmaHandle) ∧
          ∀ a, NotDma a → w'.dev.reg a = w.dev.reg a)) := by
  unfold alloc at h
  split at h
  · cases h
  · next m hm =>
      cases h
      obtain ⟨i, hi, ⟨rfl, _⟩ | ⟨_, _, _, hr⟩⟩ := hI.alloc_cases hm
      · exact ⟨i, hi, .inl ⟨rfl, rfl⟩⟩
      · cases hr
  · next m q hm =>
      obtain ⟨i, hi, ⟨_, hr⟩ | ⟨hn, hroom, rfl, hr⟩⟩ := hI.alloc_cases hm
      · cases hr
      · cases hr
        refine ⟨i, hi, .inr ⟨hn, hroom, ?_⟩⟩
        by_cases hid : (w.mgr.gdev.ctx i).id = 0
        · -- the table of a context that was not created is empty
          have hc := (hI.unused hid).1
          have hzero : (0 : ℕ) < 2 ^ 64 := by norm_num
          obtain ⟨d', hdma, hmem, hreg⟩ := gpGpuDma_h2d (w.mgr.withBuffer i _).host w.dev hzero
            hzero (Nat.two_pow_pos 32) (.inl rfl)
          have hsync : (w.mgr.allocResult i).sync = ⟨0, 0, 0, .h2d⟩ := by
            simp [ManagerState.allocResult, hc]
          rw [hsync, hdma] at h
          cases h
          exact ⟨rfl, rfl, fun _ => by rw [hmem, ByteMem.copy_zero_length], fun h => absurd hid h,
            hreg⟩
        · have hc := hI.contextOk hid
          obtain ⟨h₁, h₂⟩ := Inv.table_range hI hid
          have hsize : 8 * gpuDdr.frames < 2 ^ 32 := by decide
          have hpos : 0 < gpuDdr.frames := by decide
          have hdma_lt : (w.mgr.gdev.ctx i).pt.dmaHandle < 2 ^ 64 := by
            have := hc.dma_le
            omega
          have hphys_lt : (w.mgr.gdev.ctx i).pt.gpuPhys < 2 ^ 64 := by
            have := gpuDdr.fits
            omega
          have hindex := ddrIndex_of_mem h₁ (by omega)
          obtain ⟨d', hdma, hmem, hreg⟩ := gpGpuDma_h2d (w.mgr.withBuffer i _).host w.dev hdma_lt
            hphys_lt hsize (by rw [hindex]; exact inDdr_of_mem h₁ h₂)
          have hsync : (w.mgr.allocResult i).sync =
              ⟨(w.mgr.gdev.ctx i).pt.dmaHandle, (w.mgr.gdev.ctx i).pt.gpuPhys, 8 * gpuDdr.frames,
                .h2d⟩ := by
            simp only [ManagerState.allocResult, hc.numEntries_eq, Nat.mod_eq_of_lt hsize]
          rw [hsync, hdma] at h
          cases h
          refine ⟨rfl, rfl, fun h => absurd h hid, fun _ => ?_, hreg⟩
          rw [hmem, hindex]
          rfl

/-- Creating a context keeps the invariant; its table is not on the device yet. -/
theorem Inv.ctxCreate (hI : Inv w maps dmaps) {block : ℕ} (h : w.ctxCreate block = some w') :
    ∃ i, w.mgr.gdev.ctx i = {} ∧ w'.mgr = .withContext gpuDdr w.mgr i block ∧ w'.dev = w.dev ∧
      Inv w' maps dmaps := by
  obtain ⟨m, hm, rfl⟩ := Option.map_eq_some_iff.1 h
  obtain ⟨i, hctx, hmap, hfresh, hroom, rfl⟩ := hI.mgr.ctxCreate_cases hm
  refine ⟨i, hctx, rfl, rfl, ManagerState.inv_withContext hI.mgr hctx hmap hfresh hroom, ?_⟩
  rintro j hj ⟨v, a, n, hmem⟩
  obtain hg | hg := List.mem_cons.1 hmem
  · cases hg
  · by_cases hji : j = i
    · -- a context that was not created has no buffer with its id
      subst hji
      obtain h | ⟨h, _⟩ | ⟨_, _, _, hid, _⟩ := hI.mgr.buffer _ hg
      · cases h
      · exact absurd (Option.some.inj h) (vaddr_succ_ne_zero _ _)
      · exact absurd (congrArg Context.id hctx) hid
    · have hother : (ManagerState.withContext gpuDdr w.mgr i block).gdev.ctx j = w.mgr.gdev.ctx j :=
        Function.update_of_ne hji ..
      have htable := hI.table j (by rw [← hother]; exact hj) ⟨v, a, n, hg⟩
      unfold tableIndex at htable ⊢
      rw [hother]
      exact htable

/-- Allocating a buffer keeps the invariant; the device's copy of the context's table is the table.
-/
theorem Inv.withBuffer (hI : Inv w maps dmaps) {n : ℕ}
    (hn : n = 0 ∨ (w.mgr.gdev.ctx i).id ≠ 0)
    (hroom : w.mgr.gdev.ddrNext + 4096 * n ≤ gpuDdr.base + gpuDdr.size)
    (hmgr : w'.mgr = w.mgr.withBuffer i n)
    (hunused : (w.mgr.gdev.ctx i).id = 0 → w'.dev.mem = w.dev.mem)
    (hused : (w.mgr.gdev.ctx i).id ≠ 0 → w'.dev.mem =
      w.dev.mem.copy (w.tableIndex i) (8 * gpuDdr.frames) w'.mgr.host
        (w.mgr.gdev.ctx i).pt.dmaHandle) :
    Inv w'
      (Function.update maps i
        ((maps i).mapRange 4096 (w.mgr.gdev.ctx i).vpageNext w.mgr.gdev.ddrNext n))
      (Function.update dmaps i
        ((maps i).mapRange 4096 (w.mgr.gdev.ctx i).vpageNext w.mgr.gdev.ddrNext n)) := by
  have hmgrInv := ManagerState.inv_withBuffer hI.mgr hn hroom
  rw [← hmgr] at hmgrInv
  have hpt : ∀ j, (w'.mgr.gdev.ctx j).pt = (w.mgr.gdev.ctx j).pt ∧
      (w'.mgr.gdev.ctx j).id = (w.mgr.gdev.ctx j).id := by
    intro j
    rw [hmgr]
    exact w.mgr.withBuffer_ctx i n j
  have hindex : ∀ j, w'.tableIndex j = w.tableIndex j := fun j => by
    rw [tableIndex, (hpt j).1, tableIndex]
  refine ⟨hmgrInv, fun j hj hbuf => ?_⟩
  rw [(hpt j).2] at hj
  rw [hindex]
  by_cases hji : j = i
  · subst hji
    have hrep := (hmgrInv.contextOk (by rw [(hpt j).2]; exact hj)).represents
    rw [Function.update_self] at hrep ⊢
    rw [hused hj, ← (hpt j).1]
    exact hrep.copy _ _
  · rw [Function.update_of_ne hji]
    -- the grant of the new buffer belongs to the other context
    have hbuf' : w.HasBuffer j := by
      obtain ⟨v, a, k, hg⟩ := hbuf
      rw [hmgr] at hg
      obtain hg | hg := List.mem_cons.1 hg
      · exact absurd (congrArg Grant.ctx hg) hji
      · exact ⟨v, a, k, hg⟩
    refine (hI.table j hj hbuf').congr fun x hx₁ hx₂ => ?_
    by_cases hid : (w.mgr.gdev.ctx i).id = 0
    · rw [hunused hid]
    · rw [hused hid]
      exact ByteMem.copy_of_not_mem
        ((Inv.tables_apart hI.mgr (Ne.symm hji) hid hj).not_mem hx₁ hx₂)

theorem exists_bind (w : World) (i : Fin 16) : ∃ d', w.bind i = some { w with dev := d' } ∧
    d'.mem = w.dev.mem ∧ d'.reg 0x508 = lower32 (w.mgr.gdev.ctx i).pt.gpuPhys ∧
    ∀ a, a >>> 2 < 0x140 ∨ 0x144 < a >>> 2 → d'.reg a = w.dev.reg a := by
  obtain ⟨d', hd, hrest⟩ := programContext_ok w.mgr.host w.dev (w.mgr.gdev.ctx i)
  refine ⟨d', ?_, hrest⟩
  rw [bind, hd]

/-! ### Translation -/

theorem decodePte_none (va : ℕ) : Gpgpu.decodePte (PageTable.entry none) va = uint64Max := rfl

theorem decodePte_some {p : ℕ} (hp : 4096 ∣ p) (va : ℕ) :
    Gpgpu.decodePte (PageTable.entry (some p)) va = p + va % 4096 := by
  have hoffset : va &&& 0xFFF = va % 4096 := Nat.and_two_pow_sub_one_eq_mod va 12
  have hvalid : (p + 1) &&& 1 = 1 := by
    rw [Nat.and_one_is_mod]
    omega
  rw [Gpgpu.decodePte, PageTable.entry_some, hvalid, if_neg Nat.one_ne_zero, hoffset,
    Nat.shiftLeft_eq, Nat.shiftRight_eq_div_pow]
  omega

/-- **The device translates an address by its copy of the table it is pointed to.** -/
theorem Inv.translateVa (hI : Inv w maps dmaps) (hid : (w.mgr.gdev.ctx i).id ≠ 0)
    (hbuf : w.HasBuffer i) (hreg : w.dev.reg 0x508 = (w.mgr.gdev.ctx i).pt.gpuPhys) {va : ℕ}
    (hva : vaToVpage va < gpuDdr.frames) : w.dev.translateVa va =
      .ok (Gpgpu.decodePte (PageTable.entry (dmaps i (vaToVpage va))) va) := by
  obtain ⟨h₁, h₂⟩ := Inv.table_range hI.mgr hid
  have hbase : gpuDdr.base = deviceDdrBase := rfl
  have hsize : gpuDdr.size = 2 ^ 27 := by decide
  have hlocal : localDdrAddress (w.dev.reg 0x508) = (w.tableIndex i : ℤ) := by
    rw [hreg, localDdrAddress, ← hbase, toInt32_of_lt (by omega) (by omega), tableIndex]
    omega
  have hoffset : w.dev.pteOffset va = ((w.tableIndex i + 8 * vaToVpage va : ℕ) : ℤ) := by
    rw [Gpgpu.pteOffset, hlocal, vaToVpage]
    push_cast
    rfl
  have hin : InDdr (w.dev.pteOffset va) 8 := by
    have hmem : gpuDdr.size = deviceMemSize := rfl
    rw [hoffset]
    unfold InDdr tableIndex
    omega
  refine Gpgpu.translateVa_eq_ok_iff.2 ⟨hin, ?_⟩
  rw [Gpgpu.translated, hoffset, Int.toNat_natCast, hI.table i hid hbuf _ hva]

theorem Inv.lower32_gpuPhys (hI : ManagerState.Inv gpuDdr w.mgr maps)
    (hid : (w.mgr.gdev.ctx i).id ≠ 0) :
    lower32 (w.mgr.gdev.ctx i).pt.gpuPhys = (w.mgr.gdev.ctx i).pt.gpuPhys := by
  obtain ⟨h₁, h₂⟩ := Inv.table_range hI hid
  have hbound : gpuDdr.base + gpuDdr.size < 2 ^ 32 := by decide
  exact Nat.mod_eq_of_lt (by omega)

end World

end Gpu

end Dvf
