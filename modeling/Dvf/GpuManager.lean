/-
**The memory manager of the GPU driver** (`gpgpu_memory_manager.c`).

The driver hands out the DDR of the GPU from one end to the other and never takes anything back.
Each of the 16 contexts has a page table: an array of 8-byte entries in coherent host memory, and
room for a copy of it in the DDR.  `gpu_alloc` takes the next frames, writes their entries behind
those of the context's earlier buffers and has the whole table copied to the device; it does not
compare the index of an entry with the length of the table.  `gpu_free` clears entries, and the
frames and the virtual pages behind them are not used again.

The DDR is a window of the 64-bit physical address space that the driver is initialised with.  A
coherent block of host memory is named by its bus address, through which processor and device see
the same bytes.  The calls are made one after the other.  The driver's locks do not ensure that:
`gpu_alloc` takes the lock of its context and `gpu_ctx_create` that of the device, so calls for
different contexts may be in `gpu_ddr_alloc` at the same time.

Main definitions:

* `Dvf.Gpu.Manager` and its operations `ddrAlloc`, `ctxCreate`, `alloc`, `free` — the source;
* `Dvf.Gpu.ManagerState` — the manager with the host memory and the history of what it handed out;
* `Dvf.Gpu.ManagerState.Inv` — what holds of the manager with respect to the page map of each
  context.

Main results:

* `Dvf.Gpu.ManagerState.Inv.step` — every call keeps the invariant;
* `Dvf.Gpu.manager_ranges_and_entries` — **what the manager hands out is aligned, inside the DDR and
  disjoint, no entry is written outside of its table, and no frame is mapped twice**.
-/

import Dvf.Machine
import Dvf.PageTable
import Mathlib.Data.List.Pairwise

set_option autoImplicit false

namespace Dvf

namespace Gpu

/-! ### The source -/

/-- `PAGE_ALIGN` on unsigned integers of `w` bits: rounding up to whole pages of 4096 bytes. -/
def pageAlign (w x : ℕ) : ℕ := ((x + 0xFFF) % 2 ^ w) >>> 12 <<< 12

/-- The error codes of the manager. -/
inductive Errno
  | enomem
  | einval
  deriving DecidableEq, Repr

/-- `struct gpu_page_table`.  A null `cpuPtr` is `none`. -/
structure PageTableInfo where
  numEntries : ℕ := 0
  cpuPtr : Option ℕ := none
  dmaHandle : ℕ := 0
  gpuPhys : ℕ := 0
  deriving DecidableEq, Repr

/-- `struct gpu_context`; the id of a context that was not created is zero. -/
structure Context where
  id : ℕ := 0
  pt : PageTableInfo := {}
  vpageNext : ℕ := 0
  deriving DecidableEq, Repr

/-- `struct gpu_device`: the contexts and the part of the DDR that is not handed out yet. -/
structure Manager where
  ctx : Fin 16 → Context := fun _ => {}
  ddrBase : ℕ
  ddrSize : ℕ
  ddrNext : ℕ

/-- The directions of a transfer. -/
inductive Direction
  | h2d
  | d2h
  deriving DecidableEq, Repr

/-- The arguments of `gp_gpu_dma`. -/
structure DmaRequest where
  srcaddr : ℕ
  destaddr : ℕ
  size : ℕ
  direction : Direction
  deriving DecidableEq, Repr

namespace Manager

/-- `gpu_initialize_memory_manager`, on the zeroed static structure. -/
def initializeMemoryManager (ddrBase ddrSize : ℕ) : Manager where
  ddrBase := ddrBase
  ddrSize := ddrSize
  ddrNext := ddrBase

/-- `gpu_ddr_alloc`: the address of the range, or zero when there is no room. -/
def ddrAlloc (g : Manager) (size : ℕ) : ℕ × Manager :=
  let size := pageAlign 64 size
  if (g.ddrBase + g.ddrSize) % 2 ^ 64 < (g.ddrNext + size) % 2 ^ 64 then (0, g)
  else (g.ddrNext, { g with ddrNext := (g.ddrNext + size) % 2 ^ 64 })

/-- The first context that is not in use. -/
def freeSlot (g : Manager) : Option (Fin 16) :=
  (List.finRange 16).find? fun i => (g.ctx i).id = 0

/-- The context `i` after a part of `gpu_ctx_create`. -/
def setContext (g : Manager) (i : Fin 16) (c : Context) : Manager :=
  { g with ctx := Function.update g.ctx i c }

/-- `gpu_ctx_create`, with the zeroed block that `dma_alloc_coherent` returns, if any.  The result
is the index of the new context; its id is one more.  A failed call leaves the id set. -/
def ctxCreate (g : Manager) (host : ByteMem) (block : Option ℕ) :
    Except Errno (Fin 16) × Manager × ByteMem :=
  match g.freeSlot with
  | none => (.error .enomem, g, host)
  | some i =>
      let n := g.ddrSize / 4096
      match block with
      | none =>
          (.error .enomem,
            g.setContext i
              { id := i + 1, vpageNext := 0
                pt := { (g.ctx i).pt with numEntries := n, cpuPtr := none } }, host)
      | some b =>
          let r := g.ddrAlloc (8 * n)
          let g' := r.2.setContext i
            { id := i + 1, vpageNext := 0
              pt := { numEntries := n, cpuPtr := some b, dmaHandle := b, gpuPhys := r.1 } }
          (if r.1 = 0 then .error .enomem else .ok i, g', host.zero b (8 * n))

theorem ctx_ddrAlloc (g : Manager) (size : ℕ) : (g.ddrAlloc size).2.ctx = g.ctx := by
  unfold ddrAlloc
  dsimp only
  split
  · rfl
  · rfl

theorem id_of_freeSlot {g : Manager} {i : Fin 16} (h : g.freeSlot = some i) : (g.ctx i).id = 0 := by
  simpa using List.find?_some h

theorem ctxCreate_none {g : Manager} {i : Fin 16} (h : g.freeSlot = some i) (host : ByteMem) :
    g.ctxCreate host none =
      (.error .enomem,
        g.setContext i
          { id := i + 1, vpageNext := 0
            pt := { (g.ctx i).pt with numEntries := g.ddrSize / 4096, cpuPtr := none } },
        host) := by
  unfold ctxCreate
  rw [h]

theorem ctxCreate_some {g : Manager} {i : Fin 16} (h : g.freeSlot = some i) (host : ByteMem)
    (b : ℕ) :
    g.ctxCreate host (some b) =
      (if (g.ddrAlloc (8 * (g.ddrSize / 4096))).1 = 0 then .error .enomem else .ok i,
        (g.ddrAlloc (8 * (g.ddrSize / 4096))).2.setContext i
          { id := i + 1, vpageNext := 0
            pt :=
              { numEntries := g.ddrSize / 4096, cpuPtr := some b, dmaHandle := b
                gpuPhys := (g.ddrAlloc (8 * (g.ddrSize / 4096))).1 } },
        host.zero b (8 * (g.ddrSize / 4096))) := by
  unfold ctxCreate
  rw [h]

/-- The slot that `gpu_ctx_create` finds has an id afterwards. -/
theorem ctx_ctxCreate {g : Manager} {i : Fin 16} (h : g.freeSlot = some i) (host : ByteMem)
    (block : Option ℕ) : ((g.ctxCreate host block).2.1.ctx i).id = i + 1 ∧
      ∀ j, j ≠ i → (g.ctxCreate host block).2.1.ctx j = g.ctx j := by
  cases block with
  | none =>
      rw [ctxCreate_none h]
      exact ⟨by simp [setContext], fun j hj => Function.update_of_ne hj ..⟩
  | some b =>
      rw [ctxCreate_some h]
      refine ⟨by simp [setContext], fun j hj => ?_⟩
      exact (Function.update_of_ne hj ..).trans (congrFun (g.ctx_ddrAlloc _) j)

/-- The entries that the loop of `gpu_alloc` writes: index in the table and value. -/
def pteWrites (baseVpage pa pages : ℕ) : List (ℕ × ℕ) :=
  (List.range pages).map fun i => (baseVpage + i, ((pa + i * 4096) % 2 ^ 64) >>> 12 <<< 12 ||| 1)

/-- Storing entries through `cpu_ptr`; there is no memory behind a null pointer. -/
def storeThrough (cpuPtr : Option ℕ) (host : ByteMem) (es : List (ℕ × ℕ)) : Option ByteMem :=
  match cpuPtr with
  | none => if es = [] then some host else none
  | some p => some (PageTable.storeEntries host p es)

/-- The virtual address of a page of a context. -/
def vaddr (ctxID vpage : ℕ) : ℕ := ctxID <<< 48 ||| vpage <<< 12

/-- What a call of `gpu_alloc` comes to: the address of a null table is used, `-ENOMEM`, or a buffer
together with the transfer that copies the table to the device. -/
inductive AllocOutcome
  | crash
  | enomem (g : Manager)
  | done (va pa : ℕ) (g : Manager) (host : ByteMem) (sync : DmaRequest)

/-- `gpu_alloc` on the context with index `i`. -/
def alloc (g : Manager) (host : ByteMem) (i : Fin 16) (reqSize : ℕ) : AllocOutcome :=
  let c := g.ctx i
  let size := pageAlign 64 reqSize
  let pages := size / 4096
  let r := g.ddrAlloc size
  if r.1 = 0 then .enomem r.2
  else
    match storeThrough c.pt.cpuPtr host (pteWrites c.vpageNext r.1 pages) with
    | none => .crash
    | some host' =>
        .done (vaddr c.id c.vpageNext) r.1
          (r.2.setContext i { c with vpageNext := c.vpageNext + pages }) host'
          { srcaddr := c.pt.dmaHandle, destaddr := c.pt.gpuPhys
            size := 8 * c.pt.numEntries % 2 ^ 32, direction := .h2d }

/-- The loop of `gpu_free` with the number of pages that are left: whether it went through, and the
memory with the entries cleared so far. -/
def freeLoop (cpuPtr numEntries : ℕ) : ℕ → ℕ → ByteMem → Bool × ByteMem
  | 0, _, host => (true, host)
  | pages + 1, vpage, host =>
      if numEntries ≤ vpage then (false, host)
      else if host.load (cpuPtr + 8 * vpage) 8 &&& 1 = 0 then (false, host)
      else freeLoop cpuPtr numEntries pages (vpage + 1) (host.store (cpuPtr + 8 * vpage) 8 0)

end Manager

/-- The context that an id stands for, if it is one of the array. -/
def ctxIndex (ctxID : ℕ) : Option (Fin 16) :=
  if h : 0 < ctxID ∧ ctxID ≤ 16 then some ⟨ctxID - 1, by omega⟩ else none

/-- `gpu_va_to_ctx`. -/
def vaToCtx (va : ℕ) : ℕ := va >>> 48 &&& 0xFFFF

/-- `gpu_va_to_vpage`. -/
def vaToVpage (va : ℕ) : ℕ := va >>> 12 &&& 0xFFFFFFFFF

/-- The number of pages that `gpu_free` clears for a size; the size is rounded in 32 bits. -/
def freePages (size : UInt32) : ℕ := pageAlign 32 size.toNat / 4096

/-- `gpu_free`: whether it returns zero, and the memory. -/
def Manager.free (g : Manager) (host : ByteMem) (va : UInt64) (size : UInt32) : Bool × ByteMem :=
  match ctxIndex (vaToCtx va.toNat) with
  | none => (false, host)
  | some i =>
      let pt := (g.ctx i).pt
      freeLoop (pt.cpuPtr.getD 0) pt.numEntries (freePages size) (vaToVpage va.toNat) host

/-! ### Calls, one after the other -/

/-- A range that `gpu_ddr_alloc` handed out: for the page table of a context, or for a buffer of it
with a virtual address. -/
structure Grant where
  ctx : Fin 16
  va : Option ℕ
  addr : ℕ
  size : ℕ
  deriving DecidableEq, Repr

/-- The manager with the host memory, the coherent blocks in use and the ranges handed out so far,
the last one first. -/
structure ManagerState where
  gdev : Manager
  host : ByteMem
  blocks : List (ℕ × ℕ) := []
  grants : List Grant := []

/-- What a successful `gpu_alloc` returns, and the transfer it makes. -/
structure Allocated where
  va : ℕ
  pa : ℕ
  sync : DmaRequest
  deriving DecidableEq, Repr

/-- A block that `dma_alloc_coherent` may return: it has no address in common with another one. -/
def Fresh (blocks : List (ℕ × ℕ)) (b n : ℕ) : Prop :=
  b + n ≤ 2 ^ 64 ∧ ∀ x ∈ blocks, ByteMem.Apart b n x.1 x.2

instance (blocks : List (ℕ × ℕ)) (b n : ℕ) : Decidable (Fresh blocks b n) :=
  inferInstanceAs (Decidable (_ ∧ _))

/-- The calls of the manager. -/
inductive ManagerAct
  | ctxCreate (block : ℕ)
  | alloc (ctxID : ℕ) (size : UInt32)
  | free (va : UInt64) (size : UInt32)
  deriving DecidableEq, Repr

namespace ManagerState

/-- The state after `gpu_initialize_memory_manager`, with any contents of the host memory. -/
def start (ddrBase ddrSize : ℕ) (host : ByteMem) : ManagerState where
  gdev := Manager.initializeMemoryManager ddrBase ddrSize
  host := host

/-- A successful `gpu_ctx_create`. -/
def ctxCreate (s : ManagerState) (block : ℕ) : Option ManagerState :=
  let n := 8 * (s.gdev.ddrSize / 4096)
  if Fresh s.blocks block n then
    match s.gdev.ctxCreate s.host (some block) with
    | (.ok i, g, host) =>
        some
          { gdev := g, host := host, blocks := (block, n) :: s.blocks
            grants := ⟨i, none, (g.ctx i).pt.gpuPhys, pageAlign 64 n⟩ :: s.grants }
    | _ => none
  else none

/-- `gpu_ctx_create`, successful or not, with the block that `dma_alloc_coherent` returns, if any.
-/
def createContext (s : ManagerState) (block : Option ℕ) : Except Errno (Fin 16) × ManagerState :=
  let n := 8 * (s.gdev.ddrSize / 4096)
  match s.gdev.ctxCreate s.host block with
  | (.ok i, g, host) =>
      (.ok i,
        { gdev := g, host := host, blocks := (block.getD 0, n) :: s.blocks
          grants := ⟨i, none, (g.ctx i).pt.gpuPhys, pageAlign 64 n⟩ :: s.grants })
  | (.error e, g, host) => (.error e, { s with gdev := g, host := host })

/-- `gpu_alloc`, successful or not.  A context outside of the array and a null table are not
answered. -/
def alloc (s : ManagerState) (ctxID : ℕ) (size : UInt32) :
    Option (ManagerState × Option Allocated) :=
  match ctxIndex ctxID with
  | none => none
  | some i =>
      match s.gdev.alloc s.host i size.toNat with
      | .crash => none
      | .enomem g => some ({ s with gdev := g }, none)
      | .done va pa g host sync =>
          some
            ({ s with
                gdev := g, host := host
                grants := ⟨i, some va, pa, pageAlign 64 size.toNat⟩ :: s.grants },
              some ⟨va, pa, sync⟩)

/-- `gpu_free`: whether it returns zero, and the state after it. -/
def free (s : ManagerState) (va : UInt64) (size : UInt32) : Bool × ManagerState :=
  let r := s.gdev.free s.host va size
  (r.1, { s with host := r.2 })

def Created (s : ManagerState) (ctxID : ℕ) : Prop :=
  ∃ i, ctxIndex ctxID = some i ∧ (s.gdev.ctx i).id ≠ 0

instance (s : ManagerState) (ctxID : ℕ) : Decidable (s.Created ctxID) :=
  inferInstanceAs (Decidable (∃ i, ctxIndex ctxID = some i ∧ (s.gdev.ctx i).id ≠ 0))

/-- One call: a `gpu_ctx_create` that succeeds, a `gpu_alloc` on a created context or a `gpu_free`.
-/
def step (s : ManagerState) : ManagerAct → Option ManagerState
  | .ctxCreate block => s.ctxCreate block
  | .alloc ctxID size => if s.Created ctxID then (s.alloc ctxID size).map Prod.fst else none
  | .free va size => some (s.free va size).2

end ManagerState

/-! ### Addresses -/

theorem pageAlign_eq (w x : ℕ) : pageAlign w x = 4096 * ((x + 4095) % 2 ^ w / 4096) := by
  rw [pageAlign, Nat.shiftLeft_eq, Nat.shiftRight_eq_div_pow, Nat.mul_comm]

def pagesOf (size : ℕ) : ℕ := (size + 4095) / 4096

theorem pageAlign_of_lt {x : ℕ} (h : x + 4095 < 2 ^ 64) : pageAlign 64 x = 4096 * pagesOf x := by
  rw [pageAlign_eq, Nat.mod_eq_of_lt h, pagesOf]

theorem pagesOf_mul (n : ℕ) : pagesOf (4096 * n) = n := by
  unfold pagesOf
  omega

theorem vaddr_eq {v : ℕ} (hv : v < 2 ^ 36) (c : ℕ) : Manager.vaddr c v = c * 2 ^ 48 + 4096 * v := by
  have hlt : v <<< 12 < 2 ^ 48 := by
    rw [Nat.shiftLeft_eq]
    omega
  rw [Manager.vaddr, ← Nat.shiftLeft_add_eq_or_of_lt hlt, Nat.shiftLeft_eq, Nat.shiftLeft_eq]
  omega

theorem vaToVpage_eq (va : ℕ) : vaToVpage va = va / 4096 % 2 ^ 36 := by
  rw [vaToVpage, Nat.shiftRight_eq_div_pow]
  exact Nat.and_two_pow_sub_one_eq_mod (va / 4096) 36

theorem vaToCtx_eq (va : ℕ) : vaToCtx va = va / 2 ^ 48 % 2 ^ 16 := by
  rw [vaToCtx, Nat.shiftRight_eq_div_pow]
  exact Nat.and_two_pow_sub_one_eq_mod (va / 2 ^ 48) 16

theorem pte_eq {x : ℕ} (hx : x < 2 ^ 64) (hdvd : 4096 ∣ x) :
    (x % 2 ^ 64) >>> 12 <<< 12 ||| 1 = PageTable.entry (some x) := by
  rw [← Nat.shiftLeft_add_eq_or_of_lt (by norm_num), Nat.shiftLeft_eq, Nat.shiftRight_eq_div_pow,
    Nat.mod_eq_of_lt hx, PageTable.entry_some]
  omega

theorem pteWrites_eq {pa n : ℕ} (hpa : 4096 ∣ pa) (hfit : pa + 4096 * n < 2 ^ 64) (v : ℕ) :
    Manager.pteWrites v pa n =
      (List.range n).map fun i => (v + i, PageTable.entry (some (pa + 4096 * i))) := by
  refine List.map_congr_left fun i hi => ?_
  rw [List.mem_range] at hi
  rw [Nat.mul_comm i, pte_eq (by omega) (by omega)]

/-! ### The DDR window -/

/-- A window of the physical address space that can serve as the DDR: it begins at the boundary of
a page, not at zero, its pages can be numbered with the 36 bits that a virtual address has for them,
and it lies in the lower half of the address space. -/
structure DdrWindow where
  base : ℕ
  size : ℕ
  base_pos : 0 < base
  base_aligned : 4096 ∣ base
  size_lt : size < 2 ^ 48
  fits : base + size ≤ 2 ^ 63

/-- The number of frames of the window, which is the length of every page table. -/
def DdrWindow.frames (w : DdrWindow) : ℕ := w.size / 4096

theorem DdrWindow.frames_lt (w : DdrWindow) : w.frames < 2 ^ 36 := by
  have := w.size_lt
  unfold frames
  omega

def DdrWindow.tableSize (w : DdrWindow) : ℕ := 4096 * pagesOf (8 * w.frames)

theorem DdrWindow.pageAlign_table (w : DdrWindow) : pageAlign 64 (8 * w.frames) = w.tableSize := by
  have := w.frames_lt
  rw [pageAlign_of_lt (by omega)]
  rfl

/-- The window that the driver is initialised with: `GPU_DDR_BASE_PHYS` and `GPU_DDR_SIZE`. -/
def gpuDdr : DdrWindow where
  base := 0x80000000
  size := 128 * 1024 * 1024
  base_pos := by decide
  base_aligned := by decide
  size_lt := by decide
  fits := by decide

/-! ### The invariant -/

namespace ManagerState

variable {w : DdrWindow} {s s' : ManagerState} {f : PageMap} {maps : Fin 16 → PageMap} {i : Fin 16}
  {pages : ℕ}

/-- The grant for the page table of a context. -/
def tableGrant (w : DdrWindow) (i : Fin 16) (addr : ℕ) : Grant := ⟨i, none, addr, w.tableSize⟩

/-- The grant for a buffer of `n` pages of a created context. -/
def bufferGrant (i : Fin 16) (v addr n : ℕ) : Grant :=
  ⟨i, some (Manager.vaddr (i + 1) v), addr, 4096 * n⟩

/-- A context in use whose table represents the page map `f`. -/
structure ContextOk (w : DdrWindow) (s : ManagerState) (f : PageMap) (i : Fin 16) : Prop where
  id_eq : (s.gdev.ctx i).id = i + 1
  numEntries_eq : (s.gdev.ctx i).pt.numEntries = w.frames
  cpuPtr_eq : (s.gdev.ctx i).pt.cpuPtr = some (s.gdev.ctx i).pt.dmaHandle
  dma_le : (s.gdev.ctx i).pt.dmaHandle + 8 * w.frames ≤ 2 ^ 64
  block_mem : ((s.gdev.ctx i).pt.dmaHandle, 8 * w.frames) ∈ s.blocks
  table_mem : tableGrant w i (s.gdev.ctx i).pt.gpuPhys ∈ s.grants
  -- no context has more pages than frames were handed out to all of them
  vpages_le : w.base + 4096 * (s.gdev.ctx i).vpageNext ≤ s.gdev.ddrNext
  represents : PageTable.Represents s.host (s.gdev.ctx i).pt.dmaHandle w.frames f
  mapped_lt : ∀ v p, f v = some p → v < (s.gdev.ctx i).vpageNext
  mapped : ∀ v p, f v = some p → ∃ u a n, bufferGrant i u a n ∈ s.grants ∧ u ≤ v ∧ v < u + n ∧
    p = a + 4096 * (v - u)

/-- The range of a grant is aligned and lies between the start of the window and what is left. -/
structure RangeOk (w : DdrWindow) (s : ManagerState) (g : Grant) : Prop where
  addr_aligned : 4096 ∣ g.addr
  size_aligned : 4096 ∣ g.size
  lower : w.base ≤ g.addr
  upper : g.addr + g.size ≤ s.gdev.ddrNext

/-- A grant for a buffer: its pages are among those its context has used, or it is the empty buffer
of a context that was not created. -/
def BufferOk (s : ManagerState) (g : Grant) : Prop :=
  g.va = none ∨ (g.va = some 0 ∧ g.size = 0) ∨ ∃ v n, g = bufferGrant g.ctx v g.addr n ∧
    (s.gdev.ctx g.ctx).id ≠ 0 ∧ v + n ≤ (s.gdev.ctx g.ctx).vpageNext

/-- The virtual range of a later grant of the same context lies behind that of an earlier one. -/
def VirtualAfter (new old : Grant) : Prop :=
  ∀ va va', new.va = some va → old.va = some va' → new.ctx = old.ctx →
    old.size = 0 ∨ va' + old.size ≤ va

/-- **The invariant of the manager**, with the page map of each context. -/
structure Inv (w : DdrWindow) (s : ManagerState) (maps : Fin 16 → PageMap) : Prop where
  ddrBase_eq : s.gdev.ddrBase = w.base
  ddrSize_eq : s.gdev.ddrSize = w.size
  next_aligned : 4096 ∣ s.gdev.ddrNext
  base_le : w.base ≤ s.gdev.ddrNext
  next_le : s.gdev.ddrNext ≤ w.base + w.size
  context : ∀ i, (s.gdev.ctx i = {} ∧ maps i = fun _ => none) ∨ ContextOk w s (maps i) i
  tables_apart : ∀ i j, i ≠ j → (s.gdev.ctx i).id ≠ 0 → (s.gdev.ctx j).id ≠ 0 →
    ByteMem.Apart (s.gdev.ctx i).pt.dmaHandle (8 * w.frames) (s.gdev.ctx j).pt.dmaHandle
      (8 * w.frames)
  range : ∀ g ∈ s.grants, RangeOk w s g
  buffer : ∀ g ∈ s.grants, BufferOk s g
  ordered : s.grants.Pairwise fun new old => old.addr + old.size ≤ new.addr
  virtual : s.grants.Pairwise VirtualAfter

theorem inv_start (w : DdrWindow) (host : ByteMem) :
    Inv w (start w.base w.size host) fun _ _ => none where
  ddrBase_eq := rfl
  ddrSize_eq := rfl
  next_aligned := w.base_aligned
  base_le := le_rfl
  next_le := Nat.le_add_right _ _
  context _ := .inl ⟨rfl, rfl⟩
  tables_apart _ _ _ h := absurd rfl h
  range _ hg := absurd hg List.not_mem_nil
  buffer _ hg := absurd hg List.not_mem_nil
  ordered := List.Pairwise.nil
  virtual := List.Pairwise.nil

theorem Inv.contextOk (hI : Inv w s maps) (h : (s.gdev.ctx i).id ≠ 0) :
    ContextOk w s (maps i) i := by
  obtain ⟨hc, _⟩ | hc := hI.context i
  · rw [hc] at h
    exact absurd rfl h
  · exact hc

theorem Inv.unused (hI : Inv w s maps) (h : (s.gdev.ctx i).id = 0) :
    s.gdev.ctx i = {} ∧ maps i = fun _ => none := by
  obtain hc | hc := hI.context i
  · exact hc
  · rw [hc.id_eq] at h
    omega

theorem Inv.vpageNext_le (hI : Inv w s maps) (hc : ContextOk w s f i) :
    (s.gdev.ctx i).vpageNext ≤ w.frames := by
  have h₁ := hc.vpages_le
  have h₂ := hI.next_le
  unfold DdrWindow.frames
  omega

/-- A context stays in use while the manager hands out more and its table is not written. -/
theorem ContextOk.mono (h : ContextOk w s f i) (hctx : s'.gdev.ctx i = s.gdev.ctx i)
    (hblocks : ∀ x ∈ s.blocks, x ∈ s'.blocks) (hgrants : ∀ g ∈ s.grants, g ∈ s'.grants)
    (hnext : s.gdev.ddrNext ≤ s'.gdev.ddrNext)
    (hhost : ∀ x, (s.gdev.ctx i).pt.dmaHandle ≤ x →
      x < (s.gdev.ctx i).pt.dmaHandle + 8 * w.frames → s'.host x = s.host x) :
    ContextOk w s' f i where
  id_eq := by rw [hctx, h.id_eq]
  numEntries_eq := by rw [hctx, h.numEntries_eq]
  cpuPtr_eq := by rw [hctx, h.cpuPtr_eq]
  dma_le := by rw [hctx]; exact h.dma_le
  block_mem := by rw [hctx]; exact hblocks _ h.block_mem
  table_mem := by rw [hctx]; exact hgrants _ h.table_mem
  vpages_le := by rw [hctx]; exact h.vpages_le.trans hnext
  represents := by rw [hctx]; exact h.represents.congr hhost
  mapped_lt := by rw [hctx]; exact h.mapped_lt
  mapped v p hv := by
    obtain ⟨u, a, n, hg, hrest⟩ := h.mapped v p hv
    exact ⟨u, a, n, hgrants _ hg, hrest⟩

/-! ### Creating a context -/

/-- The state after the context `i` was created with a table at `block`. -/
def withContext (w : DdrWindow) (s : ManagerState) (i : Fin 16) (block : ℕ) : ManagerState where
  gdev :=
    { s.gdev with
      ctx := Function.update s.gdev.ctx i
        { id := i + 1, vpageNext := 0
          pt := { numEntries := w.frames, cpuPtr := some block, dmaHandle := block
                  gpuPhys := s.gdev.ddrNext } }
      ddrNext := s.gdev.ddrNext + w.tableSize }
  host := s.host.zero block (8 * w.frames)
  blocks := (block, 8 * w.frames) :: s.blocks
  grants := tableGrant w i s.gdev.ddrNext :: s.grants

theorem ddrAlloc_window {g : Manager} (hbase : g.ddrBase = w.base) (hsize : g.ddrSize = w.size)
    (hnext : g.ddrNext ≤ w.base + w.size) (size : ℕ) (hle : size ≤ 2 ^ 62) :
    (g.ddrAlloc size = (0, g)) ∨
    (g.ddrNext + 4096 * pagesOf size ≤ w.base + w.size ∧
      g.ddrAlloc size =
        (g.ddrNext, { g with ddrNext := g.ddrNext + 4096 * pagesOf size })) := by
  have hfits := w.fits
  have hpages : 4096 * pagesOf size ≤ size + 4095 := Nat.mul_div_le _ _
  unfold Manager.ddrAlloc
  simp only [hbase, hsize]
  rw [pageAlign_of_lt (by omega), Nat.mod_eq_of_lt (by omega),
    Nat.mod_eq_of_lt (a := g.ddrNext + _) (by omega)]
  split
  · exact .inl rfl
  · next h => exact .inr ⟨by omega, rfl⟩

theorem Inv.ddrAlloc (hI : Inv w s maps) (size : ℕ) (hsize : size ≤ 2 ^ 62) :
    (s.gdev.ddrAlloc size = (0, s.gdev)) ∨
    (s.gdev.ddrNext + 4096 * pagesOf size ≤ w.base + w.size ∧
      s.gdev.ddrAlloc size =
        (s.gdev.ddrNext, { s.gdev with ddrNext := s.gdev.ddrNext + 4096 * pagesOf size })) :=
  ddrAlloc_window hI.ddrBase_eq hI.ddrSize_eq hI.next_le size hsize

theorem Inv.next_ne_zero (hI : Inv w s maps) : s.gdev.ddrNext ≠ 0 := by
  have h₁ := hI.base_le
  have h₂ := w.base_pos
  omega

/-- What a successful `gpu_ctx_create` does. -/
theorem Inv.ctxCreate_cases (hI : Inv w s maps) {block : ℕ} (h : s.ctxCreate block = some s') :
    ∃ i, s.gdev.ctx i = {} ∧ maps i = (fun _ => none) ∧ Fresh s.blocks block (8 * w.frames) ∧
      s.gdev.ddrNext + w.tableSize ≤ w.base + w.size ∧ s' = withContext w s i block := by
  have hframes : s.gdev.ddrSize / 4096 = w.frames := by rw [hI.ddrSize_eq]; rfl
  unfold ctxCreate at h
  simp only [hframes, Manager.ctxCreate] at h
  split at h
  · next hfresh =>
      split at h
      · next i g host heq =>
          split at heq
          · cases heq
          · next j hslot =>
              have hj : (s.gdev.ctx j).id = 0 := by
                simpa using List.find?_some hslot
              obtain hr | ⟨hroom, hr⟩ := hI.ddrAlloc (8 * w.frames)
                (by have := w.frames_lt; omega)
              · rw [hr] at heq
                simp at heq
              · rw [hr] at heq
                simp only [if_neg hI.next_ne_zero] at heq
                cases heq
                refine ⟨i, (hI.unused hj).1, (hI.unused hj).2, hfresh, hroom, ?_⟩
                cases h
                simp [withContext, Manager.setContext, w.pageAlign_table, tableGrant,
                  DdrWindow.tableSize]
      · cases h
  · cases h

theorem gdev_createContext (s : ManagerState) (block : Option ℕ) :
    (s.createContext block).2.gdev = (s.gdev.ctxCreate s.host block).2.1 := by
  unfold createContext
  split
  · next heq => rw [heq]
  · next heq => rw [heq]

theorem fst_createContext (s : ManagerState) (block : Option ℕ) :
    (s.createContext block).1 = (s.gdev.ctxCreate s.host block).1 := by
  unfold createContext
  split
  · next heq => rw [heq]
  · next heq => rw [heq]

theorem createContext_of_ctxCreate {b : ℕ} {s' : ManagerState} (h : s.ctxCreate b = some s') :
    (s.createContext (some b)).2 = s' := by
  unfold ctxCreate at h
  obtain ⟨_, h⟩ := Option.ite_none_right_eq_some.1 h
  unfold createContext
  split at h
  · next heq =>
      rw [heq]
      exact Option.some.inj h
  · cases h

/-- A `gpu_ctx_create` that returns zero is the successful one. -/
theorem createContext_of_ok {block : Option ℕ} (h : (s.createContext block).1 = .ok i) :
    ∃ b, block = some b ∧ (Fresh s.blocks b (8 * (s.gdev.ddrSize / 4096)) →
      s.ctxCreate b = some (s.createContext block).2) := by
  unfold createContext at h ⊢
  cases block with
  | none =>
      unfold Manager.ctxCreate at h
      cases hslot : s.gdev.freeSlot with
      | none =>
          rw [hslot] at h
          cases h
      | some j =>
          rw [hslot] at h
          cases h
  | some b =>
      refine ⟨b, rfl, fun hfresh => ?_⟩
      unfold ctxCreate
      rw [if_pos hfresh]
      split at h
      · next heq => rw [heq]; rfl
      · cases h

theorem createContext_of_no_slot {block : Option ℕ} (h : s.gdev.freeSlot = none) :
    s.createContext block = (.error .enomem, s) := by
  unfold createContext Manager.ctxCreate
  rw [h]

theorem RangeOk.mono {g : Grant} (h : RangeOk w s g) (hnext : s.gdev.ddrNext ≤ s'.gdev.ddrNext) :
    RangeOk w s' g :=
  { h with upper := h.upper.trans hnext }

/-- Creating a context keeps the invariant; the new table maps nothing. -/
theorem inv_withContext (hI : Inv w s maps) (hctx : s.gdev.ctx i = {})
    (hmap : maps i = fun _ => none)
    {block : ℕ} (hfresh : Fresh s.blocks block (8 * w.frames))
    (hroom : s.gdev.ddrNext + w.tableSize ≤ w.base + w.size) :
    Inv w (withContext w s i block) maps := by
  have hold : ∀ j, (s.gdev.ctx j).id ≠ 0 → j ≠ i := by
    rintro j hj rfl
    rw [hctx] at hj
    exact hj rfl
  -- the table of another context lies in a block that was in use already
  have hapart : ∀ j, (s.gdev.ctx j).id ≠ 0 →
      ByteMem.Apart block (8 * w.frames) (s.gdev.ctx j).pt.dmaHandle (8 * w.frames) :=
    fun j hj => hfresh.2 _ (hI.contextOk hj).block_mem
  have hnext : s.gdev.ddrNext ≤ (withContext w s i block).gdev.ddrNext := Nat.le_add_right _ _
  have hself : (withContext w s i block).gdev.ctx i =
      { id := i + 1, vpageNext := 0
        pt := { numEntries := w.frames, cpuPtr := some block, dmaHandle := block
                gpuPhys := s.gdev.ddrNext } } := Function.update_self ..
  have hother : ∀ j, j ≠ i → (withContext w s i block).gdev.ctx j = s.gdev.ctx j :=
    fun j hj => Function.update_of_ne hj ..
  refine
    { ddrBase_eq := hI.ddrBase_eq, ddrSize_eq := hI.ddrSize_eq
      next_aligned := Nat.dvd_add hI.next_aligned (Nat.dvd_mul_right _ _)
      base_le := hI.base_le.trans hnext, next_le := hroom, context := ?_, tables_apart := ?_
      range := ?_, buffer := ?_, ordered := ?_, virtual := ?_ }
  · intro j
    by_cases hj : j = i
    · subst hj
      right
      exact
        { id_eq := by rw [hself], numEntries_eq := by rw [hself], cpuPtr_eq := by rw [hself]
          dma_le := by rw [hself]; exact hfresh.1
          block_mem := by rw [hself]; exact List.mem_cons_self
          table_mem := by rw [hself]; exact List.mem_cons_self
          vpages_le := by rw [hself]; exact hI.base_le.trans hnext
          represents := by rw [hself, hmap]; exact PageTable.represents_zero _ _ _
          mapped_lt := fun v p hv => by rw [hmap] at hv; cases hv
          mapped := fun v p hv => by rw [hmap] at hv; cases hv }
    · obtain ⟨hc, hm⟩ | hc := hI.context j
      · left
        exact ⟨(hother j hj).trans hc, hm⟩
      · right
        refine hc.mono (hother j hj) (fun x hx => List.mem_cons_of_mem _ hx)
          (fun g hg => List.mem_cons_of_mem _ hg) hnext fun x hx₁ hx₂ => ?_
        exact ByteMem.zero_of_not_mem ((hapart j (by rw [hc.id_eq]; omega)).not_mem hx₁ hx₂)
  · intro a b hab ha hb
    by_cases hai : a = i
    · subst hai
      rw [hother b hab.symm] at hb ⊢
      rw [hself]
      exact hapart b hb
    · rw [hother a hai] at ha ⊢
      by_cases hbi : b = i
      · subst hbi
        rw [hself]
        exact (hapart a ha).symm
      · rw [hother b hbi] at hb ⊢
        exact hI.tables_apart a b hab ha hb
  · refine List.forall_mem_cons.2 ⟨⟨hI.next_aligned, Nat.dvd_mul_right _ _, hI.base_le, le_rfl⟩, ?_⟩
    exact fun g hg => (hI.range g hg).mono hnext
  · refine List.forall_mem_cons.2 ⟨.inl rfl, fun g hg => ?_⟩
    obtain h | h | ⟨v, n, hg', hid, hle⟩ := hI.buffer g hg
    · exact .inl h
    · exact .inr (.inl h)
    · refine .inr (.inr ⟨v, n, hg', ?_, ?_⟩) <;> rw [hother _ (hold _ hid)]
      · exact hid
      · exact hle
  · exact List.pairwise_cons.2 ⟨fun g hg => (hI.range g hg).upper, hI.ordered⟩
  · refine List.pairwise_cons.2 ⟨fun g _ va va' hva => ?_, hI.virtual⟩
    cases hva

/-! ### Allocating a buffer -/

/-- The state after `n` pages were allocated for a buffer of the context `i`. -/
def withBuffer (s : ManagerState) (i : Fin 16) (n : ℕ) : ManagerState where
  gdev :=
    { s.gdev with
      ctx := Function.update s.gdev.ctx i
        { s.gdev.ctx i with vpageNext := (s.gdev.ctx i).vpageNext + n }
      ddrNext := s.gdev.ddrNext + 4096 * n }
  host := PageTable.storeEntries s.host (s.gdev.ctx i).pt.dmaHandle
    ((List.range n).map fun k =>
      ((s.gdev.ctx i).vpageNext + k, PageTable.entry (some (s.gdev.ddrNext + 4096 * k))))
  blocks := s.blocks
  grants :=
    ⟨i, some (Manager.vaddr (s.gdev.ctx i).id (s.gdev.ctx i).vpageNext),
      s.gdev.ddrNext, 4096 * n⟩ ::
      s.grants

theorem withBuffer_ctx (s : ManagerState) (i : Fin 16) (n : ℕ) (j : Fin 16) :
    ((s.withBuffer i n).gdev.ctx j).pt = (s.gdev.ctx j).pt ∧
      ((s.withBuffer i n).gdev.ctx j).id = (s.gdev.ctx j).id := by
  by_cases hji : j = i
  · subst hji
    simp [withBuffer]
  · simp [withBuffer, Function.update_of_ne hji]

/-- What `gpu_alloc` returns for a buffer of the context `i`. -/
def allocResult (s : ManagerState) (i : Fin 16) : Allocated where
  va := Manager.vaddr (s.gdev.ctx i).id (s.gdev.ctx i).vpageNext
  pa := s.gdev.ddrNext
  sync :=
    { srcaddr := (s.gdev.ctx i).pt.dmaHandle, destaddr := (s.gdev.ctx i).pt.gpuPhys
      size := 8 * (s.gdev.ctx i).pt.numEntries % 2 ^ 32, direction := .h2d }

/-- What `gpu_alloc` does: nothing when there is no room, and otherwise it allocates the pages of
the size; a context that was not created can only get an empty buffer. -/
theorem Inv.alloc_cases (hI : Inv w s maps) {ctxID : ℕ} {size : UInt32} {r : Option Allocated}
    (h : s.alloc ctxID size = some (s', r)) : ∃ i, ctxIndex ctxID = some i ∧
      ((s' = s ∧ r = none) ∨
        ((pagesOf size.toNat = 0 ∨ (s.gdev.ctx i).id ≠ 0) ∧
          s.gdev.ddrNext + 4096 * pagesOf size.toNat ≤ w.base + w.size ∧
          s' = withBuffer s i (pagesOf size.toNat) ∧ r = some (allocResult s i))) := by
  have hsize : size.toNat < 2 ^ 32 := size.toNat_lt
  have hpages : 4096 * pagesOf size.toNat ≤ size.toNat + 4095 := Nat.mul_div_le _ _
  unfold alloc at h
  split at h
  · cases h
  · next i hi =>
      refine ⟨i, hi, ?_⟩
      have halign : pageAlign 64 size.toNat = 4096 * pagesOf size.toNat :=
        pageAlign_of_lt (by omega)
      have hdiv : 4096 * pagesOf size.toNat / 4096 = pagesOf size.toNat := by omega
      simp only [Manager.alloc, halign, hdiv] at h
      obtain hr | ⟨hroom, hr⟩ := hI.ddrAlloc (4096 * pagesOf size.toNat) (by omega)
      · simp only [hr] at h
        cases h
        exact .inl ⟨rfl, rfl⟩
      · right
        rw [pagesOf_mul] at hroom hr
        have hfit : s.gdev.ddrNext + 4096 * pagesOf size.toNat < 2 ^ 64 := by
          have := w.fits
          omega
        simp only [hr, if_neg hI.next_ne_zero, pteWrites_eq hI.next_aligned hfit] at h
        by_cases hid : (s.gdev.ctx i).id = 0
        · -- nothing is stored through the null pointer of a context that was not created
          have hc := (hI.unused hid).1
          simp only [hc, Manager.storeThrough] at h
          by_cases hn : pagesOf size.toNat = 0
          · refine ⟨.inl hn, hroom, ?_⟩
            simp only [hn, List.range_zero, List.map_nil, if_true] at h
            cases h
            simp [withBuffer, allocResult, hc, hn, Manager.setContext, PageTable.storeEntries]
          · simp [hn] at h
        · have hc := hI.contextOk hid
          refine ⟨.inr hid, hroom, ?_⟩
          simp only [hc.cpuPtr_eq, Manager.storeThrough] at h
          cases h
          exact ⟨rfl, rfl⟩

theorem Inv.storeEntries_other (hI : Inv w s maps) (hn : pages = 0 ∨ (s.gdev.ctx i).id ≠ 0)
    (hle : pages = 0 ∨ (s.gdev.ctx i).vpageNext + pages ≤ w.frames) {j : Fin 16} (hj : j ≠ i)
    (hid : (s.gdev.ctx j).id ≠ 0) {x : ℕ} (hx₁ : (s.gdev.ctx j).pt.dmaHandle ≤ x)
    (hx₂ : x < (s.gdev.ctx j).pt.dmaHandle + 8 * w.frames) :
    (withBuffer s i pages).host x = s.host x := by
  refine PageTable.storeEntries_of_not_mem fun e he => ?_
  obtain ⟨k, hk, rfl⟩ := List.mem_map.1 he
  rw [List.mem_range] at hk
  have hapart := (hI.tables_apart i j hj.symm (by omega) hid).not_mem hx₁ hx₂
  omega

theorem withBuffer_ctx_self (s : ManagerState) (i : Fin 16) (pages : ℕ) :
    (withBuffer s i pages).gdev.ctx i =
      { s.gdev.ctx i with vpageNext := (s.gdev.ctx i).vpageNext + pages } :=
  Function.update_self ..

/-- The entries of all buffers of a context fit into its table. -/
theorem Inv.vpageNext_add_le (hI : Inv w s maps) (hn : pages = 0 ∨ (s.gdev.ctx i).id ≠ 0)
    (hroom : s.gdev.ddrNext + 4096 * pages ≤ w.base + w.size) :
    pages = 0 ∨ (s.gdev.ctx i).vpageNext + pages ≤ w.frames := by
  obtain h | h := hn
  · exact .inl h
  · have := (hI.contextOk h).vpages_le
    right
    unfold DdrWindow.frames
    omega

/-- The context of a new buffer has the pages of the buffer mapped. -/
theorem ContextOk.withBuffer (hc : ContextOk w s (maps i) i)
    (hroom : s.gdev.ddrNext + 4096 * pages ≤ w.base + w.size) :
    ContextOk w (withBuffer s i pages)
      ((maps i).mapRange 4096 (s.gdev.ctx i).vpageNext s.gdev.ddrNext pages) i := by
  have hself := withBuffer_ctx_self s i pages
  obtain ⟨hpt, hid⟩ := withBuffer_ctx s i pages i
  have hfits := w.fits
  exact
    { id_eq := by rw [hid, hc.id_eq]
      numEntries_eq := by rw [hpt, hc.numEntries_eq]
      cpuPtr_eq := by rw [hpt, hc.cpuPtr_eq]
      dma_le := by rw [hpt]; exact hc.dma_le
      block_mem := by rw [hpt]; exact hc.block_mem
      table_mem := by rw [hpt]; exact List.mem_cons_of_mem _ hc.table_mem
      vpages_le := by
        have := hc.vpages_le
        rw [hself]
        change w.base + 4096 * ((s.gdev.ctx i).vpageNext + pages) ≤
          s.gdev.ddrNext + 4096 * pages
        omega
      represents := by rw [hpt]; exact hc.represents.storeRange _ (by omega)
      mapped_lt := fun v p hv => by
        rw [hself]
        change v < (s.gdev.ctx i).vpageNext + pages
        by_contra hge
        rw [PageMap.mapRange_of_not_mem (by omega)] at hv
        have := hc.mapped_lt v p hv
        omega
      mapped := fun v p hv => by
        by_cases hmem : (s.gdev.ctx i).vpageNext ≤ v ∧ v < (s.gdev.ctx i).vpageNext + pages
        · rw [PageMap.mapRange_of_mem hmem.1 hmem.2] at hv
          cases hv
          refine ⟨_, _, pages, ?_, hmem.1, hmem.2, rfl⟩
          rw [bufferGrant, ← hc.id_eq]
          exact List.mem_cons_self
        · rw [PageMap.mapRange_of_not_mem hmem] at hv
          obtain ⟨u, a, n, hg, hrest⟩ := hc.mapped v p hv
          exact ⟨u, a, n, List.mem_cons_of_mem _ hg, hrest⟩ }

/-- Every context after a buffer was allocated in one of them. -/
theorem Inv.context_withBuffer (hI : Inv w s maps) (hn : pages = 0 ∨ (s.gdev.ctx i).id ≠ 0)
    (hroom : s.gdev.ddrNext + 4096 * pages ≤ w.base + w.size) (j : Fin 16) :
    ((withBuffer s i pages).gdev.ctx j = {} ∧ Function.update maps i
        ((maps i).mapRange 4096 (s.gdev.ctx i).vpageNext s.gdev.ddrNext pages) j = fun _ => none) ∨
      ContextOk w (withBuffer s i pages) (Function.update maps i
        ((maps i).mapRange 4096 (s.gdev.ctx i).vpageNext s.gdev.ddrNext pages) j) j := by
  have hle := hI.vpageNext_add_le hn hroom
  by_cases hj : j = i
  · subst hj
    rw [Function.update_self]
    by_cases hused : (s.gdev.ctx j).id = 0
    · -- an empty buffer of a context that was not created
      have hpages : pages = 0 := by omega
      obtain ⟨hc, hm⟩ := hI.unused hused
      left
      rw [withBuffer_ctx_self, hpages, PageMap.mapRange_zero]
      exact ⟨by rw [hc], hm⟩
    · exact .inr ((hI.contextOk hused).withBuffer hroom)
  · have hother : (withBuffer s i pages).gdev.ctx j = s.gdev.ctx j := Function.update_of_ne hj ..
    rw [Function.update_of_ne hj]
    obtain ⟨hc, hm⟩ | hc := hI.context j
    · exact .inl ⟨hother.trans hc, hm⟩
    · right
      exact hc.mono hother (fun x hx => hx) (fun g hg => List.mem_cons_of_mem _ hg)
        (Nat.le_add_right _ _) fun x => hI.storeEntries_other hn hle hj (by rw [hc.id_eq]; omega)

/-- The pages of every buffer are among those that its context has used. -/
theorem Inv.buffer_withBuffer (hI : Inv w s maps) (hn : pages = 0 ∨ (s.gdev.ctx i).id ≠ 0) :
    ∀ g ∈ (withBuffer s i pages).grants, BufferOk (withBuffer s i pages) g := by
  refine List.forall_mem_cons.2 ⟨?_, fun g hg => ?_⟩
  · by_cases hused : (s.gdev.ctx i).id = 0
    · have hpages : pages = 0 := by omega
      rw [hpages, (hI.unused hused).1]
      exact .inr (.inl ⟨rfl, rfl⟩)
    · refine .inr (.inr ⟨(s.gdev.ctx i).vpageNext, pages, ?_, ?_, ?_⟩)
      · rw [bufferGrant, ← (hI.contextOk hused).id_eq]
      · rw [(withBuffer_ctx s i pages i).2]
        exact hused
      · rw [withBuffer_ctx_self]
  · obtain h | h | ⟨v, n, hg', hgid, hgle⟩ := hI.buffer g hg
    · exact .inl h
    · exact .inr (.inl h)
    · refine .inr (.inr ⟨v, n, hg', ?_, hgle.trans ?_⟩)
      · rw [(withBuffer_ctx s i pages g.ctx).2]
        exact hgid
      · by_cases hgi : g.ctx = i
        · rw [hgi, withBuffer_ctx_self]
          exact Nat.le_add_right _ _
        · exact (congrArg Context.vpageNext (Function.update_of_ne hgi ..)).ge

/-- The addresses of a new buffer come after those of the earlier ones in its context. -/
theorem Inv.virtual_withBuffer (hI : Inv w s maps) {g : Grant} (hg : g ∈ s.grants) (p size : ℕ) :
    VirtualAfter ⟨i, some (Manager.vaddr (s.gdev.ctx i).id (s.gdev.ctx i).vpageNext), p, size⟩
      g := by
  intro va va' hva hva' hctx
  cases hva
  obtain h | h | ⟨v, n, hg', hgid, hgle⟩ := hI.buffer g hg
  · rw [h] at hva'
    cases hva'
  · exact .inl h.2
  · right
    have hctx' : g.ctx = i := hctx.symm
    rw [hctx'] at hgid hgle hg'
    have hc := hI.contextOk hgid
    have hvle := hI.vpageNext_le hc
    have hframes := w.frames_lt
    rw [hg'] at hva' ⊢
    cases hva'
    change Manager.vaddr (i + 1) v + 4096 * n ≤ Manager.vaddr _ _
    rw [hc.id_eq, vaddr_eq (by omega), vaddr_eq (by omega)]
    omega

/-- Allocating a buffer keeps the invariant and maps its pages. -/
theorem inv_withBuffer (hI : Inv w s maps) (hn : pages = 0 ∨ (s.gdev.ctx i).id ≠ 0)
    (hroom : s.gdev.ddrNext + 4096 * pages ≤ w.base + w.size) :
    Inv w (withBuffer s i pages)
      (Function.update maps i
        ((maps i).mapRange 4096 (s.gdev.ctx i).vpageNext s.gdev.ddrNext pages)) := by
  have hnext : s.gdev.ddrNext ≤ (withBuffer s i pages).gdev.ddrNext := Nat.le_add_right _ _
  refine
    { ddrBase_eq := hI.ddrBase_eq, ddrSize_eq := hI.ddrSize_eq
      next_aligned := Nat.dvd_add hI.next_aligned (Nat.dvd_mul_right _ _)
      base_le := hI.base_le.trans hnext, next_le := hroom
      context := hI.context_withBuffer hn hroom, tables_apart := ?_, range := ?_
      buffer := hI.buffer_withBuffer hn
      ordered := List.pairwise_cons.2 ⟨fun g hg => (hI.range g hg).upper, hI.ordered⟩
      virtual := List.pairwise_cons.2 ⟨fun g hg => hI.virtual_withBuffer hg _ _, hI.virtual⟩ }
  · intro a b hab ha hb
    rw [(withBuffer_ctx s i pages _).2] at ha hb
    rw [(withBuffer_ctx s i pages _).1, (withBuffer_ctx s i pages _).1]
    exact hI.tables_apart a b hab ha hb
  · refine List.forall_mem_cons.2 ⟨⟨hI.next_aligned, Nat.dvd_mul_right _ _, hI.base_le, le_rfl⟩, ?_⟩
    exact fun g hg => (hI.range g hg).mono hnext

/-! ### Freeing a range -/

/-- Writes to the host memory for which every table represents a part of its page map. -/
theorem Inv.setHost (hI : Inv w s maps) {host : ByteMem} {maps' : Fin 16 → PageMap}
    (hrep : ∀ j, (s.gdev.ctx j).id ≠ 0 →
      PageTable.Represents host (s.gdev.ctx j).pt.dmaHandle w.frames (maps' j))
    (hsub : ∀ j v p, maps' j v = some p → maps j v = some p) :
    Inv w { s with host := host } maps' := by
  refine { hI with context := fun j => ?_, range := fun g hg => (hI.range g hg).mono le_rfl }
  obtain ⟨hc, hm⟩ | hc := hI.context j
  · refine .inl ⟨hc, funext fun v => ?_⟩
    cases hv : maps' j v with
    | none => rfl
    | some p =>
        have := hsub j v p hv
        rw [hm] at this
        cases this
  · right
    exact
      { hc with
        represents := hrep j (by rw [hc.id_eq]; omega)
        mapped_lt := fun v p hv => hc.mapped_lt v p (hsub j v p hv)
        mapped := fun v p hv => hc.mapped v p (hsub j v p hv) }

/-- What the loop of `gpu_free` does to a table: it unmaps some pages from the first one on, all of
them when it goes through, and those were mapped; it writes nowhere else. -/
theorem freeLoop_spec {p n : ℕ} (pages v : ℕ) (host : ByteMem) (f : PageMap)
    (h : PageTable.Represents host p n f) :
    ∃ k ≤ pages,
      PageTable.Represents (Manager.freeLoop p n pages v host).2 p n (f.unmapRange v k) ∧
      ((Manager.freeLoop p n pages v host).1 = true →
        k = pages ∧ ∀ x, v ≤ x → x < v + pages → x < n ∧ f x ≠ none) ∧
      ∀ x, ¬ (p ≤ x ∧ x < p + 8 * n) → (Manager.freeLoop p n pages v host).2 x = host x := by
  -- induction on the pages that are left; one round clears the entry of `v`
  induction pages generalizing v host f with
  | zero =>
      refine ⟨0, le_rfl, ?_, fun _ => ⟨rfl, fun x h₁ h₂ => by omega⟩, fun x _ => rfl⟩
      rw [PageMap.unmapRange_zero]
      exact h
  | succ pages ih =>
      have hstop : ∃ k ≤ pages + 1, PageTable.Represents host p n (f.unmapRange v k) ∧
          (false = true → k = pages + 1 ∧ ∀ x, v ≤ x → x < v + (pages + 1) → x < n ∧ f x ≠ none) ∧
          ∀ x, ¬ (p ≤ x ∧ x < p + 8 * n) → host x = host x := by
        refine ⟨0, by omega, ?_, fun h => (Bool.false_ne_true h).elim, fun x _ => rfl⟩
        rw [PageMap.unmapRange_zero]
        exact h
      unfold Manager.freeLoop
      by_cases hv : n ≤ v
      · rw [if_pos hv]
        exact hstop
      · rw [if_neg hv]
        by_cases hvalid : host.load (p + 8 * v) 8 &&& 1 = 0
        · rw [if_pos hvalid]
          exact hstop
        · rw [if_neg hvalid]
          have hmapped : f v ≠ none := by
            intro hnone
            rw [h v (by omega), hnone] at hvalid
            exact hvalid rfl
          obtain ⟨k, hk, hrep, hok, hframe⟩ := ih (v + 1) _ _ (h.clear v)
          refine ⟨k + 1, by omega, ?_, fun htrue => ?_, fun x hx => ?_⟩
          · rw [PageMap.unmapRange_succ]
            exact hrep
          · obtain ⟨hkp, hall⟩ := hok htrue
            refine ⟨by omega, fun x hx₁ hx₂ => ?_⟩
            by_cases hxv : x = v
            · subst hxv
              exact ⟨by omega, hmapped⟩
            · have := hall x (by omega) (by omega)
              rwa [Function.update_of_ne hxv] at this
          · rw [hframe x hx]
            exact ByteMem.store_of_not_mem (by omega) 0

/-- What `gpu_free` does: it unmaps some pages of the context that the address names; when it
returns zero these are all pages of the size, and they were mapped. -/
theorem Inv.free_cases (hI : Inv w s maps) (va : UInt64) (size : UInt32) :
    ((s.free va size).1 = false ∧ (s.free va size).2 = s) ∨
    ∃ i k, ctxIndex (vaToCtx va.toNat) = some i ∧ k ≤ freePages size ∧
      Inv w (s.free va size).2
        (Function.update maps i ((maps i).unmapRange (vaToVpage va.toNat) k)) ∧
      ((s.free va size).1 = true → k = freePages size ∧
        ∀ x, vaToVpage va.toNat ≤ x → x < vaToVpage va.toNat + freePages size →
          x < (s.gdev.ctx i).pt.numEntries ∧ maps i x ≠ none) := by
  cases hi : ctxIndex (vaToCtx va.toNat) with
  | none =>
      left
      simp [free, Manager.free, hi]
  | some i =>
      right
      -- an unused context has the empty table at address zero
      have htable : PageTable.Represents s.host ((s.gdev.ctx i).pt.cpuPtr.getD 0)
          (s.gdev.ctx i).pt.numEntries (maps i) ∧
          ((s.gdev.ctx i).id ≠ 0 → (s.gdev.ctx i).pt.numEntries = w.frames ∧
            (s.gdev.ctx i).pt.cpuPtr.getD 0 = (s.gdev.ctx i).pt.dmaHandle) ∧
          ((s.gdev.ctx i).id = 0 → (s.gdev.ctx i).pt.numEntries = 0) := by
        by_cases hid : (s.gdev.ctx i).id = 0
        · rw [(hI.unused hid).1]
          exact ⟨fun v hv => absurd hv (Nat.not_lt_zero v), fun h => absurd rfl h, fun _ => rfl⟩
        · have hc := hI.contextOk hid
          rw [hc.numEntries_eq, hc.cpuPtr_eq]
          exact ⟨hc.represents, fun _ => ⟨rfl, rfl⟩, fun h => absurd h hid⟩
      obtain ⟨k, hk, hrep, hok, hframe⟩ :=
        freeLoop_spec (freePages size) (vaToVpage va.toNat) s.host (maps i) htable.1
      have hfree : s.free va size =
          ((Manager.freeLoop ((s.gdev.ctx i).pt.cpuPtr.getD 0) (s.gdev.ctx i).pt.numEntries
            (freePages size) (vaToVpage va.toNat) s.host).1,
          { s with host := (Manager.freeLoop ((s.gdev.ctx i).pt.cpuPtr.getD 0)
            (s.gdev.ctx i).pt.numEntries (freePages size) (vaToVpage va.toNat) s.host).2 }) := by
        simp [free, Manager.free, hi]
      refine ⟨i, k, rfl, hk, ?_, fun htrue => ?_⟩
      · rw [hfree]
        refine hI.setHost (fun j hj => ?_) fun j v p hv => ?_
        · by_cases hji : j = i
          · subst hji
            rw [Function.update_self, ← (htable.2.1 hj).2]
            rw [(htable.2.1 hj).1] at hrep
            rw [(htable.2.1 hj).1]
            exact hrep
          · rw [Function.update_of_ne hji]
            refine (hI.contextOk hj).represents.congr fun x hx₁ hx₂ => hframe x ?_
            by_cases hid : (s.gdev.ctx i).id = 0
            · rw [htable.2.2 hid]
              omega
            · rw [(htable.2.1 hid).1, (htable.2.1 hid).2]
              exact (hI.tables_apart i j (Ne.symm hji) hid hj).not_mem hx₁ hx₂
        · by_cases hji : j = i
          · subst hji
            rw [Function.update_self] at hv
            exact PageMap.of_unmapRange_eq_some hv
          · rwa [Function.update_of_ne hji] at hv
      · rw [hfree] at htrue
        exact hok htrue

/-! ### All calls -/

/-- **Every call keeps the invariant**, for some page maps. -/
theorem Inv.step (hI : Inv w s maps) {a : ManagerAct} (h : s.step a = some s') :
    ∃ maps', Inv w s' maps' := by
  cases a with
  | ctxCreate block =>
      obtain ⟨i, hctx, hmap, hfresh, hroom, rfl⟩ := hI.ctxCreate_cases h
      exact ⟨maps, inv_withContext hI hctx hmap hfresh hroom⟩
  | alloc ctxID size =>
      simp only [ManagerState.step] at h
      split at h
      · obtain ⟨⟨t, r⟩, hr, rfl⟩ := Option.map_eq_some_iff.1 h
        obtain ⟨i, _, ⟨rfl, _⟩ | ⟨hn, hroom, rfl, _⟩⟩ := hI.alloc_cases hr
        · exact ⟨maps, hI⟩
        · exact ⟨_, inv_withBuffer hI hn hroom⟩
      · cases h
  | free va size =>
      cases h
      obtain ⟨_, hs⟩ | ⟨i, k, _, _, hinv, _⟩ := hI.free_cases va size
      · rw [hs]
        exact ⟨maps, hI⟩
      · exact ⟨_, hinv⟩

theorem exists_inv_of_run {host : ByteMem} {as : List ManagerAct}
    (h : Machine.run ManagerState.step (start w.base w.size host) as = some s) :
    ∃ maps, Inv w s maps :=
  Machine.Reachable.invariant (I := fun s => ∃ maps, Inv w s maps) ⟨as, h⟩ ⟨_, inv_start w host⟩
    fun _ _ _ ⟨_, hI⟩ hstep => hI.step hstep

/-! ### What the invariant gives -/

theorem Inv.grants_apart (hI : Inv w s maps) {g g' : Grant} (hg : g ∈ s.grants)
    (hg' : g' ∈ s.grants) (hne : g ≠ g') : ByteMem.Apart g.addr g.size g'.addr g'.size := by
  have hsymm : Std.Symm fun g g' : Grant => ByteMem.Apart g.addr g.size g'.addr g'.size :=
    ⟨fun _ _ h => h.symm⟩
  have hpair : s.grants.Pairwise fun g g' => ByteMem.Apart g.addr g.size g'.addr g'.size :=
    hI.ordered.imp fun h => .inr h
  exact hpair.forall hg hg' hne

/-- The entry of a virtual page in the driver's table of a context. -/
def pte (s : ManagerState) (i : Fin 16) (v : ℕ) : ℕ :=
  s.host.load ((s.gdev.ctx i).pt.cpuPtr.getD 0 + 8 * v) 8

/-- A valid entry holds the address of a frame of one of the context's buffers. -/
theorem Inv.frame_of_valid (hI : Inv w s maps) (hid : (s.gdev.ctx i).id ≠ 0) {v : ℕ}
    (hv : v < (s.gdev.ctx i).pt.numEntries) (hvalid : s.pte i v &&& 1 = 1) :
    ∃ u a n, bufferGrant i u a n ∈ s.grants ∧ u ≤ v ∧ v < u + n ∧
      s.pte i v >>> 12 <<< 12 = a + 4096 * (v - u) := by
  have hc := hI.contextOk hid
  have hentry : s.pte i v = PageTable.entry (maps i v) := by
    rw [pte, hc.cpuPtr_eq]
    exact hc.represents v (by rwa [← hc.numEntries_eq])
  cases hm : maps i v with
  | none =>
      rw [hentry, hm] at hvalid
      cases hvalid
  | some p =>
      obtain ⟨u, a, n, hg, h₁, h₂, hp⟩ := hc.mapped v p hm
      refine ⟨u, a, n, hg, h₁, h₂, ?_⟩
      have haligned : 4096 ∣ a := (hI.range _ hg).addr_aligned
      rw [hentry, hm, hp, PageTable.entry_some, Nat.shiftLeft_eq, Nat.shiftRight_eq_div_pow]
      omega

/-- No frame is mapped by two entries. -/
theorem Inv.eq_of_frame_eq (hI : Inv w s maps) {i j : Fin 16} (hi : (s.gdev.ctx i).id ≠ 0)
    (hj : (s.gdev.ctx j).id ≠ 0) {v v' : ℕ} (hv : v < (s.gdev.ctx i).pt.numEntries)
    (hv' : v' < (s.gdev.ctx j).pt.numEntries) (hvalid : s.pte i v &&& 1 = 1)
    (hvalid' : s.pte j v' &&& 1 = 1) (heq : s.pte i v >>> 12 = s.pte j v' >>> 12) :
    i = j ∧ v = v' := by
  obtain ⟨u, a, n, hg, h₁, h₂, hf⟩ := hI.frame_of_valid hi hv hvalid
  obtain ⟨u', a', n', hg', h₁', h₂', hf'⟩ := hI.frame_of_valid hj hv' hvalid'
  have hframe : a + 4096 * (v - u) = a' + 4096 * (v' - u') := by rw [← hf, ← hf', heq]
  have hsame : bufferGrant i u a n = bufferGrant j u' a' n' := by
    by_contra hne
    have := hI.grants_apart hg hg' hne
    simp only [ByteMem.Apart, bufferGrant] at this
    omega
  rw [(hI.contextOk hi).numEntries_eq] at hv
  rw [(hI.contextOk hj).numEntries_eq] at hv'
  have hframes := w.frames_lt
  simp only [bufferGrant, Grant.mk.injEq, Option.some.injEq] at hsame
  obtain ⟨rfl, hva, rfl, -⟩ := hsame
  rw [vaddr_eq (by omega), vaddr_eq (by omega)] at hva
  exact ⟨rfl, by omega⟩

theorem Inv.frame_not_mem_table (hI : Inv w s maps) (hid : (s.gdev.ctx i).id ≠ 0) {v : ℕ}
    (hv : v < (s.gdev.ctx i).pt.numEntries) (hvalid : s.pte i v &&& 1 = 1) {g : Grant}
    (hg : g ∈ s.grants) (htable : g.va = none) :
    ¬ (g.addr ≤ s.pte i v >>> 12 <<< 12 ∧ s.pte i v >>> 12 <<< 12 < g.addr + g.size) := by
  obtain ⟨u, a, n, hg', h₁, h₂, hf⟩ := hI.frame_of_valid hid hv hvalid
  have hne : g ≠ bufferGrant i u a n := by
    rintro rfl
    cases htable
  have := hI.grants_apart hg hg' hne
  rw [hf]
  simp only [ByteMem.Apart, bufferGrant] at this
  omega

/-- The entries that `gpu_alloc` writes for a buffer lie in the table. -/
theorem Inv.pteWrites_lt (hI : Inv w s maps) (hid : (s.gdev.ctx i).id ≠ 0) {size : UInt32}
    {va pa : ℕ} {g : Manager} {host : ByteMem} {sync : DmaRequest}
    (h : s.gdev.alloc s.host i size.toNat = .done va pa g host sync) :
    ∀ e ∈ Manager.pteWrites (s.gdev.ctx i).vpageNext pa (pageAlign 64 size.toNat / 4096),
      e.1 < (s.gdev.ctx i).pt.numEntries := by
  have hsize : size.toNat < 2 ^ 32 := size.toNat_lt
  have hc := hI.contextOk hid
  intro e he
  obtain ⟨k, hk, rfl⟩ := List.mem_map.1 he
  rw [List.mem_range, pageAlign_of_lt (by omega), Nat.mul_div_cancel_left _ (by norm_num)] at hk
  have hroom : s.gdev.ddrNext + 4096 * pagesOf size.toNat ≤ w.base + w.size := by
    have hpages : 4096 * pagesOf size.toNat ≤ size.toNat + 4095 := Nat.mul_div_le _ _
    obtain hr | ⟨hroom, _⟩ := hI.ddrAlloc (4096 * pagesOf size.toNat) (by omega)
    · simp [Manager.alloc, pageAlign_of_lt (x := size.toNat) (by omega), hr] at h
    · rwa [pagesOf_mul] at hroom
  have hle := hc.vpages_le
  rw [hc.numEntries_eq]
  unfold DdrWindow.frames
  change (s.gdev.ctx i).vpageNext + k < _
  omega

/-- What the manager guarantees about the ranges, the pages and the entries it gave out. -/
structure Sound (w : DdrWindow) (s : ManagerState) : Prop where
  /-- The ranges of the DDR consist of whole pages and lie inside the window. -/
  range_inside : ∀ g ∈ s.grants, 4096 ∣ g.addr ∧ 4096 ∣ g.size ∧
    ∀ a, g.addr ≤ a → a < g.addr + g.size → w.base ≤ a ∧ a < w.base + w.size
  /-- No two of them have an address in common. -/
  ranges_disjoint : s.grants.Pairwise fun g g' => ByteMem.Apart g.addr g.size g'.addr g'.size
  /-- The next buffer's entries lie in the table. -/
  writes_inside : ∀ (i : Fin 16) (size : UInt32) va pa g host sync, (s.gdev.ctx i).id ≠ 0 →
    s.gdev.alloc s.host i size.toNat = .done va pa g host sync →
    ∀ e ∈ Manager.pteWrites (s.gdev.ctx i).vpageNext pa (pageAlign 64 size.toNat / 4096),
      e.1 < (s.gdev.ctx i).pt.numEntries
  /-- No two virtual ranges of a context have an address in common. -/
  virtual_disjoint : s.grants.Pairwise fun g g' => ∀ va va', g.va = some va → g'.va = some va' →
    g.ctx = g'.ctx → ∀ x, va ≤ x → x < va + g.size → ¬ (va' ≤ x ∧ x < va' + g'.size)
  /-- No two valid entries hold the same frame. -/
  entries_injective : ∀ i j v v', (s.gdev.ctx i).id ≠ 0 → (s.gdev.ctx j).id ≠ 0 →
    v < (s.gdev.ctx i).pt.numEntries → v' < (s.gdev.ctx j).pt.numEntries →
    s.pte i v &&& 1 = 1 → s.pte j v' &&& 1 = 1 → s.pte i v >>> 12 = s.pte j v' >>> 12 →
    i = j ∧ v = v'
  /-- No valid entry holds a frame of a page table. -/
  entries_not_table : ∀ i v, (s.gdev.ctx i).id ≠ 0 → v < (s.gdev.ctx i).pt.numEntries →
    s.pte i v &&& 1 = 1 → ∀ g ∈ s.grants, g.va = none →
    ¬ (g.addr ≤ s.pte i v >>> 12 <<< 12 ∧ s.pte i v >>> 12 <<< 12 < g.addr + g.size)

end ManagerState

open ManagerState in
/-- **The manager is sound in every run**: the ranges it hands out are aligned, inside the DDR and
disjoint; no entry is written outside of its table, although no index is checked; the virtual ranges
of a context are disjoint; and no frame is mapped twice or belongs to a page table. -/
theorem manager_ranges_and_entries (w : DdrWindow) (host : ByteMem) {as : List ManagerAct}
    {s : ManagerState}
    (hrun : Machine.run ManagerState.step (ManagerState.start w.base w.size host) as = some s) :
    ManagerState.Sound w s := by
  obtain ⟨maps, hI⟩ := exists_inv_of_run hrun
  refine
    { range_inside := fun g hg => ?_
      ranges_disjoint := hI.ordered.imp fun h => .inr h
      writes_inside := fun i size va pa g host sync hid h => hI.pteWrites_lt hid h
      virtual_disjoint := hI.virtual.imp fun h va va' hva hva' hctx x hx₁ hx₂ hx => ?_
      entries_injective := fun i j v v' hi hj hv hv' => hI.eq_of_frame_eq hi hj hv hv'
      entries_not_table := fun i v hid hv hvalid g hg => hI.frame_not_mem_table hid hv hvalid hg }
  · have hr := hI.range g hg
    have hnext := hI.next_le
    refine ⟨hr.addr_aligned, hr.size_aligned, fun a ha₁ ha₂ => ⟨hr.lower.trans ha₁, ?_⟩⟩
    have := hr.upper
    omega
  · obtain hempty | hafter := h va va' hva hva' hctx <;> omega

/-- Two contexts with a buffer each, one of which is freed in part. -/
theorem manager_ranges_and_entries_two_contexts : ∃ s,
    Machine.run ManagerState.step (ManagerState.start gpuDdr.base gpuDdr.size fun _ => 0)
      [.ctxCreate 0x100000, .alloc 1 8192, .ctxCreate 0x200000, .alloc 2 5000,
        .free 0x1000000000000 4096, .alloc 1 0xFFFFFFFF, .alloc 1 1] = some s ∧
    s.grants.length = 5 ∧ ManagerState.Sound gpuDdr s := by
  have hsome : ((Machine.run ManagerState.step
      (ManagerState.start gpuDdr.base gpuDdr.size fun _ => 0)
      [.ctxCreate 0x100000, .alloc 1 8192, .ctxCreate 0x200000, .alloc 2 5000,
        .free 0x1000000000000 4096, .alloc 1 0xFFFFFFFF, .alloc 1 1]).map
      fun s => s.grants.length) = some 5 := by decide
  obtain ⟨s, hrun, hlength⟩ := Option.map_eq_some_iff.1 hsome
  exact ⟨s, hrun, hlength, manager_ranges_and_entries gpuDdr _ hrun⟩

end Gpu

end Dvf
