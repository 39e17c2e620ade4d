/-
**Buffers of the GPU driver** (`gp_gpu_ioctl`: `CTX_CREATE`, `REQ_BUF`, `WRITE_BUF`, `READ_BUF`).

A buffer is a range of the DDR together with a coherent block of host memory of the same size,
through which its bytes pass: a write copies the user's bytes into the block and has the device
fetch them, a read has the device fill the block and copies it out.  A buffer is named by a handle.

The calls modelled here are those that succeed.  Handles are counted without end; each stands for a
structure of the kernel that is never freed.  The coherent blocks are fresh ranges of the host
memory.

Main definitions:

* `Dvf.Gpu.DriverState`, `Dvf.Gpu.DriverState.step` — the driver's list of buffers over memory
  manager and device, and the calls;
* `Dvf.Gpu.lastWritten` — the byte that was last written to a place of a buffer;
* `Dvf.Gpu.DriverState.Inv` — what holds of the state after a history of calls.

Main results:

* `Dvf.Gpu.DriverState.inv_of_run` — every history of calls keeps the invariant;
* `Dvf.Gpu.read_back` — **a read returns what was last written**.
-/

import Dvf.GpuTranslation

set_option autoImplicit false

namespace Dvf

namespace Gpu

/-! ### The source -/

/-- `struct gp_gpu_buffer`; its block of host memory is named by the bus address. -/
structure Buffer where
  handle : ℕ
  size : ℕ
  dmaHandle : ℕ
  gpuVa : ℕ
  gpuPa : ℕ
  ctxID : ℕ
  deriving DecidableEq, Repr

/-- The driver: `buffer_list`, the last buffer first, and `next_handle`. -/
structure DriverState where
  world : World
  bufferList : List Buffer := []
  nextHandle : ℕ := 1

/-- The calls, with the block that the host memory is taken from. -/
inductive DriverAct
  | ctxCreate (block : ℕ)
  | reqBuf (block ctxID : ℕ) (size : UInt32)
  | writeBuf (handle : ℕ) (data : List UInt8)
  | readBuf (handle : ℕ) (size : UInt32)
  deriving DecidableEq, Repr

/-- `dma_alloc_coherent`: a zeroed block that is not in use, at a bus address of 64 bits. -/
def ManagerState.allocCoherent (m : ManagerState) (block n : ℕ) : Option ManagerState :=
  if block < 2 ^ 64 ∧ Fresh m.blocks block n then
    some { m with host := m.host.zero block n, blocks := (block, n) :: m.blocks }
  else none

/-- The memory of the user from the address of some bytes on. -/
def userBytes (data : List UInt8) : ByteMem := fun k => data.getD k 0

/-- Other contents of the host memory, and another state of the device. -/
def World.setMemories (w : World) (host : ByteMem) (dev : Gpgpu) : World where
  mgr := { w.mgr with host := host }
  dev := dev

/-- `gp_gpu_dma` on the driver's device, with other contents of the host memory. -/
def World.dma (w : World) (host : ByteMem) (q : DmaRequest) : Option World :=
  (gpGpuDma host w.dev q).toOption.map fun r => w.setMemories r.1 r.2.1

namespace DriverState

/-- The driver has been loaded; memories and registers hold anything. -/
def start (host : ByteMem) (dev : Gpgpu) : DriverState where
  world := .start host dev

/-- `find_buffer`. -/
def findBuffer (s : DriverState) (handle : ℕ) : Option Buffer :=
  s.bufferList.find? fun b => b.handle = handle

/-- A `CTX_CREATE` that creates a context. -/
def ctxCreate (s : DriverState) (block : ℕ) : Option DriverState :=
  (s.world.ctxCreate block).map fun w => { s with world := w }

/-- A `REQ_BUF` that succeeds. -/
def reqBuf (s : DriverState) (block ctxID : ℕ) (size : UInt32) : Option DriverState :=
  if ctxID = 0 then none
  else
    (s.world.mgr.allocCoherent block size.toNat).bind fun m =>
      (({ s.world with mgr := m } : World).alloc ctxID size).bind fun r =>
        r.2.map fun q =>
          { world := r.1
            bufferList :=
              { handle := s.nextHandle, size := size.toNat, dmaHandle := block, gpuVa := q.va,
                gpuPa := q.pa, ctxID := ctxID } :: s.bufferList
            nextHandle := s.nextHandle + 1 }

/-- A `WRITE_BUF` of the user's bytes that succeeds. -/
def writeBuf (s : DriverState) (handle : ℕ) (data : List UInt8) : Option DriverState :=
  (s.findBuffer handle).bind fun b =>
    if b.size < data.length then none
    else
      (s.world.dma (s.world.mgr.host.copy b.dmaHandle data.length (userBytes data) 0)
        ⟨b.dmaHandle, b.gpuPa, data.length, .h2d⟩).map fun w => { s with world := w }

/-- A `READ_BUF` that succeeds, and the bytes that the user gets. -/
def readBuf (s : DriverState) (handle : ℕ) (size : UInt32) :
    Option (List UInt8 × DriverState) :=
  (s.findBuffer handle).bind fun b =>
    if b.size < size.toNat then none
    else
      (s.world.dma s.world.mgr.host ⟨b.gpuPa, b.dmaHandle, size.toNat, .d2h⟩).map fun w =>
        ((List.range size.toNat).map fun k => w.mgr.host (b.dmaHandle + k), { s with world := w })

/-- One call. -/
def step (s : DriverState) : DriverAct → Option DriverState
  | .ctxCreate block => s.ctxCreate block
  | .reqBuf block ctxID size => s.reqBuf block ctxID size
  | .writeBuf handle data => s.writeBuf handle data
  | .readBuf handle size => (s.readBuf handle size).map Prod.snd

end DriverState

/-! ### The history -/

/-- The byte that a call writes to a place of a buffer. -/
def DriverAct.written : DriverAct → ℕ → ℕ → Option UInt8
  | .writeBuf handle data, h, k => if h = handle then data[k]? else none
  | _, _, _ => none

/-- The byte that was last written to a place of the buffer with a handle. -/
def lastWritten (as : List DriverAct) (h k : ℕ) : Option UInt8 :=
  as.foldl (fun last a => (a.written h k).or last) none

theorem lastWritten_concat (as : List DriverAct) (a : DriverAct) (h k : ℕ) :
    lastWritten (as ++ [a]) h k = (a.written h k).or (lastWritten as h k) := by
  rw [lastWritten, List.foldl_append]
  rfl

/-! ### Host memory -/

namespace World

variable {w w' : World} {maps : Fin 16 → PageMap} {i : Fin 16}

theorem Agrees.setMemories (h : Agrees w maps) (host : ByteMem) (dev : Gpgpu)
    (hhost : ∀ i, (w.mgr.gdev.ctx i).id ≠ 0 → ∀ x, (w.mgr.gdev.ctx i).pt.dmaHandle ≤ x →
      x < (w.mgr.gdev.ctx i).pt.dmaHandle + 8 * gpuDdr.frames → host x = w.mgr.host x)
    (hdev : ∀ i, (w.mgr.gdev.ctx i).id ≠ 0 → ∀ x, w.tableIndex i ≤ x →
      x < w.tableIndex i + 8 * gpuDdr.frames → dev.mem x = w.dev.mem x) :
    Agrees (w.setMemories host dev) maps := by
  refine ⟨⟨?_, fun i hid hbuf => ?_⟩, h.mapped⟩
  · exact h.inv.mgr.setHost
      (fun i hid => (h.inv.mgr.contextOk hid).represents.congr (hhost i hid)) fun _ _ _ hv => hv
  · exact (h.inv.table i hid hbuf).congr (hdev i hid)

/-- One more block of host memory, which is not a table. -/
theorem Agrees.allocCoherent (h : Agrees w maps) {block n : ℕ} {m : ManagerState}
    (hm : w.mgr.allocCoherent block n = some m) : block < 2 ^ 64 ∧ Fresh w.mgr.blocks block n ∧
      m = { w.mgr with host := w.mgr.host.zero block n, blocks := (block, n) :: w.mgr.blocks } ∧
      Agrees { w with mgr := m } maps := by
  unfold ManagerState.allocCoherent at hm
  split at hm
  · next hblock =>
      obtain ⟨hlt, hfresh⟩ := hblock
      cases hm
      refine ⟨hlt, hfresh, rfl, ?_⟩
      have hhost := h.setMemories (w.mgr.host.zero block n) w.dev
        (fun i hid x hx₁ hx₂ => ByteMem.zero_of_not_mem
          ((hfresh.2 _ (h.inv.mgr.contextOk hid).block_mem).not_mem hx₁ hx₂)) fun _ _ _ _ _ => rfl
      refine ⟨⟨{ hhost.inv.mgr with context := fun j => ?_, range := fun g hg => ?_ },
        hhost.inv.table⟩, hhost.mapped⟩
      · obtain hc | hc := hhost.inv.mgr.context j
        · exact .inl hc
        · exact .inr { hc with block_mem := List.mem_cons_of_mem _ hc.block_mem }
      · exact (hhost.inv.mgr.range g hg).mono le_rfl
  · cases hm

end World

/-! ### The invariant -/

namespace DriverState

variable {s s' : DriverState} {maps : Fin 16 → PageMap} {as : List DriverAct}
  {b : Buffer} {i : Fin 16}

/-- The range of the DDR that a buffer was given, for a context. -/
def bufferRange (i : Fin 16) (b : Buffer) : Grant :=
  ⟨i, some b.gpuVa, b.gpuPa, 4096 * pagesOf b.size⟩

/-- A buffer of the list: its range was handed out for its context, and its block of host memory has
no address in common with a table. -/
structure BufferOk (s : DriverState) (b : Buffer) : Prop where
  range : ∃ i : Fin 16, b.ctxID = i + 1 ∧ bufferRange i b ∈ s.world.mgr.grants
  handle_lt : b.handle < s.nextHandle
  size_lt : b.size < 2 ^ 32
  dma_lt : b.dmaHandle < 2 ^ 64
  block_mem : (b.dmaHandle, b.size) ∈ s.world.mgr.blocks
  apart : ∀ i, (s.world.mgr.gdev.ctx i).id ≠ 0 →
    ByteMem.Apart b.dmaHandle b.size (s.world.mgr.gdev.ctx i).pt.dmaHandle (8 * gpuDdr.frames)

/-- **The invariant of the driver** after a history of calls: each byte that was written is in the
DDR, at its place in the range of the buffer. -/
structure Inv (as : List DriverAct) (s : DriverState) (maps : Fin 16 → PageMap) : Prop where
  agrees : s.world.Agrees maps
  buffer : ∀ b ∈ s.bufferList, s.BufferOk b
  handles : s.bufferList.Pairwise fun b b' => b.handle ≠ b'.handle
  ranges : s.bufferList.Pairwise fun b b' =>
    ByteMem.Apart b.gpuPa (4096 * pagesOf b.size) b'.gpuPa (4096 * pagesOf b'.size)
  unwritten : ∀ h k, s.nextHandle ≤ h → lastWritten as h k = none
  content : ∀ b ∈ s.bufferList, ∀ k x, lastWritten as b.handle k = some x →
    k < b.size ∧ s.world.dev.mem (b.gpuPa - gpuDdr.base + k) = x

theorem inv_start (host : ByteMem) (dev : Gpgpu) : Inv [] (start host dev) fun _ _ => none where
  agrees := ⟨World.inv_start host dev, fun _ hg => absurd hg List.not_mem_nil⟩
  buffer _ hb := absurd hb List.not_mem_nil
  handles := List.Pairwise.nil
  ranges := List.Pairwise.nil
  unwritten _ _ _ := rfl
  content _ hb := absurd hb List.not_mem_nil

theorem le_mul_pagesOf (n : ℕ) : n ≤ 4096 * pagesOf n := by
  unfold pagesOf
  omega

theorem Inv.range (hI : Inv as s maps) (hb : b ∈ s.bufferList) : gpuDdr.base ≤ b.gpuPa ∧
    b.gpuPa + 4096 * pagesOf b.size ≤ gpuDdr.base + gpuDdr.size := by
  obtain ⟨i, _, hg⟩ := (hI.buffer b hb).range
  have hr := hI.agrees.inv.mgr.range _ hg
  exact ⟨hr.lower, hr.upper.trans hI.agrees.inv.mgr.next_le⟩

theorem Inv.table_apart (hI : Inv as s maps) (hb : b ∈ s.bufferList)
    (hid : (s.world.mgr.gdev.ctx i).id ≠ 0) :
    ByteMem.Apart (s.world.tableIndex i) (8 * gpuDdr.frames) (b.gpuPa - gpuDdr.base)
      (4096 * pagesOf b.size) := by
  obtain ⟨j, _, hg⟩ := (hI.buffer b hb).range
  have hck := hI.agrees.inv.mgr.contextOk hid
  have hne : ManagerState.tableGrant gpuDdr i (s.world.mgr.gdev.ctx i).pt.gpuPhys ≠
      bufferRange j b := fun h => by cases congrArg Grant.va h
  have hapart := hI.agrees.inv.mgr.grants_apart hck.table_mem hg hne
  have h₁ := (World.Inv.table_range hI.agrees.inv.mgr hid).1
  have h₂ := (hI.range hb).1
  simp only [ByteMem.Apart, ManagerState.tableGrant, bufferRange, World.tableSize_gpuDdr] at hapart
  unfold ByteMem.Apart World.tableIndex
  omega

theorem Inv.buffers_apart (hI : Inv as s maps) {b' : Buffer} (hb : b ∈ s.bufferList)
    (hb' : b' ∈ s.bufferList) (hne : b ≠ b') :
    ByteMem.Apart (b.gpuPa - gpuDdr.base) (4096 * pagesOf b.size) (b'.gpuPa - gpuDdr.base)
      (4096 * pagesOf b'.size) := by
  have hsymm : Std.Symm fun b b' : Buffer =>
      ByteMem.Apart b.gpuPa (4096 * pagesOf b.size) b'.gpuPa (4096 * pagesOf b'.size) :=
    ⟨fun _ _ h => h.symm⟩
  have hapart := hI.ranges.forall hb hb' hne
  have h₁ := (hI.range hb).1
  have h₂ := (hI.range hb').1
  unfold ByteMem.Apart at hapart ⊢
  omega

theorem Inv.eq_of_handle (hI : Inv as s maps) {b' : Buffer} (hb : b ∈ s.bufferList)
    (hb' : b' ∈ s.bufferList) (h : b.handle = b'.handle) : b = b' := by
  have hsymm : Std.Symm fun b b' : Buffer => b.handle ≠ b'.handle := ⟨fun _ _ h => h.symm⟩
  by_contra hne
  exact hI.handles.forall hb hb' hne h

theorem Inv.findBuffer (hI : Inv as s maps) (hb : b ∈ s.bufferList) :
    s.findBuffer b.handle = some b := by
  cases hf : s.findBuffer b.handle with
  | none => exact absurd (List.find?_eq_none.1 hf b hb) (by simp)
  | some b' =>
      have heq : b'.handle = b.handle := by simpa using List.find?_some hf
      rw [hI.eq_of_handle (List.mem_of_find?_eq_some hf) hb heq]

/-! ### Transfers of a buffer -/

theorem Inv.transfer_fits (hI : Inv as s maps) (hb : b ∈ s.bufferList) {n : ℕ} (hn : n ≤ b.size) :
    b.gpuPa < 2 ^ 64 ∧ n < 2 ^ 32 ∧ ddrIndex b.gpuPa = b.gpuPa - gpuDdr.base ∧
      InDdr (ddrIndex b.gpuPa) n := by
  obtain ⟨h₁, h₂⟩ := hI.range hb
  have hsize := (hI.buffer b hb).size_lt
  have hle := le_mul_pagesOf b.size
  have hfit := gpuDdr.fits
  have hindex := World.ddrIndex_of_mem h₁ (by omega)
  refine ⟨by omega, by omega, hindex, ?_⟩
  rw [hindex]
  exact World.inDdr_of_mem h₁ (by omega)

theorem Inv.dma_h2d (hI : Inv as s maps) (hb : b ∈ s.bufferList) {n : ℕ} (hn : n ≤ b.size)
    (host : ByteMem) : ∃ dev,
      s.world.dma host ⟨b.dmaHandle, b.gpuPa, n, .h2d⟩ =
        some (s.world.setMemories host dev) ∧
      dev.mem = s.world.dev.mem.copy (b.gpuPa - gpuDdr.base) n host b.dmaHandle := by
  obtain ⟨hpa, hlt, hindex, hin⟩ := hI.transfer_fits hb hn
  obtain ⟨d', hd, hmem, _⟩ :=
    gpGpuDma_h2d host s.world.dev (hI.buffer b hb).dma_lt hpa hlt hin
  refine ⟨d', ?_, by rw [hmem, hindex]⟩
  rw [World.dma, hd]
  rfl

theorem Inv.dma_d2h (hI : Inv as s maps) (hb : b ∈ s.bufferList) {n : ℕ} (hn : n ≤ b.size)
    (host : ByteMem) : ∃ dev,
      s.world.dma host ⟨b.gpuPa, b.dmaHandle, n, .d2h⟩ =
        some (s.world.setMemories
          (host.copy b.dmaHandle n s.world.dev.mem (b.gpuPa - gpuDdr.base)) dev) ∧
      dev.mem = s.world.dev.mem := by
  obtain ⟨hpa, hlt, hindex, hin⟩ := hI.transfer_fits hb hn
  obtain ⟨d', hd, hmem, _⟩ :=
    gpGpuDma_d2h host s.world.dev hpa (hI.buffer b hb).dma_lt hlt hin
  refine ⟨d', ?_, hmem⟩
  rw [World.dma, hd, hindex]
  rfl

theorem Inv.host_table (hI : Inv as s maps) (hb : b ∈ s.bufferList) {n : ℕ} (hn : n ≤ b.size)
    (src : ByteMem) (a : ℕ) {i : Fin 16} (hid : (s.world.mgr.gdev.ctx i).id ≠ 0) {x : ℕ}
    (hx₁ : (s.world.mgr.gdev.ctx i).pt.dmaHandle ≤ x)
    (hx₂ : x < (s.world.mgr.gdev.ctx i).pt.dmaHandle + 8 * gpuDdr.frames) :
    s.world.mgr.host.copy b.dmaHandle n src a x = s.world.mgr.host x := by
  have hapart := ((hI.buffer b hb).apart i hid).not_mem hx₁ hx₂
  exact ByteMem.copy_of_not_mem (by omega)

/-! ### What the calls do -/

theorem Inv.setMemories (hI : Inv as s maps) {bs : List DriverAct} {host : ByteMem} {dev : Gpgpu}
    (hagrees : (s.world.setMemories host dev).Agrees maps)
    (hunwritten : ∀ h k, s.nextHandle ≤ h → lastWritten bs h k = none)
    (hcontent : ∀ b ∈ s.bufferList, ∀ k x, lastWritten bs b.handle k = some x →
      k < b.size ∧ dev.mem (b.gpuPa - gpuDdr.base + k) = x) :
    Inv bs { s with world := s.world.setMemories host dev } maps where
  agrees := hagrees
  buffer b hb := { hI.buffer b hb with }
  handles := hI.handles
  ranges := hI.ranges
  unwritten := hunwritten
  content := hcontent

/-- A read returns the bytes of the range and changes only its block of host memory. -/
theorem Inv.readBuf (hI : Inv as s maps) (hb : b ∈ s.bufferList) {size : UInt32}
    (hsize : size.toNat ≤ b.size) : ∃ s',
      s.readBuf b.handle size = some ((List.range size.toNat).map fun k =>
        s.world.dev.mem (b.gpuPa - gpuDdr.base + k), s') ∧
      s'.bufferList = s.bufferList ∧ s'.world.dev.mem = s.world.dev.mem ∧
      Inv (as ++ [.readBuf b.handle size]) s' maps := by
  obtain ⟨dev, hdma, hmem⟩ := hI.dma_d2h hb hsize s.world.mgr.host
  refine ⟨{ s with
      world := s.world.setMemories (s.world.mgr.host.copy b.dmaHandle size.toNat
        s.world.dev.mem (b.gpuPa - gpuDdr.base)) dev }, ?_, rfl, hmem,
    hI.setMemories ?_ (fun h k hh => ?_) fun b' hb' k x hx => ?_⟩
  · rw [DriverState.readBuf, hI.findBuffer hb, Option.bind_some, if_neg (by omega), hdma,
      Option.map_some]
    have hbytes : ∀ k ∈ List.range size.toNat,
        s.world.mgr.host.copy b.dmaHandle size.toNat s.world.dev.mem (b.gpuPa - gpuDdr.base)
          (b.dmaHandle + k) = s.world.dev.mem (b.gpuPa - gpuDdr.base + k) := by
      intro k hk
      rw [List.mem_range] at hk
      rw [ByteMem.copy_of_mem (by omega) (by omega), Nat.add_sub_cancel_left]
    exact congrArg (fun l => some (l, _)) (List.map_congr_left hbytes)
  · refine hI.agrees.setMemories _ _ (fun i hid x hx₁ hx₂ => hI.host_table hb hsize _ _ hid hx₁ hx₂)
      fun i hid x _ _ => by rw [hmem]
  · rw [lastWritten_concat]
    exact hI.unwritten h k hh
  · rw [lastWritten_concat] at hx
    rw [hmem]
    exact hI.content b' hb' k x hx

/-- A write puts its bytes into the buffer's range of the DDR. -/
theorem Inv.writeBuf (hI : Inv as s maps) (hb : b ∈ s.bufferList) {data : List UInt8}
    (hdata : data.length ≤ b.size) : ∃ s', s.writeBuf b.handle data = some s' ∧
      Inv (as ++ [.writeBuf b.handle data]) s' maps := by
  obtain ⟨dev, hdma, hmem⟩ := hI.dma_h2d hb hdata
    (s.world.mgr.host.copy b.dmaHandle data.length (userBytes data) 0)
  have hle := le_mul_pagesOf b.size
  refine ⟨{ s with
      world := s.world.setMemories
        (s.world.mgr.host.copy b.dmaHandle data.length (userBytes data) 0) dev }, ?_,
    hI.setMemories ?_ (fun h k hh => ?_) fun b' hb' k x hx => ?_⟩
  · rw [DriverState.writeBuf, hI.findBuffer hb, Option.bind_some, if_neg (by omega), hdma]
    rfl
  · refine hI.agrees.setMemories _ _ (fun i hid x hx₁ hx₂ => hI.host_table hb hdata _ _ hid hx₁ hx₂)
      fun i hid x hx₁ hx₂ => ?_
    have hapart := (hI.table_apart hb hid).symm.not_mem hx₁ hx₂
    rw [hmem, ByteMem.copy_of_not_mem (by omega)]
  · -- the handle of the write is one that was given out
    have hlt := (hI.buffer b hb).handle_lt
    have hne : h ≠ b.handle := by omega
    rw [lastWritten_concat, DriverAct.written, if_neg hne]
    exact hI.unwritten h k hh
  · rw [lastWritten_concat, DriverAct.written] at hx
    rw [hmem]
    by_cases hbb : b' = b
    · subst hbb
      rw [if_pos rfl] at hx
      by_cases hk : k < data.length
      · -- the byte is one of the write
        rw [List.getElem?_eq_getElem hk, Option.some_or] at hx
        cases hx
        refine ⟨by omega, ?_⟩
        rw [ByteMem.copy_of_mem (by omega) (by omega), Nat.add_sub_cancel_left,
          ByteMem.copy_of_mem (by omega) (by omega), Nat.add_sub_cancel_left, Nat.zero_add,
          userBytes,
          List.getD_eq_getElem?_getD, List.getElem?_eq_getElem hk, Option.getD_some]
      · rw [List.getElem?_eq_none (by omega), Option.none_or] at hx
        obtain ⟨hlt, hold⟩ := hI.content b' hb' k x hx
        exact ⟨hlt, by rw [ByteMem.copy_of_not_mem (by omega)]; exact hold⟩
    · have hne : b'.handle ≠ b.handle := fun h => hbb (hI.eq_of_handle hb' hb h)
      rw [if_neg hne, Option.none_or] at hx
      obtain ⟨hlt, hold⟩ := hI.content b' hb' k x hx
      have hle' := le_mul_pagesOf b'.size
      have hapart := hI.buffers_apart hb hb' (Ne.symm hbb)
      refine ⟨hlt, ?_⟩
      rw [ByteMem.copy_of_not_mem]
      · exact hold
      · unfold ByteMem.Apart at hapart
        omega

/-- Creating a context does not touch the buffers. -/
theorem Inv.ctxCreate (hI : Inv as s maps) {block : ℕ} (h : s.ctxCreate block = some s') :
    Inv (as ++ [.ctxCreate block]) s' maps := by
  obtain ⟨w, hw, rfl⟩ := Option.map_eq_some_iff.1 h
  obtain ⟨m, hm, rfl⟩ := Option.map_eq_some_iff.1 hw
  obtain ⟨i, _, _, hfresh, _, rfl⟩ := hI.agrees.inv.mgr.ctxCreate_cases hm
  refine ⟨hI.agrees.ctxCreate hw, fun b hb => ?_, hI.handles, hI.ranges, fun h k hh => ?_,
    fun b hb k x hx => ?_⟩
  · have hok := hI.buffer b hb
    obtain ⟨j, hj, hg⟩ := hok.range
    refine { hok with
      range := ⟨j, hj, List.mem_cons_of_mem _ hg⟩
      block_mem := List.mem_cons_of_mem _ hok.block_mem
      apart := fun j hid => ?_ }
    by_cases hji : j = i
    · subst hji
      simp only [ManagerState.withContext, Function.update_self]
      exact (hfresh.2 _ hok.block_mem).symm
    · have hother : (ManagerState.withContext gpuDdr s.world.mgr i block).gdev.ctx j =
          s.world.mgr.gdev.ctx j := Function.update_of_ne hji ..
      change ((ManagerState.withContext gpuDdr s.world.mgr i block).gdev.ctx j).id ≠ 0 at hid
      change ByteMem.Apart _ _
        ((ManagerState.withContext gpuDdr s.world.mgr i block).gdev.ctx j).pt.dmaHandle _
      rw [hother] at hid ⊢
      exact hok.apart j hid
  · rw [lastWritten_concat]
    exact hI.unwritten h k hh
  · rw [lastWritten_concat] at hx
    exact hI.content b hb k x hx

/-- A new buffer has a new handle, and neither its range of the DDR nor its block of host memory is
in use; of the DDR only the page table of its context is written. -/
theorem Inv.reqBuf (hI : Inv as s maps) {block ctxID : ℕ} {size : UInt32}
    (h : s.reqBuf block ctxID size = some s') :
    ∃ maps', Inv (as ++ [.reqBuf block ctxID size]) s' maps' := by
  unfold DriverState.reqBuf at h
  split at h
  · cases h
  · obtain ⟨m, hm, h⟩ := Option.bind_eq_some_iff.1 h
    obtain ⟨r, hr, h⟩ := Option.bind_eq_some_iff.1 h
    obtain ⟨q, hq, rfl⟩ := Option.map_eq_some_iff.1 h
    obtain ⟨hlt, hfresh, rfl, hagrees⟩ := hI.agrees.allocCoherent hm
    obtain ⟨maps', hagrees'⟩ := hagrees.alloc hr
    obtain ⟨i, hi, ⟨_, hnone⟩ | ⟨hn, hroom, hmgr, hsome, hunused, hused, _⟩⟩ :=
      World.Inv.alloc_cases hagrees.inv.mgr hr
    · rw [hnone] at hq
      cases hq
    · obtain rfl := Option.some.inj (hq.symm.trans hsome)
      -- the contexts keep their tables, and the device only gets a table
      have hpt : ∀ j, (r.1.mgr.gdev.ctx j).pt = (s.world.mgr.gdev.ctx j).pt ∧
          (r.1.mgr.gdev.ctx j).id = (s.world.mgr.gdev.ctx j).id := by
        intro j
        rw [hmgr]
        exact s.world.mgr.withBuffer_ctx i _ j
      have hmem : ∀ b ∈ s.bufferList, ∀ k < b.size, r.1.dev.mem (b.gpuPa - gpuDdr.base + k) =
          s.world.dev.mem (b.gpuPa - gpuDdr.base + k) := by
        intro b hb k hk
        by_cases hid : (s.world.mgr.gdev.ctx i).id = 0
        · rw [hunused hid]
        · have hle := le_mul_pagesOf b.size
          rw [hused hid]
          exact ByteMem.copy_of_not_mem ((hI.table_apart hb hid).not_mem (by omega) (by omega))
      have hgrants : r.1.mgr.grants = ⟨i, some (s.world.mgr.allocResult i).va,
          s.world.mgr.gdev.ddrNext, 4096 * pagesOf size.toNat⟩ :: s.world.mgr.grants := by
        rw [hmgr]
        rfl
      have hblocks : r.1.mgr.blocks = (block, size.toNat) :: s.world.mgr.blocks := by
        rw [hmgr]
        rfl
      refine ⟨maps', hagrees', ?_, ?_, ?_, fun h k hh => ?_, ?_⟩
      · refine List.forall_mem_cons.2 ⟨?_, fun b hb => ?_⟩
        · refine ⟨⟨i, ctxIndex_eq_some_iff.1 hi, ?_⟩, Nat.lt_succ_self _, size.toNat_lt, hlt, ?_,
            fun j hid => ?_⟩
          · rw [hgrants]
            exact List.mem_cons_self
          · rw [hblocks]
            exact List.mem_cons_self
          · rw [(hpt j).2] at hid
            rw [(hpt j).1]
            exact hfresh.2 _ (hI.agrees.inv.mgr.contextOk hid).block_mem
        · have hok := hI.buffer b hb
          obtain ⟨j, hj, hg⟩ := hok.range
          refine ⟨⟨j, hj, ?_⟩, Nat.lt_succ_of_lt hok.handle_lt, hok.size_lt, hok.dma_lt, ?_,
            fun j hid => ?_⟩
          · rw [hgrants]
            exact List.mem_cons_of_mem _ hg
          · rw [hblocks]
            exact List.mem_cons_of_mem _ hok.block_mem
          · rw [(hpt j).2] at hid
            rw [(hpt j).1]
            exact hok.apart j hid
      · exact List.pairwise_cons.2
          ⟨fun b hb => ((hI.buffer b hb).handle_lt).ne', hI.handles⟩
      · refine List.pairwise_cons.2 ⟨fun b hb => ?_, hI.ranges⟩
        obtain ⟨j, _, hg⟩ := (hI.buffer b hb).range
        exact .inr (hI.agrees.inv.mgr.range _ hg).upper
      · rw [lastWritten_concat]
        exact hI.unwritten h k (Nat.le_of_succ_le hh)
      · refine List.forall_mem_cons.2 ⟨fun k x hx => ?_, fun b hb k x hx => ?_⟩
        · rw [lastWritten_concat] at hx
          cases (hI.unwritten _ k le_rfl).symm.trans hx
        · rw [lastWritten_concat] at hx
          obtain ⟨hk, hold⟩ := hI.content b hb k x hx
          exact ⟨hk, (hmem b hb k hk).trans hold⟩

theorem readBuf_buffer {handle : ℕ} {size : UInt32} {r : List UInt8 × DriverState}
    (h : s.readBuf handle size = some r) :
    ∃ b ∈ s.bufferList, size.toNat ≤ b.size ∧ b.handle = handle := by
  obtain ⟨b, hb, hrest⟩ := Option.bind_eq_some_iff.1 h
  split at hrest
  · cases hrest
  · next hle =>
      exact ⟨b, List.mem_of_find?_eq_some hb, Nat.le_of_not_lt hle,
        by simpa using List.find?_some hb⟩

theorem writeBuf_buffer {handle : ℕ} {data : List UInt8} (h : s.writeBuf handle data = some s') :
    ∃ b ∈ s.bufferList, data.length ≤ b.size ∧ b.handle = handle := by
  obtain ⟨b, hb, hrest⟩ := Option.bind_eq_some_iff.1 h
  split at hrest
  · cases hrest
  · next hle =>
      exact ⟨b, List.mem_of_find?_eq_some hb, Nat.le_of_not_lt hle,
        by simpa using List.find?_some hb⟩

/-- **Every history of calls keeps the invariant.** -/
theorem inv_of_run {host : ByteMem} {dev : Gpgpu}
    (h : Machine.run DriverState.step (.start host dev) as = some s) : ∃ maps, Inv as s maps := by
  have hinit : ∃ maps, Inv [] (start host dev) maps := ⟨_, inv_start host dev⟩
  refine Machine.run_history (I := fun as s => ∃ maps, Inv as s maps) ?_ hinit h
  rintro as s a s' ⟨maps, hI⟩ hstep
  cases a with
  | ctxCreate block => exact ⟨maps, hI.ctxCreate hstep⟩
  | reqBuf block ctxID size => exact hI.reqBuf hstep
  | writeBuf handle data =>
      obtain ⟨b, hb, hle, rfl⟩ := writeBuf_buffer hstep
      obtain ⟨t, ht, hI'⟩ := hI.writeBuf hb hle
      obtain rfl := Option.some.inj (ht.symm.trans hstep)
      exact ⟨maps, hI'⟩
  | readBuf handle size =>
      obtain ⟨⟨out, t⟩, ht, rfl⟩ := Option.map_eq_some_iff.1 hstep
      obtain ⟨b, hb, hle, rfl⟩ := readBuf_buffer ht
      obtain ⟨u, hu, _, _, hI'⟩ := hI.readBuf hb hle
      cases hu.symm.trans ht
      exact ⟨maps, hI'⟩

end DriverState

/-- **A read returns what was last written**: after any history of calls, a `READ_BUF` returns as
many bytes as were asked for, and each of them that a `WRITE_BUF` on the same handle covered is the
byte of the last such write. -/
theorem read_back (host : ByteMem) (dev : Gpgpu) {as : List DriverAct} {s s' : DriverState}
    {handle : ℕ} {size : UInt32} {out : List UInt8}
    (hrun : Machine.run DriverState.step (.start host dev) as = some s)
    (hread : s.readBuf handle size = some (out, s')) :
    out.length = size.toNat ∧
      ∀ k < size.toNat, ∀ x, lastWritten as handle k = some x → out[k]? = some x := by
  obtain ⟨maps, hI⟩ := DriverState.inv_of_run hrun
  obtain ⟨b, hb, hle, hhandle⟩ := DriverState.readBuf_buffer hread
  subst hhandle
  obtain ⟨t, ht, _⟩ := hI.readBuf hb hle
  cases ht.symm.trans hread
  refine ⟨by simp, fun k hk x hx => ?_⟩
  rw [List.getElem?_map, List.getElem?_range hk, Option.map_some, (hI.content b hb k x hx).2]

/-- Two contexts with a buffer each; the first buffer is written twice, and the second one between
the two writes. -/
theorem read_back_two_buffers : ∃ s out s',
    Machine.run DriverState.step (.start (fun _ => 0) { mem := fun _ => 0xFF })
      [.ctxCreate 0x100000, .reqBuf 0x200000 1 8192, .ctxCreate 0x300000, .reqBuf 0x400000 2 5000,
        .writeBuf 1 [1, 2, 3], .writeBuf 2 [4, 5, 6, 7], .writeBuf 1 [8]] = some s ∧
    s.readBuf 1 4 = some (out, s') ∧ out[0]? = some 8 ∧ out[2]? = some 3 := by
  have hsome : ((Machine.run DriverState.step (.start (fun _ => 0) { mem := fun _ => 0xFF })
      [.ctxCreate 0x100000, .reqBuf 0x200000 1 8192, .ctxCreate 0x300000, .reqBuf 0x400000 2 5000,
        .writeBuf 1 [1, 2, 3], .writeBuf 2 [4, 5, 6, 7], .writeBuf 1 [8]]).bind
      fun s => s.readBuf 1 4).isSome := by decide +kernel
  obtain ⟨⟨out, s'⟩, hout⟩ := Option.isSome_iff_exists.1 hsome
  obtain ⟨s, hrun, hread⟩ := Option.bind_eq_some_iff.1 hout
  have hback := (read_back _ _ hrun hread).2
  exact ⟨s, out, s', hrun, hread, hback 0 (by decide) 8 (by decide),
    hback 2 (by decide) 3 (by decide)⟩

end Gpu

end Dvf
