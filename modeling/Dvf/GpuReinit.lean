/-
**Initialising the memory manager again** (`gpu_initialize_memory_manager` of
`gpgpu_memory_manager.c`, called by `gp_gpu_probe` of `gpgpu_pcie_ep_driver.c`).

The manager is a static structure of the module.  It is initialised by every probe: of a second
device, or of the same device after it was unbound and bound again while the module stayed loaded.
The function refuses to do it again when `init_status` is set; nothing in the module ever sets it.
So a second probe starts the DDR from its beginning, while the contexts and their page tables are
still there, and the next buffer lies on top of a page table.

Here the calls of the manager are those of `Dvf/GpuManager.lean`, successful or not, and
initialisation is one more of them.

Main definitions:

* `Dvf.Gpu.StaticDevice`, `Dvf.Gpu.StaticDevice.initializeMemoryManager` — the static structure, and
  the call;
* `Dvf.Gpu.StaticAct`, `Dvf.Gpu.StaticDevice.step` — calls one after the other;
* `Dvf.Gpu.StaticDevice.Refuses` — initialisation is refused, the DDR is not taken back, and no page
  of it is handed out twice.

Main results:

* `Dvf.Gpu.StaticDevice.DdrOk.step` — every other call hands out what was not handed out before;
* `Dvf.Gpu.reinitialisation_refused_iff` — **everything is as it should be just when nothing is
  initialised again**.
-/

import Dvf.GpuManager

set_option autoImplicit false

namespace Dvf

namespace Gpu

/-! ### The source -/

/-- The static `struct gpu_device`, with what was handed out so far. -/
structure StaticDevice where
  mgr : ManagerState
  initStatus : ℕ := 0
  barVirt : ℕ := 0
  dev : ℕ := 0

/-- A call of the manager. -/
inductive StaticAct
  | initializeMemoryManager (ddrBase ddrSize bar0 dev : ℕ)
  | ctxCreate (block : Option ℕ)
  | alloc (ctxID : ℕ) (size : UInt32)
  | free (va : UInt64) (size : UInt32)
  | bindContext (ctxID : ℕ)
  deriving DecidableEq, Repr

def StaticAct.isInitialize : StaticAct → Bool
  | .initializeMemoryManager .. => true
  | .ctxCreate _ | .alloc .. | .free .. | .bindContext _ => false

namespace StaticDevice

/-- The structure when the module is loaded: everything is zero. -/
def zeroed (host : ByteMem) : StaticDevice where
  mgr := { gdev := { ddrBase := 0, ddrSize := 0, ddrNext := 0 }, host := host }

/-- `gpu_initialize_memory_manager`: what it returns, and the structure after it. -/
def initializeMemoryManager (d : StaticDevice) (ddrBase ddrSize bar0 dev : ℕ) : ℤ × StaticDevice :=
  if d.initStatus = 0 then
    (0, { d with
      mgr := { d.mgr with
        gdev := { d.mgr.gdev with ddrBase := ddrBase, ddrNext := ddrBase, ddrSize := ddrSize } }
      barVirt := bar0
      dev := dev })
  else (-1, d)

/-- The structure after a call.  Binding a context programs registers of the device only. -/
def step (d : StaticDevice) : StaticAct → Option StaticDevice
  | .initializeMemoryManager ddrBase ddrSize bar0 dev =>
      some (d.initializeMemoryManager ddrBase ddrSize bar0 dev).2
  | .ctxCreate block => some { d with mgr := (d.mgr.createContext block).2 }
  | .alloc ctxID size => (d.mgr.alloc ctxID size).map fun r => { d with mgr := r.1 }
  | .free va size => some { d with mgr := (d.mgr.free va size).2 }
  | .bindContext _ => some d

/-- The structure after the first probe. -/
def probed (w : DdrWindow) (host : ByteMem) (bar0 dev : ℕ) : StaticDevice :=
  ((zeroed host).initializeMemoryManager w.base w.size bar0 dev).2

/-! ### What the guard is for -/

/-- No address of the DDR was handed out twice. -/
def PagesOnce (d : StaticDevice) : Prop :=
  d.mgr.grants.Pairwise fun g g' => ByteMem.Apart g.addr g.size g'.addr g'.size

/-- **Initialisation is refused**: it returns -1 and leaves the structure as it is.  No call takes
back any part of the DDR, or hands out a page again. -/
structure Refuses (d : StaticDevice) (a : StaticAct) : Prop where
  refused : ∀ ddrBase ddrSize bar0 dev, a = .initializeMemoryManager ddrBase ddrSize bar0 dev →
    d.initializeMemoryManager ddrBase ddrSize bar0 dev = (-1, d)
  next_le : ∀ d', d.step a = some d' → d.mgr.gdev.ddrNext ≤ d'.mgr.gdev.ddrNext
  once : ∀ d', d.step a = some d' → d'.PagesOnce

/-! ### The other calls -/

/-- The DDR is the window, and what was handed out lies below what is left, each part above the ones
before it. -/
structure DdrOk (w : DdrWindow) (m : ManagerState) : Prop where
  base_eq : m.gdev.ddrBase = w.base
  size_eq : m.gdev.ddrSize = w.size
  base_le : w.base ≤ m.gdev.ddrNext
  next_le : m.gdev.ddrNext ≤ w.base + w.size
  below : ∀ g ∈ m.grants, g.addr + g.size ≤ m.gdev.ddrNext
  ordered : m.grants.Pairwise fun g g' => g'.addr + g'.size ≤ g.addr

variable {w : DdrWindow} {m m' : ManagerState} {d d' : StaticDevice}

theorem DdrOk.same (h : DdrOk w m) (hbase : m'.gdev.ddrBase = m.gdev.ddrBase)
    (hsize : m'.gdev.ddrSize = m.gdev.ddrSize) (hnext : m'.gdev.ddrNext = m.gdev.ddrNext)
    (hgrants : m'.grants = m.grants) : DdrOk w m' := by
  refine ⟨hbase.trans h.base_eq, hsize.trans h.size_eq, hnext ▸ h.base_le, hnext ▸ h.next_le,
    ?_, ?_⟩
  · rw [hgrants, hnext]
    exact h.below
  · rw [hgrants]
    exact h.ordered

theorem DdrOk.grant (h : DdrOk w m) {g : Grant} (haddr : g.addr = m.gdev.ddrNext)
    (hfits : g.addr + g.size ≤ w.base + w.size) (hbase : m'.gdev.ddrBase = m.gdev.ddrBase)
    (hsize : m'.gdev.ddrSize = m.gdev.ddrSize) (hnext : m'.gdev.ddrNext = g.addr + g.size)
    (hgrants : m'.grants = g :: m.grants) : DdrOk w m' := by
  have hle := h.base_le
  refine ⟨hbase.trans h.base_eq, hsize.trans h.size_eq, by omega, hnext ▸ hfits, ?_, ?_⟩
  · rw [hgrants, hnext]
    refine List.forall_mem_cons.2 ⟨le_rfl, fun g' hg' => ?_⟩
    exact (h.below g' hg').trans (haddr ▸ Nat.le_add_right _ _)
  · rw [hgrants]
    exact h.ordered.cons fun g' hg' => haddr ▸ h.below g' hg'

/-- A context is created, or not. -/
theorem DdrOk.createContext (h : DdrOk w m) (block : Option ℕ) :
    DdrOk w (m.createContext block).2 ∧
      m.gdev.ddrNext ≤ (m.createContext block).2.gdev.ddrNext := by
  cases hslot : m.gdev.freeSlot with
  | none =>
      rw [ManagerState.createContext_of_no_slot hslot]
      exact ⟨h, le_rfl⟩
  | some i =>
      cases block with
      | none =>
          rw [ManagerState.createContext, Manager.ctxCreate_none hslot]
          exact ⟨h.same rfl rfl rfl rfl, le_rfl⟩
      | some b =>
          have hne : m.gdev.ddrNext ≠ 0 := by
            have := w.base_pos
            have := h.base_le
            omega
          have htable : 8 * (m.gdev.ddrSize / 4096) ≤ 2 ^ 62 := by
            rw [h.size_eq]
            have := w.size_lt
            omega
          have halign := pageAlign_of_lt (x := 8 * (m.gdev.ddrSize / 4096)) (by omega)
          rcases ManagerState.ddrAlloc_window h.base_eq h.size_eq h.next_le _ htable with
            hfull | ⟨hfits, hroom⟩
          · rw [ManagerState.createContext, Manager.ctxCreate_some hslot, hfull]
            exact ⟨h.same rfl rfl rfl rfl, le_rfl⟩
          · rw [ManagerState.createContext, Manager.ctxCreate_some hslot, hroom]
            simp only [if_neg hne, Manager.setContext, Function.update_self]
            refine ⟨h.grant (g := ⟨i, none, m.gdev.ddrNext, _⟩) rfl ?_ rfl rfl ?_ rfl, ?_⟩
            · rw [halign]
              exact hfits
            · rw [halign]
            · omega

/-- A buffer is handed out, or not. -/
theorem DdrOk.alloc (h : DdrOk w m) {ctxID : ℕ} {size : UInt32} {r : Option Allocated}
    (hr : m.alloc ctxID size = some (m', r)) :
    DdrOk w m' ∧ m.gdev.ddrNext ≤ m'.gdev.ddrNext := by
  have hsize : size.toNat < 2 ^ 32 := size.toNat_lt
  have halign := pageAlign_of_lt (x := size.toNat) (by omega)
  unfold ManagerState.alloc at hr
  split at hr
  · cases hr
  · next i _ =>
      have hne : m.gdev.ddrNext ≠ 0 := by
        have := w.base_pos
        have := h.base_le
        omega
      have hpages : 4096 * pagesOf size.toNat ≤ size.toNat + 4095 := Nat.mul_div_le _ _
      simp only [Manager.alloc, halign] at hr
      rcases ManagerState.ddrAlloc_window h.base_eq h.size_eq h.next_le
        (4096 * pagesOf size.toNat) (by omega) with hfull | ⟨hfits, hroom⟩
      · simp only [hfull] at hr
        cases hr
        exact ⟨h, le_rfl⟩
      · rw [pagesOf_mul] at hfits hroom
        simp only [hroom, if_neg hne] at hr
        split at hr
        · cases hr
        · next heq =>
            split at heq
            · cases heq
            · cases heq
        · next va pa g host sync heq =>
            split at heq
            · cases heq
            · cases heq
              cases hr
              exact ⟨h.grant (g := ⟨i, some _, m.gdev.ddrNext, _⟩) rfl hfits rfl rfl rfl rfl,
                Nat.le_add_right _ _⟩

/-- **Every other call** hands out what was not handed out before. -/
theorem DdrOk.step (h : DdrOk w d.mgr) {a : StaticAct} (ha : a.isInitialize = false)
    (hs : d.step a = some d') :
    DdrOk w d'.mgr ∧ d.mgr.gdev.ddrNext ≤ d'.mgr.gdev.ddrNext := by
  cases a with
  | initializeMemoryManager ddrBase ddrSize bar0 dev => cases ha
  | ctxCreate block =>
      cases hs
      exact h.createContext block
  | alloc ctxID size =>
      obtain ⟨⟨m', r⟩, hr, rfl⟩ := Option.map_eq_some_iff.1 hs
      exact h.alloc hr
  | free va size =>
      cases hs
      exact ⟨h.same rfl rfl rfl rfl, le_rfl⟩
  | bindContext ctxID =>
      cases hs
      exact ⟨h, le_rfl⟩

theorem DdrOk.pagesOnce (h : DdrOk w d.mgr) : d.PagesOnce := h.ordered.imp fun h => Or.inr h

/-- A call sets `init_status` to what it was. -/
theorem initStatus_step {a : StaticAct} (hs : d.step a = some d') :
    d'.initStatus = d.initStatus := by
  cases a with
  | initializeMemoryManager ddrBase ddrSize bar0 dev =>
      cases hs
      unfold initializeMemoryManager
      split
      · rfl
      · rfl
  | ctxCreate block =>
      cases hs
      rfl
  | alloc ctxID size =>
      obtain ⟨r, _, rfl⟩ := Option.map_eq_some_iff.1 hs
      rfl
  | free va size =>
      cases hs
      rfl
  | bindContext ctxID =>
      cases hs
      rfl

/-- **Initialisation is never refused.** -/
theorem not_refuses_initialize (h : d.initStatus = 0) {a : StaticAct} (ha : a.isInitialize = true) :
    ¬ d.Refuses a := by
  intro hrefuses
  cases a with
  | initializeMemoryManager ddrBase ddrSize bar0 dev =>
      have hcall := hrefuses.refused ddrBase ddrSize bar0 dev rfl
      rw [initializeMemoryManager, if_pos h] at hcall
      exact absurd (show (0 : ℤ) = -1 from congrArg Prod.fst hcall) (by decide)
  | ctxCreate block => cases ha
  | alloc ctxID size => cases ha
  | free va size => cases ha
  | bindContext ctxID => cases ha

theorem DdrOk.refuses (h : DdrOk w d.mgr) {a : StaticAct} (ha : a.isInitialize = false) :
    d.Refuses a where
  refused := by
    rintro ddrBase ddrSize bar0 dev rfl
    cases ha
  next_le := fun _ hs => (h.step ha hs).2
  once := fun _ hs => (h.step ha hs).1.pagesOnce

/-- Calls after each other, from a structure in order whose `init_status` is not set. -/
theorem obeys_refuses_iff {as : List StaticAct} : ∀ {d t : StaticDevice}, DdrOk w d.mgr →
    d.initStatus = 0 → Machine.run step d as = some t →
      (Machine.Obeys step Refuses d as ↔ ∀ a ∈ as, a.isInitialize = false) := by
  induction as with
  | nil =>
      intro d t _ _ _
      exact iff_of_true trivial (by simp)
  | cons a as ih =>
      intro d t hd hstatus h
      obtain ⟨d', hd', hrun⟩ := Machine.run_cons_eq_some.1 h
      rw [List.forall_mem_cons]
      cases ha : a.isInitialize with
      | true =>
          refine iff_of_false ?_ ?_
          · exact fun hO => not_refuses_initialize hstatus ha hO.1
          · exact fun hall => absurd hall.1.symm Bool.false_ne_true
      | false =>
          have hrest := ih (hd.step ha hd').1 ((initStatus_step hd').trans hstatus) hrun
          constructor
          · exact fun hO => ⟨rfl, hrest.1 (hO.2 d' hd')⟩
          · rintro ⟨_, hall⟩
            refine ⟨hd.refuses ha, fun u hu => ?_⟩
            rw [hd'] at hu
            cases hu
            exact hrest.2 hall

theorem ddrOk_probed (w : DdrWindow) (host : ByteMem) (bar0 dev : ℕ) :
    DdrOk w (probed w host bar0 dev).mgr :=
  ⟨rfl, rfl, le_rfl, Nat.le_add_right _ _, by simp [probed, zeroed, initializeMemoryManager],
    List.Pairwise.nil⟩

end StaticDevice

open StaticDevice in
/-- **Initialisation again**: after the first probe, whatever calls are made, initialisation is
refused, no part of the DDR is taken back and no page of it is handed out twice, at every call, just
when none of the calls initialises the manager. -/
theorem reinitialisation_refused_iff (w : DdrWindow) (host : ByteMem) (bar0 dev : ℕ)
    {as : List StaticAct} {d : StaticDevice}
    (h : Machine.run StaticDevice.step (probed w host bar0 dev) as = some d) :
    Machine.Obeys StaticDevice.step Refuses (probed w host bar0 dev) as ↔
      ∀ a ∈ as, a.isInitialize = false :=
  obeys_refuses_iff (ddrOk_probed w host bar0 dev) rfl h

open StaticDevice in
/-- Calls after one probe: two contexts and two buffers, one of which is freed. -/
theorem reinitialisation_one_probe : ∃ d,
    Machine.run StaticDevice.step (probed gpuDdr (fun _ => 0) 0 0)
      [.ctxCreate (some 0x100000), .alloc 1 8192, .ctxCreate (some 0x200000), .alloc 2 5000,
        .free 0x1000000000000 8192, .bindContext 1] = some d ∧
    Machine.Obeys StaticDevice.step Refuses (probed gpuDdr (fun _ => 0) 0 0)
      [.ctxCreate (some 0x100000), .alloc 1 8192, .ctxCreate (some 0x200000), .alloc 2 5000,
        .free 0x1000000000000 8192, .bindContext 1] := by
  have hsome : ((Machine.run StaticDevice.step (probed gpuDdr (fun _ => 0) 0 0)
      [.ctxCreate (some 0x100000), .alloc 1 8192, .ctxCreate (some 0x200000), .alloc 2 5000,
        .free 0x1000000000000 8192, .bindContext 1]).map
      fun d => d.mgr.grants.length) = some 4 := by decide +kernel
  obtain ⟨d, hrun, _⟩ := Option.map_eq_some_iff.1 hsome
  exact ⟨d, hrun, (reinitialisation_refused_iff gpuDdr _ _ _ hrun).2 (by decide)⟩

open StaticDevice in
/-- **A second probe**: a context has its page table at the beginning of the DDR and a buffer behind
it.  The device is probed again, which returns zero and starts the DDR from its beginning, and the
next buffer is handed out at the address of the page table. -/
theorem second_probe_hands_out_page_table :
    ((Machine.run StaticDevice.step (probed gpuDdr (fun _ => 0) 0 0)
        [.ctxCreate (some 0x100000), .alloc 1 4096]).map fun d =>
      ((d.initializeMemoryManager gpuDdr.base gpuDdr.size 0 0).1, d.mgr.gdev.ddrNext,
        (d.initializeMemoryManager gpuDdr.base gpuDdr.size 0 0).2.mgr.gdev.ddrNext)) =
        some (0, 0x80041000, 0x80000000) ∧
      ((Machine.run StaticDevice.step (probed gpuDdr (fun _ => 0) 0 0)
        [.ctxCreate (some 0x100000), .alloc 1 4096,
          .initializeMemoryManager gpuDdr.base gpuDdr.size 0 0, .alloc 1 4096]).map fun d =>
      d.mgr.grants.map fun g => (g.va.isSome, g.addr, g.size)) =
        some [(true, 0x80000000, 0x1000), (true, 0x80040000, 0x1000),
          (false, 0x80000000, 0x40000)] := by
  constructor
  · decide +kernel
  · decide +kernel

end Gpu

end Dvf
