/-
**Address translation by driver and device.**

The driver keeps a page table for each context and the device translates by a copy of it in the DDR,
at the address in the register that `gpu_bind_context` writes.  `gpu_alloc` brings the copy up to
date; `gpu_free` does not.  So the device agrees with the driver as long as nothing is freed, and a
freed range stays reachable until the next allocation for its context.

Main definitions:

* `Dvf.Gpu.CallState` — driver and device, the context bound last, and the ranges freed so far;
* `Dvf.Gpu.CallState.step` — the calls `gpu_ctx_create`, `gpu_alloc`, `gpu_bind_context` and
  `gpu_free`;
* `Dvf.Gpu.CallState.Careful` — freeing only while the context is not bound, and binding only after
  the device's copy was brought up to date.

Main results:

* `Dvf.Gpu.translation_agrees` — **without frees the device translates every address of a buffer
  as the driver mapped it, and no other page of the context**;
* `Dvf.Gpu.freed_unreachable_of_careful` — freed memory is unreachable in careful runs;
* `Dvf.Gpu.freed_range_translated` — a run in which it is not.
-/

import Dvf.GpuDriver

set_option autoImplicit false

namespace Dvf

namespace Gpu

/-! ### Calls -/

/-- A range for which `gpu_free` returned zero. -/
structure FreedRange where
  ctx : Fin 16
  va : ℕ
  size : ℕ
  deriving DecidableEq, Repr

/-- Driver and device, with the context that was bound last, the ranges freed so far and, for each
context, whether a range of it was freed since its table was last copied to the device. -/
structure CallState where
  world : World
  bound : Option (Fin 16) := none
  freed : List FreedRange := []
  stale : Fin 16 → Bool := fun _ => false

/-- The calls, with the block that `dma_alloc_coherent` returns for a page table, if any. -/
inductive CallAct
  | ctxCreate (block : Option ℕ)
  | alloc (ctxID : ℕ) (size : UInt32)
  | bind (ctxID : ℕ)
  | free (va : UInt64) (size : UInt32)
  deriving DecidableEq, Repr

namespace CallState

def start (host : ByteMem) (dev : Gpgpu) : CallState where
  world := .start host dev

/-- The state after `gpu_alloc`; a successful one copies the table of its context. -/
def afterAlloc (s : CallState) (ctxID : ℕ) (r : World × Option Allocated) : CallState :=
  { s with
    world := r.1
    stale := fun i => s.stale i && !(r.2.isSome && ctxIndex ctxID = some i) }

/-- The state after `gpu_free` on a context. -/
def afterFree (s : CallState) (i : Fin 16) (va : UInt64) (size : UInt32) (r : Bool × World) :
    CallState :=
  if r.1 then
    { s with
      world := r.2
      freed := ⟨i, va.toNat, size.toNat⟩ :: s.freed
      stale := fun j => s.stale j || (j = i && 0 < freePages size) }
  else { s with world := r.2 }

/-- One call with any outcome; `gpu_bind_context` and `gpu_free` refuse ids outside of the array. -/
def step (s : CallState) : CallAct → Option CallState
  | .ctxCreate block =>
      if ∀ b ∈ block, Fresh s.world.mgr.blocks b (8 * (s.world.mgr.gdev.ddrSize / 4096)) then
        some { s with world := { s.world with mgr := (s.world.mgr.createContext block).2 } }
      else none
  | .alloc ctxID size => (s.world.alloc ctxID size).map (s.afterAlloc ctxID)
  | .bind ctxID =>
      match ctxIndex ctxID with
      | none => some s
      | some i => (s.world.bind i).map fun w => { s with world := w, bound := some i }
  | .free va size =>
      match ctxIndex (vaToCtx va.toNat) with
      | none => some s
      | some i => some (s.afterFree i va size (s.world.free va size))

/-- `gpu_ctx_create` succeeds, or there is no slot for the context. -/
def Creates (s : CallState) (block : Option ℕ) : Prop :=
  s.world.mgr.gdev.freeSlot = none ∨ (s.world.mgr.createContext block).1.isOk = true

instance (s : CallState) (block : Option ℕ) : Decidable (s.Creates block) :=
  inferInstanceAs (Decidable (_ ∨ _))

theorem Creates.step {s s' : CallState} {block : Option ℕ} (hC : s.Creates block)
    (h : s.step (.ctxCreate block) = some s') :
    s' = s ∨ ∃ b w, s.world.ctxCreate b = some w ∧ s' = { s with world := w } := by
  obtain ⟨hfresh, h⟩ := Option.ite_none_right_eq_some.1 h
  obtain rfl := Option.some.inj h
  obtain hslot | hok := hC
  · rw [ManagerState.createContext_of_no_slot hslot]
    exact .inl rfl
  · cases hcreated : (s.world.mgr.createContext block).1 with
    | error e =>
        rw [hcreated] at hok
        cases hok
    | ok i =>
        obtain ⟨b, rfl, hcreate⟩ := ManagerState.createContext_of_ok hcreated
        exact .inr ⟨b, _, by rw [World.ctxCreate, hcreate (hfresh b rfl), Option.map_some], rfl⟩

/-- The calls of runs in which nothing is freed. -/
def FreesNothing (s : CallState) : CallAct → Prop
  | .ctxCreate block => s.Creates block
  | .free _ _ => False
  | _ => True

instance (s : CallState) : ∀ a, Decidable (s.FreesNothing a)
  | .ctxCreate block => inferInstanceAs (Decidable (s.Creates block))
  | .alloc _ _ => inferInstanceAs (Decidable True)
  | .bind _ => inferInstanceAs (Decidable True)
  | .free _ _ => inferInstanceAs (Decidable False)

end CallState

/-! ### Virtual addresses -/

theorem ctxIndex_eq_some_iff {c : ℕ} {i : Fin 16} : ctxIndex c = some i ↔ c = i + 1 := by
  unfold ctxIndex
  split
  · rw [Option.some_inj, Fin.ext_iff]
    change c - 1 = (i : ℕ) ↔ c = i + 1
    omega
  · have := i.isLt
    simp
    omega

theorem vaToVpage_vaddr_add {c v off : ℕ} (h : v + off / 4096 < 2 ^ 36) :
    vaToVpage (Manager.vaddr c v + off) = v + off / 4096 := by
  rw [vaToVpage_eq, vaddr_eq (by omega)]
  omega

theorem vaToVpage_vaddr {v : ℕ} (hv : v < 2 ^ 36) (c : ℕ) : vaToVpage (Manager.vaddr c v) = v := by
  rw [vaToVpage_eq, vaddr_eq hv]
  omega

theorem vaToCtx_vaddr {c v : ℕ} (hc : c < 2 ^ 16) (hv : v < 2 ^ 36) :
    vaToCtx (Manager.vaddr c v) = c := by
  rw [vaToCtx_eq, vaddr_eq hv]
  omega

theorem vaddr_add_mod {c v : ℕ} (hv : v < 2 ^ 36) (off : ℕ) :
    (Manager.vaddr c v + off) % 4096 = off % 4096 := by
  rw [vaddr_eq hv]
  omega

/-! ### Without frees -/

namespace World

variable {w w' : World} {maps dmaps : Fin 16 → PageMap} {i : Fin 16}

/-- All pages of a buffer are mapped to its frames. -/
def Mapped (w : World) (maps : Fin 16 → PageMap) (g : Grant) : Prop :=
  g.va = none ∨ (g.va = some 0 ∧ g.size = 0) ∨
    ∃ v n, g = ManagerState.bufferGrant g.ctx v g.addr n ∧ (w.mgr.gdev.ctx g.ctx).id ≠ 0 ∧
      v + n ≤ (w.mgr.gdev.ctx g.ctx).vpageNext ∧
      ∀ k < n, maps g.ctx (v + k) = some (g.addr + 4096 * k)

/-- Driver and device have the same page maps, and all buffers are mapped. -/
structure Agrees (w : World) (maps : Fin 16 → PageMap) : Prop where
  inv : w.Inv maps maps
  mapped : ∀ g ∈ w.mgr.grants, w.Mapped maps g

/-- Creating a context keeps the agreement. -/
theorem Agrees.ctxCreate (h : Agrees w maps) {block : ℕ} (hstep : w.ctxCreate block = some w') :
    Agrees w' maps := by
  obtain ⟨i, hctx, hmgr, _, hinv⟩ := h.inv.ctxCreate hstep
  refine ⟨hinv, ?_⟩
  rw [hmgr]
  refine List.forall_mem_cons.2 ⟨.inl rfl, fun g hg => ?_⟩
  obtain hva | hva | ⟨v, n, hg', hid, hrest⟩ := h.mapped g hg
  · exact .inl hva
  · exact .inr (.inl hva)
  · have hne : g.ctx ≠ i := by
      rintro heq
      rw [heq, hctx] at hid
      exact hid rfl
    have hother : w'.mgr.gdev.ctx g.ctx = w.mgr.gdev.ctx g.ctx := by
      rw [hmgr]
      exact Function.update_of_ne hne ..
    rw [← hother] at hid hrest
    exact .inr (.inr ⟨v, n, hg', hid, hrest⟩)

/-- Allocating a buffer keeps the agreement, for the page maps with its pages. -/
theorem Agrees.alloc (h : Agrees w maps) {ctxID : ℕ} {size : UInt32} {r : Option Allocated}
    (hstep : w.alloc ctxID size = some (w', r)) : ∃ maps', Agrees w' maps' := by
  obtain ⟨i, _, ⟨rfl, _⟩ | ⟨hn, hroom, hmgr, _, hunused, hused, _⟩⟩ :=
    Inv.alloc_cases h.inv.mgr hstep
  · exact ⟨maps, h⟩
  · refine ⟨_, h.inv.withBuffer hn hroom hmgr hunused hused, ?_⟩
    have hself : w'.mgr.gdev.ctx i = { w.mgr.gdev.ctx i with
        vpageNext := (w.mgr.gdev.ctx i).vpageNext + pagesOf size.toNat } := by
      rw [hmgr]
      exact Function.update_self ..
    have hother : ∀ j, j ≠ i → w'.mgr.gdev.ctx j = w.mgr.gdev.ctx j := fun j hj => by
      rw [hmgr]
      exact Function.update_of_ne hj ..
    rw [hmgr]
    refine List.forall_mem_cons.2 ⟨?_, fun g hg => ?_⟩
    · by_cases hid : (w.mgr.gdev.ctx i).id = 0
      · have hpages : pagesOf size.toNat = 0 := by omega
        rw [hpages, (h.inv.mgr.unused hid).1]
        exact .inr (.inl ⟨rfl, rfl⟩)
      · refine .inr (.inr ⟨(w.mgr.gdev.ctx i).vpageNext, pagesOf size.toNat, ?_, ?_, ?_, ?_⟩)
        · rw [ManagerState.bufferGrant, ← (h.inv.mgr.contextOk hid).id_eq]
        · rw [hself]
          exact hid
        · rw [hself]
        · intro k hk
          rw [Function.update_self, PageMap.mapRange_of_mem (by omega) (by omega),
            Nat.add_sub_cancel_left]
    · obtain hva | hva | ⟨v, n, hg', hid, hle, hmap⟩ := h.mapped g hg
      · exact .inl hva
      · exact .inr (.inl hva)
      · by_cases hgi : g.ctx = i
        · -- the new pages follow those of the earlier buffers
          rw [hgi] at hid hle hmap hg'
          refine .inr (.inr ⟨v, n, by rw [hgi]; exact hg', ?_, ?_, fun k hk => ?_⟩)
          · rw [hgi, hself]
            exact hid
          · rw [hgi, hself]
            exact Nat.le_add_right_of_le hle
          · rw [hgi, Function.update_self, PageMap.mapRange_of_not_mem (by omega)]
            exact hmap k hk
        · refine .inr (.inr ⟨v, n, hg', ?_, ?_, fun k hk => ?_⟩)
          · rw [hother _ hgi]
            exact hid
          · rw [hother _ hgi]
            exact hle
          · rw [Function.update_of_ne hgi]
            exact hmap k hk

/-- A buffer with the id of a context in its address is one of that context, and it is mapped. -/
theorem Agrees.buffer_cases (h : Agrees w maps) {g : Grant} (hg : g ∈ w.mgr.grants) {va : ℕ}
    (hva : g.va = some va) (hctx : vaToCtx va = i + 1) : (w.mgr.gdev.ctx i).id ≠ 0 ∧
      ∃ v n, g = ManagerState.bufferGrant i v g.addr n ∧ va = Manager.vaddr (i + 1) v ∧
        v + n ≤ gpuDdr.frames ∧ ∀ k < n, maps i (v + k) = some (g.addr + 4096 * k) := by
  obtain hnone | ⟨hzero, _⟩ | ⟨v, n, hg', hid, hle, hmap⟩ := h.mapped g hg
  · rw [hnone] at hva
    cases hva
  · rw [hzero] at hva
    cases hva
    cases hctx
  · have hframes := gpuDdr.frames_lt
    have hvle := h.inv.mgr.vpageNext_le (h.inv.mgr.contextOk hid)
    obtain rfl : Manager.vaddr (g.ctx + 1) v = va := by
      rw [hg'] at hva
      exact Option.some.inj hva
    have hgc : g.ctx = i := by
      rw [vaToCtx_vaddr (by omega) (by omega)] at hctx
      exact Fin.ext (by omega)
    rw [hgc] at hid hle hmap hg' hvle ⊢
    exact ⟨hid, v, n, hg', rfl, hle.trans hvle, hmap⟩

/-- **The device translates the addresses of a buffer as the driver mapped them.** -/
theorem Agrees.translateVa_buffer (h : Agrees w maps)
    (hreg : w.dev.reg 0x508 = lower32 (w.mgr.gdev.ctx i).pt.gpuPhys) {g : Grant}
    (hg : g ∈ w.mgr.grants) {va : ℕ} (hva : g.va = some va) (hctx : vaToCtx va = i + 1) {off : ℕ}
    (hoff : off < g.size) : w.dev.translateVa (va + off) = .ok (g.addr + off) := by
  obtain ⟨hid, v, n, hg', rfl, hle, hmap⟩ := h.buffer_cases hg hva hctx
  have hframes := gpuDdr.frames_lt
  have hsize : g.size = 4096 * n := congrArg Grant.size hg'
  have hpage : off / 4096 < n := by omega
  rw [h.inv.translateVa hid ⟨v, g.addr, n, hg' ▸ hg⟩
    (hreg.trans (Inv.lower32_gpuPhys h.inv.mgr hid))
    (by rw [vaToVpage_vaddr_add (by omega)]; omega), vaToVpage_vaddr_add (by omega), hmap _ hpage,
    decodePte_some (Nat.dvd_add (h.inv.mgr.range g hg).addr_aligned (Nat.dvd_mul_right _ _)),
    vaddr_add_mod (by omega), Nat.add_assoc, Nat.div_add_mod]

theorem Agrees.translateVa_unmapped (h : Agrees w maps)
    (hreg : w.dev.reg 0x508 = lower32 (w.mgr.gdev.ctx i).pt.gpuPhys)
    (hid : (w.mgr.gdev.ctx i).id ≠ 0) (hbuf : w.HasBuffer i) {v : ℕ} (hv : v < gpuDdr.frames)
    (hmap : maps i v = none) {off : ℕ} (hoff : off < 4096) :
    w.dev.translateVa (Manager.vaddr (i + 1) v + off) = .ok uint64Max := by
  have hframes := gpuDdr.frames_lt
  have hpage : vaToVpage (Manager.vaddr (i + 1) v + off) = v := by
    rw [vaToVpage_vaddr_add (by omega)]
    omega
  rw [h.inv.translateVa hid hbuf (hreg.trans (Inv.lower32_gpuPhys h.inv.mgr hid))
    (by rw [hpage]; exact hv), hpage, hmap, decodePte_none]

end World

namespace CallState

variable {s s' : CallState} {maps dmaps : Fin 16 → PageMap} {i : Fin 16}

/-- Calls that free nothing keep the agreement of driver and device. -/
theorem agrees_step {a : CallAct} (h : ∃ maps, s.world.Agrees maps) (hfree : s.FreesNothing a)
    (hstep : s.step a = some s') : ∃ maps, s'.world.Agrees maps := by
  obtain ⟨maps, hA⟩ := h
  cases a with
  | ctxCreate block =>
      obtain rfl | ⟨b, w, hw, rfl⟩ := Creates.step hfree hstep
      · exact ⟨maps, hA⟩
      · exact ⟨maps, hA.ctxCreate hw⟩
  | alloc ctxID size =>
      obtain ⟨⟨w, r⟩, hw, rfl⟩ := Option.map_eq_some_iff.1 hstep
      exact hA.alloc hw
  | bind ctxID =>
      simp only [CallState.step] at hstep
      split at hstep
      · cases hstep
        exact ⟨maps, hA⟩
      · next i _ =>
          obtain ⟨w, hw, rfl⟩ := Option.map_eq_some_iff.1 hstep
          obtain ⟨d', hd, hmem, _⟩ := s.world.exists_bind i
          rw [hd] at hw
          cases hw
          exact ⟨maps, hA.inv.setDev hmem, hA.mapped⟩
  | free va size => cases hfree

theorem agrees_start (host : ByteMem) (dev : Gpgpu) :
    (start host dev).world.Agrees fun _ _ => none :=
  ⟨World.inv_start host dev, fun _ hg => absurd hg List.not_mem_nil⟩

end CallState

/-- **Driver and device agree on address translation**: after calls that free nothing, and with a
context bound, the device translates every address of a buffer of the context to the same place in
the buffer's frames; and if the context has a buffer, it translates no address of a page that none
of them has. -/
theorem translation_agrees (host : ByteMem) (dev : Gpgpu) {as : List CallAct} {s s' : CallState}
    {c : ℕ} {i : Fin 16} (hrun : Machine.run CallState.step (.start host dev) as = some s)
    (hfree : Machine.Obeys CallState.step CallState.FreesNothing (.start host dev) as)
    (hc : ctxIndex c = some i)
    (hbind : s.step (.bind c) = some s') :
    (∀ g ∈ s.world.mgr.grants, ∀ va, g.va = some va → vaToCtx va = c → ∀ off < g.size,
      s'.world.dev.translateVa (va + off) = .ok (g.addr + off)) ∧
    ((∃ g ∈ s.world.mgr.grants, ∃ va, g.va = some va ∧ vaToCtx va = c) →
      ∀ v < (s.world.mgr.gdev.ctx i).pt.numEntries,
      (∀ g ∈ s.world.mgr.grants, ∀ va, g.va = some va → vaToCtx va = c →
        ¬ (vaToVpage va ≤ v ∧ v < vaToVpage va + g.size / 4096)) →
      ∀ off < 4096, s'.world.dev.translateVa (Manager.vaddr c v + off) = .ok uint64Max) := by
  obtain ⟨maps, hA⟩ := Machine.run_invariant (I := fun s => ∃ maps, s.world.Agrees maps)
    (fun s a s' hI hC hstep => CallState.agrees_step hI hC hstep)
    ⟨_, CallState.agrees_start host dev⟩ hfree hrun
  -- binding changes the register of the page table and no memory
  obtain ⟨d', hd, hmem, hreg, _⟩ := s.world.exists_bind i
  have hs' : s'.world = { s.world with dev := d' } := by
    simp only [CallState.step, hc, hd, Option.map_some, Option.some.injEq] at hbind
    rw [← hbind]
  have hA' : s'.world.Agrees maps := by
    rw [hs']
    exact ⟨hA.inv.setDev hmem, hA.mapped⟩
  obtain rfl := ctxIndex_eq_some_iff.1 hc
  rw [hs'] at hA' ⊢
  refine ⟨fun g hg va hva hctx off hoff => hA'.translateVa_buffer hreg hg hva hctx hoff, ?_⟩
  rintro ⟨g, hg, va, hva, hctx⟩ v hv hnever off hoff
  -- the buffer shows that the context was created, and only pages of buffers are mapped
  obtain ⟨hid, u, n, hg', _⟩ := hA.buffer_cases hg hva hctx
  have hck := hA.inv.mgr.contextOk hid
  rw [hck.numEntries_eq] at hv
  refine hA'.translateVa_unmapped hreg hid ⟨u, g.addr, n, hg' ▸ hg⟩ hv ?_ hoff
  cases hm : maps i v with
  | none => rfl
  | some p =>
      have hframes := gpuDdr.frames_lt
      obtain ⟨u, a, n, hg, h₁, h₂, _⟩ := hck.mapped v p hm
      have hcovered := hnever _ hg _ rfl (vaToCtx_vaddr (by omega) (by omega))
      rw [vaToVpage_vaddr (by omega), ManagerState.bufferGrant,
        Nat.mul_div_cancel_left n (by norm_num)] at hcovered
      exact absurd ⟨h₁, h₂⟩ hcovered

/-- Two contexts, three buffers. -/
theorem translation_agrees_two_contexts : ∃ s s',
    Machine.run CallState.step (.start (fun _ => 0) { mem := fun _ => 0xFF })
      [.ctxCreate (some 0x100000), .alloc 1 8192, .ctxCreate (some 0x200000), .alloc 2 5000,
        .alloc 1 1] = some s ∧
    s.step (.bind 1) = some s' ∧
    s.world.mgr.grants.length = 5 ∧
    (∀ g ∈ s.world.mgr.grants, ∀ va, g.va = some va → vaToCtx va = 1 → ∀ off < g.size,
      s'.world.dev.translateVa (va + off) = .ok (g.addr + off)) := by
  have hsome : ((Machine.run CallState.step (.start (fun _ => 0) { mem := fun _ => 0xFF })
      [.ctxCreate (some 0x100000), .alloc 1 8192, .ctxCreate (some 0x200000), .alloc 2 5000,
        .alloc 1 1]).bind fun s => (s.step (.bind 1)).map fun _ => s.world.mgr.grants.length) =
        some 5 := by decide +kernel
  obtain ⟨s, hrun, hrest⟩ := Option.bind_eq_some_iff.1 hsome
  obtain ⟨s', hbind, hlength⟩ := Option.map_eq_some_iff.1 hrest
  exact ⟨s, s', hrun, hbind, hlength,
    (translation_agrees _ _ hrun (by decide +kernel) (by decide : ctxIndex 1 = some 0) hbind).1⟩

/-! ### With frees -/

/-- `gpu_free` unmaps pages in the driver's table only. -/
theorem World.Inv.free_cases {w : World} {maps dmaps : Fin 16 → PageMap} {i : Fin 16}
    (hI : w.Inv maps dmaps) {va : UInt64} (hi : ctxIndex (vaToCtx va.toNat) = some i)
    (size : UInt32) : ∃ k,
      (w.free va size).2.Inv
        (Function.update maps i ((maps i).unmapRange (vaToVpage va.toNat) k)) dmaps ∧
      ((w.free va size).1 = true → k = freePages size ∧
        ∀ x, vaToVpage va.toNat ≤ x → x < vaToVpage va.toNat + freePages size →
          x < (w.mgr.gdev.ctx i).pt.numEntries ∧ maps i x ≠ none) := by
  obtain ⟨hfalse, hs⟩ | ⟨j, k, hj, _, hinv, hok⟩ := hI.mgr.free_cases va size
  · refine ⟨0, ⟨?_, hI.table⟩, fun htrue => ?_⟩
    · rw [PageMap.unmapRange_zero, Function.update_eq_self]
      change ManagerState.Inv gpuDdr (w.mgr.free va size).2 maps
      rw [hs]
      exact hI.mgr
    · change (w.mgr.free va size).1 = true at htrue
      rw [hfalse] at htrue
      cases htrue
  · obtain rfl : i = j := Option.some.inj (hi.symm.trans hj)
    exact ⟨k, ⟨hinv, hI.table⟩, hok⟩

namespace CallState

variable {s s' : CallState} {maps dmaps : Fin 16 → PageMap} {i : Fin 16}

/-- While a context is bound, the device translates no address of a range of it that was freed. -/
def Unreachable (s : CallState) : Prop :=
  ∀ r ∈ s.freed, s.bound = some r.ctx → ∀ a, r.va ≤ a → a < r.va + r.size →
    s.world.dev.translateVa a = .ok uint64Max

/-- Careful calls: a context is created unless there is no slot for it; only a context that was
created is bound, and not while a range of it was freed after its table was last copied; and a range
that is freed is empty, or the pages that are cleared cover it and its context is not bound. -/
def Careful (s : CallState) : CallAct → Prop
  | .ctxCreate block => s.Creates block
  | .alloc _ _ => True
  | .bind ctxID =>
      ∀ i, ctxIndex ctxID = some i → (s.world.mgr.gdev.ctx i).id ≠ 0 ∧ s.stale i = false
  | .free va size =>
      (s.world.free va size).1 = true → size.toNat = 0 ∨
        (va.toNat % 4096 + size.toNat ≤ 4096 * freePages size ∧
          s.bound ≠ ctxIndex (vaToCtx va.toNat))

instance (s : CallState) : ∀ a, Decidable (s.Careful a)
  | .ctxCreate block => inferInstanceAs (Decidable (s.Creates block))
  | .alloc _ _ => inferInstanceAs (Decidable True)
  | .bind ctxID => inferInstanceAs (Decidable (∀ i, ctxIndex ctxID = some i → _))
  | .free _ _ => inferInstanceAs (Decidable (_ → _))

/-- What is known of an address of a freed range. -/
structure FreedAddr (s : CallState) (maps dmaps : Fin 16 → PageMap)
    (i : Fin 16) (a : ℕ) : Prop where
  id_ne : (s.world.mgr.gdev.ctx i).id ≠ 0
  hasBuffer : s.world.HasBuffer i
  vpage_lt : vaToVpage a < (s.world.mgr.gdev.ctx i).vpageNext
  unmapped : maps i (vaToVpage a) = none
  synced : s.stale i = false → dmaps i (vaToVpage a) = none

/-- **The invariant of careful runs.**  The device's copies map at least what the driver's tables
map, and a freed page is still in the copy only while the context counts as stale. -/
structure Tracked (s : CallState) (maps dmaps : Fin 16 → PageMap) : Prop where
  inv : s.world.Inv maps dmaps
  superset : ∀ i v p, maps i v = some p → dmaps i v = some p
  frame : ∀ i v p, dmaps i v = some p → 4096 ∣ p ∧ p < 2 ^ 32
  freed : ∀ r ∈ s.freed, ∀ a, r.va ≤ a → a < r.va + r.size → s.FreedAddr maps dmaps r.ctx a
  bound : ∀ i, s.bound = some i → (s.world.mgr.gdev.ctx i).id ≠ 0 ∧
    s.world.dev.reg 0x508 = (s.world.mgr.gdev.ctx i).pt.gpuPhys ∧ s.stale i = false
  stale : ∀ i, s.stale i = true → ∃ r ∈ s.freed, r.ctx = i ∧ 0 < r.size ∧
    dmaps i (vaToVpage r.va) ≠ none

theorem tracked_start (host : ByteMem) (dev : Gpgpu) :
    Tracked (start host dev) (fun _ _ => none) fun _ _ => none where
  inv := World.inv_start host dev
  superset _ _ _ h := h
  frame _ _ _ h := by cases h
  freed _ h := absurd h List.not_mem_nil
  bound _ h := by cases h
  stale _ h := by cases h

theorem FreedAddr.mono {a : ℕ} {maps' dmaps' : Fin 16 → PageMap} (h : s.FreedAddr maps dmaps i a)
    (hid : (s'.world.mgr.gdev.ctx i).id = (s.world.mgr.gdev.ctx i).id)
    (hgrants : ∀ g ∈ s.world.mgr.grants, g ∈ s'.world.mgr.grants)
    (hnext : (s.world.mgr.gdev.ctx i).vpageNext ≤ (s'.world.mgr.gdev.ctx i).vpageNext)
    (hmaps : maps i (vaToVpage a) = none → maps' i (vaToVpage a) = none)
    (hdmaps : s'.stale i = false → dmaps' i (vaToVpage a) = none) :
    s'.FreedAddr maps' dmaps' i a where
  id_ne := by rw [hid]; exact h.id_ne
  hasBuffer := by
    obtain ⟨v, b, n, hg⟩ := h.hasBuffer
    exact ⟨v, b, n, hgrants _ hg⟩
  vpage_lt := h.vpage_lt.trans_le hnext
  unmapped := hmaps h.unmapped
  synced := hdmaps

theorem Tracked.unreachable (h : s.Tracked maps dmaps) : s.Unreachable := by
  intro r hr hbound a ha₁ ha₂
  obtain ⟨hid, hreg, hstale⟩ := h.bound _ hbound
  have hf := h.freed r hr a ha₁ ha₂
  have hlt := hf.vpage_lt.trans_le (h.inv.mgr.vpageNext_le (h.inv.mgr.contextOk hid))
  rw [h.inv.translateVa hid hf.hasBuffer hreg hlt, hf.synced hstale, World.decodePte_none]

theorem Tracked.translateVa_ne (h : s.Tracked maps dmaps) (hid : (s.world.mgr.gdev.ctx i).id ≠ 0)
    (hreg : s.world.dev.reg 0x508 = (s.world.mgr.gdev.ctx i).pt.gpuPhys)
    (hbuf : s.world.HasBuffer i) {a : ℕ} (hlt : vaToVpage a < gpuDdr.frames)
    (hmap : dmaps i (vaToVpage a) ≠ none) : s.world.dev.translateVa a ≠ .ok uint64Max := by
  obtain ⟨p, hp⟩ := Option.ne_none_iff_exists'.1 hmap
  obtain ⟨hdvd, hplt⟩ := h.frame i _ p hp
  rw [h.inv.translateVa hid hbuf hreg hlt, hp, World.decodePte_some hdvd]
  intro heq
  have := Except.ok.inj heq
  unfold uint64Max at this
  omega

/-- Creating a context concerns no range freed so far. -/
theorem Tracked.ctxCreate (h : s.Tracked maps dmaps) {w : World} {block : ℕ}
    (hw : s.world.ctxCreate block = some w) : Tracked { s with world := w } maps dmaps := by
  obtain ⟨i, hctx, hmgr, hdev, hinv⟩ := h.inv.ctxCreate hw
  have hother : ∀ j, (s.world.mgr.gdev.ctx j).id ≠ 0 →
      w.mgr.gdev.ctx j = s.world.mgr.gdev.ctx j := by
    intro j hj
    rw [hmgr]
    refine Function.update_of_ne ?_ ..
    rintro rfl
    rw [hctx] at hj
    exact hj rfl
  refine { h with inv := hinv, freed := fun r hr a ha₁ ha₂ => ?_, bound := fun j hj => ?_ }
  · have hf := h.freed r hr a ha₁ ha₂
    have hsame := hother _ hf.id_ne
    exact hf.mono (by rw [hsame]) (fun g hg => by rw [hmgr]; exact List.mem_cons_of_mem _ hg)
      (by rw [hsame]) (fun hm => hm) hf.synced
  · obtain ⟨hid, hreg, hstale⟩ := h.bound j hj
    change (w.mgr.gdev.ctx j).id ≠ 0 ∧ w.dev.reg 0x508 = (w.mgr.gdev.ctx j).pt.gpuPhys ∧ _
    rw [hother j hid, hdev]
    exact ⟨hid, hreg, hstale⟩

theorem vpageNext_le_withBuffer (m : ManagerState) (i : Fin 16) (n : ℕ) (j : Fin 16) :
    (m.gdev.ctx j).vpageNext ≤ ((m.withBuffer i n).gdev.ctx j).vpageNext := by
  by_cases hj : j = i
  · rw [hj, ManagerState.withBuffer_ctx_self]
    exact Nat.le_add_right _ _
  · simp [ManagerState.withBuffer, Function.update_of_ne hj]

/-- The pages of a new buffer follow those that were ever used, so a freed address stays unmapped.
The copy of the context is made anew. -/
theorem FreedAddr.withBuffer {j : Fin 16} {a n : ℕ} (h : s.FreedAddr maps dmaps j a)
    (hmgr : s'.world.mgr = s.world.mgr.withBuffer i n)
    (hstale : s'.stale j = (s.stale j && !decide (i = j))) :
    s'.FreedAddr
      (Function.update maps i ((maps i).mapRange 4096 (s.world.mgr.gdev.ctx i).vpageNext
        s.world.mgr.gdev.ddrNext n))
      (Function.update dmaps i ((maps i).mapRange 4096 (s.world.mgr.gdev.ctx i).vpageNext
        s.world.mgr.gdev.ddrNext n)) j a := by
  have hlt := h.vpage_lt
  have hid := (s.world.mgr.withBuffer_ctx i n j).2
  have hnext := vpageNext_le_withBuffer s.world.mgr i n j
  rw [← hmgr] at hid hnext
  have hgrants : ∀ g ∈ s.world.mgr.grants, g ∈ s'.world.mgr.grants := by
    intro g hg
    rw [hmgr]
    exact List.mem_cons_of_mem _ hg
  by_cases hj : j = i
  · subst hj
    have hmap : (maps j).mapRange 4096 (s.world.mgr.gdev.ctx j).vpageNext
        s.world.mgr.gdev.ddrNext n (vaToVpage a) = none := by
      rw [PageMap.mapRange_of_not_mem (by omega)]
      exact h.unmapped
    refine h.mono hid hgrants hnext (fun _ => ?_) fun _ => ?_
    · rw [Function.update_self]
      exact hmap
    · rw [Function.update_self]
      exact hmap
  · refine h.mono hid hgrants hnext (fun hm => ?_) fun hst => ?_
    · rw [Function.update_of_ne hj]
      exact hm
    · rw [Function.update_of_ne hj]
      refine h.synced ?_
      rw [hstale] at hst
      simpa [Ne.symm hj] using hst

/-- Allocating a buffer brings the device's copy of the table up to date. -/
theorem Tracked.alloc (h : s.Tracked maps dmaps) {ctxID : ℕ} {size : UInt32}
    {r : World × Option Allocated} (hr : s.world.alloc ctxID size = some r) :
    ∃ maps' dmaps', Tracked (s.afterAlloc ctxID r) maps' dmaps' := by
  obtain ⟨w, r⟩ := r
  obtain ⟨i, hi, ⟨rfl, rfl⟩ | ⟨hn, hroom, hmgr, rfl, hunused, hused, hregs⟩⟩ :=
    World.Inv.alloc_cases h.inv.mgr hr
  · refine ⟨maps, dmaps, ?_⟩
    simp only [afterAlloc, Option.isSome_none, Bool.false_and, Bool.not_false, Bool.and_true]
    exact h
  · have hinv := h.inv.withBuffer hn hroom hmgr hunused hused
    have hstale : ∀ j, (s.afterAlloc ctxID (w, some (s.world.mgr.allocResult i))).stale j =
        (s.stale j && !decide (i = j)) := by
      intro j
      simp [afterAlloc, hi]
    have hfits := gpuDdr.fits
    have hbound : gpuDdr.base + gpuDdr.size < 2 ^ 32 := by decide
    refine ⟨_, _,
      { inv := hinv, superset := fun j v p hp => ?_, frame := fun j v p hp => ?_
        freed := fun q hq a ha₁ ha₂ => ?_, bound := fun j hj => ?_, stale := fun j hj => ?_ }⟩
    · by_cases hj : j = i
      · subst hj
        rw [Function.update_self] at hp ⊢
        exact hp
      · rw [Function.update_of_ne hj] at hp ⊢
        exact h.superset j v p hp
    · by_cases hj : j = i
      · subst hj
        rw [Function.update_self] at hp
        unfold PageMap.mapRange at hp
        split at hp
        · have := h.inv.mgr.next_aligned
          cases hp
          omega
        · exact h.frame j v p (h.superset j v p hp)
      · rw [Function.update_of_ne hj] at hp
        exact h.frame j v p hp
    · exact (h.freed q hq a ha₁ ha₂).withBuffer hmgr (hstale _)
    · obtain ⟨hjid, hreg, hst⟩ := h.bound j hj
      change (w.mgr.gdev.ctx j).id ≠ 0 ∧ w.dev.reg 0x508 = (w.mgr.gdev.ctx j).pt.gpuPhys ∧ _
      obtain ⟨hpt, hid⟩ := s.world.mgr.withBuffer_ctx i (pagesOf size.toNat) j
      rw [hmgr, hid, hpt, hregs _ (by decide), hstale, hst]
      exact ⟨hjid, hreg, rfl⟩
    · rw [hstale, Bool.and_eq_true] at hj
      have hji : j ≠ i := by
        rintro rfl
        simp at hj
      obtain ⟨q, hq, hrest⟩ := h.stale j hj.1
      refine ⟨q, hq, ?_⟩
      rw [Function.update_of_ne hji]
      exact hrest

theorem Tracked.bind (h : s.Tracked maps dmaps) (hid : (s.world.mgr.gdev.ctx i).id ≠ 0)
    (hstale : s.stale i = false) {w : World} (hw : s.world.bind i = some w) :
    Tracked { s with world := w, bound := some i } maps dmaps := by
  obtain ⟨d', hd, hmem, hreg, _⟩ := s.world.exists_bind i
  rw [hd] at hw
  cases hw
  refine { h with inv := h.inv.setDev hmem, freed := fun r hr a ha₁ ha₂ => ?_, bound := ?_ }
  · have hf := h.freed r hr a ha₁ ha₂
    exact hf.mono rfl (fun g hg => hg) le_rfl (fun hm => hm) hf.synced
  · rintro j hj
    cases hj
    exact ⟨hid, hreg.trans (World.Inv.lower32_gpuPhys h.inv.mgr hid), hstale⟩

theorem vaToVpage_of_covered {va size n a : ℕ} (hcover : va % 4096 + size ≤ 4096 * n)
    (hfit : vaToVpage va + n ≤ 2 ^ 36) (ha₁ : va ≤ a) (ha₂ : a < va + size) :
    vaToVpage va ≤ vaToVpage a ∧ vaToVpage a < vaToVpage va + n := by
  rw [vaToVpage_eq] at *
  rw [vaToVpage_eq]
  omega

/-- A free that returns zero cleared pages of a created context, all of them in use. -/
theorem Tracked.free_range (h : s.Tracked maps dmaps) {va : UInt64} {size : UInt32}
    (hi : ctxIndex (vaToCtx va.toNat) = some i) (hfree : (s.world.free va size).1 = true)
    (hpages : 0 < freePages size) : (s.world.mgr.gdev.ctx i).id ≠ 0 ∧ s.world.HasBuffer i ∧
      vaToVpage va.toNat + freePages size ≤ (s.world.mgr.gdev.ctx i).vpageNext ∧
      maps i (vaToVpage va.toNat) ≠ none := by
  obtain ⟨k, _, hok⟩ := h.inv.free_cases hi size
  obtain ⟨_, hall⟩ := hok hfree
  have hid : (s.world.mgr.gdev.ctx i).id ≠ 0 := by
    intro hid
    have hx := (hall (vaToVpage va.toNat) le_rfl (by omega)).2
    rw [(h.inv.mgr.unused hid).2] at hx
    exact hx rfl
  have hc := h.inv.mgr.contextOk hid
  obtain ⟨p, hp⟩ := Option.ne_none_iff_exists'.1
    (hall (vaToVpage va.toNat + freePages size - 1) (by omega) (by omega)).2
  obtain ⟨u, b, n, hg, _⟩ := hc.mapped _ p hp
  have hlt := hc.mapped_lt _ p hp
  exact ⟨hid, ⟨u, b, n, hg⟩, by omega, (hall _ le_rfl (by omega)).2⟩

/-- Freeing a range of a context that is not bound. -/
theorem Tracked.free (h : s.Tracked maps dmaps) {va : UInt64} {size : UInt32}
    (hi : ctxIndex (vaToCtx va.toNat) = some i) (hcareful : s.Careful (.free va size)) :
    ∃ maps', Tracked (s.afterFree i va size (s.world.free va size)) maps' dmaps := by
  obtain ⟨k, hinv, hok⟩ := h.inv.free_cases hi size
  refine ⟨Function.update maps i ((maps i).unmapRange (vaToVpage va.toNat) k), ?_⟩
  have hsub : ∀ j v p, Function.update maps i ((maps i).unmapRange (vaToVpage va.toNat) k) j v =
      some p → maps j v = some p := by
    intro j v p hp
    by_cases hj : j = i
    · subst hj
      rw [Function.update_self] at hp
      exact PageMap.of_unmapRange_eq_some hp
    · rwa [Function.update_of_ne hj] at hp
  have hnone : ∀ j v, maps j v = none →
      Function.update maps i ((maps i).unmapRange (vaToVpage va.toNat) k) j v = none := by
    intro j v hm
    refine Option.eq_none_iff_forall_ne_some.2 fun p hp => ?_
    rw [hsub j v p hp] at hm
    cases hm
  have hsuper := fun j v p hp => h.superset j v p (hsub j v p hp)
  unfold afterFree
  split
  · next htrue =>
      obtain ⟨rfl, hall⟩ := hok htrue
      refine
        { inv := hinv, superset := hsuper, frame := h.frame, freed := ?_, bound := fun j hj => ?_
          stale := fun j hj => ?_ }
      · refine List.forall_mem_cons.2 ⟨fun a ha₁ ha₂ => ?_, fun r hr a ha₁ ha₂ => ?_⟩
        · -- the range is not empty, so the cleared pages cover it
          change va.toNat ≤ a at ha₁
          change a < va.toNat + size.toNat at ha₂
          obtain hzero | ⟨hcover, _⟩ := hcareful htrue
          · omega
          · have hpages : 0 < freePages size := by omega
            obtain ⟨hid, hbuf, hle, _⟩ := h.free_range hi htrue hpages
            have hframes := gpuDdr.frames_lt
            have hvle := h.inv.mgr.vpageNext_le (h.inv.mgr.contextOk hid)
            obtain ⟨h₁, h₂⟩ := vaToVpage_of_covered hcover (by omega) ha₁ ha₂
            refine ⟨hid, hbuf, h₂.trans_le hle, ?_, fun hst => ?_⟩
            · rw [Function.update_self, PageMap.unmapRange_of_mem h₁ h₂]
            · simp [hpages] at hst
        · have hf := h.freed r hr a ha₁ ha₂
          refine hf.mono rfl (fun g hg => hg) le_rfl (hnone _ _) fun hst => hf.synced ?_
          simp only [Bool.or_eq_false_iff] at hst
          exact hst.1
      · obtain ⟨hid, hreg, hst⟩ := h.bound j hj
        refine ⟨hid, hreg, ?_⟩
        obtain hzero | ⟨_, hne⟩ := hcareful htrue
        · have hpages : freePages size = 0 := by simp [freePages, hzero, pageAlign]
          simp [hst, hpages]
        · have hji : j ≠ i := by
            rintro rfl
            exact hne (hj.trans hi.symm)
          simp [hst, hji]
      · by_cases hst : s.stale j = true
        · obtain ⟨r, hr, hrest⟩ := h.stale j hst
          exact ⟨r, List.mem_cons_of_mem _ hr, hrest⟩
        · simp only [Bool.not_eq_true] at hst
          simp only [hst, Bool.false_or, Bool.and_eq_true, decide_eq_true_eq] at hj
          obtain ⟨rfl, hpages⟩ := hj
          obtain ⟨_, _, _, hmap⟩ := h.free_range hi htrue hpages
          obtain ⟨p, hp⟩ := Option.ne_none_iff_exists'.1 hmap
          have hsize : 0 < size.toNat := by
            by_contra hzero
            have : size.toNat = 0 := by omega
            simp [freePages, this, pageAlign] at hpages
          refine ⟨_, List.mem_cons_self, rfl, hsize, ?_⟩
          rw [h.superset _ _ p hp]
          exact Option.some_ne_none p
  · refine
      { inv := hinv, superset := hsuper, frame := h.frame, bound := h.bound, stale := h.stale
        freed := fun r hr a ha₁ ha₂ => ?_ }
    have hf := h.freed r hr a ha₁ ha₂
    exact hf.mono rfl (fun g hg => hg) le_rfl (hnone _ _) hf.synced

/-- Careful calls keep the invariant. -/
theorem tracked_step {a : CallAct} (h : ∃ maps dmaps, s.Tracked maps dmaps) (hC : s.Careful a)
    (hstep : s.step a = some s') : ∃ maps dmaps, s'.Tracked maps dmaps := by
  obtain ⟨maps, dmaps, hT⟩ := h
  cases a with
  | ctxCreate block =>
      obtain rfl | ⟨b, w, hw, rfl⟩ := Creates.step hC hstep
      · exact ⟨maps, dmaps, hT⟩
      · exact ⟨maps, dmaps, hT.ctxCreate hw⟩
  | alloc ctxID size =>
      obtain ⟨r, hr, rfl⟩ := Option.map_eq_some_iff.1 hstep
      exact hT.alloc hr
  | bind ctxID =>
      simp only [CallState.step] at hstep
      split at hstep
      · cases hstep
        exact ⟨maps, dmaps, hT⟩
      · next i hi =>
          obtain ⟨w, hw, rfl⟩ := Option.map_eq_some_iff.1 hstep
          obtain ⟨hid, hstale⟩ := hC i hi
          exact ⟨maps, dmaps, hT.bind hid hstale hw⟩
  | free va size =>
      simp only [CallState.step] at hstep
      split at hstep
      · cases hstep
        exact ⟨maps, dmaps, hT⟩
      · next i hi =>
          cases hstep
          obtain ⟨maps', hT'⟩ := hT.free hi hC
          exact ⟨maps', dmaps, hT'⟩

end CallState

/-- **Freed memory is unreachable in careful runs.**  And care is needed: after such a run, freeing
a range of the bound context and binding a context with a range freed since its table was copied
both make a freed address reachable. -/
theorem freed_unreachable_of_careful (host : ByteMem) (dev : Gpgpu) {as : List CallAct}
    {s : CallState} (hcareful : Machine.Obeys CallState.step CallState.Careful (.start host dev) as)
    (hrun : Machine.run CallState.step (.start host dev) as = some s) :
    s.Unreachable ∧
    (∀ va size i s', ctxIndex (vaToCtx (UInt64.toNat va)) = some i → s.bound = some i →
      (s.world.free va size).1 = true → 0 < freePages size → s.step (.free va size) = some s' →
      ¬ s'.Unreachable) ∧
    (∀ c i s', ctxIndex c = some i → s.stale i = true → s.step (.bind c) = some s' →
      ¬ s'.Unreachable) := by
  obtain ⟨maps, dmaps, hT⟩ := Machine.run_invariant
    (I := fun s => ∃ maps dmaps, s.Tracked maps dmaps)
    (fun s a s' hI hC hstep => CallState.tracked_step hI hC hstep)
    ⟨_, _, CallState.tracked_start host dev⟩ hcareful hrun
  have hframes := gpuDdr.frames_lt
  refine ⟨hT.unreachable, fun va size i s' hi hbound hfree hpages hstep hun => ?_,
    fun c i s' hc hstale hstep hun => ?_⟩
  · -- the device is not told about the free
    obtain ⟨hid, hbuf, hle, hmap⟩ := hT.free_range hi hfree hpages
    obtain ⟨p, hp⟩ := Option.ne_none_iff_exists'.1 hmap
    have hvle := hT.inv.mgr.vpageNext_le (hT.inv.mgr.contextOk hid)
    have hsize : 0 < size.toNat := by
      by_contra hzero
      have : size.toNat = 0 := by omega
      simp [freePages, this, pageAlign] at hpages
    simp only [CallState.step, hi, CallState.afterFree, hfree, if_true, Option.some.injEq] at hstep
    subst hstep
    refine hT.translateVa_ne hid (hT.bound i hbound).2.1 hbuf (a := va.toNat) (by omega) ?_
      (hun _ List.mem_cons_self hbound _ le_rfl (Nat.lt_add_of_pos_right hsize))
    rw [hT.superset _ _ p hp]
    exact Option.some_ne_none p
  · -- the copy that the device uses from now on still has the freed page
    obtain ⟨r, hr, rfl, hsize, hmap⟩ := hT.stale i hstale
    have hf := hT.freed r hr r.va le_rfl (Nat.lt_add_of_pos_right hsize)
    have hvle := hT.inv.mgr.vpageNext_le (hT.inv.mgr.contextOk hf.id_ne)
    obtain ⟨d', hd, hmem, hreg, _⟩ := s.world.exists_bind r.ctx
    simp only [CallState.step, hc, hd, Option.map_some, Option.some.injEq] at hstep
    subst hstep
    have hT' : CallState.Tracked { s with world := { s.world with dev := d' }, bound := none }
        maps dmaps :=
      { hT with
        inv := hT.inv.setDev hmem
        freed := fun q hq a ha₁ ha₂ =>
          (hT.freed q hq a ha₁ ha₂).mono rfl (fun g hg => hg) le_rfl (fun hm => hm)
            (hT.freed q hq a ha₁ ha₂).synced
        bound := fun j hj => by cases hj }
    refine hT'.translateVa_ne hf.id_ne
      (hreg.trans (World.Inv.lower32_gpuPhys hT.inv.mgr hf.id_ne)) hf.hasBuffer
      (hf.vpage_lt.trans_le hvle) hmap ?_
    exact hun r hr rfl r.va le_rfl (Nat.lt_add_of_pos_right hsize)

/-- A range is freed, and another buffer allocated before the context is bound. -/
theorem freed_unreachable_of_careful_synced : ∃ s,
    Machine.run CallState.step (.start (fun _ => 0) { mem := fun _ => 0xFF })
      [.ctxCreate (some 0x100000), .alloc 1 8192, .free 0x1000000000000 8192, .alloc 1 1, .bind 1] =
        some s ∧
    s.freed = [⟨0, 0x1000000000000, 8192⟩] ∧ s.bound = some 0 ∧ s.Unreachable := by
  have hsome : ((Machine.run CallState.step (.start (fun _ => 0) { mem := fun _ => 0xFF })
      [.ctxCreate (some 0x100000), .alloc 1 8192, .free 0x1000000000000 8192, .alloc 1 1,
        .bind 1]).map fun s => (s.freed, s.bound)) =
        some ([⟨0, 0x1000000000000, 8192⟩], some 0) := by
    decide +kernel
  obtain ⟨s, hrun, hs⟩ := Option.map_eq_some_iff.1 hsome
  exact ⟨s, hrun, congrArg Prod.fst hs, congrArg Prod.snd hs,
    (freed_unreachable_of_careful _ _ (by decide +kernel) hrun).1⟩

/-- **A freed address that the device still translates**: the range is freed while its context is
bound, and the device finds the old frame. -/
theorem freed_range_translated : ∃ s,
    Machine.run CallState.step (.start (fun _ => 0) { mem := fun _ => 0 })
      [.ctxCreate (some 0x100000), .alloc 1 4096, .bind 1, .free 0x1000000000000 4096] = some s ∧
    s.freed = [⟨0, 0x1000000000000, 4096⟩] ∧ s.bound = some 0 ∧
    s.world.dev.translateVa 0x1000000000000 = .ok 0x80040000 := by
  have hsome : ((Machine.run CallState.step (.start (fun _ => 0) { mem := fun _ => 0 })
      [.ctxCreate (some 0x100000), .alloc 1 4096, .bind 1, .free 0x1000000000000 4096]).map
      fun s => (s.freed, s.bound, (s.world.dev.translateVa 0x1000000000000).toOption)) =
      some ([⟨0, 0x1000000000000, 4096⟩], some 0, some 0x80040000) := by decide +kernel
  obtain ⟨s, hrun, hs⟩ := Option.map_eq_some_iff.1 hsome
  refine ⟨s, hrun, congrArg Prod.fst hs, congrArg (fun x => x.2.1) hs, ?_⟩
  have htrans := congrArg (fun x => x.2.2) hs
  cases hx : s.world.dev.translateVa 0x1000000000000 with
  | error e => simp [hx, Except.toOption] at htrans
  | ok x =>
      simp only [hx, Except.toOption, Option.some.injEq] at htrans
      rw [htrans]

end Gpu

end Dvf
