/-
**Contexts and the buffers in them** (`gpu_ctx_create`, `gpu_alloc`, `GPU_IOCTL_CTX_CREATE` and
`GP_GPU_IOCTL_REQ_BUF`).

`gpu_ctx_create` gives the first free slot its id before it allocates a page table.  When one of the
two allocations fails, the id stays, and with it a null pointer or a pointer to a block that was
freed.  The call of the user does not look at the result and returns 0 in any case.

`REQ_BUF` takes the context from the user.  It refuses zero, but neither it nor `gpu_alloc` compares
the number with the length of the array or looks whether the context was created.

Main definitions:

* `Dvf.Gpu.CreationIsAtomic` — what is asked of a creation that fails, and of a call that returns 0;
* `Dvf.Gpu.TableState` — the driver with the page tables that were allocated successfully;
* `Dvf.Gpu.TableState.TouchesLive` — what is asked of a `REQ_BUF`.

Main results:

* `Dvf.Gpu.creationIsAtomic_iff` — **a creation is atomic exactly when it succeeds**;
* `Dvf.Gpu.TableState.Inv.step` — what every call keeps of the tables;
* `Dvf.Gpu.reqBuf_touchesLive_iff` — **when a request touches live contexts only**.
-/

import Dvf.GpuIoctl

set_option autoImplicit false

namespace Dvf

namespace Gpu

/-! ### Creating a context -/

/-- A creation with the block that `dma_alloc_coherent` returns: when `gpu_ctx_create` fails, the
contexts are as before; and when the call returns 0, a slot that was free has an id and a page
table, and the user gets this id. -/
structure CreationIsAtomic (s : IoctlState) (block : Option ℕ) : Prop where
  failed : ∀ e, (s.world.mgr.createContext block).1 = .error e →
    (s.world.mgr.createContext block).2.gdev.ctx = s.world.mgr.gdev.ctx
  answered : ∀ arg copied r s', s.ioctl (.ctxCreate arg block copied) = some (.ok r, s') →
    ∃ i b, (s.world.mgr.gdev.ctx i).id = 0 ∧ block = some b ∧
      (s'.world.mgr.gdev.ctx i).id = i + 1 ∧ (s'.world.mgr.gdev.ctx i).pt.cpuPtr = some b ∧
      (s'.world.mgr.gdev.ctx i).pt.gpuPhys ≠ 0 ∧ r = .ctxID (UInt32.ofNat (i + 1))

/-- There is a free slot, `dma_alloc_coherent` returns a block, and there is room in the DDR. -/
def CreationSucceeds (g : Manager) (block : Option ℕ) : Prop :=
  ∃ i b, g.freeSlot = some i ∧ block = some b ∧ (g.ddrAlloc (8 * (g.ddrSize / 4096))).1 ≠ 0

theorem createContext_of_succeeds {m : ManagerState} {i : Fin 16} {b : ℕ}
    (hslot : m.gdev.freeSlot = some i)
    (hroom : (m.gdev.ddrAlloc (8 * (m.gdev.ddrSize / 4096))).1 ≠ 0) :
    (m.createContext (some b)).1 = .ok i ∧
      (m.createContext (some b)).2.gdev =
        (m.gdev.ddrAlloc (8 * (m.gdev.ddrSize / 4096))).2.setContext i
          { id := i + 1, vpageNext := 0
            pt :=
              { numEntries := m.gdev.ddrSize / 4096, cpuPtr := some b, dmaHandle := b
                gpuPhys := (m.gdev.ddrAlloc (8 * (m.gdev.ddrSize / 4096))).1 } } := by
  rw [m.fst_createContext, m.gdev_createContext, Manager.ctxCreate_some hslot, if_neg hroom]
  exact ⟨rfl, rfl⟩

theorem createContext_of_not_succeeds {m : ManagerState} {block : Option ℕ}
    (h : ¬ CreationSucceeds m.gdev block) : (m.createContext block).1 = .error .enomem := by
  rw [m.fst_createContext]
  cases hslot : m.gdev.freeSlot with
  | none =>
      unfold Manager.ctxCreate
      rw [hslot]
  | some i =>
      cases block with
      | none => rw [Manager.ctxCreate_none hslot]
      | some b =>
          have hzero : (m.gdev.ddrAlloc (8 * (m.gdev.ddrSize / 4096))).1 = 0 := by
            by_contra hroom
            exact h ⟨i, b, hslot, rfl, hroom⟩
          rw [Manager.ctxCreate_some hslot, if_pos hzero]

/-- **A creation is atomic exactly when it succeeds**, in every state and for every outcome of the
allocations. -/
theorem creationIsAtomic_iff (s : IoctlState) (block : Option ℕ) :
    CreationIsAtomic s block ↔ CreationSucceeds s.world.mgr.gdev block := by
  constructor
  · intro h
    by_contra hfails
    have herror := createContext_of_not_succeeds hfails
    cases hslot : s.world.mgr.gdev.freeSlot with
    | none =>
        -- the call returns 0, but there was no free slot
        obtain ⟨i, b, hid, _⟩ := h.answered (some 0) true _ _ rfl
        have := List.find?_eq_none.1 hslot i (List.mem_finRange i)
        rw [hid] at this
        exact this (decide_eq_true rfl)
    | some i => exact IoctlState.ctx_createContext_ne hslot block (h.failed _ herror)
  · rintro ⟨i, b, hslot, rfl, hroom⟩
    obtain ⟨hok, hgdev⟩ := createContext_of_succeeds (b := b) hslot hroom
    refine ⟨fun e he => ?_, fun arg copied r s' h => ?_⟩
    · rw [hok] at he
      cases he
    · cases arg with
      | none => cases h
      | some ctxID =>
          cases copied with
          | false => cases h
          | true =>
              obtain ⟨hr, rfl⟩ := Prod.mk.inj (Option.some.inj h)
              have hself : (s.world.mgr.createContext (some b)).2.gdev.ctx i = _ :=
                (congrFun (congrArg Manager.ctx hgdev) i).trans (Function.update_self ..)
              refine ⟨i, b, Manager.id_of_freeSlot hslot, rfl, ?_, ?_, ?_, ?_⟩
              · rw [hself]
              · rw [hself]
              · rw [hself]
                exact hroom
              · rw [hok] at hr
                exact (Except.ok.inj hr).symm

/-- **A creation that fails and is reported as done**: `dma_alloc_coherent` returns nothing.  The
call returns 0 with the user's own number, and the first slot has an id and a null table, which no
later call can repair. -/
theorem failed_creation_keeps_slot : ∃ s',
    ({ world := .start (fun _ => 0) { mem := fun _ => 0 } } : IoctlState).ioctl
        (.ctxCreate (some 7) none true) = some (.ok (.ctxID 7), s') ∧
    (s'.world.mgr.gdev.ctx 0).id = 1 ∧ (s'.world.mgr.gdev.ctx 0).pt.cpuPtr = none ∧
    s'.world.mgr.gdev.freeSlot = some 1 := by
  refine ⟨_, rfl, ?_, ?_, ?_⟩
  · decide +kernel
  · decide +kernel
  · decide +kernel

/-! ### Requests for buffers -/

/-- The driver with the page tables that `gpu_ctx_create` has allocated successfully: the context
and the block. -/
structure TableState where
  io : IoctlState
  tables : List (Fin 16 × ℕ) := []

/-- The table that a call allocates, if it creates a context. -/
def IoctlState.newTable (s : IoctlState) : IoctlCall → List (Fin 16 × ℕ)
  | .ctxCreate (some _) block _ =>
      (s.world.mgr.createContext block).1.toOption.elim [] fun i => [(i, block.getD 0)]
  | _ => []

/-- The entries that `gpu_alloc` stores for a size: through which pointer, and at which index. -/
def Manager.allocStores (g : Manager) (i : Fin 16) (size : ℕ) : List (Option ℕ × ℕ) :=
  if (g.ddrAlloc (pageAlign 64 size)).1 = 0 then []
  else
    (pteWrites (g.ctx i).vpageNext (g.ddrAlloc (pageAlign 64 size)).1
      (pageAlign 64 size / 4096)).map fun e => ((g.ctx i).pt.cpuPtr, e.1)

namespace TableState

/-- The driver has been loaded; memories and registers hold anything. -/
def start (host : ByteMem) (dev : Gpgpu) : TableState where
  io := { world := .start host dev }

def step (s : TableState) (c : IoctlCall) : Option TableState :=
  (s.io.ioctl c).map fun r => { io := r.2, tables := s.io.newTable c ++ s.tables }

def gdev (s : TableState) : Manager := s.io.world.mgr.gdev

def Live (s : TableState) (ctxID : UInt32) : Prop :=
  ∃ i b, ctxIndex ctxID.toNat = some i ∧ (i, b) ∈ s.tables

/-- What is asked of a `REQ_BUF`: `gpu_alloc` is called with an index of the array only, it stores
entries into live tables only, and a context without a table is refused without a trace. -/
structure TouchesLive (s : TableState) (arg : Option BufRequest) (kzalloc : Bool)
    (block : Option ℕ) (copied : Bool) : Prop where
  index : ∀ q ∈ arg, q.ctxID ≠ 0 → kzalloc = true → q.ctxID.toNat - 1 < 16
  stores : ∀ q ∈ arg, q.ctxID ≠ 0 → kzalloc = true → ∀ i, ctxIndex q.ctxID.toNat = some i →
    ∀ x ∈ s.gdev.allocStores i q.size.toNat, ∃ b, (i, b) ∈ s.tables ∧ x.1 = some b ∧
      x.2 < (s.gdev.ctx i).pt.numEntries
  refused : ∀ q ∈ arg, ¬ s.Live q.ctxID → ∃ e s',
    s.io.ioctl (.reqBuf arg kzalloc block copied) = some (.error e, s') ∧ s.io.NoTrace s'

/-- The condition: a request that gets as far as `gpu_alloc` is for a context of the array, which is
live unless there is no room in the DDR. -/
def Guarded (s : TableState) (arg : Option BufRequest) (kzalloc : Bool) : Prop :=
  ∀ q ∈ arg, q.ctxID ≠ 0 → kzalloc = true → q.ctxID.toNat ≤ 16 ∧
    (s.Live q.ctxID ∨ (s.gdev.ddrAlloc (pageAlign 64 q.size.toNat)).1 = 0)

/-! ### The tables -/

variable {s s' : TableState} {i : Fin 16} {b : ℕ}

/-- A context with its page table; it has no more pages than frames were handed out. -/
structure TableOk (g : Manager) (i : Fin 16) (b : ℕ) : Prop where
  created : (g.ctx i).id ≠ 0
  cpuPtr_eq : (g.ctx i).pt.cpuPtr = some b
  numEntries_eq : (g.ctx i).pt.numEntries = gpuDdr.frames
  vpages_le : gpuDdr.base + 4096 * (g.ctx i).vpageNext ≤ g.ddrNext

/-- **The invariant of all calls**, those that fail included. -/
structure Inv (g : Manager) (tables : List (Fin 16 × ℕ)) : Prop where
  ddrBase_eq : g.ddrBase = gpuDdr.base
  ddrSize_eq : g.ddrSize = gpuDdr.size
  base_le : gpuDdr.base ≤ g.ddrNext
  next_le : g.ddrNext ≤ gpuDdr.base + gpuDdr.size
  table : ∀ x ∈ tables, TableOk g x.1 x.2

theorem inv_start (host : ByteMem) (dev : Gpgpu) : Inv (start host dev).gdev [] :=
  ⟨rfl, rfl, le_rfl, Nat.le_add_right _ _, fun _ h => absurd h List.not_mem_nil⟩

variable {g : Manager} {tables : List (Fin 16 × ℕ)}

theorem Inv.ddrAlloc (hI : Inv g tables) (size : ℕ) (hsize : size ≤ 2 ^ 62) :
    (g.ddrAlloc size = (0, g)) ∨
    (g.ddrNext + 4096 * pagesOf size ≤ gpuDdr.base + gpuDdr.size ∧
      g.ddrAlloc size = (g.ddrNext, { g with ddrNext := g.ddrNext + 4096 * pagesOf size })) :=
  ManagerState.ddrAlloc_window hI.ddrBase_eq hI.ddrSize_eq hI.next_le size hsize

theorem Inv.ddrAlloc_request (hI : Inv g tables) (size : UInt32) :
    (g.ddrAlloc (pageAlign 64 size.toNat) = (0, g)) ∨
    (g.ddrNext + 4096 * pagesOf size.toNat ≤ gpuDdr.base + gpuDdr.size ∧ g.ddrNext ≠ 0 ∧
      g.ddrAlloc (pageAlign 64 size.toNat) =
        (g.ddrNext, { g with ddrNext := g.ddrNext + 4096 * pagesOf size.toNat })) := by
  have hsize : size.toNat < 2 ^ 32 := size.toNat_lt
  have hpages : 4096 * pagesOf size.toNat ≤ size.toNat + 4095 := Nat.mul_div_le _ _
  have hpos := gpuDdr.base_pos
  have hbase := hI.base_le
  rw [pageAlign_of_lt (by omega)]
  obtain hr | ⟨hroom, hr⟩ := hI.ddrAlloc (4096 * pagesOf size.toNat) (by omega)
  · exact .inl hr
  · rw [pagesOf_mul] at hroom hr
    exact .inr ⟨hroom, by omega, hr⟩

theorem pages_request (size : UInt32) : pageAlign 64 size.toNat / 4096 = pagesOf size.toNat := by
  have hsize : size.toNat < 2 ^ 32 := size.toNat_lt
  rw [pageAlign_of_lt (by omega), Nat.mul_div_cancel_left _ (by norm_num)]

/-- More of the DDR is handed out, and a context that has no table changes. -/
theorem Inv.setContext (hI : Inv g tables) {next : ℕ} (hnext : g.ddrNext ≤ next)
    (hle : next ≤ gpuDdr.base + gpuDdr.size) {c : Context}
    (hc : ∀ b, (i, b) ∈ tables → TableOk { g with ddrNext := next, ctx := fun _ => c } i b) :
    Inv (Manager.setContext { g with ddrNext := next } i c) tables := by
  refine ⟨hI.ddrBase_eq, hI.ddrSize_eq, hI.base_le.trans hnext, hle, fun x hx => ?_⟩
  by_cases hxi : x.1 = i
  · have hself : (Manager.setContext { g with ddrNext := next } i c).ctx x.1 = c := by
      rw [hxi]
      exact Function.update_self ..
    have hok := hc x.2 (by rw [← hxi]; exact hx)
    exact ⟨by rw [hself]; exact hok.created, by rw [hself]; exact hok.cpuPtr_eq,
      by rw [hself]; exact hok.numEntries_eq, by rw [hself]; exact hok.vpages_le⟩
  · have hother : (Manager.setContext { g with ddrNext := next } i c).ctx x.1 = g.ctx x.1 :=
      Function.update_of_ne hxi ..
    have hok := hI.table x hx
    exact ⟨by rw [hother]; exact hok.created, by rw [hother]; exact hok.cpuPtr_eq,
      by rw [hother]; exact hok.numEntries_eq, by rw [hother]; exact hok.vpages_le.trans hnext⟩

theorem Inv.not_mem_of_freeSlot (hI : Inv g tables) (h : g.freeSlot = some i) (b : ℕ) :
    (i, b) ∉ tables :=
  fun hmem => (hI.table _ hmem).created (Manager.id_of_freeSlot h)

/-- A `gpu_ctx_create`, successful or not. -/
theorem Inv.createContext {m : ManagerState} (hI : Inv m.gdev tables) (block : Option ℕ) :
    Inv (m.createContext block).2.gdev
      ((m.createContext block).1.toOption.elim [] (fun i => [(i, block.getD 0)]) ++ tables) := by
  rw [m.gdev_createContext, m.fst_createContext]
  cases hslot : m.gdev.freeSlot with
  | none =>
      unfold Manager.ctxCreate
      rw [hslot]
      exact hI
  | some i =>
      have hnew : ∀ c b, (i, b) ∈ tables → TableOk c i b :=
        fun _ b hmem => absurd hmem (hI.not_mem_of_freeSlot hslot b)
      cases block with
      | none =>
          rw [Manager.ctxCreate_none hslot]
          exact hI.setContext le_rfl hI.next_le (hnew _)
      | some b =>
          rw [Manager.ctxCreate_some hslot]
          have hframes : m.gdev.ddrSize / 4096 = gpuDdr.frames := by rw [hI.ddrSize_eq]; rfl
          have hpos := gpuDdr.base_pos
          have hbase := hI.base_le
          rw [hframes]
          obtain hr | ⟨hroom, hr⟩ := hI.ddrAlloc (8 * gpuDdr.frames)
            (by have := gpuDdr.frames_lt; omega)
          · rw [hr]
            exact hI.setContext le_rfl hI.next_le (hnew _)
          · rw [hr, if_neg (show m.gdev.ddrNext ≠ 0 by omega)]
            have hset := hI.setContext (Nat.le_add_right _ (4096 * pagesOf (8 * gpuDdr.frames)))
              hroom (c :=
                { id := i + 1, vpageNext := 0
                  pt := { numEntries := gpuDdr.frames, cpuPtr := some b, dmaHandle := b
                          gpuPhys := m.gdev.ddrNext } }) (hnew _)
            refine { hset with table := List.forall_mem_cons.2 ⟨?_, hset.table⟩ }
            have hself := Function.update_self i
              ({ id := i + 1, vpageNext := 0
                 pt := { numEntries := gpuDdr.frames, cpuPtr := some b, dmaHandle := b
                         gpuPhys := m.gdev.ddrNext } } : Context) m.gdev.ctx
            refine ⟨?_, ?_, ?_, ?_⟩
            · exact (congrArg Context.id hself).trans_ne (Nat.succ_ne_zero _)
            · exact congrArg (fun c => c.pt.cpuPtr) hself
            · exact congrArg (fun c => c.pt.numEntries) hself
            · have hzero := congrArg Context.vpageNext hself
              change gpuDdr.base + 4096 * (Function.update m.gdev.ctx i _ i).vpageNext ≤ _
              rw [hzero]
              exact hbase.trans (Nat.le_add_right _ _)

/-- A `gpu_alloc`, successful or not. -/
theorem Inv.gpuAlloc {io : IoctlState} (hI : Inv io.world.mgr.gdev tables) {q : BufRequest}
    {block : Option ℕ} {w : World} {o : Option Allocated}
    (h : io.gpuAlloc q block = some (w, o)) : Inv w.mgr.gdev tables := by
  obtain ⟨i, _, hcases⟩ := IoctlState.gpuAlloc_cases h
  obtain hr | ⟨hroom, hnext, hr⟩ := hI.ddrAlloc_request q.size
  · rw [hr] at hcases
    obtain ⟨_, _, hgdev⟩ | ⟨_, hne, _⟩ := hcases
    · rw [hgdev]
      exact hI
    · exact absurd rfl hne
  · rw [hr] at hcases
    obtain ⟨_, hzero, _⟩ | ⟨_, _, hgdev⟩ := hcases
    · exact absurd hzero hnext
    · rw [hgdev, pages_request]
      refine hI.setContext (Nat.le_add_right _ _) hroom fun b hb => ?_
      have hok := hI.table _ hb
      refine ⟨hok.created, hok.cpuPtr_eq, hok.numEntries_eq, ?_⟩
      have hle := hok.vpages_le
      simp only at hle ⊢
      omega

end TableState

namespace IoctlState

variable {s : IoctlState}

def KeepsManager (s : IoctlState) (o : Option (Except IoctlError Reply × IoctlState)) : Prop :=
  Ensures (fun _ s' => s'.world.mgr.gdev = s.world.mgr.gdev) o

theorem keepsManager_wait (arg : Option UInt32) (outcome : WaitOutcome) :
    s.KeepsManager (s.wait arg outcome) :=
  ensures_elim (ensures_fail rfl) fun _ _ =>
    ensures_elim (ensures_fail rfl) fun _ _ =>
      ensures_ite (ensures_fail rfl) (ensures_reply (fun _ => rfl) fun _ => rfl)

theorem keepsManager_writeBuf (arg : Option XferRequest) (user : ByteMem) (copied : ℕ) :
    s.KeepsManager (s.writeBuf arg user copied) :=
  ensures_elim (ensures_fail rfl) fun _ _ =>
    ensures_elim (ensures_fail rfl) fun _ _ =>
      ensures_ite (ensures_fail rfl) <| ensures_bind fun _ _ =>
        ensures_ite (ensures_fail rfl) <| ensures_bind fun _ hw =>
          ensures_reply (fun _ => gdev_of_dma hw) fun _ => gdev_of_dma hw

theorem keepsManager_readBuf (arg : Option XferRequest) (copied : Bool) :
    s.KeepsManager (s.readBuf arg copied) :=
  ensures_elim (ensures_fail rfl) fun _ _ =>
    ensures_elim (ensures_fail rfl) fun _ _ =>
      ensures_ite (ensures_fail rfl) <| ensures_bind fun _ hw => ensures_bind fun _ _ =>
        ensures_reply (fun _ => gdev_of_dma hw) fun _ => gdev_of_dma hw

theorem keepsManager_free (arg : Option (UInt64 × UInt32)) : s.KeepsManager (s.free arg) :=
  ensures_elim (ensures_fail rfl) fun _ _ => ensures_bind fun _ _ =>
    ensures_reply (fun _ => rfl) fun _ => rfl

theorem keepsManager_getVa (arg : Option ℕ) (copied : Bool) :
    s.KeepsManager (s.getVa arg copied) :=
  ensures_elim (ensures_fail rfl) fun _ _ =>
    ensures_elim (ensures_fail rfl) fun _ _ => ensures_reply (fun _ => rfl) fun _ => rfl

theorem keepsManager_submit (arg : Option KernelJob) (entry : Option ℕ) (copied : Bool) :
    s.KeepsManager (s.submit arg entry copied) := by
  refine ensures_elim (ensures_fail rfl) fun job _ => ?_
  obtain ⟨d, hd⟩ := s.exists_programJob job
  rw [hd, Option.bind_some]
  refine ensures_elim (ensures_fail rfl) fun _ _ =>
    ensures_ite (ensures_fail rfl) (ensures_bind fun w hw => ?_)
  have hgdev := gdev_of_writeRegs hw
  exact ensures_reply (fun _ => hgdev) fun _ => hgdev

end IoctlState

namespace TableState

variable {s s' : TableState} {tables : List (Fin 16 × ℕ)}

theorem ensures_reqBuf {io : IoctlState} (hI : Inv io.world.mgr.gdev tables)
    (arg : Option BufRequest) (kzalloc : Bool) (block : Option ℕ) (copied : Bool) :
    IoctlState.Ensures (fun _ io' => Inv io'.world.mgr.gdev tables)
      (io.reqBuf arg kzalloc block copied) := by
  refine IoctlState.ensures_elim (IoctlState.ensures_fail hI) fun q _ =>
    IoctlState.ensures_ite (IoctlState.ensures_fail hI) <|
    IoctlState.ensures_ite (IoctlState.ensures_fail hI) <|
    IoctlState.ensures_bind fun r hr => ?_
  have hI' : Inv r.1.mgr.gdev tables := hI.gpuAlloc (w := r.1) (o := r.2) hr
  exact IoctlState.ensures_elim (IoctlState.ensures_fail hI') fun _ _ =>
    IoctlState.ensures_reply (fun _ => hI') fun _ => hI'

/-- **Every call keeps the invariant.** -/
theorem Inv.step (hI : Inv s.gdev s.tables) {c : IoctlCall} (h : s.step c = some s') :
    Inv s'.gdev s'.tables := by
  obtain ⟨⟨r, io⟩, hio, rfl⟩ := Option.map_eq_some_iff.1 h
  have hkeep : s.io.newTable c = [] → s.io.KeepsManager (s.io.ioctl c) →
      Inv io.world.mgr.gdev (s.io.newTable c ++ s.tables) := by
    intro hnil hkeeps
    rw [hnil, hkeeps r io hio]
    exact hI
  cases c with
  | reqBuf arg kzalloc block copied => exact ensures_reqBuf hI arg kzalloc block copied r io hio
  | ctxCreate arg block copied =>
      cases arg with
      | none =>
          obtain ⟨_, rfl⟩ := Prod.mk.inj (Option.some.inj hio)
          exact hI
      | some ctxID =>
          obtain ⟨_, rfl⟩ := Prod.mk.inj (Option.some.inj hio)
          exact hI.createContext block
  | wait arg outcome => exact hkeep rfl (IoctlState.keepsManager_wait arg outcome)
  | writeBuf arg user copied => exact hkeep rfl (IoctlState.keepsManager_writeBuf arg user copied)
  | readBuf arg copied => exact hkeep rfl (IoctlState.keepsManager_readBuf arg copied)
  | getInfo pci copied =>
      exact hkeep rfl (IoctlState.ensures_reply (fun _ => rfl) fun _ => rfl)
  | ctxDestroy => exact hkeep rfl (IoctlState.ensures_reply (fun _ => rfl) fun _ => rfl)
  | free arg => exact hkeep rfl (IoctlState.keepsManager_free arg)
  | getVa arg copied => exact hkeep rfl (IoctlState.keepsManager_getVa arg copied)
  | submit arg entry copied => exact hkeep rfl (IoctlState.keepsManager_submit arg entry copied)
  | other => exact hkeep rfl (IoctlState.ensures_fail rfl)

theorem inv_of_run {host : ByteMem} {dev : Gpgpu} {cs : List IoctlCall}
    (h : Machine.run step (start host dev) cs = some s) : Inv s.gdev s.tables :=
  Machine.Reachable.invariant (I := fun s => Inv s.gdev s.tables) ⟨cs, h⟩ (inv_start host dev)
    fun _ _ _ hI hstep => hI.step hstep

/-- The entries for a request of a live context lie in its table. -/
theorem Inv.stores_mem {g : Manager} (hI : Inv g tables) {i : Fin 16} {b : ℕ}
    (hb : (i, b) ∈ tables) (size : UInt32) :
    ∀ x ∈ g.allocStores i size.toNat, x.1 = some b ∧ x.2 < (g.ctx i).pt.numEntries := by
  have hok := hI.table _ hb
  intro x hx
  rw [Manager.allocStores, pages_request] at hx
  obtain hr | ⟨hroom, hnext, hr⟩ := hI.ddrAlloc_request size
  · rw [hr, if_pos rfl] at hx
    cases hx
  · rw [hr, if_neg hnext] at hx
    obtain ⟨e, he, rfl⟩ := List.mem_map.1 hx
    obtain ⟨k, hk, rfl⟩ := List.mem_map.1 he
    rw [List.mem_range] at hk
    refine ⟨hok.cpuPtr_eq, ?_⟩
    -- all pages of the context fit into the window, so their entries fit into its table
    have hle := hok.vpages_le
    rw [hok.numEntries_eq, DdrWindow.frames]
    simp only at hle ⊢
    omega

/-- Without room in the DDR a request is refused. -/
theorem Inv.refused (hI : Inv s.gdev s.tables) {q : BufRequest} (hne : q.ctxID ≠ 0)
    (hle : q.ctxID.toNat ≤ 16)
    (hzero : (s.gdev.ddrAlloc (pageAlign 64 q.size.toNat)).1 = 0) (block : Option ℕ)
    (copied : Bool) : ∃ e io, s.io.ioctl (.reqBuf (some q) true block copied) =
      some (.error e, io) ∧ s.io.NoTrace io := by
  have hpos : 0 < q.ctxID.toNat := by
    by_contra h
    exact hne (UInt32.toNat_inj.1 (by rw [Nat.eq_zero_of_not_pos h]; rfl))
  obtain ⟨w, hw⟩ := IoctlState.gpuAlloc_of_no_room (s := s.io)
    (ctxIndex_eq_some_iff.2 (show q.ctxID.toNat = ((⟨q.ctxID.toNat - 1, by omega⟩ : Fin 16) : ℕ) + 1
      by simp only; omega)) hzero block
  refine ⟨.enomem, s.io.releaseBlock w, ?_, ?_⟩
  · rw [IoctlState.ioctl, IoctlState.reqBuf, Option.elim_some, if_neg hne, if_neg (by decide), hw]
    rfl
  · obtain ⟨_, _, ⟨_, _, hgdev⟩ | ⟨hsome, _⟩⟩ := IoctlState.gpuAlloc_cases hw
    · have hsame : (s.gdev.ddrAlloc (pageAlign 64 q.size.toNat)).2 = s.gdev := by
        obtain hr | ⟨_, hnext, hr⟩ := hI.ddrAlloc_request q.size
        · rw [hr]
        · rw [hr] at hzero
          exact absurd hzero hnext
      have hgdev' : w.mgr.gdev = s.gdev := hgdev.trans hsame
      exact ⟨rfl, rfl, rfl, congrArg Manager.ddrNext hgdev', congrArg Manager.ctx hgdev'⟩
    · exact absurd rfl hsome

/-- A request that gets a buffer for a context without a table leaves a trace. -/
theorem TouchesLive.guarded {arg : Option BufRequest} {kzalloc copied : Bool} {block : Option ℕ}
    (h : s.TouchesLive arg kzalloc block copied) : s.Guarded arg kzalloc := by
  rintro q rfl hne rfl
  have hindex := h.index q rfl hne rfl
  refine ⟨by omega, ?_⟩
  by_contra hnot
  rw [not_or] at hnot
  obtain ⟨e, io, hio, hkeeps⟩ := h.refused q rfl hnot.1
  rw [IoctlState.ioctl, IoctlState.reqBuf, Option.elim_some, if_neg hne,
    if_neg (by decide)] at hio
  obtain ⟨⟨w, o⟩, hw, hio⟩ := Option.bind_eq_some_iff.1 hio
  cases o with
  | none =>
      obtain ⟨_, _, ⟨_, hzero, _⟩ | ⟨hsome, _⟩⟩ := IoctlState.gpuAlloc_cases hw
      · exact hnot.2 hzero
      · exact absurd rfl hsome
  | some a =>
      obtain ⟨_, rfl⟩ := Prod.mk.inj (Option.some.inj hio)
      exact IoctlState.not_noTrace_addBuffer w q block a hkeeps

/-- A guarded request for a context without a table is refused. -/
theorem Inv.refused_of_dead (hI : Inv s.gdev s.tables) {q : BufRequest} {kzalloc : Bool}
    (h : s.Guarded (some q) kzalloc) (hdead : ¬ s.Live q.ctxID) (block : Option ℕ)
    (copied : Bool) : ∃ e io, s.io.ioctl (.reqBuf (some q) kzalloc block copied) =
      some (.error e, io) ∧ s.io.NoTrace io := by
  by_cases hne : q.ctxID = 0
  · refine ⟨.einval, s.io, ?_, .refl _⟩
    rw [IoctlState.ioctl, IoctlState.reqBuf, Option.elim_some, if_pos hne]
    rfl
  · cases kzalloc with
    | false =>
        refine ⟨.enomem, s.io, ?_, .refl _⟩
        rw [IoctlState.ioctl, IoctlState.reqBuf, Option.elim_some, if_neg hne, if_pos rfl]
        rfl
    | true =>
        obtain ⟨hle, hlive | hzero⟩ := h q rfl hne rfl
        · exact absurd hlive hdead
        · exact hI.refused hne hle hzero block copied

end TableState

/-- **When a request for a buffer touches live contexts only**, in every state that calls of the
user lead to, those that fail included. -/
theorem reqBuf_touchesLive_iff (host : ByteMem) (dev : Gpgpu) {cs : List IoctlCall}
    {s : TableState} (hrun : Machine.run TableState.step (.start host dev) cs = some s)
    (arg : Option BufRequest) (kzalloc : Bool) (block : Option ℕ) (copied : Bool) :
    s.TouchesLive arg kzalloc block copied ↔ s.Guarded arg kzalloc := by
  have hI := TableState.inv_of_run hrun
  refine ⟨fun h => h.guarded, fun h => ⟨fun q hq hne hk => ?_, fun q hq hne hk i hi x hx => ?_,
    fun q hq hdead => ?_⟩⟩
  · have := (h q hq hne hk).1
    omega
  · obtain ⟨_, ⟨j, b, hj, hb⟩ | hzero⟩ := h q hq hne hk
    · obtain rfl := Option.some.inj (hi.symm.trans hj)
      obtain ⟨hptr, hlt⟩ := hI.stores_mem hb q.size x hx
      exact ⟨b, hb, hptr, hlt⟩
    · rw [Manager.allocStores, if_pos hzero] at hx
      cases hx
  · obtain rfl := hq
    exact hI.refused_of_dead h hdead block copied

/-- A request for a context that was created. -/
theorem reqBuf_touchesLive_created : ∃ s,
    Machine.run TableState.step (.start (fun _ => 0) { mem := fun _ => 0 })
      [.ctxCreate (some 0) (some 0x100000) true] = some s ∧
    s.tables = [(0, 0x100000)] ∧
    s.TouchesLive (some { size := 4096, ctxID := 1 }) true (some 0x200000) true := by
  refine ⟨_, rfl, by decide +kernel, ?_⟩
  have hrun : Machine.run TableState.step (.start (fun _ => 0) { mem := fun _ => 0 })
      [.ctxCreate (some 0) (some 0x100000) true] = some _ := rfl
  refine (reqBuf_touchesLive_iff (fun _ => 0) { mem := fun _ => 0 } hrun _ _ _ _).2 ?_
  rintro q ⟨⟩ _ _
  exact ⟨by decide, .inl ⟨0, 0x100000, by decide, by decide +kernel⟩⟩

/-- **Requests that are not refused**: a context outside of the array, whose entry is read behind
the end of it; and a context whose creation has failed although the user was told otherwise, for
which the driver stores through a null pointer. -/
theorem reqBuf_touches_dead :
    ¬ (TableState.start (fun _ => 0) { mem := fun _ => 0 }).TouchesLive
        (some { size := 4096, ctxID := 17 }) true (some 0x200000) true ∧
    ∃ s, Machine.run TableState.step (.start (fun _ => 0) { mem := fun _ => 0 })
        [.ctxCreate (some 0) none true] = some s ∧
      s.tables = [] ∧ s.gdev.allocStores 0 4096 = [(none, 0)] ∧
      ¬ s.TouchesLive (some { size := 4096, ctxID := 1 }) true (some 0x200000) true := by
  constructor
  · intro h
    have := h.index _ rfl (by decide) rfl
    revert this
    decide
  · refine ⟨_, rfl, by decide +kernel, by decide +kernel, fun h => ?_⟩
    obtain ⟨b, hb, _⟩ := h.stores _ rfl (by decide) rfl 0 (by decide) (none, 0) (by decide +kernel)
    revert hb
    exact List.not_mem_nil

end Gpu

end Dvf
