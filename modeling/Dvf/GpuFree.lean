/-
**Freeing all or nothing** (`gpu_free` in `src/gpgpu_memory_manager.c`).

`gpu_free` goes through the pages of a range and clears their entries one after the other.  On the
way it checks that each page is in the table and that its entry is valid; when a check fails it
returns an error and leaves the entries that it has cleared so far cleared.  The number of pages is
rounded up in 32 bits, so that a size just below 4 GiB has none.

Main definitions:

* `Dvf.Gpu.Manager.freeChecked` — `gpu_free`, where an access through a null table is not answered;
* `Dvf.Gpu.Manager.AllOrNothing` — the range is invalidated, or nothing is;
* `Dvf.Gpu.Manager.FreesCleanly` — the condition on the table before the call;
* `Dvf.Gpu.FreeState` — the manager with the buffers that were not freed.

Main results:

* `Dvf.Gpu.Manager.freeLoop_eq` — what the loop does to the memory;
* `Dvf.Gpu.Manager.allOrNothing_iff` — when a call is all or nothing;
* `Dvf.Gpu.gpu_free_exact` — **the two together: a call is all or nothing exactly when it frees
  cleanly, and a buffer that was not freed can be freed as long as the calls are tidy**.
-/

import Dvf.GpuTranslation

set_option autoImplicit false

namespace Dvf

namespace Gpu

namespace Manager

/-! ### The source -/

/-- `gpu_free`: whether it returns zero, and the memory.  A page that is within the table of a null
pointer is not answered. -/
def freeChecked (g : Manager) (host : ByteMem) (va : UInt64) (size : UInt32) :
    Option (Bool × ByteMem) :=
  if ∃ i, ctxIndex (vaToCtx va.toNat) = some i ∧ (g.ctx i).pt.cpuPtr = none ∧ 0 < freePages size ∧
      vaToVpage va.toNat < (g.ctx i).pt.numEntries then none
  else some (g.free host va size)

/-! ### The property and the condition -/

/-- The context `i` has an entry for the page `v`. -/
def HasEntry (g : Manager) (i : Fin 16) (v : ℕ) : Prop :=
  (g.ctx i).pt.cpuPtr ≠ none ∧ v < (g.ctx i).pt.numEntries

instance (g : Manager) (i : Fin 16) (v : ℕ) : Decidable (g.HasEntry i v) :=
  inferInstanceAs (Decidable (_ ∧ _))

/-- The entry of a page in the table of a context. -/
def entryAt (g : Manager) (host : ByteMem) (i : Fin 16) (v : ℕ) : ℕ :=
  host.load ((g.ctx i).pt.cpuPtr.getD 0 + 8 * v) 8

/-- The page `v` holds a byte of the range from `va` on, whose size is rounded up to pages. -/
def Touches (va : UInt64) (size : UInt32) (v : ℕ) : Prop :=
  ∃ b < 4096 * pagesOf size.toNat, v = vaToVpage va.toNat + (va.toNat % 4096 + b) / 4096

/-- A call returns zero and the entries of the range, and no others, become invalid; or it returns
an error and no entry of any context is changed. -/
def AllOrNothing (g : Manager) (host : ByteMem) (va : UInt64) (size : UInt32) : Prop :=
  ∃ r, g.freeChecked host va size = some r ∧
    ((r.1 = false ∧ ∀ j v, g.HasEntry j v → g.entryAt r.2 j v = g.entryAt host j v) ∨
      (r.1 = true ∧ ∃ i, ctxIndex (vaToCtx va.toNat) = some i ∧
        (∀ v, Touches va size v → g.HasEntry i v ∧ g.entryAt r.2 i v &&& 1 = 0) ∧
        ∀ j v, g.HasEntry j v → ¬ (j = i ∧ Touches va size v) →
          g.entryAt r.2 j v = g.entryAt host j v))

/-- The first page of the range has no valid entry, so that the loop stops there. -/
def StopsAtOnce (g : Manager) (host : ByteMem) (va : UInt64) (size : UInt32) (i : Fin 16) : Prop :=
  0 < freePages size ∧ ((g.ctx i).pt.numEntries ≤ vaToVpage va.toNat ∨
    (g.HasEntry i (vaToVpage va.toNat) ∧ g.entryAt host i (vaToVpage va.toNat) &&& 1 = 0))

/-- Every page of the range has an entry; it is valid for those that the loop visits and invalid for
the others; and no other table has an entry at the place of one that the loop visits. -/
structure GoesThrough (g : Manager) (host : ByteMem) (va : UInt64) (size : UInt32) (i : Fin 16) :
    Prop where
  entry : ∀ v, Touches va size v → g.HasEntry i v
  visited : ∀ v, vaToVpage va.toNat ≤ v → v < vaToVpage va.toNat + freePages size →
    g.entryAt host i v &&& 1 ≠ 0
  skipped : ∀ v, Touches va size v → vaToVpage va.toNat + freePages size ≤ v →
    g.entryAt host i v &&& 1 = 0
  alone : ∀ j v, j ≠ i → g.HasEntry j v → ∀ v', vaToVpage va.toNat ≤ v' →
    v' < vaToVpage va.toNat + freePages size →
      (g.ctx j).pt.cpuPtr.getD 0 + 8 * v ≠ (g.ctx i).pt.cpuPtr.getD 0 + 8 * v'

/-- The condition: the address names no context, or the loop stops at the first page, or it goes
through all pages of the range. -/
def FreesCleanly (g : Manager) (host : ByteMem) (va : UInt64) (size : UInt32) : Prop :=
  ctxIndex (vaToCtx va.toNat) = none ∨ ∃ i, ctxIndex (vaToCtx va.toNat) = some i ∧
    (g.StopsAtOnce host va size i ∨ g.GoesThrough host va size i)

/-- The tables lie at addresses that are aligned as their entries are. -/
def TablesAligned (g : Manager) : Prop := ∀ i p, (g.ctx i).pt.cpuPtr = some p → 8 ∣ p

/-! ### The loop -/

/-- **What the loop does**: it clears the entries of `k` pages, which were all valid; it goes
through exactly when these are all, and otherwise the next page is not in the table or not valid.
-/
theorem freeLoop_eq (p n pages : ℕ) : ∀ (v : ℕ) (host : ByteMem), ∃ k ≤ pages,
    (freeLoop p n pages v host).2 = host.zero (p + 8 * v) (8 * k) ∧
    (∀ x, v ≤ x → x < v + k → x < n ∧ host.load (p + 8 * x) 8 &&& 1 ≠ 0) ∧
    ((freeLoop p n pages v host).1 = true ↔ k = pages) ∧
    (k < pages → n ≤ v + k ∨ host.load (p + 8 * (v + k)) 8 &&& 1 = 0) := by
  -- induction on the pages that are left; one round clears the entry of `v`
  induction pages with
  | zero =>
      intro v host
      exact ⟨0, le_rfl, by simp [freeLoop, ByteMem.zero], fun x h₁ h₂ => by omega,
        by simp [freeLoop], fun h => absurd h (Nat.lt_irrefl 0)⟩
  | succ pages ih =>
      intro v host
      rw [freeLoop]
      by_cases hv : n ≤ v
      · rw [if_pos hv]
        exact ⟨0, by omega, by simp [ByteMem.zero], fun x h₁ h₂ => by omega, by simp,
          fun _ => .inl hv⟩
      · rw [if_neg hv]
        by_cases hvalid : host.load (p + 8 * v) 8 &&& 1 = 0
        · rw [if_pos hvalid]
          exact ⟨0, by omega, by simp [ByteMem.zero], fun x h₁ h₂ => by omega, by simp,
            fun _ => .inr hvalid⟩
        · rw [if_neg hvalid]
          obtain ⟨k, hk, hmem, hall, htrue, hstop⟩ := ih (v + 1) (host.store (p + 8 * v) 8 0)
          -- a later entry is not touched by this round
          have hlater : ∀ x, v + 1 ≤ x →
              (host.store (p + 8 * v) 8 0).load (p + 8 * x) 8 = host.load (p + 8 * x) 8 := by
            intro x hx
            exact ByteMem.load_store_of_apart (.inl (by omega)) 0
          refine ⟨k + 1, by omega, ?_, fun x h₁ h₂ => ?_, ?_, fun h => ?_⟩
          · rw [hmem, show p + 8 * (v + 1) = p + 8 * v + 8 by omega,
              show 8 * (k + 1) = 8 + 8 * k by omega, ByteMem.zero_store]
          · by_cases hx : x = v
            · subst hx
              exact ⟨by omega, hvalid⟩
            · have := hall x (by omega) (by omega)
              rwa [hlater x (by omega)] at this
          · rw [htrue]
            omega
          · have := hstop (by omega)
            rwa [hlater _ (by omega), Nat.add_right_comm v 1 k, Nat.add_assoc v k 1] at this

/-! ### When a call is all or nothing -/

variable {g : Manager} {host : ByteMem} {va : UInt64} {size : UInt32} {i : Fin 16} {v k : ℕ}

theorem freePages_le (size : UInt32) : freePages size ≤ pagesOf size.toNat := by
  have hle : (size.toNat + 4095) % 2 ^ 32 ≤ size.toNat + 4095 := Nat.mod_le _ _
  rw [freePages, pageAlign_eq, Nat.mul_div_cancel_left _ (by norm_num), pagesOf]
  exact Nat.div_le_div_right hle

theorem touches_of_visited (h₁ : vaToVpage va.toNat ≤ v)
    (h₂ : v < vaToVpage va.toNat + freePages size) : Touches va size v := by
  have hle := freePages_le size
  refine ⟨4096 * (v - vaToVpage va.toNat), by omega, ?_⟩
  rw [Nat.add_mul_div_left _ _ (by norm_num), Nat.div_eq_of_lt (Nat.mod_lt _ (by norm_num))]
  omega

theorem le_of_touches (h : Touches va size v) : vaToVpage va.toNat ≤ v := by
  obtain ⟨b, _, rfl⟩ := h
  exact Nat.le_add_right _ _

/-- The memory after `k` entries of a table from the first page of the range on were cleared. -/
def cleared (g : Manager) (host : ByteMem) (va : UInt64) (i : Fin 16) (k : ℕ) : ByteMem :=
  host.zero ((g.ctx i).pt.cpuPtr.getD 0 + 8 * vaToVpage va.toNat) (8 * k)

@[simp] theorem cleared_zero : g.cleared host va i 0 = host := by
  rw [cleared, Nat.mul_zero, ByteMem.zero, ByteMem.copy_zero_length]

theorem entryAt_cleared_of_mem (h₁ : vaToVpage va.toNat ≤ v) (h₂ : v < vaToVpage va.toNat + k) :
    g.entryAt (g.cleared host va i k) i v = 0 :=
  ByteMem.load_zero (by omega) (by omega)

theorem entryAt_cleared_of_not_mem (h : ¬ (vaToVpage va.toNat ≤ v ∧ v < vaToVpage va.toNat + k)) :
    g.entryAt (g.cleared host va i k) i v = g.entryAt host i v := by
  refine ByteMem.load_zero_of_apart ?_
  unfold ByteMem.Apart
  omega

/-- In another table an entry is cleared exactly when it lies at the place of a cleared one. -/
theorem entryAt_cleared_other (haligned : g.TablesAligned) {j : Fin 16} (hj : g.HasEntry j v)
    (hi : (g.ctx i).pt.cpuPtr ≠ none)
    (halone : ∀ v', vaToVpage va.toNat ≤ v' → v' < vaToVpage va.toNat + k →
      (g.ctx j).pt.cpuPtr.getD 0 + 8 * v ≠ (g.ctx i).pt.cpuPtr.getD 0 + 8 * v') :
    g.entryAt (g.cleared host va i k) j v = g.entryAt host j v := by
  obtain ⟨p, hp⟩ := Option.ne_none_iff_exists'.1 hi
  obtain ⟨q, hq⟩ := Option.ne_none_iff_exists'.1 hj.1
  have hp8 := haligned i p hp
  have hq8 := haligned j q hq
  rw [hp, hq] at halone
  unfold entryAt cleared
  rw [hp, hq]
  refine ByteMem.load_zero_of_apart ?_
  simp only [Option.getD_some] at halone ⊢
  unfold ByteMem.Apart
  -- an overlap would be one of whole entries, since both tables are aligned
  by_contra hover
  have := halone ((q + 8 * v - p) / 8) (by omega) (by omega)
  omega

/-- A table that the loop reads is not null. -/
def NullUnused (g : Manager) (va : UInt64) (size : UInt32) (i : Fin 16) : Prop :=
  (g.ctx i).pt.cpuPtr = none → 0 < freePages size → (g.ctx i).pt.numEntries ≤ vaToVpage va.toNat

/-- The loop clears the entries of `k` pages: these are valid, and if there are more pages, the next
one is not in the table or not valid. -/
structure Clears (g : Manager) (host : ByteMem) (va : UInt64) (size : UInt32) (i : Fin 16)
    (k : ℕ) : Prop where
  le : k ≤ freePages size
  valid : ∀ v, vaToVpage va.toNat ≤ v → v < vaToVpage va.toNat + k →
    v < (g.ctx i).pt.numEntries ∧ g.entryAt host i v &&& 1 ≠ 0
  stop : k < freePages size → (g.ctx i).pt.numEntries ≤ vaToVpage va.toNat + k ∨
    g.entryAt host i (vaToVpage va.toNat + k) &&& 1 = 0

/-- `gpu_free` on a context of the array. -/
theorem freeChecked_eq (host : ByteMem) (hi : ctxIndex (vaToCtx va.toNat) = some i)
    (hnull : g.NullUnused va size i) : ∃ k, g.Clears host va size i k ∧
    g.freeChecked host va size = some (decide (k = freePages size), g.cleared host va i k) := by
  obtain ⟨k, hk, hmem, hall, htrue, hstop⟩ := freeLoop_eq ((g.ctx i).pt.cpuPtr.getD 0)
    (g.ctx i).pt.numEntries (freePages size) (vaToVpage va.toNat) host
  refine ⟨k, ⟨hk, hall, hstop⟩, ?_⟩
  have hanswer : ¬ ∃ i, ctxIndex (vaToCtx va.toNat) = some i ∧ (g.ctx i).pt.cpuPtr = none ∧
      0 < freePages size ∧ vaToVpage va.toNat < (g.ctx i).pt.numEntries := by
    rintro ⟨j, hj, hnone, hpos, hlt⟩
    obtain rfl := Option.some.inj (hi.symm.trans hj)
    have := hnull hnone hpos
    omega
  have hfree : g.free host va size = freeLoop ((g.ctx i).pt.cpuPtr.getD 0)
      (g.ctx i).pt.numEntries (freePages size) (vaToVpage va.toNat) host := by
    unfold free
    rw [hi]
  rw [freeChecked, if_neg hanswer, hfree]
  refine congrArg some (Prod.ext ?_ hmem)
  rw [Bool.eq_iff_iff, htrue, decide_eq_true_eq]

theorem freeChecked_of_none (hi : ctxIndex (vaToCtx va.toNat) = none) :
    g.freeChecked host va size = some (false, host) := by
  have hanswer : ¬ ∃ i, ctxIndex (vaToCtx va.toNat) = some i ∧ (g.ctx i).pt.cpuPtr = none ∧
      0 < freePages size ∧ vaToVpage va.toNat < (g.ctx i).pt.numEntries := by
    rintro ⟨j, hj, _⟩
    cases hi.symm.trans hj
  rw [freeChecked, if_neg hanswer, free, hi]

theorem nullUnused_of_freeChecked {r : Bool × ByteMem} (h : g.freeChecked host va size = some r)
    (hi : ctxIndex (vaToCtx va.toNat) = some i) : g.NullUnused va size i := by
  intro hnone hpos
  by_contra hlt
  rw [freeChecked, if_pos ⟨i, hi, hnone, hpos, by omega⟩] at h
  cases h

theorem Clears.hasEntry (hclears : g.Clears host va size i k) (hnull : g.NullUnused va size i)
    (h₁ : vaToVpage va.toNat ≤ v) (h₂ : v < vaToVpage va.toNat + k) : g.HasEntry i v := by
  have hin := (hclears.valid v h₁ h₂).1
  have hle := hclears.le
  refine ⟨fun hnone => ?_, hin⟩
  have := hnull hnone (by omega)
  omega

/-- A call that fails and changes nothing has stopped at the first page. -/
theorem Clears.stopsAtOnce (hclears : g.Clears host va size i k) (hnull : g.NullUnused va size i)
    (hfailed : k ≠ freePages size)
    (hsame : ∀ v, g.HasEntry i v → g.entryAt (g.cleared host va i k) i v = g.entryAt host i v) :
    g.StopsAtOnce host va size i := by
  have hlt : k < freePages size := lt_of_le_of_ne hclears.le hfailed
  have hzero : k = 0 := by
    by_contra hpos
    have h := hsame _ (hclears.hasEntry hnull le_rfl (by omega))
    rw [entryAt_cleared_of_mem le_rfl (by omega)] at h
    exact (hclears.valid _ le_rfl (by omega)).2 (by rw [← h]; rfl)
  subst hzero
  refine ⟨by omega, ?_⟩
  by_cases hin : (g.ctx i).pt.numEntries ≤ vaToVpage va.toNat
  · exact .inl hin
  · obtain hout | hinvalid := hclears.stop hlt
    · exact absurd hout hin
    · exact .inr ⟨⟨fun hnone => hin (hnull hnone (by omega)), by omega⟩, hinvalid⟩

/-- A call that clears the range and nothing else has gone through it. -/
theorem Clears.goesThrough (hclears : g.Clears host va size i (freePages size))
    (htouched : ∀ v, Touches va size v → g.HasEntry i v ∧
      g.entryAt (g.cleared host va i (freePages size)) i v &&& 1 = 0)
    (hsame : ∀ j v, g.HasEntry j v → ¬ (j = i ∧ Touches va size v) →
      g.entryAt (g.cleared host va i (freePages size)) j v = g.entryAt host j v) :
    g.GoesThrough host va size i := by
  refine ⟨fun v hv => (htouched v hv).1, fun v h₁ h₂ => (hclears.valid v h₁ h₂).2, ?_, ?_⟩
  · intro v hv hskip
    have h := (htouched v hv).2
    rwa [entryAt_cleared_of_not_mem (by omega)] at h
  · intro j v hne hv v' h₁ h₂ haddr
    -- the entry of the other table would be cleared as well
    have hother := hsame j v hv fun h => hne h.1
    have hsameAddr : ∀ m : ByteMem, g.entryAt m j v = g.entryAt m i v' := by
      intro m
      unfold entryAt
      rw [haddr]
    rw [hsameAddr, hsameAddr, entryAt_cleared_of_mem h₁ h₂] at hother
    exact (hclears.valid v' h₁ h₂).2 (by rw [← hother]; rfl)

/-- A call that stops at the first page changes nothing. -/
theorem allOrNothing_of_stopsAtOnce (hi : ctxIndex (vaToCtx va.toNat) = some i)
    (h : g.StopsAtOnce host va size i) : g.AllOrNothing host va size := by
  obtain ⟨hpos, hfirst⟩ := h
  have hnull : g.NullUnused va size i := by
    intro hnone _
    obtain hout | ⟨hentry, _⟩ := hfirst
    · exact hout
    · exact absurd hnone hentry.1
  obtain ⟨k, hclears, heq⟩ := freeChecked_eq host hi hnull
  have hzero : k = 0 := by
    by_contra hne
    obtain ⟨hin, hvalid⟩ := hclears.valid _ le_rfl (by omega)
    obtain hout | ⟨_, hinvalid⟩ := hfirst
    · omega
    · exact hvalid hinvalid
  subst hzero
  refine ⟨_, heq, .inl ⟨decide_eq_false (by omega), fun j v _ => ?_⟩⟩
  rw [cleared_zero]

theorem GoesThrough.clears (hthrough : g.GoesThrough host va size i)
    (hclears : g.Clears host va size i k) : k = freePages size := by
  by_contra hne
  have hlt : k < freePages size := lt_of_le_of_ne hclears.le hne
  have htouch : Touches va size (vaToVpage va.toNat + k) :=
    touches_of_visited (Nat.le_add_right _ _) (by omega)
  obtain hout | hinvalid := hclears.stop hlt
  · have := (hthrough.entry _ htouch).2
    omega
  · exact hthrough.visited _ (Nat.le_add_right _ _) (by omega) hinvalid

/-- A call that goes through the range clears it and nothing else. -/
theorem allOrNothing_of_goesThrough (haligned : g.TablesAligned)
    (hi : ctxIndex (vaToCtx va.toNat) = some i) (hthrough : g.GoesThrough host va size i) :
    g.AllOrNothing host va size := by
  have hnull : g.NullUnused va size i := fun hnone hpos =>
    absurd hnone (hthrough.entry _ (touches_of_visited le_rfl (by omega))).1
  obtain ⟨k, hclears, heq⟩ := freeChecked_eq host hi hnull
  obtain rfl := hthrough.clears hclears
  refine ⟨_, heq, .inr ⟨decide_eq_true rfl, i, hi, fun v hv => ?_, fun j v hv hno => ?_⟩⟩
  · refine ⟨hthrough.entry v hv, ?_⟩
    by_cases hvisit : v < vaToVpage va.toNat + freePages size
    · rw [entryAt_cleared_of_mem (le_of_touches hv) hvisit]
      rfl
    · rw [entryAt_cleared_of_not_mem (by omega)]
      exact hthrough.skipped v hv (by omega)
  · by_cases hji : j = i
    · subst hji
      refine entryAt_cleared_of_not_mem fun hvisit => hno ⟨rfl, ?_⟩
      exact touches_of_visited hvisit.1 hvisit.2
    · by_cases hpos : 0 < freePages size
      · have hentry := hthrough.entry _ (touches_of_visited le_rfl (Nat.lt_add_of_pos_right hpos))
        exact entryAt_cleared_other haligned hv hentry.1 (hthrough.alone j v hji hv)
      · rw [Nat.eq_zero_of_not_pos hpos, cleared_zero]

/-- **A call is all or nothing exactly when it frees cleanly.** -/
theorem allOrNothing_iff (haligned : g.TablesAligned) :
    g.AllOrNothing host va size ↔ g.FreesCleanly host va size := by
  cases hi : ctxIndex (vaToCtx va.toNat) with
  | none =>
      exact iff_of_true ⟨_, freeChecked_of_none hi, .inl ⟨rfl, fun _ _ _ => rfl⟩⟩ (.inl hi)
  | some i =>
      constructor
      · rintro ⟨r, hr, hcases⟩
        have hnull := nullUnused_of_freeChecked hr hi
        obtain ⟨k, hclears, heq⟩ := freeChecked_eq host hi hnull
        obtain rfl := Option.some.inj (hr.symm.trans heq)
        refine .inr ⟨i, hi, ?_⟩
        obtain ⟨hfalse, hsame⟩ | ⟨htrue, j, hj, htouched, hsame⟩ := hcases
        · exact .inl (hclears.stopsAtOnce hnull (of_decide_eq_false hfalse) (hsame i))
        · obtain rfl := Option.some.inj (hi.symm.trans hj)
          obtain rfl : k = freePages size := of_decide_eq_true htrue
          exact .inr (hclears.goesThrough htouched hsame)
      · rintro (hnone | ⟨j, hj, hclean⟩)
        · cases hi.symm.trans hnone
        · obtain rfl := Option.some.inj (hi.symm.trans hj)
          obtain hstops | hthrough := hclean
          · exact allOrNothing_of_stopsAtOnce hi hstops
          · exact allOrNothing_of_goesThrough haligned hi hthrough

theorem eq_free_of_freeChecked_eq_some {r : Bool × ByteMem}
    (h : g.freeChecked host va size = some r) : g.free host va size = r :=
  Option.some.inj (Option.ite_none_left_eq_some.1 h).2

end Manager

/-! ### Buffers that were not freed -/

/-- The calls, with the block that `dma_alloc_coherent` returns for a page table, if any. -/
inductive FreeAct
  | ctxCreate (block : Option ℕ)
  | alloc (ctxID : ℕ) (size : UInt32)
  | free (va : UInt64) (size : UInt32)
  deriving DecidableEq, Repr

/-- The manager with the addresses and sizes that `gpu_alloc` has returned and that were not freed
since. -/
structure FreeState where
  mgr : ManagerState
  live : List (UInt64 × UInt32) := []

/-- The page `x` of the context with an id belongs to a buffer. -/
def HasPage (b : UInt64 × UInt32) (ctxID x : ℕ) : Prop :=
  vaToCtx b.1.toNat = ctxID ∧ vaToVpage b.1.toNat ≤ x ∧
    x < vaToVpage b.1.toNat + pagesOf b.2.toNat

def PagesApart (b b' : UInt64 × UInt32) : Prop := ∀ c x, HasPage b c x → ¬ HasPage b' c x

theorem PagesApart.symm {b b' : UInt64 × UInt32} (h : PagesApart b b') : PagesApart b' b :=
  fun c x h' hx => h c x hx h'

namespace FreeState

/-- The manager was initialised for a window. -/
def start (w : DdrWindow) (host : ByteMem) : FreeState where
  mgr := .start w.base w.size host

/-- One call with any outcome; it is not answered when it goes through a null pointer or uses a
context outside of the array. -/
def step (s : FreeState) : FreeAct → Option FreeState
  | .ctxCreate block =>
      if ∀ b ∈ block, Fresh s.mgr.blocks b (8 * (s.mgr.gdev.ddrSize / 4096)) then
        some { s with mgr := (s.mgr.createContext block).2 }
      else none
  | .alloc ctxID size =>
      (s.mgr.alloc ctxID size).map fun r =>
        { mgr := r.1
          live := r.2.elim s.live fun a => (UInt64.ofNat a.va, size) :: s.live }
  | .free va size =>
      (s.mgr.gdev.freeChecked s.mgr.host va size).map fun r =>
        { mgr := { s.mgr with host := r.2 }
          live := if r.1 then s.live.erase (va, size) else s.live }

/-- Tidy calls: a context is created unless there is no slot for it, a buffer is allocated in a
context that was created, and a range is freed only if it is a buffer that was not freed yet or has
no page of one. -/
def Tidy (s : FreeState) : FreeAct → Prop
  | .ctxCreate block => s.mgr.gdev.freeSlot = none ∨ ∃ i, (s.mgr.createContext block).1 = .ok i
  | .alloc ctxID _ => s.mgr.Created ctxID
  | .free va size => (va, size) ∈ s.live ∨ ∀ b ∈ s.live, PagesApart (va, size) b

variable {w : DdrWindow} {s s' : FreeState} {maps : Fin 16 → PageMap} {b : UInt64 × UInt32}

/-- A buffer that was not freed: its pages are pages of a created context, and they are mapped. -/
structure Owned (m : ManagerState) (maps : Fin 16 → PageMap) (b : UInt64 × UInt32) (i : Fin 16)
    (v : ℕ) : Prop where
  created : (m.gdev.ctx i).id ≠ 0
  addr : b.1.toNat = Manager.vaddr (i + 1) v
  used : v + pagesOf b.2.toNat ≤ (m.gdev.ctx i).vpageNext
  mapped : ∀ x, v ≤ x → x < v + pagesOf b.2.toNat → maps i x ≠ none

/-- **The invariant of tidy calls.** -/
structure Inv (w : DdrWindow) (s : FreeState) (maps : Fin 16 → PageMap) : Prop where
  mgr : ManagerState.Inv w s.mgr maps
  live : ∀ b ∈ s.live, ∃ i v, Owned s.mgr maps b i v
  apart : s.live.Pairwise PagesApart

theorem inv_start (w : DdrWindow) (host : ByteMem) : Inv w (start w host) fun _ _ => none :=
  ⟨ManagerState.inv_start w host, fun _ hb => absurd hb List.not_mem_nil, List.Pairwise.nil⟩

theorem Inv.addr_owned (hI : Inv w s maps) {i : Fin 16} {v : ℕ} (h : Owned s.mgr maps b i v) :
    vaToCtx b.1.toNat = i + 1 ∧ vaToVpage b.1.toNat = v := by
  have hvle := hI.mgr.vpageNext_le (hI.mgr.contextOk h.created)
  have hframes := w.frames_lt
  have hused := h.used
  rw [h.addr]
  exact ⟨vaToCtx_vaddr (by omega) (by omega), vaToVpage_vaddr (by omega) _⟩

/-- **A buffer that was not freed can be freed.** -/
theorem Inv.free_live (hI : Inv w s maps) {va : UInt64} {size : UInt32}
    (hb : (va, size) ∈ s.live) :
    ∃ host, s.mgr.gdev.freeChecked s.mgr.host va size = some (true, host) := by
  obtain ⟨i, v, hown⟩ := hI.live _ hb
  obtain ⟨hctx, hpage⟩ := hI.addr_owned hown
  have hc := hI.mgr.contextOk hown.created
  have hvle := hI.mgr.vpageNext_le hc
  have hi : ctxIndex (vaToCtx va.toNat) = some i := ctxIndex_eq_some_iff.2 hctx
  have hnull : s.mgr.gdev.NullUnused va size i := by
    intro hnone
    rw [hc.cpuPtr_eq] at hnone
    cases hnone
  obtain ⟨k, hclears, heq⟩ := Manager.freeChecked_eq s.mgr.host hi hnull
  have hall : k = freePages size := by
    by_contra hne
    have hle := Manager.freePages_le size
    have hused := hown.used
    have hlt : k < freePages size := lt_of_le_of_ne hclears.le hne
    have hin : v + k < w.frames := by
      simp only at hused
      omega
    -- the next page of the buffer is mapped, so its entry is valid
    obtain ⟨p, hp⟩ := Option.ne_none_iff_exists'.1
      (hown.mapped (v + k) (by omega) (by simp only; omega))
    have hentry : s.mgr.gdev.entryAt s.mgr.host i (v + k) = p + 1 := by
      rw [Manager.entryAt, hc.cpuPtr_eq, Option.getD_some, hc.represents _ hin, hp,
        PageTable.entry_some]
    have heven : p % 2 = 0 := by
      obtain ⟨u, a, n, hg, _, _, rfl⟩ := hc.mapped _ _ hp
      have : 4096 ∣ a := (hI.mgr.range _ hg).addr_aligned
      omega
    obtain hout | hinvalid := hclears.stop hlt
    · rw [hc.numEntries_eq, hpage] at hout
      omega
    · rw [hpage, hentry, Nat.and_one_is_mod] at hinvalid
      omega
  subst hall
  rw [decide_eq_true rfl] at heq
  exact ⟨_, heq⟩

theorem Inv.ctxCreate (hI : Inv w s maps) {block : ℕ} {m : ManagerState}
    (h : s.mgr.ctxCreate block = some m) : Inv w { s with mgr := m } maps := by
  obtain ⟨i, hctx, hmap, hfresh, hroom, rfl⟩ := hI.mgr.ctxCreate_cases h
  refine ⟨ManagerState.inv_withContext hI.mgr hctx hmap hfresh hroom, fun b hb => ?_, hI.apart⟩
  obtain ⟨j, v, hown⟩ := hI.live b hb
  have hother : (ManagerState.withContext w s.mgr i block).gdev.ctx j = s.mgr.gdev.ctx j := by
    refine Function.update_of_ne ?_ ..
    rintro rfl
    exact hown.created (by rw [hctx])
  refine ⟨j, v, ?_, hown.addr, ?_, hown.mapped⟩
  · rw [hother]
    exact hown.created
  · rw [hother]
    exact hown.used

/-- The address of a new buffer, in the user's type. -/
theorem Inv.toNat_allocResult (hI : Inv w s maps) {i : Fin 16}
    (hid : (s.mgr.gdev.ctx i).id ≠ 0) :
    (UInt64.ofNat (s.mgr.allocResult i).va).toNat =
      Manager.vaddr (i + 1) (s.mgr.gdev.ctx i).vpageNext := by
  have hc := hI.mgr.contextOk hid
  have hvle := hI.mgr.vpageNext_le hc
  have hframes := w.frames_lt
  have hresult : (s.mgr.allocResult i).va =
      Manager.vaddr (i + 1) (s.mgr.gdev.ctx i).vpageNext := by
    rw [← hc.id_eq]
    rfl
  have hlt : Manager.vaddr (i + 1) (s.mgr.gdev.ctx i).vpageNext < UInt64.size := by
    rw [vaddr_eq (by omega)]
    change _ < 2 ^ 64
    omega
  rw [hresult, UInt64.toNat_ofNat_of_lt' hlt]

/-- The buffers that are there keep their pages when another one is allocated. -/
theorem Owned.withBuffer {m : ManagerState} {j : Fin 16} {v : ℕ} (h : Owned m maps b j v)
    (i : Fin 16) (n p : ℕ) :
    Owned (m.withBuffer i n)
      (Function.update maps i ((maps i).mapRange 4096 (m.gdev.ctx i).vpageNext p n)) b j v := by
  have hcreated : ((m.withBuffer i n).gdev.ctx j).id ≠ 0 := by
    rw [(m.withBuffer_ctx i n j).2]
    exact h.created
  by_cases hji : j = i
  · subst hji
    have hused := h.used
    have hself : ((m.withBuffer j n).gdev.ctx j).vpageNext = (m.gdev.ctx j).vpageNext + n := by
      rw [ManagerState.withBuffer_ctx_self]
    refine ⟨hcreated, h.addr, by omega, fun x h₁ h₂ => ?_⟩
    rw [Function.update_self, PageMap.mapRange_of_not_mem (by omega)]
    exact h.mapped x h₁ h₂
  · have hother : (m.withBuffer i n).gdev.ctx j = m.gdev.ctx j := Function.update_of_ne hji ..
    refine ⟨hcreated, h.addr, by rw [hother]; exact h.used, fun x h₁ h₂ => ?_⟩
    rw [Function.update_of_ne hji]
    exact h.mapped x h₁ h₂

/-- A new buffer has no page of the others, which are before the next page. -/
theorem Inv.pagesApart_allocResult (hI : Inv w s maps) {i : Fin 16}
    (hid : (s.mgr.gdev.ctx i).id ≠ 0) (size : UInt32) (hb : b ∈ s.live) :
    PagesApart (UInt64.ofNat (s.mgr.allocResult i).va, size) b := by
  have hvle := hI.mgr.vpageNext_le (hI.mgr.contextOk hid)
  have hframes := w.frames_lt
  intro c x hnew hold
  obtain ⟨j, v, hown⟩ := hI.live b hb
  obtain ⟨hctx, hpage⟩ := hI.addr_owned hown
  have hused := hown.used
  simp only [HasPage, hI.toNat_allocResult hid, vaToCtx_vaddr (show (i : ℕ) + 1 < 2 ^ 16 by omega)
    (show (s.mgr.gdev.ctx i).vpageNext < 2 ^ 36 by omega),
    vaToVpage_vaddr (show (s.mgr.gdev.ctx i).vpageNext < 2 ^ 36 by omega)] at hnew
  simp only [HasPage, hctx, hpage] at hold
  have hij : j = i := Fin.ext (by omega)
  subst hij
  omega

/-- A buffer is allocated: its pages come after those of the others. -/
theorem Inv.withBuffer (hI : Inv w s maps) {i : Fin 16} {size : UInt32}
    (hid : (s.mgr.gdev.ctx i).id ≠ 0)
    (hroom : s.mgr.gdev.ddrNext + 4096 * pagesOf size.toNat ≤ w.base + w.size) :
    ∃ maps', Inv w
      { mgr := s.mgr.withBuffer i (pagesOf size.toNat)
        live := (UInt64.ofNat (s.mgr.allocResult i).va, size) :: s.live } maps' := by
  have hself : ((s.mgr.withBuffer i (pagesOf size.toNat)).gdev.ctx i).vpageNext =
      (s.mgr.gdev.ctx i).vpageNext + pagesOf size.toNat := by
    rw [ManagerState.withBuffer_ctx_self]
  refine ⟨_, ManagerState.inv_withBuffer hI.mgr (.inr hid) hroom,
    List.forall_mem_cons.2 ⟨⟨i, (s.mgr.gdev.ctx i).vpageNext, ?_, hI.toNat_allocResult hid,
      hself.ge, ?_⟩, fun b hb => ?_⟩,
    List.pairwise_cons.2 ⟨fun b hb => hI.pagesApart_allocResult hid size hb, hI.apart⟩⟩
  · rw [(s.mgr.withBuffer_ctx i _ i).2]
    exact hid
  · intro x h₁ h₂
    rw [Function.update_self, PageMap.mapRange_of_mem h₁ h₂]
    exact Option.some_ne_none _
  · obtain ⟨j, v, hown⟩ := hI.live b hb
    exact ⟨j, v, hown.withBuffer i _ _⟩

/-- A range is freed: the buffers without a page of it keep theirs. -/
theorem Inv.freeRange (hI : Inv w s maps) {va : UInt64} {size : UInt32}
    {live : List (UInt64 × UInt32)} (hsub : live.Sublist s.live)
    (hapart : ∀ b ∈ live, PagesApart (va, size) b) :
    ∃ maps', Inv w { mgr := (s.mgr.free va size).2, live := live } maps' := by
  obtain ⟨_, hsame⟩ | ⟨i, k, hi, hk, hmgr, _⟩ := hI.mgr.free_cases va size
  · rw [hsame]
    exact ⟨maps, hI.mgr, fun b hb => hI.live b (hsub.subset hb), hI.apart.sublist hsub⟩
  · refine ⟨_, hmgr, fun b hb => ?_, hI.apart.sublist hsub⟩
    obtain ⟨j, v, hown⟩ := hI.live b (hsub.subset hb)
    refine ⟨j, v, hown.created, hown.addr, hown.used, fun x h₁ h₂ => ?_⟩
    by_cases hji : j = i
    · subst hji
      obtain ⟨hctx, hpage⟩ := hI.addr_owned hown
      have hle := Manager.freePages_le size
      have hout : ¬ (vaToVpage va.toNat ≤ x ∧ x < vaToVpage va.toNat + k) := by
        rintro ⟨hx₁, hx₂⟩
        refine hapart b hb (j + 1) x ⟨ctxIndex_eq_some_iff.1 hi, hx₁, ?_⟩ ⟨hctx, ?_, ?_⟩
        · simp only
          omega
        · omega
        · omega
      rw [Function.update_self, PageMap.unmapRange_of_not_mem hout]
      exact hown.mapped x h₁ h₂
    · rw [Function.update_of_ne hji]
      exact hown.mapped x h₁ h₂

/-- **A tidy call keeps the invariant.** -/
theorem Inv.step (hI : Inv w s maps) {a : FreeAct} (htidy : s.Tidy a) (h : s.step a = some s') :
    ∃ maps', Inv w s' maps' := by
  cases a with
  | ctxCreate block =>
      obtain ⟨hfresh, h⟩ := Option.ite_none_right_eq_some.1 h
      obtain rfl := Option.some.inj h
      obtain hslot | ⟨i, hok⟩ := htidy
      · rw [ManagerState.createContext_of_no_slot hslot]
        exact ⟨maps, hI⟩
      · obtain ⟨b, rfl, hcreate⟩ := ManagerState.createContext_of_ok hok
        exact ⟨maps, hI.ctxCreate (hcreate (hfresh b rfl))⟩
  | alloc ctxID size =>
      obtain ⟨⟨m, r⟩, hr, rfl⟩ := Option.map_eq_some_iff.1 h
      obtain ⟨i, hi, ⟨rfl, rfl⟩ | ⟨_, hroom, rfl, rfl⟩⟩ := hI.mgr.alloc_cases hr
      · exact ⟨maps, hI⟩
      · obtain ⟨j, hj, hid⟩ := htidy
        obtain rfl := Option.some.inj (hi.symm.trans hj)
        exact hI.withBuffer hid hroom
  | free va size =>
      obtain ⟨r, hr, rfl⟩ := Option.map_eq_some_iff.1 h
      have hmgr : ({ s.mgr with host := r.2 } : ManagerState) = (s.mgr.free va size).2 := by
        rw [ManagerState.free, Manager.eq_free_of_freeChecked_eq_some hr]
      rw [hmgr]
      by_cases hmem : (va, size) ∈ s.live
      · obtain ⟨host, hhost⟩ := hI.free_live hmem
        obtain rfl := Option.some.inj (hr.symm.trans hhost)
        -- the other buffers have no page of the one that is freed
        have hpair : ((va, size) :: s.live.erase (va, size)).Pairwise PagesApart :=
          (List.perm_cons_erase hmem).pairwise hI.apart fun h => h.symm
        exact hI.freeRange List.erase_sublist (List.pairwise_cons.1 hpair).1
      · have hapart : ∀ b ∈ s.live, PagesApart (va, size) b := htidy.resolve_left hmem
        rw [List.erase_of_not_mem hmem, ite_self]
        exact hI.freeRange (List.Sublist.refl _) hapart

end FreeState

/-- **`gpu_free` is all or nothing exactly when it frees cleanly**, in every state whose tables are
aligned; and in every run of tidy calls a buffer that was allocated and not freed since can be
freed. -/
theorem gpu_free_exact (w : DdrWindow) (host₀ : ByteMem) :
    (∀ (g : Manager) (host : ByteMem) (va : UInt64) (size : UInt32), g.TablesAligned →
      (g.AllOrNothing host va size ↔ g.FreesCleanly host va size)) ∧
    ∀ (as : List FreeAct) (s : FreeState), Machine.run FreeState.step (.start w host₀) as = some s →
      Machine.Obeys FreeState.step FreeState.Tidy (.start w host₀) as →
      ∀ va size, (va, size) ∈ s.live →
        ∃ host, s.mgr.gdev.freeChecked s.mgr.host va size = some (true, host) := by
  refine ⟨fun g host va size haligned => Manager.allOrNothing_iff haligned,
    fun as s hrun hobeys va size hlive => ?_⟩
  obtain ⟨maps, hI⟩ := Machine.run_invariant (I := fun s => ∃ maps, FreeState.Inv w s maps)
    (fun _ _ _ ⟨_, hI⟩ htidy hstep => hI.step htidy hstep) ⟨_, FreeState.inv_start w host₀⟩ hobeys
    hrun
  exact hI.free_live hlive

/-- One buffer in one context: its page can be freed, and freeing the page behind it changes
nothing. -/
theorem gpu_free_exact_one_buffer : ∃ s,
    Machine.run FreeState.step (.start gpuDdr fun _ => 0)
      [.ctxCreate (some 0x100000), .alloc 1 4096] = some s ∧
    (∃ host, s.mgr.gdev.freeChecked s.mgr.host 0x1000000000000 4096 = some (true, host)) ∧
    s.mgr.gdev.AllOrNothing s.mgr.host 0x1000000001000 4096 := by
  have hsome : ((Machine.run FreeState.step (.start gpuDdr fun _ => 0)
      [.ctxCreate (some 0x100000), .alloc 1 4096]).map fun s =>
        decide (s.live = [(0x1000000000000, 4096)] ∧
          (∀ i, ∀ p ∈ (s.mgr.gdev.ctx i).pt.cpuPtr, 8 ∣ p) ∧ s.mgr.gdev.HasEntry 0 1 ∧
          s.mgr.gdev.entryAt s.mgr.host 0 1 &&& 1 = 0)) = some true := by
    decide +kernel
  obtain ⟨s, hrun, hs⟩ := Option.map_eq_some_iff.1 hsome
  obtain ⟨hlive, haligned, hentry, hinvalid⟩ := of_decide_eq_true hs
  have hcreated : (FreeState.step (.start gpuDdr fun _ => 0) (.ctxCreate (some 0x100000))).all
      (fun s' => decide (s'.mgr.Created 1)) = true := by decide +kernel
  have htidy : Machine.Obeys FreeState.step FreeState.Tidy (.start gpuDdr fun _ => 0)
      [.ctxCreate (some 0x100000), .alloc 1 4096] := by
    refine ⟨.inr ⟨0, by decide +kernel⟩, fun s' hs' => ⟨?_, fun _ _ => trivial⟩⟩
    change s'.mgr.Created 1
    rw [hs'] at hcreated
    exact of_decide_eq_true hcreated
  obtain ⟨hexact, hfree⟩ := gpu_free_exact gpuDdr fun _ => 0
  refine ⟨s, hrun, hfree _ s hrun htidy _ _ (by rw [hlive]; exact List.mem_singleton.2 rfl),
    (hexact _ _ _ _ fun i p hp => haligned i p hp).2 (.inr ⟨0, by decide, .inl ⟨by decide, ?_⟩⟩)⟩
  exact .inr ⟨hentry, hinvalid⟩

/-- **A range that is one page too long**: the buffer has one page, two are freed.  The call fails
at the second page, after the entry of the first was cleared; the buffer can no longer be freed. -/
theorem partial_free_clears : ∃ s r,
    Machine.run FreeState.step (.start gpuDdr fun _ => 0)
      [.ctxCreate (some 0x100000), .alloc 1 4096] = some s ∧
    s.live = [(0x1000000000000, 4096)] ∧
    s.mgr.gdev.freeChecked s.mgr.host 0x1000000000000 8192 = some r ∧ r.1 = false ∧
    s.mgr.gdev.entryAt s.mgr.host 0 0 = 0x80040001 ∧ s.mgr.gdev.entryAt r.2 0 0 = 0 ∧
    (s.mgr.gdev.freeChecked r.2 0x1000000000000 4096).map Prod.fst = some false ∧
    ¬ s.mgr.gdev.AllOrNothing s.mgr.host 0x1000000000000 8192 := by
  have hsome : ((Machine.run FreeState.step (.start gpuDdr fun _ => 0)
      [.ctxCreate (some 0x100000), .alloc 1 4096]).bind fun s =>
        (s.mgr.gdev.freeChecked s.mgr.host 0x1000000000000 8192).map fun r =>
          decide (s.live = [(0x1000000000000, 4096)] ∧ r.1 = false ∧
            s.mgr.gdev.entryAt s.mgr.host 0 0 = 0x80040001 ∧ s.mgr.gdev.entryAt r.2 0 0 = 0 ∧
            (s.mgr.gdev.freeChecked r.2 0x1000000000000 4096).map Prod.fst = some false ∧
            s.mgr.gdev.HasEntry 0 0)) = some true := by
    decide +kernel
  obtain ⟨s, hrun, hrest⟩ := Option.bind_eq_some_iff.1 hsome
  obtain ⟨r, hr, hs⟩ := Option.map_eq_some_iff.1 hrest
  obtain ⟨hlive, hfalse, hbefore, hafter, hagain, hentry⟩ := of_decide_eq_true hs
  refine ⟨s, r, hrun, hlive, hr, hfalse, hbefore, hafter, hagain, ?_⟩
  rintro ⟨r', hr', ⟨_, hsame⟩ | ⟨htrue, _⟩⟩
  · obtain rfl := Option.some.inj (hr.symm.trans hr')
    have h := hsame 0 0 hentry
    rw [hafter, hbefore] at h
    cases h
  · obtain rfl := Option.some.inj (hr.symm.trans hr')
    rw [hfalse] at htrue
    cases htrue

end Gpu

end Dvf
