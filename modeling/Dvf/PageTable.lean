/-
**Flat page tables in byte memory.**

A page map says which frame of physical memory stands behind a virtual page, if any.  A flat page
table is an array of 8-byte words that represents a page map: the word of a page is the address of
its frame with the valid bit set, or zero.  The lemmas say which page map an array represents after
entries were stored, cleared or copied elsewhere.

Main definitions:

* `PageMap`, `PageMap.mapRange`, `PageMap.unmapRange` — page maps;
* `PageTable.entry` — the word of a page;
* `PageTable.Represents` — an array represents a page map;
* `PageTable.storeEntries` — storing a list of entries.

Main results:

* `PageTable.Represents.storeRange` — **storing the entries of a range maps the range**;
* `PageTable.Represents.clear` — clearing an entry unmaps its page;
* `PageTable.Represents.copy` — a copy represents what the original does.
-/

import Dvf.ByteMem

set_option autoImplicit false

/-- A page map: the address of the frame behind each virtual page. -/
abbrev PageMap := ℕ → Option ℕ

namespace PageMap

variable {f : PageMap} {v n x pa p page : ℕ}

/-- The page map after `n` pages from `v` on were mapped to frames of size `page` that follow each
other from `pa` on. -/
def mapRange (page : ℕ) (f : PageMap) (v pa n : ℕ) : PageMap :=
  fun x => if v ≤ x ∧ x < v + n then some (pa + page * (x - v)) else f x

/-- The page map after `n` pages from `v` on were unmapped. -/
def unmapRange (f : PageMap) (v n : ℕ) : PageMap :=
  fun x => if v ≤ x ∧ x < v + n then none else f x

theorem mapRange_of_mem (h₁ : v ≤ x) (h₂ : x < v + n) :
    mapRange page f v pa n x = some (pa + page * (x - v)) := if_pos ⟨h₁, h₂⟩

theorem mapRange_of_not_mem (h : ¬ (v ≤ x ∧ x < v + n)) : mapRange page f v pa n x = f x := if_neg h

@[simp] theorem mapRange_zero (page : ℕ) (f : PageMap) (v pa : ℕ) : mapRange page f v pa 0 = f := by
  funext x
  exact mapRange_of_not_mem (by omega)

theorem mapRange_succ (page : ℕ) (f : PageMap) (v pa n : ℕ) : mapRange page f v pa (n + 1) =
    Function.update (mapRange page f v pa n) (v + n) (some (pa + page * n)) := by
  funext x
  rw [Function.update_apply]
  split
  · next hx => rw [hx, mapRange_of_mem (by omega) (by omega), Nat.add_sub_cancel_left]
  · next hx =>
      unfold mapRange
      congr 1
      simp only [eq_iff_iff]
      omega

theorem unmapRange_of_mem (h₁ : v ≤ x) (h₂ : x < v + n) : unmapRange f v n x = none :=
  if_pos ⟨h₁, h₂⟩

theorem unmapRange_of_not_mem (h : ¬ (v ≤ x ∧ x < v + n)) : unmapRange f v n x = f x := if_neg h

@[simp] theorem unmapRange_zero (f : PageMap) (v : ℕ) : unmapRange f v 0 = f := by
  funext x
  exact unmapRange_of_not_mem (by omega)

theorem unmapRange_succ (f : PageMap) (v n : ℕ) :
    unmapRange f v (n + 1) = unmapRange (Function.update f v none) (v + 1) n := by
  funext x
  unfold unmapRange
  rw [Function.update_apply]
  by_cases hx : x = v
  · rw [if_pos (by omega), if_neg (by omega), if_pos hx]
  · rw [if_neg hx]
    congr 1
    simp only [eq_iff_iff]
    omega

/-- What is mapped after pages were unmapped was mapped before. -/
theorem of_unmapRange_eq_some (h : unmapRange f v n x = some p) : f x = some p := by
  unfold unmapRange at h
  split at h
  · cases h
  · exact h

end PageMap

namespace PageTable

variable {m m' : ByteMem} {a b n v : ℕ} {f : PageMap} {o : Option ℕ}

/-! ### Entries -/

/-- The entry of a page: the address of its frame with the valid bit, or zero. -/
def entry : Option ℕ → ℕ
  | none => 0
  | some p => p + 1

@[simp] theorem entry_none : entry none = 0 := rfl

@[simp] theorem entry_some (p : ℕ) : entry (some p) = p + 1 := rfl

/-! ### Tables -/

/-- The `n` words from `a` on are the entries of a page map. -/
def Represents (m : ByteMem) (a n : ℕ) (f : PageMap) : Prop :=
  ∀ v < n, m.load (a + 8 * v) 8 = entry (f v)

/-- Cleared memory represents the page map that maps nothing. -/
theorem represents_zero (m : ByteMem) (a n : ℕ) :
    Represents (m.zero a (8 * n)) a n fun _ => none := by
  intro v hv
  exact ByteMem.load_zero (by omega) (by omega)

/-- A table is represented by its own bytes only. -/
theorem Represents.congr (h : Represents m a n f)
    (hm : ∀ x, a ≤ x → x < a + 8 * n → m' x = m x) : Represents m' a n f := by
  intro v hv
  rw [← h v hv]
  exact ByteMem.load_congr fun i hi => hm _ (by omega) (by omega)

/-- A copy of a table represents the same page map. -/
theorem Represents.copy (h : Represents m a n f) (dst : ByteMem) (b : ℕ) :
    Represents (dst.copy b (8 * n) m a) b n f := by
  intro v hv
  rw [ByteMem.load_copy (by omega) (by omega), Nat.add_sub_cancel_left, h v hv]

/-- Storing the entry of one page changes the page map there. -/
theorem Represents.store (h : Represents m a n f) (o : Option ℕ) (ho : entry o < 2 ^ 64) (v : ℕ) :
    Represents (m.store (a + 8 * v) 8 (entry o)) a n (Function.update f v o) := by
  intro x hx
  rw [Function.update_apply]
  split
  · next hxv => rw [hxv, ByteMem.load_store, Nat.mod_eq_of_lt (by norm_num; exact ho)]
  · next hxv =>
      rw [ByteMem.load_store_of_apart (by unfold ByteMem.Apart; omega)]
      exact h x hx

/-- Clearing the entry of a page unmaps it. -/
theorem Represents.clear (h : Represents m a n f) (v : ℕ) :
    Represents (m.store (a + 8 * v) 8 0) a n (Function.update f v none) :=
  h.store none (by norm_num) v

/-! ### Lists of entries -/

/-- The memory after entries were stored into the table at `a`. -/
def storeEntries (m : ByteMem) (a : ℕ) (es : List (ℕ × ℕ)) : ByteMem :=
  es.foldl (fun m e => m.store (a + 8 * e.1) 8 e.2) m

theorem storeEntries_concat (m : ByteMem) (a : ℕ) (es : List (ℕ × ℕ)) (e : ℕ × ℕ) :
    storeEntries m a (es ++ [e]) = (storeEntries m a es).store (a + 8 * e.1) 8 e.2 := by
  rw [storeEntries, List.foldl_append]
  rfl

/-- Storing entries changes no byte outside of them. -/
theorem storeEntries_of_not_mem {es : List (ℕ × ℕ)} {x : ℕ}
    (h : ∀ e ∈ es, ¬ (a + 8 * e.1 ≤ x ∧ x < a + 8 * e.1 + 8)) : storeEntries m a es x = m x := by
  induction es generalizing m with
  | nil => rfl
  | cons e es ih =>
      rw [List.forall_mem_cons] at h
      change storeEntries (m.store _ 8 _) a es x = m x
      rw [ih h.2, ByteMem.store_of_not_mem h.1]

/-- **Storing the entries of consecutive pages maps them.** -/
theorem Represents.storeRange (h : Represents m a n f) (v : ℕ) {page pa k : ℕ}
    (hfit : pa + page * k + 1 < 2 ^ 64) :
    Represents (storeEntries m a
      ((List.range k).map fun i => (v + i, entry (some (pa + page * i))))) a n
      (PageMap.mapRange page f v pa k) := by
  induction k with
  | zero =>
      rw [PageMap.mapRange_zero]
      exact h
  | succ k ih =>
      have hk : page * k ≤ page * (k + 1) := Nat.mul_le_mul_left page (by omega)
      rw [List.range_succ, List.map_append, List.map_singleton, storeEntries_concat,
        PageMap.mapRange_succ]
      exact (ih (by omega)).store (some (pa + page * k)) (by rw [entry_some]; omega) (v + k)

end PageTable
