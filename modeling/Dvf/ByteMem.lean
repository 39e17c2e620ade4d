/-
**Byte-addressed memories.**

A memory gives a byte to every address.  Words of any width are stored in it with the least
significant byte first, and ranges of bytes are copied from one memory to another.  What an
operation does to a later read is said by two lemmas for each: one for reads inside the range it
touches, one for reads outside of it.

Main definitions:

* `ByteMem` — memories;
* `ByteMem.load`, `ByteMem.store` — words of `n` bytes;
* `ByteMem.copy`, `ByteMem.zero` — ranges;
* `ByteMem.Apart` — ranges without a common address.

Main results:

* `ByteMem.load_store` — **a stored word is read back**;
* `ByteMem.load_congr` — a word depends on the bytes of its range only;
* `ByteMem.load_copy`, `ByteMem.load_copy_of_apart` — words after a copy.
-/

import Mathlib.Data.UInt
import Mathlib.Tactic.Common
import Mathlib.Tactic.Ring

set_option autoImplicit false

/-- A byte-addressed memory. -/
abbrev ByteMem := ℕ → UInt8

namespace ByteMem

variable {m m' : ByteMem} {a b n k x : ℕ}

/-! ### Words -/

/-- The word of `n` bytes at an address, the least significant byte first. -/
def load (m : ByteMem) (a : ℕ) : ℕ → ℕ
  | 0 => 0
  | n + 1 => (m a).toNat + 256 * load m (a + 1) n

/-- The memory after a word of `n` bytes was stored at an address. -/
def store (m : ByteMem) (a n v : ℕ) : ByteMem :=
  fun x => if a ≤ x ∧ x < a + n then UInt8.ofNat (v / 256 ^ (x - a)) else m x

/-- The memory after `n` bytes were copied to `a` from another memory, where they begin at `b`. -/
def copy (m : ByteMem) (a n : ℕ) (src : ByteMem) (b : ℕ) : ByteMem :=
  fun x => if a ≤ x ∧ x < a + n then src (b + (x - a)) else m x

/-- The memory after `n` bytes from `a` on were cleared. -/
def zero (m : ByteMem) (a n : ℕ) : ByteMem := m.copy a n (fun _ => 0) 0

/-- The ranges of `n` bytes at `a` and of `k` bytes at `b` have no common address. -/
def Apart (a n b k : ℕ) : Prop := a + n ≤ b ∨ b + k ≤ a

theorem Apart.symm (h : Apart a n b k) : Apart b k a n := Or.symm h

/-- Parts of ranges without a common address have none either. -/
theorem Apart.mono {a' n' b' k' : ℕ} (h : Apart a n b k) (ha : a ≤ a') (hn : a' + n' ≤ a + n)
    (hb : b ≤ b') (hk : b' + k' ≤ b + k) : Apart a' n' b' k' := by
  unfold Apart at *
  omega

/-- An address of the second range is not one of the first. -/
theorem Apart.not_mem (h : Apart a n b k) (h₁ : b ≤ x) (h₂ : x < b + k) :
    ¬ (a ≤ x ∧ x < a + n) := by
  unfold Apart at h
  omega

instance (a n b k : ℕ) : Decidable (Apart a n b k) := inferInstanceAs (Decidable (_ ∨ _))

/-! ### Single bytes -/

theorem store_of_not_mem (h : ¬ (a ≤ x ∧ x < a + n)) (v : ℕ) : m.store a n v x = m x := if_neg h

theorem copy_of_mem {src : ByteMem} (h₁ : a ≤ x) (h₂ : x < a + n) :
    m.copy a n src b x = src (b + (x - a)) := if_pos ⟨h₁, h₂⟩

theorem copy_of_not_mem {src : ByteMem} (h : ¬ (a ≤ x ∧ x < a + n)) : m.copy a n src b x = m x :=
  if_neg h

theorem zero_of_not_mem (h : ¬ (a ≤ x ∧ x < a + n)) : m.zero a n x = m x := copy_of_not_mem h

@[simp] theorem copy_zero_length (m src : ByteMem) (a b : ℕ) : m.copy a 0 src b = m := by
  funext x
  exact copy_of_not_mem (by omega)

/-! ### Words and the bytes they are read from -/

/-- A word depends on the bytes of its range only. -/
theorem load_congr (h : ∀ i < n, m (a + i) = m' (b + i)) : m.load a n = m'.load b n := by
  induction n generalizing a b with
  | zero => rfl
  | succ n ih =>
      have hfirst : m a = m' b := h 0 (by omega)
      have hrest : m.load (a + 1) n = m'.load (b + 1) n := by
        refine ih fun i hi => ?_
        have := h (i + 1) (by omega)
        rwa [← Nat.add_assoc, ← Nat.add_assoc, Nat.add_right_comm, Nat.add_right_comm b] at this
      rw [load, load, hfirst, hrest]

/-- The bytes of a word, written one after the other, are read back as the word. -/
theorem load_digits (v : ℕ) (h : ∀ i < n, m (a + i) = UInt8.ofNat (v / 256 ^ i)) :
    m.load a n = v % 256 ^ n := by
  induction n generalizing a v with
  | zero => simp [load, Nat.mod_one]
  | succ n ih =>
      have hfirst : (m a).toNat = v % 256 := by
        have := h 0 (by omega)
        rw [Nat.add_zero, pow_zero, Nat.div_one] at this
        rw [this, UInt8.toNat_ofNat']
      have hrest : m.load (a + 1) n = v / 256 % 256 ^ n := by
        refine ih (v / 256) fun i hi => ?_
        have := h (i + 1) (by omega)
        rwa [← Nat.add_assoc, Nat.add_right_comm, Nat.pow_succ', ← Nat.div_div_eq_div_mul] at this
      rw [load, hfirst, hrest, Nat.pow_succ', Nat.mod_mul]

/-- **A stored word is read back**, as far as it fits. -/
theorem load_store (m : ByteMem) (a n v : ℕ) : (m.store a n v).load a n = v % 256 ^ n := by
  refine load_digits v fun i hi => ?_
  rw [store, if_pos (by omega), Nat.add_sub_cancel_left]

/-- A store changes no word outside of its range. -/
theorem load_store_of_apart (h : Apart a n b k) (v : ℕ) :
    (m.store a n v).load b k = m.load b k := by
  refine load_congr fun i hi => store_of_not_mem ?_ v
  unfold Apart at h
  omega

/-- A word inside the range of a copy is the word of the source. -/
theorem load_copy {src : ByteMem} (h₁ : a ≤ x) (h₂ : x + k ≤ a + n) :
    (m.copy a n src b).load x k = src.load (b + (x - a)) k := by
  refine load_congr fun i hi => ?_
  rw [copy_of_mem (by omega) (by omega)]
  congr 1
  omega

/-- A copy changes no word outside of its range. -/
theorem load_copy_of_apart {src : ByteMem} (h : Apart a n x k) :
    (m.copy a n src b).load x k = m.load x k := by
  refine load_congr fun i hi => copy_of_not_mem ?_
  unfold Apart at h
  omega

/-- Words of cleared memory are zero. -/
theorem load_zero (h₁ : a ≤ x) (h₂ : x + k ≤ a + n) : (m.zero a n).load x k = 0 := by
  rw [zero, load_copy h₁ h₂, load_digits (m := fun _ => 0) 0 fun i _ => by simp, Nat.zero_mod]

theorem load_zero_of_apart (h : Apart a n x k) : (m.zero a n).load x k = m.load x k :=
  load_copy_of_apart h

/-- Clearing a word and then the bytes behind it. -/
theorem zero_store (m : ByteMem) (a n k : ℕ) :
    (m.store a n 0).zero (a + n) k = m.zero a (n + k) := by
  funext x
  by_cases hx : a ≤ x ∧ x < a + (n + k)
  · have hzero : m.zero a (n + k) x = 0 := copy_of_mem hx.1 hx.2
    rw [hzero]
    by_cases hk : a + n ≤ x
    · exact copy_of_mem hk (by omega)
    · rw [zero_of_not_mem (by omega), store, if_pos (by omega), Nat.zero_div]
      rfl
  · rw [zero_of_not_mem hx, zero_of_not_mem (by omega), store_of_not_mem (by omega)]


end ByteMem
