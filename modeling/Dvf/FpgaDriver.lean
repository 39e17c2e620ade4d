/-
**Register access of the FPGA driver** (`fpga_driver.c`, `dev_read` and `dev_write`).

A file of the driver has an offset into BAR0, which `read` and `write` advance and `lseek` sets.
Both calls test that the offset is below `bar0_size` and then access the register of four bytes at
the offset, and copy four bytes from or to the user's buffer, whatever its length is.  The test
compares a signed offset with an unsigned size; C converts the offset to unsigned, so that a
negative one is beyond every BAR of at most 2^63 bytes.

A call is confined when it touches only bytes of the BAR, moves and returns no more than the user's
length and advances the offset by what it returns.  It is so exactly when the register lies in the
BAR as a whole and the length has room for it, or when the call is refused before it does anything.

* `Dvf.Fpga.devRead`, `Dvf.Fpga.devWrite`, `Dvf.Fpga.defaultLlseek` — the file operations;
* `Dvf.Fpga.FpgaFile.Confined`, `Dvf.Fpga.FpgaFile.InRange` — the property of a call, and the calls
  that have it;
* `Dvf.Fpga.FpgaFile.confined_iff_inRange` — one call;
* `Dvf.Fpga.accesses_confined_iff` — **every run of seeks, reads and writes**.
-/

import Dvf.Machine
import Mathlib.Algebra.Order.Ring.Int
import Mathlib.Tactic.Common

set_option autoImplicit false

namespace Dvf

namespace Fpga

/-! ### The file operations -/

/-- An access to the registers, at a distance in bytes from `mmio_base`. -/
inductive BarAccess
  | ioread32 (addr : ℤ)
  | iowrite32 (val : UInt32) (addr : ℤ)
  deriving DecidableEq, Repr

def BarAccess.bytes : BarAccess → List ℤ
  | .ioread32 addr => [addr, addr + 1, addr + 2, addr + 3]
  | .iowrite32 _ addr => [addr, addr + 1, addr + 2, addr + 3]

/-- The bytes of a `uint32_t` in memory. -/
def wordBytes (val : UInt32) : List UInt8 :=
  [val.toUInt8, (val >>> 8).toUInt8, (val >>> 16).toUInt8, (val >>> 24).toUInt8]

/-- What a call did: the accesses to the registers, the bytes that it copied to or from the user's
buffer, what it returned, and the offset after it. -/
structure Call where
  accesses : List BarAccess := []
  moved : List UInt8 := []
  ret : ℤ
  offset : Int64
  deriving DecidableEq, Repr

/-- `EFAULT`. -/
def EFAULT : ℤ := 14

/-- `dev_read`.  The device answers with `val`, and the user's memory takes `copied` of its bytes
before it faults; with four of them it does not. -/
def devRead (bar0Size len : UInt64) (val : UInt32) (copied : Fin 5) (offset : Int64) : Call :=
  if len = 0 then { ret := 0, offset := offset }
  -- `*offset >= bar0_size` compares as unsigned
  else if bar0Size ≤ offset.toUInt64 then { ret := 0, offset := offset }
  else if copied.val < 4 then
    { accesses := [.ioread32 offset.toInt], moved := (wordBytes val).take copied, ret := -EFAULT,
      offset := offset }
  else
    { accesses := [.ioread32 offset.toInt], moved := wordBytes val, ret := 4,
      offset := offset + 4 }

/-- `dev_write`.  The user's buffer has `val`, of which `copied` bytes are there. -/
def devWrite (bar0Size len : UInt64) (val : UInt32) (copied : Fin 5) (offset : Int64) : Call :=
  if len = 0 then { ret := 0, offset := offset }
  else if bar0Size ≤ offset.toUInt64 then { ret := -EFAULT, offset := offset }
  else if copied.val < 4 then
    { moved := (wordBytes val).take copied, ret := -EFAULT, offset := offset }
  else
    { accesses := [.iowrite32 val offset.toInt], moved := wordBytes val, ret := 4,
      offset := offset + 4 }

inductive Whence
  | set | cur | «end» | data | hole
  deriving DecidableEq, Repr

/-- What `default_llseek` of the kernel makes of an offset; the inode of a device file has the size
zero. -/
def seekTarget (pos off : Int64) : Whence → Option Int64
  | .set => some off
  | .cur => some (off + pos)
  | .end => some off
  | .data => if 0 ≤ off then none else some off
  | .hole => if 0 ≤ off then none else some 0

/-- `default_llseek`: the offset after it.  A negative one is refused. -/
def defaultLlseek (pos off : Int64) (whence : Whence) : Int64 :=
  (seekTarget pos off whence).elim pos fun target => if 0 ≤ target then target else pos

/-- `bar0_size` after the probe, from the length of the resource. -/
def bar0SizeOf (resourceLen : UInt64) : UInt64 := if resourceLen = 0 then 4096 else resourceLen

/-! ### An open file -/

/-- A file of the driver. -/
structure FpgaFile where
  bar0Size : UInt64
  offset : Int64
  deriving DecidableEq, Repr

/-- A call of the user, with what the device and the user's memory contribute. -/
inductive FileAct
  | llseek (off : Int64) (whence : Whence)
  | read (len : UInt64) (val : UInt32) (copied : Fin 5)
  | write (len : UInt64) (val : UInt32) (copied : Fin 5)
  deriving DecidableEq, Repr

def opened (resourceLen : UInt64) : FpgaFile := ⟨bar0SizeOf resourceLen, 0⟩

namespace FpgaFile

/-- The file after a call. -/
def step (f : FpgaFile) : FileAct → Option FpgaFile
  | .llseek off whence => some { f with offset := defaultLlseek f.offset off whence }
  | .read len val copied =>
      some { f with offset := (devRead f.bar0Size len val copied f.offset).offset }
  | .write len val copied =>
      some { f with offset := (devWrite f.bar0Size len val copied f.offset).offset }

end FpgaFile

/-- **A call is confined**: it accesses only bytes of the BAR, copies and returns no more than the
length, and advances the offset by what it returns. -/
structure Call.Confined (c : Call) (f : FpgaFile) (len : UInt64) : Prop where
  inside : ∀ acc ∈ c.accesses, ∀ i ∈ acc.bytes, 0 ≤ i ∧ i < f.bar0Size.toNat
  moved_le : c.moved.length ≤ len.toNat
  ret_le : c.ret ≤ len.toNat
  advance : c.offset.toInt = f.offset.toInt + max c.ret 0

namespace FpgaFile

/-- A call of the user is confined. -/
def Confined (f : FpgaFile) : FileAct → Prop
  | .llseek .. => True
  | .read len val copied => (devRead f.bar0Size len val copied f.offset).Confined f len
  | .write len val copied => (devWrite f.bar0Size len val copied f.offset).Confined f len

/-- The register at the offset lies in the BAR as a whole. -/
def WholeWord (f : FpgaFile) : Prop :=
  0 ≤ f.offset.toInt ∧ f.offset.toInt + 4 ≤ f.bar0Size.toNat

/-- The call is refused before it does anything. -/
def Refused (f : FpgaFile) (len : UInt64) : Prop := len = 0 ∨ f.bar0Size ≤ f.offset.toUInt64

/-- **The calls that are confined**: a call that is refused, or one whose length has room for what
is copied, where the register that is accessed is in the BAR, and the offset does not overflow.  A
read accesses the register before it copies, a write after it. -/
def InRange (f : FpgaFile) : FileAct → Prop
  | .llseek .. => True
  | .read len _ copied =>
      f.Refused len ∨
        copied.val ≤ len.toNat ∧ f.WholeWord ∧ (copied.val = 4 → f.offset.toInt + 4 < 2 ^ 63)
  | .write len _ copied =>
      f.Refused len ∨
        copied.val ≤ len.toNat ∧
          (copied.val = 4 → f.WholeWord ∧ f.offset.toInt + 4 < 2 ^ 63)

end FpgaFile

/-! ### One call -/

section Call

variable {f : FpgaFile} {len : UInt64}

theorem confined_refused {r : ℤ} (hr : r ≤ 0) :
    Call.Confined { ret := r, offset := f.offset } f len where
  inside := by simp
  moved_le := Nat.zero_le _
  ret_le := by
    change r ≤ len.toNat
    omega
  advance := by
    change f.offset.toInt = f.offset.toInt + max r 0
    omega

theorem inside_iff_wholeWord (acc : BarAccess)
    (hacc : acc.bytes = (BarAccess.ioread32 f.offset.toInt).bytes) :
    (∀ i ∈ acc.bytes, 0 ≤ i ∧ i < (f.bar0Size.toNat : ℤ)) ↔ f.WholeWord := by
  rw [hacc, FpgaFile.WholeWord]
  simp only [BarAccess.bytes, List.forall_mem_cons, List.not_mem_nil, false_imp_iff, implies_true,
    and_true]
  omega

/-- A call whose copy faulted. -/
theorem confined_fault_iff {accesses : List BarAccess} {val : UInt32} {copied : Fin 5}
    (hcopied : copied.val < 4) :
    Call.Confined ⟨accesses, (wordBytes val).take copied, -EFAULT, f.offset⟩ f len ↔
      copied.val ≤ len.toNat ∧
        ∀ acc ∈ accesses, ∀ i ∈ acc.bytes, 0 ≤ i ∧ i < f.bar0Size.toNat := by
  have hmoved : ((wordBytes val).take copied).length = copied.val := by
    rw [List.length_take]
    exact Nat.min_eq_left (Nat.le_of_lt hcopied)
  constructor
  · intro h
    exact ⟨hmoved ▸ h.moved_le, h.inside⟩
  · rintro ⟨hle, hinside⟩
    have hrefused : Call.Confined { ret := -EFAULT, offset := f.offset } f len :=
      confined_refused (by decide)
    have hmoved_le : ((wordBytes val).take copied).length ≤ len.toNat := by
      rw [hmoved]
      exact hle
    exact ⟨hinside, hmoved_le, hrefused.ret_le, hrefused.advance⟩

theorem toInt_add_four (offset : Int64) :
    (offset + 4).toInt = offset.toInt + 4 ↔ offset.toInt + 4 < 2 ^ 63 := by
  have hlt := offset.toInt_lt
  have hge := offset.le_toInt
  rw [Int64.toInt_add]
  have hfour : (4 : Int64).toInt = 4 := by decide
  rw [hfour, Int.bmod_def]
  omega

theorem confined_done_iff (acc : BarAccess) {val : UInt32}
    (hacc : acc.bytes = (BarAccess.ioread32 f.offset.toInt).bytes) :
    Call.Confined ⟨[acc], wordBytes val, 4, f.offset + 4⟩ f len ↔
      4 ≤ len.toNat ∧ f.WholeWord ∧ f.offset.toInt + 4 < 2 ^ 63 := by
  rw [← inside_iff_wholeWord acc hacc, ← toInt_add_four]
  constructor
  · intro h
    exact ⟨h.moved_le, h.inside acc List.mem_cons_self, h.advance⟩
  · rintro ⟨hle, hinside, hadvance⟩
    have hret : (4 : ℤ) ≤ len.toNat := by omega
    refine ⟨?_, hle, hret, hadvance⟩
    intro acc' hacc'
    rw [List.mem_singleton.1 hacc']
    exact hinside

end Call

namespace FpgaFile

/-- A call is confined if one of its two checks refuses it, or the rest of it is. -/
theorem confined_checks_iff (f : FpgaFile) (len : UInt64) {beyond : ℤ} (hbeyond : beyond ≤ 0)
    (rest : Call) :
    (if len = 0 then { ret := 0, offset := f.offset }
      else if f.bar0Size ≤ f.offset.toUInt64 then { ret := beyond, offset := f.offset }
      else rest : Call).Confined f len ↔ f.Refused len ∨ rest.Confined f len := by
  rw [Refused]
  by_cases hlen : len = 0
  · rw [if_pos hlen]
    exact iff_of_true (confined_refused (Int.le_refl 0)) (Or.inl (Or.inl hlen))
  · rw [if_neg hlen]
    by_cases hsize : f.bar0Size ≤ f.offset.toUInt64
    · rw [if_pos hsize]
      exact iff_of_true (confined_refused hbeyond) (Or.inl (Or.inr hsize))
    · rw [if_neg hsize, or_iff_right (not_or.2 ⟨hlen, hsize⟩)]

theorem read_confined_iff (f : FpgaFile) (len : UInt64) (val : UInt32) (copied : Fin 5) :
    f.Confined (.read len val copied) ↔ f.InRange (.read len val copied) := by
  rw [Confined, InRange, devRead, confined_checks_iff f len (Int.le_refl 0)]
  refine or_congr Iff.rfl ?_
  by_cases hcopied : copied.val < 4
  · rw [if_pos hcopied, confined_fault_iff hcopied, List.forall_mem_singleton,
      inside_iff_wholeWord _ rfl]
    have hne : copied.val ≠ 4 := by omega
    simp only [hne, false_imp_iff, and_true]
  · have hfour : copied.val = 4 := by omega
    rw [if_neg hcopied, confined_done_iff _ rfl, hfour]
    simp only [true_imp_iff]

theorem write_confined_iff (f : FpgaFile) (len : UInt64) (val : UInt32) (copied : Fin 5) :
    f.Confined (.write len val copied) ↔ f.InRange (.write len val copied) := by
  have hfault : -EFAULT ≤ 0 := by decide
  rw [Confined, InRange, devWrite, confined_checks_iff f len hfault]
  refine or_congr Iff.rfl ?_
  by_cases hcopied : copied.val < 4
  · rw [if_pos hcopied, confined_fault_iff hcopied]
    have hne : copied.val ≠ 4 := by omega
    simp [hne]
  · have hfour : copied.val = 4 := by omega
    rw [if_neg hcopied, confined_done_iff (.iowrite32 val f.offset.toInt) rfl, hfour]
    simp only [true_imp_iff]

/-- **One call**: it is confined exactly when it is in range. -/
theorem confined_iff_inRange (f : FpgaFile) (a : FileAct) : f.Confined a ↔ f.InRange a := by
  cases a with
  | llseek off whence => exact Iff.rfl
  | read len val copied => exact f.read_confined_iff len val copied
  | write len val copied => exact f.write_confined_iff len val copied

end FpgaFile

/-! ### Runs -/

/-- **Register access**: for every size of the BAR and every sequence of seeks, reads and writes on
a file, every call is confined exactly when every call is in range. -/
theorem accesses_confined_iff (resourceLen : UInt64) (as : List FileAct) :
    Machine.Obeys FpgaFile.step FpgaFile.Confined (opened resourceLen) as ↔
      Machine.Obeys FpgaFile.step FpgaFile.InRange (opened resourceLen) as :=
  Machine.obeys_congr FpgaFile.confined_iff_inRange _ _

/-- **A register across the end, and a buffer of one byte**: at two bytes before the end of a BAR of
4096, a read accesses two bytes behind it; and a read of one byte stores four into the buffer and
returns four. -/
theorem read_across_end :
    ((Machine.run FpgaFile.step (opened 4096) [.llseek 4094 .set]).map fun f =>
      devRead f.bar0Size 4 0xDEADBEEF 4 f.offset) =
        some ⟨[.ioread32 4094], [0xEF, 0xBE, 0xAD, 0xDE], 4, 4098⟩ ∧
      devRead (opened 4096).bar0Size 1 0xDEADBEEF 4 (opened 4096).offset =
        ⟨[.ioread32 0], [0xEF, 0xBE, 0xAD, 0xDE], 4, 4⟩ ∧
      ¬ (opened 4096).Confined (.read 1 0xDEADBEEF 4) ∧
      ¬ FpgaFile.Confined ⟨4096, 4094⟩ (.read 4 0xDEADBEEF 4) := by
  refine ⟨by decide +kernel, by decide +kernel, ?_, ?_⟩
  · intro h
    exact absurd h.ret_le (by decide +kernel)
  · intro h
    have hlast := (h.inside (.ioread32 4094) (by decide +kernel) 4096 (by decide +kernel)).2
    exact absurd hlast (by decide +kernel)

/-! ### Offsets -/

theorem toNat_toUInt64_of_nonneg {offset : Int64} (h : 0 ≤ offset.toInt) :
    (offset.toUInt64.toNat : ℤ) = offset.toInt := by
  have hunsigned : offset.toUInt64.toNat = offset.toBitVec.toNat := rfl
  rw [← Int64.toInt_toBitVec] at h ⊢
  rw [hunsigned]
  rw [BitVec.toInt_eq_toNat_cond] at h ⊢
  split at h <;> omega

end Fpga

end Dvf
