/-
**The device model of the GPU** (`qemu-accelerator-models/hw/misc/gp_gpu.c`).

The guest reaches the model through the registers of BAR0.  A write to the doorbell copies bytes
between host memory and the simulated DDR, which is 128 MiB of the emulator's own memory; a write to
a start register runs the one kernel there is, a vector addition whose operands are found through
the page table in the DDR.  All addresses come from registers and from the contents of the DDR, and
the model checks none of them.  Here every access is made through an operation that fails when it is
outside of what it is made in, so that a step of the model says whether it stayed inside.

Main definitions:

* `Dvf.Gpu.Gpgpu` — registers and DDR;
* `Dvf.Gpu.Gpgpu.translateVa`, `Dvf.Gpu.Gpgpu.processVectorAddition`, `Dvf.Gpu.Gpgpu.write` — the
  source;
* `Dvf.Gpu.BarState.step` — the guest's accesses to BAR0, and changes of its own memory;
* `Dvf.Gpu.Gpgpu.WriteInside` — the condition on registers and DDR under which a write stays inside.

Main results:

* `Dvf.Gpu.Gpgpu.exists_write_iff` — **a register write stays inside exactly under that condition**;
* `Dvf.Gpu.bar_inside_iff` — the runs of the guest.
-/

import Dvf.ByteMem
import Dvf.Machine
import Mathlib.Tactic.IntervalCases

set_option autoImplicit false

namespace Dvf

namespace Gpu

/-! ### The source -/

/-- The size of the memory allocated in `gpgpu_realize`. -/
def deviceMemSize : ℕ := 128 * 1024 * 1024

/-- `ddr_base`: the physical address of the first byte of the DDR. -/
def deviceDdrBase : ℕ := 0x80000000

/-- `UINT64_MAX`, the answer for an address that is not mapped. -/
def uint64Max : ℕ := 0xFFFFFFFFFFFFFFFF

/-- An access outside of the registers, or outside of the DDR. -/
inductive Fault
  | regs (index : ℕ)
  | ddr (offset : ℤ) (len : ℕ)
  deriving DecidableEq, Repr

/-- The device: its registers by index, and `device_mem`. -/
structure Gpgpu where
  regs : ℕ → UInt32 := fun _ => 0
  mem : ByteMem

/-- An access of `n` bytes at an offset from `device_mem` lies within the DDR. -/
def InDdr (offset : ℤ) (n : ℕ) : Prop := n = 0 ∨ 0 ≤ offset ∧ offset + n ≤ deviceMemSize

instance (offset : ℤ) (n : ℕ) : Decidable (InDdr offset n) := inferInstanceAs (Decidable (_ ∨ _))

/-- The conversion of an unsigned difference to `int`. -/
def toInt32 (x : ℤ) : ℤ := if x % 2 ^ 32 < 2 ^ 31 then x % 2 ^ 32 else x % 2 ^ 32 - 2 ^ 32

/-- `gpu_local_ddr_address`, as an offset from `device_mem`. -/
def localDdrAddress (va : ℕ) : ℤ := toInt32 ((va : ℤ) - deviceDdrBase)

/-- The 32-bit index of a physical address in the DDR. -/
def ddrIndex (pa : ℕ) : ℕ := (((pa : ℤ) - deviceDdrBase) % 2 ^ 32).toNat

namespace Gpgpu

def reg (d : Gpgpu) (offset : ℕ) : ℕ := (d.regs (offset >>> 2)).toNat

def reg64 (d : Gpgpu) (lo hi : ℕ) : ℕ := d.reg lo ||| d.reg hi <<< 32

def setReg (d : Gpgpu) (offset val : ℕ) : Gpgpu :=
  { d with regs := Function.update d.regs (offset >>> 2) (UInt32.ofNat val) }

def setMem (d : Gpgpu) (m : ByteMem) : Gpgpu := { d with mem := m }

/-- A read of `n` bytes. -/
def loadDdr (d : Gpgpu) (offset : ℤ) (n : ℕ) : Except Fault ℕ :=
  if InDdr offset n then .ok (d.mem.load offset.toNat n) else .error (.ddr offset n)

/-- A write of `n` bytes. -/
def storeDdr (d : Gpgpu) (offset : ℤ) (n v : ℕ) : Except Fault Gpgpu :=
  if InDdr offset n then .ok (d.setMem (d.mem.store offset.toNat n v)) else .error (.ddr offset n)

/-- The place of the entry for a virtual address in the page table. -/
def pteOffset (d : Gpgpu) (va : ℕ) : ℤ :=
  localDdrAddress (d.reg 0x508) + 8 * (va >>> 12 &&& 0xFFFFFFFFF : ℕ)

/-- What an entry of the page table says about a virtual address. -/
def decodePte (entry va : ℕ) : ℕ :=
  if entry &&& 1 = 0 then uint64Max else (entry >>> 12 <<< 12) + (va &&& 0xFFF)

/-- `gpu_translate_va`. -/
def translateVa (d : Gpgpu) (va : ℕ) : Except Fault ℕ := do
  let entry ← d.loadDdr (d.pteOffset va) 8
  return decodePte entry va

/-- One round of the loop of `process_vector_addition`. -/
def addWord (psrcA psrcB pdest : ℤ) (i : ℕ) (d : Gpgpu) : Except Fault Gpgpu := do
  let x ← d.loadDdr (psrcA + 4 * i) 4
  let y ← d.loadDdr (psrcB + 4 * i) 4
  d.storeDdr (pdest + 4 * i) 4 ((x + y) % 2 ^ 32)

/-- The first rounds of the loop. -/
def addWords (psrcA psrcB pdest : ℤ) : ℕ → Gpgpu → Except Fault Gpgpu
  | 0, d => .ok d
  | n + 1, d => do
      let d' ← addWords psrcA psrcB pdest n d
      addWord psrcA psrcB pdest n d'

/-- `process_vector_addition`. -/
def processVectorAddition (d : Gpgpu) (kernelArgsAddr : ℕ) : Except Fault Gpgpu := do
  let patrans ← d.translateVa kernelArgsAddr
  let data := localDdrAddress patrans
  let srcA ← d.loadDdr data 8
  let srcB ← d.loadDdr (data + 8) 8
  let dest ← d.loadDdr (data + 16) 8
  let pa ← d.translateVa srcA
  let pb ← d.translateVa srcB
  let pd ← d.translateVa dest
  addWords (localDdrAddress pa) (localDdrAddress pb) (localDdrAddress pd) 1024 d

/-- The transfer that the doorbell starts, between the memory of the guest and the DDR. -/
def dmaTransfer (host : ByteMem) (d : Gpgpu) : Except Fault (ByteMem × Gpgpu) :=
  let src := d.reg64 0x100c 0x1010
  let dest := d.reg64 0x1014 0x1018
  let size := d.reg 0x1008
  if d.reg 0x1000 = 0 then
    if InDdr (ddrIndex dest) size then
      .ok (host, d.setMem (d.mem.copy (ddrIndex dest) size host src))
    else .error (.ddr (ddrIndex dest) size)
  else
    if InDdr (ddrIndex src) size then .ok (host.copy dest size d.mem (ddrIndex src), d)
    else .error (.ddr (ddrIndex src) size)

/-- `gpgpu_read`. -/
def read (d : Gpgpu) (addr : ℕ) : Except Fault ℕ :=
  if addr >>> 2 < 4096 then .ok (d.reg addr) else .error (.regs (addr >>> 2))

/-- `gpgpu_write`, with the memory of the guest: the doorbell, the two start registers, and all
others.  The interrupt at the end of a kernel is the guest's affair. -/
def write (host : ByteMem) (d : Gpgpu) (addr val : ℕ) : Except Fault (ByteMem × Gpgpu) :=
  if addr >>> 2 < 4096 then
    if addr = 0x1100 then do
      let r ← dmaTransfer host ((d.setReg addr val).setReg 0x1104 0)
      return (r.1, r.2.setReg 0x1104 1)
    else if addr = 0x201c ∨ addr = 0x24 then do
      let d' ← (d.setReg addr val).processVectorAddition ((d.setReg addr val).reg64 0x08 0x0C)
      return (host, d')
    else .ok (host, d.setReg addr val)
  else .error (.regs (addr >>> 2))

end Gpgpu

/-! ### The guest -/

/-- The guest's memory, the device, and the first access that was outside. -/
structure BarState where
  host : ByteMem
  dev : Gpgpu
  fault : Option Fault := none

/-- The guest reads or writes a register, or has other contents in its memory. -/
inductive BarAct
  | read (addr : ℕ)
  | write (addr val : ℕ)
  | ram (m : ByteMem)

/-- The state after an operation of the model. -/
def BarState.after (s : BarState) : Except Fault (ByteMem × Gpgpu) → BarState
  | .ok r => { s with host := r.1, dev := r.2 }
  | .error e => { s with fault := some e }

/-- One access to BAR0, which has `0x4000` bytes.  What follows an access outside is not defined. -/
def BarState.step (s : BarState) : BarAct → Option BarState
  | .read addr =>
      if s.fault = none ∧ addr < 0x4000 then
        some (s.after ((s.dev.read addr).map fun _ => (s.host, s.dev)))
      else none
  | .write addr val =>
      if s.fault = none ∧ addr < 0x4000 then some (s.after (s.dev.write s.host addr val)) else none
  | .ram m => if s.fault = none then some { s with host := m } else none

/-! ### Ranges of the DDR -/

theorem inDdr_add (offset : ℤ) (m n : ℕ) :
    InDdr offset (m + n) ↔ InDdr offset m ∧ InDdr (offset + m) n := by
  unfold InDdr
  omega

theorem toInt32_of_lt {x : ℤ} (h₁ : 0 ≤ x) (h₂ : x < 2 ^ 31) : toInt32 x = x := by
  unfold toInt32
  rw [Int.emod_eq_of_lt h₁ (by omega), if_pos h₂]

theorem bind_eq_ok_iff {ε α β : Type} {x : Except ε α} {f : α → Except ε β} {b : β} :
    (x >>= f) = .ok b ↔ ∃ a, x = .ok a ∧ f a = .ok b := by
  cases x with
  | error e => simp [bind, Except.bind]
  | ok a => simp [bind, Except.bind]

namespace Gpgpu

variable {d d' : Gpgpu} {va n x : ℕ} {offset psrcA psrcB pdest : ℤ}

/-! ### Registers -/

theorem reg_setReg (d : Gpgpu) (a b val : ℕ) :
    (d.setReg a val).reg b = if b >>> 2 = a >>> 2 then val % 2 ^ 32 else d.reg b := by
  unfold reg setReg
  simp only [Function.update_apply]
  split
  · exact UInt32.toNat_ofNat'
  · rfl

theorem reg_setReg_of_ne {a b : ℕ} (h : b >>> 2 ≠ a >>> 2) (val : ℕ) :
    (d.setReg a val).reg b = d.reg b := by
  rw [reg_setReg, if_neg h]

@[simp] theorem setMem_self (d : Gpgpu) : d.setMem d.mem = d := rfl

@[simp] theorem setReg_mem (d : Gpgpu) (a val : ℕ) : (d.setReg a val).mem = d.mem := rfl

/-! ### Reads and translations -/

/-- The translation of an address whose entry can be read. -/
def translated (d : Gpgpu) (va : ℕ) : ℕ := decodePte (d.mem.load (d.pteOffset va).toNat 8) va

theorem loadDdr_eq_ok_iff :
    d.loadDdr offset n = .ok x ↔ InDdr offset n ∧ d.mem.load offset.toNat n = x := by
  unfold loadDdr
  split <;> simp [*]

theorem storeDdr_eq_ok_iff {v : ℕ} : d.storeDdr offset n v = .ok d' ↔
    InDdr offset n ∧ d.setMem (d.mem.store offset.toNat n v) = d' := by
  unfold storeDdr
  split <;> simp [*]

theorem translateVa_eq_ok_iff :
    d.translateVa va = .ok x ↔ InDdr (d.pteOffset va) 8 ∧ d.translated va = x := by
  unfold translateVa
  rw [bind_eq_ok_iff]
  constructor
  · rintro ⟨e, he, hx⟩
    obtain ⟨hin, rfl⟩ := loadDdr_eq_ok_iff.1 he
    exact ⟨hin, Except.ok.inj hx⟩
  · rintro ⟨hin, rfl⟩
    exact ⟨_, loadDdr_eq_ok_iff.2 ⟨hin, rfl⟩, rfl⟩

/-! ### The vector addition -/

/-- The DDR after the first `n` words at `a` and `b` were added up to `c`. -/
def sumWords (m : ByteMem) (a b c : ℕ) : ℕ → ByteMem
  | 0 => m
  | n + 1 =>
      (sumWords m a b c n).store (c + 4 * n) 4
        (((sumWords m a b c n).load (a + 4 * n) 4 + (sumWords m a b c n).load (b + 4 * n) 4) %
          2 ^ 32)

theorem toNat_add_mul {n : ℕ} (h : InDdr offset (4 * n)) :
    (offset + 4 * n).toNat = offset.toNat + 4 * n := by
  unfold InDdr at h
  omega

/-- The loop goes through when all words lie within the DDR. -/
theorem addWords_eq_ok_iff : addWords psrcA psrcB pdest n d = .ok d' ↔
    (InDdr psrcA (4 * n) ∧ InDdr psrcB (4 * n) ∧ InDdr pdest (4 * n)) ∧
      d.setMem (sumWords d.mem psrcA.toNat psrcB.toNat pdest.toNat n) = d' := by
  induction n generalizing d' with
  | zero => simp [addWords, InDdr, sumWords]
  | succ n ih =>
      have hsucc : ∀ offset : ℤ, InDdr offset (4 * (n + 1)) ↔
          InDdr offset (4 * n) ∧ InDdr (offset + 4 * n) 4 := by
        intro offset
        rw [Nat.mul_succ, inDdr_add]
        norm_num
      rw [addWords, bind_eq_ok_iff, hsucc, hsucc, hsucc]
      constructor
      · rintro ⟨d₁, h₁, h₂⟩
        obtain ⟨⟨ha, hb, hc⟩, rfl⟩ := ih.1 h₁
        obtain ⟨x, hx, h₃⟩ := bind_eq_ok_iff.1 h₂
        obtain ⟨y, hy, h₄⟩ := bind_eq_ok_iff.1 h₃
        obtain ⟨hina, rfl⟩ := loadDdr_eq_ok_iff.1 hx
        obtain ⟨hinb, rfl⟩ := loadDdr_eq_ok_iff.1 hy
        obtain ⟨hinc, rfl⟩ := storeDdr_eq_ok_iff.1 h₄
        refine ⟨⟨⟨ha, hina⟩, ⟨hb, hinb⟩, hc, hinc⟩, ?_⟩
        rw [toNat_add_mul ha, toNat_add_mul hb, toNat_add_mul hc]
        rfl
      · rintro ⟨⟨⟨ha, hina⟩, ⟨hb, hinb⟩, hc, hinc⟩, rfl⟩
        refine ⟨_, ih.2 ⟨⟨ha, hb, hc⟩, rfl⟩, ?_⟩
        refine bind_eq_ok_iff.2 ⟨_, loadDdr_eq_ok_iff.2 ⟨hina, rfl⟩, ?_⟩
        refine bind_eq_ok_iff.2 ⟨_, loadDdr_eq_ok_iff.2 ⟨hinb, rfl⟩, ?_⟩
        refine storeDdr_eq_ok_iff.2 ⟨hinc, ?_⟩
        rw [toNat_add_mul ha, toNat_add_mul hb, toNat_add_mul hc]
        rfl

/-- The place of the kernel's arguments in the DDR. -/
def argsOffset (d : Gpgpu) (kernelArgsAddr : ℕ) : ℤ := localDdrAddress (d.translated kernelArgsAddr)

/-- The `k`-th argument of the kernel: the virtual address of an operand. -/
def operand (d : Gpgpu) (kernelArgsAddr k : ℕ) : ℕ :=
  d.mem.load (d.argsOffset kernelArgsAddr + 8 * k).toNat 8

/-- The place of the `k`-th operand in the DDR. -/
def operandOffset (d : Gpgpu) (kernelArgsAddr k : ℕ) : ℤ :=
  localDdrAddress (d.translated (d.operand kernelArgsAddr k))

/-- The accesses of the kernel lie within the DDR: the entry of the page of its arguments, the three
arguments, and for each of them the entry of its page and 4096 bytes from the operand on. -/
def KernelInside (d : Gpgpu) (kernelArgsAddr : ℕ) : Prop :=
  InDdr (d.pteOffset kernelArgsAddr) 8 ∧ InDdr (d.argsOffset kernelArgsAddr) 24 ∧
    ∀ k < 3, InDdr (d.pteOffset (d.operand kernelArgsAddr k)) 8 ∧
      InDdr (d.operandOffset kernelArgsAddr k) 4096

instance (d : Gpgpu) (kernelArgsAddr : ℕ) : Decidable (d.KernelInside kernelArgsAddr) :=
  inferInstanceAs (Decidable (_ ∧ _))

/-- **The kernel goes through exactly when its accesses lie within the DDR**, and then it adds 1024
words. -/
theorem processVectorAddition_eq_ok_iff {args : ℕ} : d.processVectorAddition args = .ok d' ↔
    d.KernelInside args ∧
      d.setMem (sumWords d.mem (d.operandOffset args 0).toNat (d.operandOffset args 1).toNat
        (d.operandOffset args 2).toNat 1024) = d' := by
  have hargs : InDdr (d.argsOffset args) 24 ↔ InDdr (d.argsOffset args) 8 ∧
      InDdr (d.argsOffset args + 8) 8 ∧ InDdr (d.argsOffset args + 16) 8 := by
    unfold InDdr
    omega
  have hthree : ∀ P : ℕ → Prop, (∀ k < 3, P k) ↔ P 0 ∧ P 1 ∧ P 2 := by
    intro P
    constructor
    · exact fun h => ⟨h 0 (by omega), h 1 (by omega), h 2 (by omega)⟩
    · rintro ⟨h₀, h₁, h₂⟩ k hk
      interval_cases k
      · exact h₀
      · exact h₁
      · exact h₂
  have h₀ : d.mem.load (d.argsOffset args).toNat 8 = d.operand args 0 := by simp [operand]
  have h₁ : d.mem.load (d.argsOffset args + 8).toNat 8 = d.operand args 1 := by simp [operand]
  have h₂ : d.mem.load (d.argsOffset args + 16).toNat 8 = d.operand args 2 := by simp [operand]
  rw [processVectorAddition, KernelInside, hargs, hthree]
  constructor
  · -- the computation goes through step by step, and each step says where it read
    intro h
    obtain ⟨pa, hpa, h⟩ := bind_eq_ok_iff.1 h
    obtain ⟨hin, rfl⟩ := translateVa_eq_ok_iff.1 hpa
    obtain ⟨a, ha, h⟩ := bind_eq_ok_iff.1 h
    obtain ⟨b, hb, h⟩ := bind_eq_ok_iff.1 h
    obtain ⟨c, hc, h⟩ := bind_eq_ok_iff.1 h
    obtain ⟨hina, ha⟩ := loadDdr_eq_ok_iff.1 ha
    obtain ⟨hinb, hb⟩ := loadDdr_eq_ok_iff.1 hb
    obtain ⟨hinc, hc⟩ := loadDdr_eq_ok_iff.1 hc
    obtain rfl : d.operand args 0 = a := h₀.symm.trans ha
    obtain rfl : d.operand args 1 = b := h₁.symm.trans hb
    obtain rfl : d.operand args 2 = c := h₂.symm.trans hc
    obtain ⟨pa, hpa, h⟩ := bind_eq_ok_iff.1 h
    obtain ⟨pb, hpb, h⟩ := bind_eq_ok_iff.1 h
    obtain ⟨pd, hpd, h⟩ := bind_eq_ok_iff.1 h
    obtain ⟨hta, rfl⟩ := translateVa_eq_ok_iff.1 hpa
    obtain ⟨htb, rfl⟩ := translateVa_eq_ok_iff.1 hpb
    obtain ⟨htd, rfl⟩ := translateVa_eq_ok_iff.1 hpd
    obtain ⟨⟨hwa, hwb, hwd⟩, rfl⟩ := addWords_eq_ok_iff.1 h
    exact ⟨⟨hin, ⟨hina, hinb, hinc⟩, ⟨hta, hwa⟩, ⟨htb, hwb⟩, htd, hwd⟩, rfl⟩
  · rintro ⟨⟨hin, ⟨hina, hinb, hinc⟩, ⟨hta, hwa⟩, ⟨htb, hwb⟩, htd, hwd⟩, rfl⟩
    refine bind_eq_ok_iff.2 ⟨_, translateVa_eq_ok_iff.2 ⟨hin, rfl⟩, ?_⟩
    refine bind_eq_ok_iff.2 ⟨_, loadDdr_eq_ok_iff.2 ⟨hina, h₀⟩, ?_⟩
    refine bind_eq_ok_iff.2 ⟨_, loadDdr_eq_ok_iff.2 ⟨hinb, h₁⟩, ?_⟩
    refine bind_eq_ok_iff.2 ⟨_, loadDdr_eq_ok_iff.2 ⟨hinc, h₂⟩, ?_⟩
    refine bind_eq_ok_iff.2 ⟨_, translateVa_eq_ok_iff.2 ⟨hta, rfl⟩, ?_⟩
    refine bind_eq_ok_iff.2 ⟨_, translateVa_eq_ok_iff.2 ⟨htb, rfl⟩, ?_⟩
    refine bind_eq_ok_iff.2 ⟨_, translateVa_eq_ok_iff.2 ⟨htd, rfl⟩, ?_⟩
    exact addWords_eq_ok_iff.2 ⟨⟨hwa, hwb, hwd⟩, rfl⟩

/-! ### Register writes -/

theorem index_lt {addr : ℕ} (haddr : addr < 0x4000) : addr >>> 2 < 4096 := by
  rw [Nat.shiftRight_eq_div_pow]
  omega

/-- The transfer that the registers describe lies within the DDR. -/
def DmaInside (d : Gpgpu) : Prop :=
  InDdr (ddrIndex (if d.reg 0x1000 = 0 then d.reg64 0x1014 0x1018 else d.reg64 0x100c 0x1010))
    (d.reg 0x1008)

instance (d : Gpgpu) : Decidable d.DmaInside := inferInstanceAs (Decidable (InDdr _ _))

/-- The accesses that a write to a register causes lie within the DDR. -/
def WriteInside (d : Gpgpu) (addr : ℕ) : Prop :=
  (addr = 0x1100 → d.DmaInside) ∧
    (addr = 0x201c ∨ addr = 0x24 → d.KernelInside (d.reg64 0x08 0x0C))

instance (d : Gpgpu) (addr : ℕ) : Decidable (d.WriteInside addr) :=
  inferInstanceAs (Decidable (_ ∧ _))

/-- The guest's memory and the device after a transfer. -/
def transferred (host : ByteMem) (d : Gpgpu) : ByteMem × Gpgpu :=
  if d.reg 0x1000 = 0 then
    (host, d.setMem (d.mem.copy (ddrIndex (d.reg64 0x1014 0x1018)) (d.reg 0x1008) host
      (d.reg64 0x100c 0x1010)))
  else
    (host.copy (d.reg64 0x1014 0x1018) (d.reg 0x1008) d.mem (ddrIndex (d.reg64 0x100c 0x1010)), d)

theorem dmaTransfer_eq_ok_iff {host : ByteMem} {r : ByteMem × Gpgpu} :
    dmaTransfer host d = .ok r ↔ d.DmaInside ∧ transferred host d = r := by
  unfold dmaTransfer DmaInside transferred
  by_cases hdir : d.reg 0x1000 = 0
  · simp only [if_pos hdir]
    split <;> simp [*]
  · simp only [if_neg hdir]
    split <;> simp [*]

theorem kernelInside_congr (hmem : d'.mem = d.mem) (hreg : d'.reg 0x508 = d.reg 0x508)
    (args : ℕ) : d'.KernelInside args ↔ d.KernelInside args := by
  simp only [KernelInside, operandOffset, operand, argsOffset, translated, pteOffset, hmem, hreg]

/-- **A write to a register goes through exactly when the accesses it causes are inside.** -/
theorem exists_write_iff (host : ByteMem) {addr : ℕ} (haddr : addr < 0x4000) (val : ℕ) :
    (∃ r, d.write host addr val = .ok r) ↔ d.WriteInside addr := by
  unfold write WriteInside
  rw [if_pos (index_lt haddr)]
  by_cases hbell : addr = 0x1100
  · subst hbell
    have hregs : ((d.setReg 0x1100 val).setReg 0x1104 0).DmaInside ↔ d.DmaInside := by
      simp [DmaInside, reg64, reg_setReg]
    simp only [if_true, forall_const, bind_eq_ok_iff, dmaTransfer_eq_ok_iff, hregs]
    constructor
    · rintro ⟨r, a, ⟨hin, _⟩, _⟩
      exact ⟨hin, by norm_num⟩
    · rintro ⟨hin, _⟩
      exact ⟨_, _, ⟨hin, rfl⟩, rfl⟩
  · by_cases hstart : addr = 0x201c ∨ addr = 0x24
    · have hne : ∀ b, b ∈ [0x08, 0x0C, 0x508] → b >>> 2 ≠ addr >>> 2 := by
        obtain rfl | rfl := hstart <;> decide
      have hargs : (d.setReg addr val).reg64 0x08 0x0C = d.reg64 0x08 0x0C := by
        rw [reg64, reg_setReg_of_ne (hne _ (by simp)), reg_setReg_of_ne (hne _ (by simp)), reg64]
      have hkernel : ∀ args, (d.setReg addr val).KernelInside args ↔ d.KernelInside args :=
        kernelInside_congr rfl (reg_setReg_of_ne (hne _ (by simp)) val)
      rw [if_neg hbell, if_pos hstart, hargs]
      simp only [bind_eq_ok_iff, processVectorAddition_eq_ok_iff, hkernel]
      constructor
      · rintro ⟨r, a, ⟨hin, _⟩, _⟩
        exact ⟨fun h => absurd h hbell, fun _ => hin⟩
      · rintro ⟨_, hin⟩
        exact ⟨_, _, ⟨hin hstart, rfl⟩, rfl⟩
    · rw [if_neg hbell, if_neg hstart]
      exact ⟨fun _ => ⟨fun h => absurd h hbell, fun h => absurd h hstart⟩, fun _ => ⟨_, rfl⟩⟩

end Gpgpu

/-! ### Runs of the guest -/

/-- An access to BAR0 that stays inside, as a condition on the registers and the DDR before it. -/
def BarState.Inside (s : BarState) : BarAct → Prop
  | .read _ => True
  | .write addr _ => s.dev.WriteInside addr
  | .ram _ => True

/-- **A step stays inside exactly under the condition**; the registers are never missed. -/
theorem BarState.step_fault_iff {s s' : BarState} {a : BarAct} (h : s.step a = some s') :
    s'.fault = none ↔ s.Inside a := by
  cases a with
  | read addr =>
      simp only [BarState.step] at h
      split at h
      · next hs =>
          cases h
          simp [Gpgpu.read, Gpgpu.index_lt hs.2, Except.map, BarState.after, hs.1, BarState.Inside]
      · cases h
  | write addr val =>
      simp only [BarState.step] at h
      split at h
      · next hs =>
          cases h
          rw [BarState.Inside, ← Gpgpu.exists_write_iff s.host hs.2 val]
          cases hw : s.dev.write s.host addr val with
          | ok r => simp [BarState.after, hs.1]
          | error e => simp [BarState.after]
      · cases h
  | ram m =>
      simp only [BarState.step] at h
      split at h
      · next hs =>
          cases h
          simp [hs, BarState.Inside]
      · cases h

/-! ### The registers -/

/-- A computation that misses no register. -/
structure HitsRegs {α : Type} (x : Except Fault α) : Prop where
  ne_regs : ∀ k, x ≠ .error (.regs k)

theorem hitsRegs_ok {α : Type} (a : α) : HitsRegs (.ok a) := ⟨fun _ h => by cases h⟩

theorem hitsRegs_bind {α β : Type} {x : Except Fault α} {f : α → Except Fault β} (hx : HitsRegs x)
    (hf : ∀ a, HitsRegs (f a)) : HitsRegs (x >>= f) := by
  refine ⟨fun k h => ?_⟩
  cases x with
  | error e =>
      cases h
      exact hx.ne_regs k rfl
  | ok a => exact (hf a).ne_regs k h

namespace Gpgpu

theorem hitsRegs_loadDdr (d : Gpgpu) (offset : ℤ) (n : ℕ) : HitsRegs (d.loadDdr offset n) := by
  refine ⟨fun k => ?_⟩
  unfold loadDdr
  split <;> simp

theorem hitsRegs_storeDdr (d : Gpgpu) (offset : ℤ) (n v : ℕ) :
    HitsRegs (d.storeDdr offset n v) := by
  refine ⟨fun k => ?_⟩
  unfold storeDdr
  split <;> simp

theorem hitsRegs_translateVa (d : Gpgpu) (va : ℕ) : HitsRegs (d.translateVa va) :=
  hitsRegs_bind (hitsRegs_loadDdr ..) fun _ => hitsRegs_ok _

theorem hitsRegs_addWords (psrcA psrcB pdest : ℤ) (n : ℕ) (d : Gpgpu) :
    HitsRegs (addWords psrcA psrcB pdest n d) := by
  induction n with
  | zero => exact hitsRegs_ok d
  | succ n ih =>
      exact hitsRegs_bind ih fun d => hitsRegs_bind (hitsRegs_loadDdr ..) fun _ =>
        hitsRegs_bind (hitsRegs_loadDdr ..) fun _ => hitsRegs_storeDdr ..

theorem hitsRegs_processVectorAddition (d : Gpgpu) (args : ℕ) :
    HitsRegs (d.processVectorAddition args) :=
  hitsRegs_bind (hitsRegs_translateVa ..) fun _ => hitsRegs_bind (hitsRegs_loadDdr ..) fun _ =>
    hitsRegs_bind (hitsRegs_loadDdr ..) fun _ => hitsRegs_bind (hitsRegs_loadDdr ..) fun _ =>
    hitsRegs_bind (hitsRegs_translateVa ..) fun _ =>
    hitsRegs_bind (hitsRegs_translateVa ..) fun _ =>
    hitsRegs_bind (hitsRegs_translateVa ..) fun _ => hitsRegs_addWords ..

theorem hitsRegs_dmaTransfer (host : ByteMem) (d : Gpgpu) : HitsRegs (dmaTransfer host d) := by
  refine ⟨fun k => ?_⟩
  unfold dmaTransfer
  dsimp only
  split <;> split <;> simp

theorem hitsRegs_write (host : ByteMem) (d : Gpgpu) {addr : ℕ} (haddr : addr < 0x4000) (val : ℕ) :
    HitsRegs (d.write host addr val) := by
  unfold write
  rw [if_pos (index_lt haddr)]
  split
  · exact hitsRegs_bind (hitsRegs_dmaTransfer ..) fun _ => hitsRegs_ok _
  · split
    · exact hitsRegs_bind (hitsRegs_processVectorAddition ..) fun _ => hitsRegs_ok _
    · exact hitsRegs_ok _

end Gpgpu

/-- No step misses a register. -/
theorem BarState.step_hitsRegs {s s' : BarState} {a : BarAct} (h : s.step a = some s') (k : ℕ) :
    s'.fault ≠ some (.regs k) := by
  cases a with
  | read addr =>
      simp only [BarState.step] at h
      split at h
      · next hs =>
          cases h
          simp [Gpgpu.read, Gpgpu.index_lt hs.2, Except.map, BarState.after, hs.1]
      · cases h
  | write addr val =>
      simp only [BarState.step] at h
      split at h
      · next hs =>
          cases h
          have hregs := Gpgpu.hitsRegs_write s.host s.dev hs.2 val
          cases hw : s.dev.write s.host addr val with
          | ok r => simp [BarState.after, hs.1]
          | error e =>
              rintro he
              cases he
              exact hregs.ne_regs k hw
      · cases h
  | ram m =>
      simp only [BarState.step] at h
      split at h
      · next hs =>
          cases h
          simp [hs]
      · cases h

/-- **The device model stays inside its DDR exactly as long as the guest's accesses meet the
condition**, whatever is in the DDR and in the guest's memory; and it never misses its registers. -/
theorem bar_inside_iff (host : ByteMem) (dev : Gpgpu) :
    Machine.ExactFor BarState.step { host := host, dev := dev } BarState.Inside
        (fun s => s.fault ≠ none) ∧
      ∀ as s k, Machine.run BarState.step { host := host, dev := dev } as = some s →
        s.fault ≠ some (.regs k) := by
  refine ⟨⟨fun hobeys hrun => ?_, fun {as s s' a} _ _ hstep hbreak => ?_⟩, fun as s k hrun => ?_⟩
  · have hsafe := Machine.run_invariant (I := fun s : BarState => s.fault = none)
      (fun s a s' _ hin hstep => (BarState.step_fault_iff hstep).2 hin) rfl hobeys hrun
    exact fun h => h hsafe
  · exact ⟨s', .refl s', fun h => hbreak ((BarState.step_fault_iff hstep).1 h)⟩
  · exact Machine.Reachable.invariant (I := fun s : BarState => s.fault ≠ some (.regs k)) ⟨as, hrun⟩
      (fun h => by cases h) fun s a s' _ hstep => BarState.step_hitsRegs hstep k

/-- Three writes make the model write behind its DDR: the destination of the transfer is the first
byte after it. -/
theorem bar_escapes : ∃ s,
    Machine.run BarState.step { host := fun _ => 0, dev := { mem := fun _ => 0 } }
      [.write 0x1014 0x88000000, .write 0x1008 16, .write 0x1100 1] = some s ∧
    s.fault = some (.ddr 0x8000000 16) :=
  Option.map_eq_some_iff.1 (by decide)

end Gpu

end Dvf
