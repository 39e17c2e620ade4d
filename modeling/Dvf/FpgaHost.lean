/-
**Programs on the device node of the FPGA driver** (`c-test-binaries/common/device_helpers.h`).

The test binaries open the device node, seek to a register and read or write its four bytes.  Here
they are programs of system calls.  The calls are answered by the file operations of
`Dvf/FpgaDriver.lean`, and these access a device that is given by what it does on a read and on a
write of a register.  A descriptor is never used again after it was closed.

Main definitions:

* `Dvf.RegDevice`, `Dvf.RegDevice.Faithful` — devices, and those that keep their registers;
* `Dvf.Fpga.Sys`, `Dvf.Fpga.Host`, `Dvf.Fpga.sys` — system calls, and what they do;
* `Dvf.Fpga.dvfWriteReg`, `Dvf.Fpga.dvfReadReg` — register access.

Main results:

* `Dvf.Fpga.sys_lseek`, `Dvf.Fpga.sys_write`, `Dvf.Fpga.sys_read` — the calls of a register access.
-/

import Dvf.FpgaDriver
import Dvf.Prog
import Mathlib.Data.Set.Operations

set_option autoImplicit false

namespace Dvf

/-! ### Devices -/

/-- **A device of registers**, with the addresses `A` and the values `V`. -/
structure RegDevice (σ A V : Type*) where
  read : σ → A → V × σ
  write : σ → A → V → σ

/-- **A device keeps the registers of `S`**: a read changes nothing and finds what was written, and
a write leaves the other registers. -/
structure RegDevice.Faithful {σ A V : Type*} (D : RegDevice σ A V) (S : Set A) : Prop where
  read_snd : ∀ s, ∀ a ∈ S, (D.read s a).2 = s
  read_write : ∀ s v, ∀ a ∈ S, (D.read (D.write s a v) a).1 = v
  read_write_of_ne : ∀ s v, ∀ a ∈ S, ∀ b ∈ S, b ≠ a →
    (D.read (D.write s a v) b).1 = (D.read s b).1

def RegDevice.cells (A V : Type*) [DecidableEq A] : RegDevice (A → V) A V where
  read s a := (s a, s)
  write s a v := Function.update s a v

theorem RegDevice.faithful_cells {A V : Type*} [DecidableEq A] (S : Set A) :
    (cells A V).Faithful S where
  read_snd _ _ _ := rfl
  read_write _ _ _ _ := Function.update_self _ _ _
  read_write_of_ne _ _ _ _ _ _ hne := Function.update_of_ne hne _ _

namespace Fpga

/-! ### The configuration -/

/-- `DeviceConfig`, as far as register access reads it. -/
structure DeviceConfig where
  devicePath : String
  regSize : ℕ
  regSize_pos : 0 < regSize

def DeviceConfig.offset (cfg : DeviceConfig) (regIdx : ℕ) : Int64 := .ofNat (regIdx * cfg.regSize)

def DeviceConfig.addr (cfg : DeviceConfig) (regIdx : ℕ) : ℤ := (regIdx * cfg.regSize : ℕ)

theorem addr_injective (cfg : DeviceConfig) : Function.Injective cfg.addr := by
  intro i j hij
  exact Nat.eq_of_mul_eq_mul_right cfg.regSize_pos (Int.ofNat_inj.1 hij)

theorem addr_ne (cfg : DeviceConfig) (i : ℕ) : cfg.addr i ≠ -1 := by
  have := Int.natCast_nonneg (i * cfg.regSize)
  unfold DeviceConfig.addr
  omega

/-- A register lies in the BAR, and its offset is an `int`. -/
structure DeviceConfig.Inside (cfg : DeviceConfig) (bar0Size : UInt64) (regIdx : ℕ) : Prop where
  whole : regIdx * cfg.regSize + 4 ≤ bar0Size.toNat
  small : regIdx * cfg.regSize < 2 ^ 31

/-! ### System calls -/

inductive OpenMode
  | rdonly
  | wronly
  | rdwr
  deriving DecidableEq, Repr

def OpenMode.reads : OpenMode → Bool
  | .wronly => false
  | _ => true

def OpenMode.writes : OpenMode → Bool
  | .rdonly => false
  | _ => true

/-- What a program asks of its surroundings: the calls on files, where the user's buffer holds a
`uint32_t`, and the two atomic counters that threads share. -/
inductive Sys
  | openFile (path : String) (mode : OpenMode)
  | lseek (fd : ℤ) (off : Int64)
  | read (fd : ℤ) (len : UInt64)
  | write (fd : ℤ) (value : UInt32) (len : UInt64)
  | close (fd : ℤ)
  | addError
  | loadStop
  deriving DecidableEq, Repr

/-- The answer to a call: what it returns, and the buffer of a read, which was zero before. -/
def Sys.Answer : Sys → Type
  | .openFile .. | .lseek .. | .write .. | .close _ => ℤ
  | .read .. => ℤ × UInt32
  | .addError => Unit
  | .loadStop => Bool

abbrev SysProg := Prog Sys Sys.Answer

/-- An open file. -/
structure OpenFile where
  mode : OpenMode
  offset : Int64
  deriving DecidableEq, Repr

/-- The host: the node of the driver, if there is one, the size of its BAR, the device, the files
that were opened, and `g_errors` and `g_stop`. -/
structure Host (σ : Type) where
  node : Option String
  bar0Size : UInt64
  dev : σ
  files : List (Option OpenFile) := []
  errors : ℕ := 0
  stop : Bool := false

/-- A device of registers at distances from `mmio_base`. -/
abbrev Bar (σ : Type) := RegDevice σ ℤ UInt32

variable {σ : Type}

/-- An access of the driver to the device. -/
def access (D : Bar σ) (s : σ) : BarAccess → σ
  | .ioread32 addr => (D.read s addr).2
  | .iowrite32 val addr => D.write s addr val

namespace Host

def file (h : Host σ) (fd : ℤ) : Option OpenFile :=
  if 0 ≤ fd then (h.files[fd.toNat]?).join else none

def setFile (h : Host σ) (fd : ℤ) (f : Option OpenFile) : Host σ :=
  { h with files := h.files.set fd.toNat f }

def withFile (h : Host σ) (f : OpenFile) : Host σ := { h with files := h.files ++ [some f] }

/-- The host after an access through a file, with the new offset and the new state of the device. -/
def moved (h : Host σ) (fd : ℤ) (f : OpenFile) (off : Int64) (dev : σ) : Host σ :=
  { h.setFile fd (some { f with offset := off }) with dev := dev }

/-- The host after a call of the driver on a file. -/
def finish (h : Host σ) (D : Bar σ) (fd : ℤ) (f : OpenFile) (c : Call) : Host σ :=
  h.moved fd f c.offset (c.accesses.foldl (access D) h.dev)

end Host

/-- The C library returns -1 where the kernel returns an error. -/
def libcRet (ret : ℤ) : ℤ := if ret < 0 then -1 else ret

/-- **What the system calls do.**  The user's buffer takes all four bytes. -/
def sys (D : Bar σ) (h : Host σ) : (c : Sys) → c.Answer × Host σ
  | .openFile path mode =>
      if h.node = some path then ((h.files.length : ℤ), h.withFile ⟨mode, 0⟩) else ((-1 : ℤ), h)
  | .lseek fd off =>
      match h.file fd with
      | some f =>
          if 0 ≤ off then
            (off.toInt, h.setFile fd (some { f with offset := defaultLlseek f.offset off .set }))
          else ((-1 : ℤ), h)
      | none => ((-1 : ℤ), h)
  | .read fd len =>
      match h.file fd with
      | some f =>
          if f.mode.reads = true then
            let val := (D.read h.dev f.offset.toInt).1
            let c := devRead h.bar0Size len val 4 f.offset
            ((libcRet c.ret, if c.moved = [] then (0 : UInt32) else val), h.finish D fd f c)
          else (((-1 : ℤ), (0 : UInt32)), h)
      | none => (((-1 : ℤ), (0 : UInt32)), h)
  | .write fd value len =>
      match h.file fd with
      | some f =>
          if f.mode.writes = true then
            let c := devWrite h.bar0Size len value 4 f.offset
            (libcRet c.ret, h.finish D fd f c)
          else ((-1 : ℤ), h)
      | none => ((-1 : ℤ), h)
  | .close fd =>
      match h.file fd with
      | some _ => ((0 : ℤ), h.setFile fd none)
      | none => ((-1 : ℤ), h)
  | .addError => ((), { h with errors := h.errors + 1 })
  | .loadStop => (h.stop, h)

/-! ### Register access -/

def lseek (fd : ℤ) (off : Int64) : SysProg ℤ := Prog.perform (Sys.lseek fd off)

def writeWord (fd : ℤ) (value : UInt32) (len : UInt64) : SysProg ℤ :=
  Prog.perform (Sys.write fd value len)

/-- `close`, with its value ignored. -/
def closeFile (fd : ℤ) : SysProg PUnit := do
  let _ ← Prog.perform (Sys.close fd)
  return ⟨⟩

/-- `dvf_open_device`. -/
def dvfOpenDevice (cfg : DeviceConfig) (mode : OpenMode) : SysProg ℤ :=
  Prog.perform (Sys.openFile cfg.devicePath mode)

/-- `dvf_write_reg`. -/
def dvfWriteReg (fd : ℤ) (regIdx : ℕ) (value : UInt32) (cfg : DeviceConfig) : SysProg ℤ := do
  let pos ← lseek fd (cfg.offset regIdx)
  if pos = -1 then return -1
  else
    let n ← writeWord fd value 4
    if n ≠ 4 then return -1 else return 0

namespace Host

variable {h : Host σ} {fd fd' : ℤ} {f : OpenFile}

theorem file_eq_some_iff :
    h.file fd = some f ↔ 0 ≤ fd ∧ h.files[fd.toNat]? = some (some f) := by
  unfold file
  split
  · next hfd => simp [hfd, Option.join_eq_some_iff]
  · next hfd => simp [hfd]

theorem file_setFile_self (hf : h.file fd = some f) (g : OpenFile) :
    (h.setFile fd (some g)).file fd = some g := by
  obtain ⟨hfd, hget⟩ := file_eq_some_iff.1 hf
  exact file_eq_some_iff.2 ⟨hfd, Machine.getElem?_set_self_of hget _⟩

theorem file_setFile_of_ne (hfd : 0 ≤ fd) (hne : fd' ≠ fd) (g : Option OpenFile) :
    (h.setFile fd g).file fd' = h.file fd' := by
  unfold file setFile
  split
  · have hne' : fd.toNat ≠ fd'.toNat := by omega
    rw [List.getElem?_set_ne hne']
  · rfl

theorem file_withFile (h : Host σ) (f : OpenFile) :
    (h.withFile f).file (h.files.length : ℤ) = some f := by
  refine file_eq_some_iff.2 ⟨Int.natCast_nonneg _, ?_⟩
  rw [Int.toNat_natCast]
  exact List.getElem?_concat_length

theorem file_withFile_of_some (hf : h.file fd = some f) (g : OpenFile) :
    (h.withFile g).file fd = some f ∧ fd ≠ h.files.length := by
  obtain ⟨hpos, hget⟩ := file_eq_some_iff.1 hf
  have hlt : fd.toNat < h.files.length := (List.getElem?_eq_some_iff.1 hget).1
  refine ⟨file_eq_some_iff.2 ⟨hpos, ?_⟩, by omega⟩
  change (h.files ++ [some g])[fd.toNat]? = _
  rw [List.getElem?_append_left hlt]
  exact hget

end Host

/-! ### The calls of a register access -/

section Access

variable {cfg : DeviceConfig} {h : Host σ} {fd : ℤ} {f : OpenFile} {i : ℕ}

theorem toInt_offset {bar0Size : UInt64} (hi : cfg.Inside bar0Size i) :
    (cfg.offset i).toInt = cfg.addr i := by
  have hsmall := hi.small
  exact Int64.toInt_ofNat_of_lt (by omega)

theorem zero_le_offset {bar0Size : UInt64} (hi : cfg.Inside bar0Size i) : 0 ≤ cfg.offset i := by
  rw [Int64.le_iff_toInt_le, toInt_offset hi]
  exact Int.natCast_nonneg _

theorem not_le_offset {bar0Size : UInt64} (hi : cfg.Inside bar0Size i) :
    ¬ bar0Size ≤ (cfg.offset i).toUInt64 := by
  have hwhole := hi.whole
  have hunsigned := toNat_toUInt64_of_nonneg (Int64.le_iff_toInt_le.1 (zero_le_offset hi))
  rw [toInt_offset hi, DeviceConfig.addr] at hunsigned
  rw [UInt64.le_iff_toNat_le]
  omega

theorem sys_lseek (D : Bar σ) (hf : h.file fd = some f) (hi : cfg.Inside h.bar0Size i) :
    sys D h (.lseek fd (cfg.offset i)) = (cfg.addr i, h.moved fd f (cfg.offset i) h.dev) := by
  have hpos := zero_le_offset hi
  have htarget : defaultLlseek f.offset (cfg.offset i) .set = cfg.offset i := by
    change (if 0 ≤ cfg.offset i then cfg.offset i else f.offset) = _
    rw [if_pos hpos]
  simp only [sys, hf]
  rw [if_pos hpos, htarget, toInt_offset hi]
  rfl

theorem sys_write (D : Bar σ) (hf : h.file fd = some f) (hmode : f.mode.writes = true)
    (hi : cfg.Inside h.bar0Size i) (hoff : f.offset = cfg.offset i) (v : UInt32) :
    sys D h (.write fd v 4) =
      ((4 : ℤ), h.moved fd f (cfg.offset i + 4) (D.write h.dev (cfg.addr i) v)) := by
  have hcall : devWrite h.bar0Size 4 v 4 f.offset =
      ⟨[.iowrite32 v (cfg.addr i)], wordBytes v, 4, cfg.offset i + 4⟩ := by
    rw [hoff, devWrite, if_neg (by decide), if_neg (not_le_offset hi), if_neg (by decide),
      toInt_offset hi]
  simp only [sys, hf]
  rw [if_pos hmode, hcall]
  rfl

theorem sys_read (D : Bar σ) (hf : h.file fd = some f) (hmode : f.mode.reads = true)
    (hi : cfg.Inside h.bar0Size i) (hoff : f.offset = cfg.offset i) :
    sys D h (.read fd 4) =
      (((4 : ℤ), (D.read h.dev (cfg.addr i)).1),
        h.moved fd f (cfg.offset i + 4) (D.read h.dev (cfg.addr i)).2) := by
  have hcall : ∀ v, devRead h.bar0Size 4 v 4 f.offset =
      ⟨[.ioread32 (cfg.addr i)], wordBytes v, 4, cfg.offset i + 4⟩ := by
    intro v
    rw [hoff, devRead, if_neg (by decide), if_neg (not_le_offset hi), if_neg (by decide),
      toInt_offset hi]
  simp only [sys, hf]
  rw [if_pos hmode, hcall, hoff, toInt_offset hi]
  rfl

end Access

end Fpga

end Dvf
