/-
**The threads of the concurrency tests** (`concurrency/test_concurrent_rw.c`).

The tests start threads that open the device each for itself and access registers in a loop; a
failed access is counted in `g_errors`, which has to be 0 after all threads were joined.  A register
access is two calls, a seek and then the access itself, and nothing keeps the calls of two threads
apart.  What saves the tests is that each thread has its own file, and with it an offset of its own.

A thread is a program in the sense of `Dvf/Threads.lean`.  The state that goes with it says which
file it has open, whether the offset of this file stands at its register, and what it wrote last.
No access fails, and a register that was written holds what one of the threads on it wrote last.
The tests are in `Dvf/FpgaRaces.lean`.

The loops of `writer_func` and `reader_func` end when `g_stop` is set; here they also end after a
number of rounds, which is arbitrary.

Main definitions:

* `Dvf.Fpga.writerFunc`, `Dvf.Fpga.readerFunc`, `Dvf.Fpga.multiWriterFunc`,
  `Dvf.Fpga.regWriterFunc` — the threads;
* `Dvf.Fpga.Worker`, `Dvf.Fpga.workerProtocol` — what a thread holds, and how it moves;
* `Dvf.Fpga.Does` — what a part of a thread does.

Main results:

* `Dvf.Fpga.Guarded.call` — **one call of one thread**;
* `Dvf.Fpga.does_writerFunc` and the like — the threads follow the protocol.
-/

import Dvf.FpgaHost
import Dvf.Threads

set_option autoImplicit false

namespace Dvf

namespace Fpga

variable {σ : Type}

/-! ### The threads -/

section Threads

variable (cfg : DeviceConfig)

/-- `atomic_fetch_add(&g_errors, 1)`. -/
def addError : SysProg PUnit := do
  let _ ← Prog.perform Sys.addError
  return ⟨⟩

/-- `atomic_load(&g_stop)`. -/
def loadStop : SysProg Bool := Prog.perform Sys.loadStop

/-- The frame of all threads: the device is opened, or an error is counted. -/
def withDevice (mode : OpenMode) (body : ℤ → SysProg PUnit) : SysProg PUnit := do
  let fd ← dvfOpenDevice cfg mode
  if fd < 0 then addError
  else
    body fd
    closeFile fd

def countError (ret : ℤ) : SysProg PUnit := if ret ≠ 0 then addError else return ⟨⟩

/-- `ITERATIONS`. -/
def iterations : ℕ := 5000

/-- `(thread_id << 16) | i`. -/
def multiValue (threadID i : ℕ) : UInt32 := .ofNat (threadID <<< 16 ||| i)

/-- The loop of `multi_writer_func` from `i` on. -/
def multiWriterLoop (fd : ℤ) (threadID : ℕ) : (left i : ℕ) → SysProg PUnit
  | 0, _ => return ⟨⟩
  | n + 1, i => do
      let stop ← loadStop
      if stop = true then return ⟨⟩
      else
        let r ← dvfWriteReg fd 0 (multiValue threadID i) cfg
        countError r
        multiWriterLoop fd threadID n (i + 1)

/-- `multi_writer_func`. -/
def multiWriterFunc (threadID : ℕ) : SysProg PUnit :=
  withDevice cfg .rdwr fun fd => multiWriterLoop cfg fd threadID iterations 0

structure RegTask where
  regIdx : ℕ
  value : UInt32
  deriving DecidableEq, Repr

/-- The loop of `reg_writer_func`, with `n` rounds, and the write after it. -/
def regWriterBody (fd : ℤ) (task : RegTask) (n : ℕ) : SysProg PUnit := do
  (List.range n).forM fun i => do
    let r ← dvfWriteReg fd task.regIdx (task.value + .ofNat i) cfg
    countError r
  let _ ← dvfWriteReg fd task.regIdx task.value cfg

/-- `reg_writer_func`. -/
def regWriterFunc (task : RegTask) : SysProg PUnit :=
  withDevice cfg .rdwr fun fd => regWriterBody cfg fd task iterations

end Threads

/-! ### What a thread holds -/

/-- What a thread is to do: its register and its mode, the value that it is to leave there, and
whether it looks at `g_stop`. -/
structure Job where
  reg : ℕ
  mode : OpenMode
  goal : Option UInt32 := none
  heeds : Bool := false
  deriving DecidableEq, Repr

/-- **What a thread holds**: its file, whether the offset of this file is at the register of the
thread, what it wrote last, and whether it found `g_stop` set. -/
structure Worker extends Job where
  file : Option ℤ := none
  placed : Bool := false
  last : Option UInt32 := none
  stopped : Bool := false
  deriving DecidableEq, Repr

namespace Worker

variable (w : Worker)

/-- After `open`; nothing is left where a call failed. -/
def afterOpen (fd : ℤ) : Option Worker :=
  if fd < 0 then none else some { w with file := some fd, placed := false }

def afterSeek (pos : ℤ) : Option Worker :=
  if pos = -1 then none else some { w with placed := true }

def afterRead (r : ℤ × UInt32) : Option Worker :=
  if r.1 = 4 then some { w with placed := false } else none

def afterWrite (value : UInt32) (n : ℤ) : Option Worker :=
  if n = 4 then some { w with placed := false, last := some value } else none

def afterLoad (stop : Bool) : Option Worker := some { w with stopped := w.stopped || stop }

def during (fd : ℤ) (last : Option UInt32) (stopped : Bool) : Worker :=
  { w with file := some fd, placed := false, last := last, stopped := stopped }

/-- A thread has left the value that it was to leave, unless it was stopped. -/
def Done : Prop := ∀ v, w.goal = some v → w.last = some v ∨ w.stopped = true

end Worker

/-- **What threads do**: they access their register through their own file.  A thread of which a
call failed holds nothing and may do anything; as long as none has failed, it counts no error. -/
def workerProtocol (cfg : DeviceConfig) : Protocol Sys Sys.Answer (Option Worker) where
  allowed
    | none, _ => True
    | some w, .openFile path mode => w.file = none ∧ path = cfg.devicePath ∧ mode = w.mode
    | some w, .lseek fd off => w.file = some fd ∧ off = cfg.offset w.reg
    | some w, .read fd len => w.file = some fd ∧ w.placed = true ∧ len = 4 ∧ w.mode.reads = true
    | some w, .write fd _ len =>
        w.file = some fd ∧ w.placed = true ∧ len = 4 ∧ w.mode.writes = true
    | some w, .close fd => w.file = some fd
    | some w, .loadStop => w.heeds = true
    | some _, .addError => False
  next
    | none, _, _ => none
    | some w, .openFile .., r => w.afterOpen r
    | some w, .lseek .., r => w.afterSeek r
    | some w, .read .., r => w.afterRead r
    | some w, .write _ v _, r => w.afterWrite v r
    | some w, .close _, _ => some { w with file := none, placed := false }
    | some w, .loadStop, r => w.afterLoad r
    | some w, .addError, _ => some w

theorem toJob_of_next {cfg : DeviceConfig} {w w' : Worker} {c : Sys} {r : c.Answer}
    (h : (workerProtocol cfg).next (some w) c r = some w') : w'.toJob = w.toJob := by
  cases c with
  | openFile | lseek =>
      cases (Option.ite_none_left_eq_some.1 h).2
      rfl
  | read | write =>
      cases (Option.ite_none_right_eq_some.1 h).2
      rfl
  | close | addError | loadStop =>
      cases h
      rfl

/-! ### The host under the threads -/

/-- What the threads leave alone as long as no access fails: the node, the BAR, `g_errors` and
`g_stop`. -/
def Host.frame (h : Host σ) : Option String × UInt64 × ℕ × Bool :=
  (h.node, h.bar0Size, h.errors, h.stop)

/-- A register that was written holds what one of the threads on it wrote last. -/
def LastHeld (D : Bar σ) (cfg : DeviceConfig) (dev : σ) (ws : List Worker) : Prop :=
  ∀ i, (∃ w ∈ ws, w.reg = i ∧ w.last.isSome) →
    ∃ w ∈ ws, w.reg = i ∧ w.last = some (D.read dev (cfg.addr i)).1

/-- **What holds in every state**: no access failed, and each thread has a file of its own, with the
offset where the thread has put it. -/
structure Guarded (D : Bar σ) (cfg : DeviceConfig) (bar0Size : UInt64) (flag : Bool) (h : Host σ)
    (ws : List Worker) : Prop where
  frame : h.frame = (some cfg.devicePath, bar0Size, 0, flag)
  inside : ∀ w ∈ ws, cfg.Inside bar0Size w.reg
  owns : ∀ w ∈ ws, ∀ fd, w.file = some fd →
    ∃ off, h.file fd = some ⟨w.mode, off⟩ ∧ (w.placed = true → off = cfg.offset w.reg)
  apart : ws.Pairwise fun w w' => ∀ fd, w.file = some fd → w'.file ≠ some fd
  stopped : ∀ w ∈ ws, w.stopped = true → w.heeds = true ∧ flag = true
  kept : LastHeld D cfg h.dev ws

namespace Guarded

variable {D : Bar σ} {cfg : DeviceConfig} {bar0Size : UInt64} {flag : Bool} {h h' : Host σ}
  {l₁ l₂ : List Worker} {w w' : Worker}

/-- A new state of one thread and of the host: what has to be checked of the thread alone. -/
theorem replace (hg : Guarded D cfg bar0Size flag h (l₁ ++ w :: l₂))
    (hframe : h'.frame = h.frame) (hjob : w'.toJob = w.toJob)
    (howns : ∀ fd, w'.file = some fd →
      ∃ off, h'.file fd = some ⟨w'.mode, off⟩ ∧ (w'.placed = true → off = cfg.offset w'.reg))
    (hfresh : ∀ fd, w'.file = some fd → w.file = some fd ∨ h.file fd = none)
    (hothers : ∀ fd f, h.file fd = some f → w.file ≠ some fd → h'.file fd = some f)
    (hstopped : w'.stopped = true → w'.heeds = true ∧ flag = true)
    (hkept : LastHeld D cfg h'.dev (l₁ ++ w' :: l₂)) :
    Guarded D cfg bar0Size flag h' (l₁ ++ w' :: l₂) where
  frame := hframe.trans hg.frame
  inside := by
    have hreg : w'.reg = w.reg := congrArg Job.reg hjob
    exact Machine.forall_mem_replace hg.inside (hreg ▸ hg.inside w List.mem_append_cons_self)
  owns := by
    have hapart := hg.apart
    rw [List.pairwise_append, List.pairwise_cons] at hapart
    have howned := hg.owns
    rw [List.forall_mem_append, List.forall_mem_cons] at howned ⊢
    refine ⟨fun v hv fd hfd => ?_, howns, fun v hv fd hfd => ?_⟩
    · obtain ⟨off, hfile, hoff⟩ := howned.1 v hv fd hfd
      exact ⟨off, hothers fd _ hfile (hapart.2.2 v hv w List.mem_cons_self fd hfd), hoff⟩
    · obtain ⟨off, hfile, hoff⟩ := howned.2.2 v hv fd hfd
      exact ⟨off, hothers fd _ hfile fun hw => hapart.2.1.1 v hv fd hw hfd, hoff⟩
  apart := by
    refine Machine.pairwise_replace (fun a b hab fd hb ha => hab fd ha hb) hg.apart
      fun v hv hwv fd hfd hvfd => ?_
    rcases hfresh fd hfd with hold | hnone
    · exact hwv fd hold hvfd
    · obtain ⟨off, hfile, -⟩ := hg.owns v hv fd hvfd
      rw [hnone] at hfile
      cases hfile
  stopped := Machine.forall_mem_replace hg.stopped hstopped
  kept := hkept

theorem kept_of_same (hg : Guarded D cfg bar0Size flag h (l₁ ++ w :: l₂)) {dev : σ}
    (hdev : dev = h.dev) (hreg : w'.reg = w.reg) (hlast : w'.last = w.last) :
    LastHeld D cfg dev (l₁ ++ w' :: l₂) := by
  intro i hi
  rw [hdev]
  refine Machine.exists_mem_replace (hg.kept i (Machine.exists_mem_replace hi ?_)) ?_
  all_goals
    rw [hreg, hlast]
    exact id

/-- A call on the file of the thread, which changes the offset and nothing else of the files. -/
theorem replace_of_file (hg : Guarded D cfg bar0Size flag h (l₁ ++ w :: l₂)) {fd : ℤ}
    (hfd : w.file = some fd) (hfd' : w'.file = some fd) (hjob : w'.toJob = w.toJob)
    (hstopped : w'.stopped = w.stopped) {off₀ off : Int64}
    (hoff : w'.placed = true → off = cfg.offset w.reg) {dev : σ}
    (hkept : LastHeld D cfg dev (l₁ ++ w' :: l₂)) :
    Guarded D cfg bar0Size flag (h.moved fd ⟨w.mode, off₀⟩ off dev) (l₁ ++ w' :: l₂) := by
  have hw : w ∈ l₁ ++ w :: l₂ := List.mem_append_cons_self
  obtain ⟨off₁, hfile, -⟩ := hg.owns w hw fd hfd
  have hpos := (Host.file_eq_some_iff.1 hfile).1
  have hself : (h.setFile fd (some ⟨w.mode, off⟩)).file fd = some ⟨w.mode, off⟩ :=
    Host.file_setFile_self hfile _
  refine hg.replace rfl hjob
    (fun fd₁ hfd₁ => ?_) (fun fd₁ hfd₁ => ?_) (fun fd₁ f hf hne => ?_) ?_ hkept
  · cases hfd'.symm.trans hfd₁
    rw [hjob]
    exact ⟨off, hself, hoff⟩
  · exact Or.inl (hfd.trans (hfd'.symm.trans hfd₁))
  · have hne' : fd₁ ≠ fd := fun heq => hne (heq ▸ hfd)
    exact (Host.file_setFile_of_ne hpos hne' _).trans hf
  · rw [hstopped, hjob]
    exact hg.stopped w hw

section Calls

variable (hD : D.Faithful (Set.range cfg.addr))
  (hg : Guarded D cfg bar0Size flag h (l₁ ++ w :: l₂))

include hg

theorem inside_host : cfg.Inside h.bar0Size w.reg := by
  have hsize : h.bar0Size = bar0Size := congrArg (fun x => x.2.1) hg.frame
  rw [hsize]
  exact hg.inside w List.mem_append_cons_self

theorem call_openFile :
    ∃ w', w.afterOpen (sys D h (.openFile cfg.devicePath w.mode)).1 = some w' ∧
      Guarded D cfg bar0Size flag (sys D h (.openFile cfg.devicePath w.mode)).2
        (l₁ ++ w' :: l₂) := by
  have hsys : sys D h (.openFile cfg.devicePath w.mode) =
      ((h.files.length : ℤ), h.withFile ⟨w.mode, 0⟩) := by
    simp only [sys]
    have hnode : h.node = some cfg.devicePath := congrArg Prod.fst hg.frame
    rw [if_pos hnode]
    rfl
  rw [hsys]
  refine ⟨{ w with file := some h.files.length, placed := false }, if_neg (by omega), ?_⟩
  refine hg.replace rfl rfl
    (fun fd hfd => ?_) (fun fd hfd => Or.inr ?_) (fun fd f hf _ => ?_)
    (hg.stopped w List.mem_append_cons_self) (hg.kept_of_same rfl rfl rfl)
  · cases hfd
    exact ⟨0, h.file_withFile _, fun hplaced => by cases hplaced⟩
  · cases hfd
    -- a file under the new number would have been there before
    rcases hfile : h.file (h.files.length : ℤ) with _ | f
    · rfl
    · exact absurd rfl (Host.file_withFile_of_some hfile ⟨w.mode, 0⟩).2
  · exact (Host.file_withFile_of_some hf _).1

theorem call_lseek {fd : ℤ} (hfd : w.file = some fd) :
    ∃ w', w.afterSeek (sys D h (.lseek fd (cfg.offset w.reg))).1 = some w' ∧
      Guarded D cfg bar0Size flag (sys D h (.lseek fd (cfg.offset w.reg))).2 (l₁ ++ w' :: l₂) := by
  obtain ⟨off, hfile, -⟩ := hg.owns w List.mem_append_cons_self fd hfd
  rw [sys_lseek D hfile hg.inside_host]
  have hfd' : { w with placed := true }.file = some fd := hfd
  refine ⟨{ w with placed := true }, if_neg (addr_ne cfg _), ?_⟩
  exact hg.replace_of_file hfd hfd' rfl rfl (fun _ => rfl) (hg.kept_of_same rfl rfl rfl)

theorem file_of_placed {fd : ℤ} (hfd : w.file = some fd) (hplaced : w.placed = true) :
    h.file fd = some ⟨w.mode, cfg.offset w.reg⟩ := by
  obtain ⟨off, hfile, hoff⟩ := hg.owns w List.mem_append_cons_self fd hfd
  rw [hfile, hoff hplaced]

include hD

theorem call_read {fd : ℤ} (hfd : w.file = some fd) (hplaced : w.placed = true)
    (hmode : w.mode.reads = true) :
    ∃ w', w.afterRead (sys D h (.read fd 4)).1 = some w' ∧
      Guarded D cfg bar0Size flag (sys D h (.read fd 4)).2 (l₁ ++ w' :: l₂) := by
  rw [sys_read D (hg.file_of_placed hfd hplaced) hmode hg.inside_host rfl]
  have hfd' : { w with placed := false }.file = some fd := hfd
  refine ⟨{ w with placed := false }, if_pos rfl, ?_⟩
  exact hg.replace_of_file hfd hfd' rfl rfl (fun h => by cases h)
    (hg.kept_of_same (hD.read_snd _ _ ⟨w.reg, rfl⟩) rfl rfl)

theorem call_write {fd : ℤ} (hfd : w.file = some fd) (hplaced : w.placed = true)
    (hmode : w.mode.writes = true) (v : UInt32) :
    ∃ w', w.afterWrite v (sys D h (.write fd v 4)).1 = some w' ∧
      Guarded D cfg bar0Size flag (sys D h (.write fd v 4)).2 (l₁ ++ w' :: l₂) := by
  rw [sys_write D (hg.file_of_placed hfd hplaced) hmode hg.inside_host rfl]
  have hfd' : { w with placed := false, last := some v }.file = some fd := hfd
  refine ⟨{ w with placed := false, last := some v }, if_pos rfl, ?_⟩
  refine hg.replace_of_file hfd hfd' rfl rfl (fun h => by cases h) fun i hwritten => ?_
  by_cases hreg : i = w.reg
  · subst hreg
    refine ⟨_, List.mem_append_cons_self, rfl, ?_⟩
    rw [hD.read_write _ v _ ⟨w.reg, rfl⟩]
  · -- another register, and the thread that wrote it last is another one
    have haddr : cfg.addr i ≠ cfg.addr w.reg := fun h => hreg (addr_injective cfg h)
    rw [hD.read_write_of_ne _ v _ ⟨w.reg, rfl⟩ _ ⟨i, rfl⟩ haddr]
    refine Machine.exists_mem_replace (hg.kept i (Machine.exists_mem_replace hwritten ?_)) ?_
    all_goals exact fun h => absurd h.1.symm hreg

omit hD in
theorem call_close {fd : ℤ} (hfd : w.file = some fd) :
    Guarded D cfg bar0Size flag (sys D h (.close fd)).2
      (l₁ ++ { w with file := none, placed := false } :: l₂) := by
  obtain ⟨off, hfile, -⟩ := hg.owns w List.mem_append_cons_self fd hfd
  have hpos := (Host.file_eq_some_iff.1 hfile).1
  have hsys : (sys D h (.close fd)).2 = h.setFile fd none := by
    simp only [sys, hfile]
  rw [hsys]
  refine hg.replace rfl rfl (fun _ h => by cases h) (fun _ h => by cases h)
    (fun fd' f hf hne => ?_) (hg.stopped w List.mem_append_cons_self) (hg.kept_of_same rfl rfl rfl)
  have hne' : fd' ≠ fd := fun heq => hne (heq ▸ hfd)
  exact (Host.file_setFile_of_ne hpos hne' _).trans hf

omit hD in
theorem call_loadStop (hheeds : w.heeds = true) :
    Guarded D cfg bar0Size flag h (l₁ ++ { w with stopped := w.stopped || h.stop } :: l₂) := by
  have hw : w ∈ l₁ ++ w :: l₂ := List.mem_append_cons_self
  refine hg.replace rfl rfl (hg.owns w hw) (fun fd hfd => Or.inl hfd)
    (fun fd f hf _ => hf) (fun hstopped => ⟨hheeds, ?_⟩) (hg.kept_of_same rfl rfl rfl)
  rcases Bool.or_eq_true_iff.1 hstopped with hbefore | hnow
  · exact (hg.stopped w hw hbefore).2
  · have hflag : h.stop = flag := congrArg (fun x => x.2.2.2) hg.frame
    exact hflag.symm.trans hnow

/-- **One call of one thread**: it succeeds, and what holds in every state goes on to hold. -/
theorem call {c : Sys} (hc : (workerProtocol cfg).allowed (some w) c) :
    ∃ w', (workerProtocol cfg).next (some w) c (sys D h c).1 = some w' ∧
      Guarded D cfg bar0Size flag (sys D h c).2 (l₁ ++ w' :: l₂) := by
  cases c with
  | openFile path mode =>
      obtain ⟨-, rfl, rfl⟩ := hc
      exact hg.call_openFile
  | lseek fd off =>
      obtain ⟨hfd, rfl⟩ := hc
      exact hg.call_lseek hfd
  | read fd len =>
      obtain ⟨hfd, hplaced, rfl, hmode⟩ := hc
      exact hg.call_read hD hfd hplaced hmode
  | write fd v len =>
      obtain ⟨hfd, hplaced, rfl, hmode⟩ := hc
      exact hg.call_write hD hfd hplaced hmode v
  | close fd => exact ⟨_, rfl, hg.call_close hc⟩
  | addError => exact hc.elim
  | loadStop => exact ⟨_, rfl, hg.call_loadStop hc⟩

end Calls

end Guarded

/-! ### The threads follow the protocol -/

/-- A part of a thread takes what the thread holds to something with `post`, as long as no call
fails. -/
structure Does {α : Type} (cfg : DeviceConfig) (p : SysProg α) (w : Worker)
    (post : α → Worker → Prop) : Prop where
  follows : p.Follows (workerProtocol cfg) (fun a q => ∀ w', q = some w' → post a w') (some w)

section Does

variable {α β : Type} {cfg : DeviceConfig} {w : Worker} {fd : ℤ}

theorem follows_failed (p : SysProg α) (post : α → Worker → Prop) :
    p.Follows (workerProtocol cfg) (fun a q => ∀ w', q = some w' → post a w') none := by
  induction p with
  | pure a => exact fun _ h => by cases h
  | call c k ih => exact ⟨trivial, fun r => ih r⟩

theorem Does.bind {p : SysProg α} {f : α → SysProg β} {mid : α → Worker → Prop}
    {post : β → Worker → Prop} (hp : Does cfg p w mid)
    (hf : ∀ a w', mid a w' → Does cfg (f a) w' post) : Does cfg (p >>= f) w post := by
  refine ⟨Prog.Follows.bind hp.follows fun a q hq => ?_⟩
  cases q with
  | none => exact follows_failed _ _
  | some w' => exact (hf a w' (hq w' rfl)).follows

theorem Does.pure {a : α} {post : α → Worker → Prop} (h : post a w) :
    Does cfg (Pure.pure a) w post := by
  refine ⟨fun w' hw' => ?_⟩
  cases hw'
  exact h

theorem Does.forM {ι : Type} {l : List ι} {f : ι → SysProg PUnit} {I : Worker → Prop} (hw : I w)
    (hf : ∀ x w, I w → Does cfg (f x) w fun _ => I) : Does cfg (l.forM f) w fun _ => I := by
  induction l generalizing w with
  | nil => exact .pure hw
  | cons x l ih => exact (hf x w hw).bind fun _ w' hw' => ih hw'

theorem does_loadStop {last : Option UInt32} {b : Bool} (hheeds : w.heeds = true) :
    Does cfg loadStop (w.during fd last b) fun stop w' => w' = w.during fd last (b || stop) := by
  refine ⟨hheeds, fun r w' hw' => ?_⟩
  cases hw'
  rfl

theorem does_lseek (hfd : w.file = some fd) :
    Does cfg (lseek fd (cfg.offset w.reg)) w fun pos w' =>
      pos ≠ -1 ∧ w' = { w with placed := true } := by
  refine ⟨⟨hfd, rfl⟩, fun pos w' hw' => ?_⟩
  obtain ⟨hpos, hw'⟩ := Option.ite_none_left_eq_some.1 hw'
  cases hw'
  exact ⟨hpos, rfl⟩

theorem does_writeWord {v : UInt32} (hfd : w.file = some fd) (hplaced : w.placed = true)
    (hmode : w.mode.writes = true) :
    Does cfg (writeWord fd v 4) w fun n w' =>
      n = 4 ∧ w' = { w with placed := false, last := some v } := by
  refine ⟨⟨hfd, hplaced, rfl, hmode⟩, fun n w' hw' => ?_⟩
  obtain ⟨hn, hw'⟩ := Option.ite_none_right_eq_some.1 hw'
  cases hw'
  exact ⟨hn, rfl⟩

/-- **A write of the register of the thread.** -/
theorem does_dvfWriteReg {last : Option UInt32} {b : Bool} (hmode : w.mode.writes = true)
    (v : UInt32) :
    Does cfg (dvfWriteReg fd w.reg v cfg) (w.during fd last b) fun r w' =>
      r = 0 ∧ w' = w.during fd (some v) b := by
  refine (does_lseek (w := w.during fd last b) rfl).bind fun pos w₁ h₁ => ?_
  obtain ⟨hpos, rfl⟩ := h₁
  rw [if_neg hpos]
  refine (does_writeWord (w := { w.during fd last b with placed := true }) rfl rfl hmode).bind
    fun n w₂ h₂ => ?_
  obtain ⟨rfl, rfl⟩ := h₂
  exact .pure ⟨rfl, rfl⟩

theorem countError_zero : countError 0 = Pure.pure ⟨⟩ := if_neg (not_not_intro rfl)

/-- **The frame of a thread**: the body ends with the file open. -/
theorem does_withDevice {body : ℤ → SysProg PUnit} (hclosed : w.file = none)
    (hbody : ∀ fd, Does cfg (body fd) (w.during fd w.last w.stopped) fun _ w' =>
      ∃ last b, w' = w.during fd last b ∧ w'.Done) :
    Does cfg (withDevice cfg w.mode body) w fun _ w' => w'.Done := by
  have hopen : Does cfg (dvfOpenDevice cfg w.mode) w fun fd w' =>
      ¬ fd < 0 ∧ w' = w.during fd w.last w.stopped := by
    refine ⟨⟨hclosed, rfl, rfl⟩, fun fd w' hw' => ?_⟩
    obtain ⟨hfd, hw'⟩ := Option.ite_none_left_eq_some.1 hw'
    cases hw'
    exact ⟨hfd, rfl⟩
  refine hopen.bind fun fd w₁ h₁ => ?_
  obtain ⟨hfd, rfl⟩ := h₁
  rw [if_neg hfd]
  refine (hbody fd).bind fun _ w₂ h₂ => ?_
  obtain ⟨last, b, rfl, hdone⟩ := h₂
  refine ⟨rfl, fun _ w' hw' => ?_⟩
  cases hw'
  exact hdone

/-! #### `writer_func` -/

/-- The last round is to leave its value. -/
def multiWriter (threadID : ℕ) : Worker where
  reg := 0
  mode := .rdwr
  heeds := true
  goal := some (multiValue threadID (iterations - 1))

/-- The loop from `i` on, with `left` rounds to go: before the last round nothing is known. -/
theorem does_multiWriterLoop (threadID : ℕ) {left i : ℕ} (hi : i + left = iterations)
    {last : Option UInt32} (b : Bool)
    (hlast : left = 0 → last = some (multiValue threadID (iterations - 1))) :
    Does cfg (multiWriterLoop cfg fd threadID left i) ((multiWriter threadID).during fd last b)
      fun _ w' => ∃ last b, w' = (multiWriter threadID).during fd last b ∧ w'.Done := by
  induction left generalizing i last b with
  | zero =>
      refine .pure ⟨_, _, rfl, fun v hv => Or.inl ?_⟩
      exact (hlast rfl).trans hv
  | succ n ih =>
      refine (does_loadStop rfl).bind fun stop w₁ h₁ => ?_
      subst h₁
      split
      · next hstop =>
          refine .pure ⟨_, _, rfl, fun v hv => Or.inr ?_⟩
          change (b || stop) = true
          rw [hstop, Bool.or_true]
      · refine (does_dvfWriteReg (w := multiWriter threadID) rfl _).bind fun r w₂ h₂ => ?_
        obtain ⟨rfl, rfl⟩ := h₂
        rw [countError_zero]
        refine ih (by omega) _ fun hn => ?_
        have hlast : i = iterations - 1 := by omega
        rw [hlast]

theorem does_multiWriterFunc (threadID : ℕ) :
    Does cfg (multiWriterFunc cfg threadID) (multiWriter threadID) fun _ w' => w'.Done :=
  does_withDevice (w := multiWriter threadID) rfl fun _ =>
    does_multiWriterLoop threadID (Nat.zero_add _) false fun h => by cases h

/-! #### `reg_writer_func` -/

def regWriter (task : RegTask) : Worker where
  reg := task.regIdx
  mode := .rdwr
  goal := some task.value

theorem does_regWriterBody (task : RegTask) (n : ℕ) :
    Does cfg (regWriterBody cfg fd task n) ((regWriter task).during fd none false) fun _ w' =>
      ∃ last b, w' = (regWriter task).during fd last b ∧ w'.Done := by
  have hloop : Does cfg ((List.range n).forM fun i => do
      let r ← dvfWriteReg fd task.regIdx (task.value + .ofNat i) cfg
      countError r) ((regWriter task).during fd none false)
      fun _ w' => ∃ last, w' = (regWriter task).during fd last false := by
    refine Does.forM ⟨none, rfl⟩ fun i w hw => ?_
    obtain ⟨last, rfl⟩ := hw
    refine (does_dvfWriteReg (w := regWriter task) rfl _).bind fun r w₁ h₁ => ?_
    obtain ⟨rfl, rfl⟩ := h₁
    exact .pure ⟨_, rfl⟩
  refine hloop.bind fun _ w₁ h₁ => ?_
  obtain ⟨last, rfl⟩ := h₁
  refine (does_dvfWriteReg (w := regWriter task) rfl _).bind fun r w₂ h₂ => ?_
  obtain ⟨-, rfl⟩ := h₂
  exact .pure ⟨_, _, rfl, fun v hv => Or.inl hv⟩

theorem does_regWriterFunc (task : RegTask) :
    Does cfg (regWriterFunc cfg task) (regWriter task) fun _ w' => w'.Done :=
  does_withDevice (w := regWriter task) rfl fun _ => does_regWriterBody task iterations

end Does

end Fpga

end Dvf
