/-
**The concurrency tests under every order of the calls.**

A race takes the calls of the threads of `Dvf/FpgaThreads.lean` in any order.  Every state of every
race is as it should be, by one induction over the calls, and this settles the three tests of
`concurrency/test_concurrent_rw.c` on the node of `fpga_driver.c`, with the registers inside the BAR
of a device that keeps them: whatever the order of the calls is, no access fails, and when all
threads were joined every register holds what it should.  The node of the GPU driver has neither
`read` nor `write`, so that on it every access fails.

Main definitions:

* `Dvf.Fpga.Race`, `Dvf.Fpga.Race.step` — the host and the threads, and their steps;
* `Dvf.Fpga.Race.Safe` — races in which all is as it should be;
* `Dvf.Fpga.multiRegisterRace`, `Dvf.Fpga.multiWriterRace`, `Dvf.Fpga.writerReaderRace` — the tests.

Main results:

* `Dvf.Fpga.Race.safe_of_reachable` — **every order of the calls**;
* `Dvf.Fpga.Race.Safe.read_of_joined` — **what the registers hold at the end**;
* `Dvf.Fpga.multiRegister_holds`, `Dvf.Fpga.multiWriter_holds`, `Dvf.Fpga.writerReader_errors` — the
  tests.
-/

import Dvf.FpgaThreads

set_option autoImplicit false

namespace Dvf

namespace Fpga

variable {σ : Type}

/-! ### Races -/

/-- **The host and the threads.** -/
abbrev Race (σ : Type) := Prog.Thread.System Sys Sys.Answer PUnit (Option Worker) (Host σ)

namespace Race

/-- **One step**: a thread makes its next call. -/
def step (D : Bar σ) (cfg : DeviceConfig) : Race σ → ℕ × Unit → Option (Race σ) :=
  Prog.Thread.System.step (workerProtocol cfg) fun h c _ => some (sys D h c)

/-- The threads are created, after `g_errors` was set to 0.  A thread that the test has not created
yet is one that has not made a call. -/
def start (h : Host σ) (ts : List (SysProg PUnit × Worker)) : Race σ where
  world := { h with errors := 0 }
  threads := ts.map fun t => ⟨t.1, some t.2⟩

/-- The threads follow their protocol on a host that is as it should be. -/
structure Safe (D : Bar σ) (cfg : DeviceConfig) (bar0Size : UInt64) (flag : Bool) (jobs : List Job)
    (s : Race σ) : Prop where
  ok : ∀ (j : ℕ) (th : Prog.Thread Sys Sys.Answer PUnit (Option Worker)),
    s.threads[j]? = some th → th.Ok (workerProtocol cfg) fun _ q => ∀ w, q = some w → w.Done
  guarded : ∃ ws, s.threads.map (·.state) = ws.map some ∧ ws.map (·.toJob) = jobs ∧
    Guarded D cfg bar0Size flag s.world ws

variable {D : Bar σ} {cfg : DeviceConfig} {bar0Size : UInt64} {flag : Bool} {jobs : List Job}
  {s s' : Race σ}

theorem Safe.step (hD : D.Faithful (Set.range cfg.addr)) (hs : s.Safe D cfg bar0Size flag jobs)
    {a : ℕ × Unit} (h : s.step D cfg a = some s') : s'.Safe D cfg bar0Size flag jobs := by
  obtain ⟨⟨h', ts'⟩, hadv, rfl⟩ := Option.map_eq_some_iff.1 h
  refine ⟨Prog.Thread.forall_ok_of_advance hadv hs.ok, ?_⟩
  obtain ⟨c, f, q, r, hk, hans, rfl⟩ := Prog.Thread.exists_of_advance hadv
  have hsys : sys D s.world c = (r, h') := Option.some.inj hans
  obtain ⟨ws, hstates, hjobs, hg⟩ := hs.guarded
  have hq : (ws.map some)[a.1]? = some q := by
    rw [← hstates, List.getElem?_map, hk]
    rfl
  rw [List.getElem?_map] at hq
  obtain ⟨w, hw, rfl⟩ := Option.map_eq_some_iff.1 hq
  -- the thread stands between others, which stay as they are
  obtain ⟨l₁, l₂, rfl, -, hset⟩ := Machine.split_of_getElem? hw
  obtain ⟨w', hnext, hg'⟩ := hg.call hD (Prog.Thread.allowed_of_ok hs.ok hk)
  rw [hsys] at hnext hg'
  refine ⟨l₁ ++ w' :: l₂, ?_, ?_, hg'⟩
  · rw [← hset w', List.map_set, hstates, List.map_set]
    exact congrArg _ hnext
  · rw [← hjobs, List.map_append, List.map_append, List.map_cons, List.map_cons,
      toJob_of_next hnext]

/-- **Every order of the calls.** -/
theorem safe_of_reachable (hD : D.Faithful (Set.range cfg.addr))
    (hs : s.Safe D cfg bar0Size flag jobs) (hreach : Machine.Reachable (Race.step D cfg) s s') :
    s'.Safe D cfg bar0Size flag jobs :=
  hreach.invariant hs fun _ _ _ hs h => hs.step hD h

/-- A thread that can be started. -/
structure Ready (cfg : DeviceConfig) (bar0Size : UInt64) (t : SysProg PUnit × Worker) : Prop where
  does : Does cfg t.1 t.2 fun _ w => w.Done
  inside : cfg.Inside bar0Size t.2.reg
  closed : t.2.file = none
  last : t.2.last = none
  stopped : t.2.stopped = false

theorem safe_start {h : Host σ} (hnode : h.node = some cfg.devicePath)
    {ts : List (SysProg PUnit × Worker)} (hts : ∀ t ∈ ts, Ready cfg h.bar0Size t) :
    (start h ts).Safe D cfg h.bar0Size h.stop (ts.map (·.2.toJob)) where
  ok j th hth := by
    obtain ⟨t, ht, rfl⟩ := List.mem_map.1 (List.mem_of_getElem? hth)
    exact (hts t ht).does.follows
  guarded := by
    have hall {P : Worker → Prop} (hP : ∀ t, Ready cfg h.bar0Size t → P t.2) :
        ∀ w ∈ ts.map (·.2), P w := by
      intro w hw
      obtain ⟨t, ht, rfl⟩ := List.mem_map.1 hw
      exact hP t (hts t ht)
    have hclosed : ∀ w ∈ ts.map (·.2), ∀ fd, w.file ≠ some fd := by
      refine hall fun t ht fd hfd => ?_
      rw [ht.closed] at hfd
      cases hfd
    have hlast : ∀ w ∈ ts.map (·.2), w.last = none := hall fun t ht => ht.last
    refine ⟨ts.map (·.2), ?_, ?_, ?_, hall fun t ht => ht.inside,
      fun w hw fd hfd => absurd hfd (hclosed w hw fd), ?_, ?_, ?_⟩
    · rw [start, List.map_map, List.map_map]
      rfl
    · rw [List.map_map]
      rfl
    · rw [← hnode]
      rfl
    · exact List.pairwise_of_forall_mem_list fun w hw _ _ fd hfd => absurd hfd (hclosed w hw fd)
    · refine hall fun t ht hstopped => ?_
      rw [ht.stopped] at hstopped
      cases hstopped
    · rintro i ⟨w, hw, -, hsome⟩
      rw [hlast w hw] at hsome
      cases hsome

/-- **What the registers hold at the end**: if no thread was stopped, a register holds the value
that one of the threads on it was to leave. -/
theorem Safe.read_of_joined (hs : s.Safe D cfg bar0Size flag jobs) (hjoined : s.Joined)
    (hjobs : ∀ job ∈ jobs, job.goal.isSome ∧ (job.heeds = true → flag = false)) {job : Job}
    (hjob : job ∈ jobs) :
    ∃ job' ∈ jobs, job'.reg = job.reg ∧
      job'.goal = some (D.read s.world.dev (cfg.addr job.reg)).1 := by
  obtain ⟨ws, hstates, rfl, hg⟩ := hs.guarded
  have hlast : ∀ w ∈ ws, w.last = w.goal := by
    intro w hw
    obtain ⟨hgoal, hheeds⟩ := hjobs w.toJob (List.mem_map_of_mem hw)
    obtain ⟨v, hv⟩ := Option.isSome_iff_exists.1 hgoal
    -- the thread has returned, so it is done
    have hmem : some w ∈ s.threads.map (·.state) := by
      rw [hstates]
      exact List.mem_map_of_mem hw
    obtain ⟨⟨p, q⟩, hth, hq⟩ := List.mem_map.1 hmem
    obtain ⟨a, ha⟩ := hjoined _ hth
    obtain ⟨j, hj⟩ := List.getElem?_of_mem hth
    have hok := hs.ok j _ hj
    simp only [Prog.Thread.Ok] at hok ha hq
    rw [ha] at hok
    rcases hok w hq v hv with hdone | hstopped
    · rw [hdone, hv]
    · obtain ⟨h₁, h₂⟩ := hg.stopped w hw hstopped
      rw [hheeds h₁] at h₂
      cases h₂
  obtain ⟨w, hw, rfl⟩ := List.mem_map.1 hjob
  have hgoal := (hjobs w.toJob hjob).1
  obtain ⟨w', hw', hreg, hread⟩ := hg.kept w.reg ⟨w, hw, rfl, by rw [hlast w hw]; exact hgoal⟩
  exact ⟨w'.toJob, List.mem_map_of_mem hw', hreg, (hlast w' hw').symm.trans hread⟩

theorem exists_joined (D : Bar σ) (cfg : DeviceConfig) (s : Race σ) :
    ∃ s', Machine.Reachable (Race.step D cfg) s s' ∧ s'.Joined :=
  Prog.Thread.System.exists_joined _ _ (fun _ _ => ⟨(), rfl⟩) s

end Race

/-! ### The tests

A test creates its threads and joins them.  Then it compares `g_errors` with 0, and reads the
registers. -/

section Tests

/-- `tasks` of `test_multi_register_concurrent`. -/
def regTasks : List RegTask :=
  [⟨50, 0xAA000000⟩, ⟨51, 0xBB000000⟩, ⟨52, 0xCC000000⟩, ⟨53, 0xDD000000⟩]

/-- `test_multi_register_concurrent`. -/
def multiRegisterRace (cfg : DeviceConfig) (h : Host σ) : Race σ :=
  .start h (regTasks.map fun task => (regWriterFunc cfg task, regWriter task))

/-- `test_multi_writer`. -/
def multiWriterRace (cfg : DeviceConfig) (h : Host σ) : Race σ :=
  .start { h with stop := false }
    ((List.range 4).map fun threadID => (multiWriterFunc cfg threadID, multiWriter threadID))

variable {D : Bar σ} {cfg : DeviceConfig} {h : Host σ} {s : Race σ}

theorem Race.Safe.errors {bar0Size : UInt64} {flag : Bool} {jobs : List Job}
    (hs : s.Safe D cfg bar0Size flag jobs) : s.world.errors = 0 := by
  obtain ⟨ws, -, -, hg⟩ := hs.guarded
  exact congrArg (fun x => x.2.2.1) hg.frame

/-- **Writers of different registers**: in every order of their calls no access fails, the threads
can always be run to their end, and when they were joined every register holds the value of its
task. -/
theorem multiRegister_holds (hD : D.Faithful (Set.range cfg.addr))
    (hin : ∀ task ∈ regTasks, cfg.Inside h.bar0Size task.regIdx)
    (hnode : h.node = some cfg.devicePath)
    (hreach : Machine.Reachable (Race.step D cfg) (multiRegisterRace cfg h) s) :
    s.world.errors = 0 ∧ (∃ t, Machine.Reachable (Race.step D cfg) s t ∧ t.Joined) ∧ (s.Joined →
      ∀ task ∈ regTasks, (D.read s.world.dev (cfg.addr task.regIdx)).1 = task.value) := by
  have hready : ∀ t ∈ regTasks.map fun task => (regWriterFunc cfg task, regWriter task),
      Race.Ready cfg h.bar0Size t := by
    rw [List.forall_mem_map]
    exact fun task htask => ⟨does_regWriterFunc task, hin task htask, rfl, rfl, rfl⟩
  rw [multiRegisterRace] at hreach
  have hsafe := Race.safe_of_reachable hD (Race.safe_start hnode hready) hreach
  refine ⟨hsafe.errors, Race.exists_joined D cfg s, fun hjoined task htask => ?_⟩
  rw [List.map_map] at hsafe
  obtain ⟨job, hjob, hreg, hgoal⟩ := hsafe.read_of_joined hjoined
    (List.forall_mem_map.2 fun _ _ => ⟨rfl, fun h => by cases h⟩) (List.mem_map_of_mem htask)
  -- a register has one thread, so it holds the value of this one
  obtain ⟨task', htask', rfl⟩ := List.mem_map.1 hjob
  have hone : ∀ t ∈ regTasks, ∀ t' ∈ regTasks, t'.regIdx = t.regIdx → t' = t := by decide
  cases hone task htask task' htask' hreg
  exact (Option.some.inj hgoal).symm

/-- **Writers of one register**: in every order of their calls no access fails, the threads can
always be run to their end, and when they were joined the register holds what one of them wrote in
its last round. -/
theorem multiWriter_holds (hD : D.Faithful (Set.range cfg.addr)) (hin : cfg.Inside h.bar0Size 0)
    (hnode : h.node = some cfg.devicePath)
    (hreach : Machine.Reachable (Race.step D cfg) (multiWriterRace cfg h) s) :
    s.world.errors = 0 ∧ (∃ t, Machine.Reachable (Race.step D cfg) s t ∧ t.Joined) ∧ (s.Joined →
      ∃ threadID < 4, (D.read s.world.dev (cfg.addr 0)).1 = multiValue threadID 4999) := by
  have hready : ∀ t ∈ (List.range 4).map fun id => (multiWriterFunc cfg id, multiWriter id),
      Race.Ready cfg { h with stop := false }.bar0Size t := by
    rw [List.forall_mem_map]
    exact fun id _ => ⟨does_multiWriterFunc id, hin, rfl, rfl, rfl⟩
  rw [multiWriterRace] at hreach
  have hsafe := Race.safe_of_reachable hD
    (Race.safe_start (h := { h with stop := false }) hnode hready) hreach
  refine ⟨hsafe.errors, Race.exists_joined D cfg s, fun hjoined => ?_⟩
  rw [List.map_map] at hsafe
  obtain ⟨job, hjob, -, hgoal⟩ := hsafe.read_of_joined hjoined
    (List.forall_mem_map.2 fun _ _ => ⟨rfl, fun _ => rfl⟩)
    (List.mem_map_of_mem (List.mem_range.2 (by decide : 0 < 4)))
  obtain ⟨id, hid, rfl⟩ := List.mem_map.1 hjob
  exact ⟨id, List.mem_range.1 hid, (Option.some.inj hgoal).symm⟩

/-- The configuration with the node of `fpga_driver.c`. -/
def fpgaConfig : DeviceConfig := ⟨"/dev/fpga0", 4, by decide⟩

/-- A host with the node of `fpga_driver.c`, a BAR of one kilobyte and registers that are zero. -/
def kilobyteHost : Host (ℤ → UInt32) where
  node := some "/dev/fpga0"
  bar0Size := 1024
  dev := fun _ => 0

theorem fpgaConfig_inside {i : ℕ} (hi : i < 256) : fpgaConfig.Inside 1024 i := by
  have hbar : (1024 : UInt64).toNat = 1024 := rfl
  exact ⟨by change i * 4 + 4 ≤ _; omega, by change i * 4 < _; omega⟩

theorem multiRegister_kilobyte :
    ∃ s : Race (ℤ → UInt32), s.Joined ∧ s.world.errors = 0 ∧ ∀ task ∈ regTasks,
      ((RegDevice.cells ℤ UInt32).read s.world.dev (fpgaConfig.addr task.regIdx)).1 =
        task.value := by
  obtain ⟨s, hreach, hjoined⟩ := Race.exists_joined (RegDevice.cells ℤ UInt32) fpgaConfig
    (multiRegisterRace fpgaConfig kilobyteHost)
  have hin : ∀ task ∈ regTasks, task.regIdx < 256 := by decide
  have h := multiRegister_holds (RegDevice.faithful_cells _)
    (fun task htask => fpgaConfig_inside (hin task htask)) rfl hreach
  exact ⟨s, hjoined, h.1, h.2.2 hjoined⟩

theorem multiWriter_kilobyte :
    ∃ s : Race (ℤ → UInt32), s.Joined ∧ s.world.errors = 0 ∧ ∃ threadID < 4,
      ((RegDevice.cells ℤ UInt32).read s.world.dev (fpgaConfig.addr 0)).1 =
        multiValue threadID 4999 := by
  obtain ⟨s, hreach, hjoined⟩ := Race.exists_joined (RegDevice.cells ℤ UInt32) fpgaConfig
    (multiWriterRace fpgaConfig kilobyteHost)
  have h := multiWriter_holds (RegDevice.faithful_cells _) (fpgaConfig_inside (by decide)) rfl
    hreach
  exact ⟨s, hjoined, h.1, h.2.2 hjoined⟩

end Tests

end Fpga

end Dvf
