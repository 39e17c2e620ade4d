/-
**The C test framework** (`c-test-binaries/common/test_framework.h`, `test_framework.c`).

`RUN_TEST` calls a test function under `setjmp` and writes one record into an array of 256; a
handler for four signals jumps back, so that a crash is a failed test.  The handler is installed
without flags: while it runs its signal is blocked, and since `longjmp` does not restore the signal
mask, it stays blocked.  A fault whose signal is blocked kills the process; only `abort` unblocks
its signal before it raises it.  The array has no bound check.

A test is given by what its function does: the last assertion that failed in it, if any, and how it
ended.  Writing past the array is undefined behaviour, after which nothing can be said.

Main definitions:

* `Dvf.CTest.TestFunction`, `Dvf.CTest.TestSuite` — tests and the state of the framework;
* `Dvf.CTest.runTest`, `Dvf.CTest.runSuite` — `RUN_TEST` and a whole suite;
* `Dvf.CTest.RecordsEvery` — one record for every test, in order, with the right mark and counts.

Main results:

* `Dvf.CTest.recordsEvery_iff` — **every test is recorded exactly when there are at most 256 of them
  and no two fault with the same signal**;
* `Dvf.CTest.second_segv_kills` — two tests with the same fault.
-/

import Mathlib.Data.Int.Notation
import Mathlib.Data.List.Basic
import Mathlib.Data.Nat.Notation

set_option autoImplicit false

namespace Dvf

namespace CTest

/-! ### Tests -/

/-- The signals that the framework handles. -/
inductive Signal
  | segv
  | bus
  | fpe
  | abrt
  deriving DecidableEq, Repr

/-- The number of a signal. -/
def Signal.number : Signal → ℕ
  | .segv => 11
  | .bus => 7
  | .fpe => 8
  | .abrt => 6

/-- How a test function ends. -/
inductive Ending
  | returns (rc : ℤ)
  /-- A fault, or `abort`; not a `raise` of the signal, which has no effect while it is blocked. -/
  | raises (sig : Signal)
  deriving DecidableEq, Repr

/-- A test function: its name, the message of the last assertion that failed in it, how it ends, and
the time it takes, in hundredths of a millisecond. -/
structure TestFunction where
  name : String
  assertion : Option String := none
  ending : Ending := .returns 0
  duration : ℕ := 0
  deriving DecidableEq, Repr

/-- The test returned 0 and no assertion failed. -/
def TestFunction.passes (t : TestFunction) : Bool := t.assertion.isNone && t.ending = .returns 0

/-- The signal of a synchronous fault; `abort` is none. -/
def TestFunction.fault (t : TestFunction) : Option Signal :=
  match t.ending with
  | .raises .abrt => none
  | .raises sig => some sig
  | .returns _ => none

/-! ### The framework -/

structure TestResult where
  testName : String
  suiteName : String
  passed : Bool
  duration : ℕ
  message : String
  deriving DecidableEq, Repr

structure TestSuite where
  suiteName : String
  results : List TestResult := []
  count : ℕ := 0
  passed : ℕ := 0
  failed : ℕ := 0
  totalDuration : ℕ := 0
  deriving DecidableEq, Repr

/-- `results[256]`. -/
def capacity : ℕ := 256

/-- `snprintf` into `g_fail_msg[512]`. -/
def failMsg (s : String) : String := String.ofList (s.toList.take 511)

/-- `g_test_failed` and `g_fail_msg` after the test. -/
def TestFunction.outcome (t : TestFunction) : Bool × String :=
  match t.ending with
  | .raises sig => (true, failMsg ("caught signal " ++ toString sig.number))
  | .returns rc =>
      t.assertion.elim
        (if rc ≠ 0 then (true, failMsg ("returned non-zero: " ++ toString rc)) else (false, ""))
        fun msg => (true, failMsg msg)

/-- The record of a test. -/
def TestFunction.result (t : TestFunction) (suiteName : String) : TestResult where
  testName := t.name
  suiteName := suiteName
  passed := !t.outcome.1
  duration := t.duration
  message := t.outcome.2

/-- The suite with the record of a test. -/
def TestSuite.record (s : TestSuite) (t : TestFunction) : TestSuite :=
  { s with
    results := s.results ++ [t.result s.suiteName]
    count := s.count + 1
    passed := if (t.result s.suiteName).passed then s.passed + 1 else s.passed
    failed := if (t.result s.suiteName).passed then s.failed else s.failed + 1
    totalDuration := s.totalDuration + t.duration }

/-- The process: it runs with its suite and the signals that are blocked, it was killed by a signal,
or it has written past the end of the array. -/
inductive Process
  | running (suite : TestSuite) (blocked : List Signal)
  | killed (sig : Signal)
  | undefined
  deriving DecidableEq, Repr

/-- The record is written, if there is room for it. -/
def writeRecord (s : TestSuite) (blocked : List Signal) (t : TestFunction) : Process :=
  if s.count < capacity then .running (s.record t) blocked else .undefined

/-- `RUN_TEST`. -/
def runTest (p : Process) (t : TestFunction) : Process :=
  match p with
  | .running s blocked =>
      match t.ending with
      | .returns _ => writeRecord s blocked t
      | .raises sig =>
          -- the handler runs with its signal blocked, and nothing unblocks it afterwards
          if sig ≠ .abrt ∧ sig ∈ blocked then .killed sig
          else writeRecord s (sig :: blocked) t
  | .killed sig => .killed sig
  | .undefined => .undefined

/-- `TEST_SUITE_BEGIN` and the tests of a suite. -/
def runSuite (name : String) (ts : List TestFunction) : Process :=
  ts.foldl runTest (.running { suiteName := name } [])

/-- The value that `TEST_SUITE_END` returns from `main`. -/
def TestSuite.exitStatus (s : TestSuite) : ℕ := if 0 < s.failed then 1 else 0

/-- One record for every test, in order, marked as the test went; counts that add up; and the exit
status of the process. -/
def RecordsEvery (ts : List TestFunction) (p : Process) : Prop :=
  ∃ s blocked, p = .running s blocked ∧
    s.results.map (fun r => (r.testName, r.passed)) = ts.map (fun t => (t.name, t.passes)) ∧
    s.count = ts.length ∧ s.count = s.passed + s.failed ∧
    (s.exitStatus = 1 ↔ ∃ t ∈ ts, t.passes = false)

/-! ### Records -/

theorem passed_result (t : TestFunction) (suiteName : String) :
    (t.result suiteName).passed = t.passes := by
  rw [TestFunction.result, TestFunction.outcome, TestFunction.passes]
  cases hend : t.ending with
  | raises sig => simp
  | returns rc =>
      cases t.assertion with
      | some msg => rfl
      | none =>
          by_cases hrc : rc = 0
          · simp [hrc]
          · simp [hrc]

theorem foldl_record (ts : List TestFunction) (s : TestSuite) :
    (ts.foldl TestSuite.record s).results = s.results ++ ts.map (·.result s.suiteName) ∧
    (ts.foldl TestSuite.record s).count = s.count + ts.length ∧
    (ts.foldl TestSuite.record s).passed = s.passed + ts.countP TestFunction.passes ∧
    (ts.foldl TestSuite.record s).failed = s.failed + ts.countP fun t => !t.passes := by
  induction ts generalizing s with
  | nil => simp
  | cons t ts ih =>
      obtain ⟨hresults, hcount, hpassed, hfailed⟩ := ih (s.record t)
      rw [List.foldl_cons, hresults, hcount, hpassed, hfailed]
      simp only [TestSuite.record, passed_result, List.countP_cons]
      cases t.passes with
      | true => simp; omega
      | false => simp; omega

/-! ### Processes -/

theorem foldl_runTest_killed (ts : List TestFunction) (sig : Signal) :
    ts.foldl runTest (.killed sig) = .killed sig := by
  induction ts with
  | nil => rfl
  | cons t ts ih => exact ih

theorem foldl_runTest_undefined (ts : List TestFunction) :
    ts.foldl runTest .undefined = .undefined := by
  induction ts with
  | nil => rfl
  | cons t ts ih => exact ih

/-- There is room for the tests, and their faults are all different and not blocked. -/
structure Survivable (s : TestSuite) (blocked : List Signal) (ts : List TestFunction) : Prop where
  room : s.count + ts.length ≤ capacity
  nodup : (ts.filterMap TestFunction.fault).Nodup
  unblocked : ∀ sig ∈ ts.filterMap TestFunction.fault, sig ∉ blocked

/-- The signals that are blocked after a test. -/
def blockedAfter (blocked : List Signal) (t : TestFunction) : List Signal :=
  match t.ending with
  | .returns _ => blocked
  | .raises sig => sig :: blocked

theorem fault_eq_some_iff {t : TestFunction} {sig : Signal} :
    t.fault = some sig ↔ t.ending = .raises sig ∧ sig ≠ .abrt := by
  rw [TestFunction.fault]
  split
  · next hend => simp [hend, eq_comm]
  · next sig' habrt hend =>
      simp only [hend, Option.some.injEq, Ending.raises.injEq]
      refine ⟨fun h => ⟨h, ?_⟩, And.left⟩
      rintro rfl
      exact habrt h
  · next rc hend => simp [hend]

theorem runTest_of_blocked {t : TestFunction} {sig : Signal} (h : t.fault = some sig)
    (s : TestSuite) {blocked : List Signal} (hb : sig ∈ blocked) :
    runTest (.running s blocked) t = .killed sig := by
  obtain ⟨hend, habrt⟩ := fault_eq_some_iff.1 h
  simp only [runTest, hend]
  rw [if_pos ⟨habrt, hb⟩]

theorem runTest_of_unblocked {t : TestFunction} (s : TestSuite) {blocked : List Signal}
    (h : ∀ sig, t.fault = some sig → sig ∉ blocked) :
    runTest (.running s blocked) t = writeRecord s (blockedAfter blocked t) t := by
  cases hend : t.ending with
  | returns rc => simp only [runTest, blockedAfter, hend]
  | raises sig =>
      simp only [runTest, blockedAfter, hend]
      rw [if_neg]
      rintro ⟨habrt, hb⟩
      exact h sig (fault_eq_some_iff.2 ⟨hend, habrt⟩) hb

theorem mem_blockedAfter {t : TestFunction} {blocked : List Signal} {sig : Signal}
    (hsig : sig ≠ .abrt) :
    sig ∈ blockedAfter blocked t ↔ t.fault = some sig ∨ sig ∈ blocked := by
  rw [blockedAfter, fault_eq_some_iff]
  cases t.ending with
  | returns rc => simp
  | raises sig' =>
      simp only [List.mem_cons, Ending.raises.injEq]
      refine or_congr_left ⟨fun h => ⟨h.symm, hsig⟩, fun h => h.1.symm⟩

theorem ne_abrt_of_mem_faults {ts : List TestFunction} {sig : Signal}
    (h : sig ∈ ts.filterMap TestFunction.fault) : sig ≠ .abrt := by
  obtain ⟨t, -, ht⟩ := List.mem_filterMap.1 h
  exact (fault_eq_some_iff.1 ht).2

/-- Whether the tests survive, one test at a time. -/
theorem survivable_cons {s : TestSuite} {blocked : List Signal} {t : TestFunction}
    {ts : List TestFunction} :
    Survivable s blocked (t :: ts) ↔ (∀ sig, t.fault = some sig → sig ∉ blocked) ∧
      s.count < capacity ∧ Survivable (s.record t) (blockedAfter blocked t) ts := by
  have hroom : s.count + (t :: ts).length ≤ capacity ↔
      s.count < capacity ∧ (s.record t).count + ts.length ≤ capacity := by
    simp only [TestSuite.record, List.length_cons]
    omega
  cases hfault : t.fault with
  | none =>
      have hblocked {sig : Signal} (hsig : sig ∈ ts.filterMap TestFunction.fault) :
          sig ∈ blockedAfter blocked t ↔ sig ∈ blocked := by
        rw [mem_blockedAfter (ne_abrt_of_mem_faults hsig), hfault]
        simp
      constructor
      · rintro ⟨h₁, h₂, h₃⟩
        rw [List.filterMap_cons_none hfault] at h₂ h₃
        refine ⟨?_, (hroom.1 h₁).1, (hroom.1 h₁).2, h₂,
          fun sig hsig hb => h₃ sig hsig ((hblocked hsig).1 hb)⟩
        rintro sig ⟨⟩
      · rintro ⟨-, hlt, h₁, h₂, h₃⟩
        refine ⟨hroom.2 ⟨hlt, h₁⟩, ?_, ?_⟩
        · rwa [List.filterMap_cons_none hfault]
        · rw [List.filterMap_cons_none hfault]
          exact fun sig hsig hb => h₃ sig hsig ((hblocked hsig).2 hb)
  | some sig₀ =>
      have hblocked {sig : Signal} (hsig : sig ∈ ts.filterMap TestFunction.fault) :
          sig ∈ blockedAfter blocked t ↔ sig = sig₀ ∨ sig ∈ blocked := by
        rw [mem_blockedAfter (ne_abrt_of_mem_faults hsig), hfault, Option.some.injEq, eq_comm]
      constructor
      · rintro ⟨h₁, h₂, h₃⟩
        rw [List.filterMap_cons_some hfault] at h₂ h₃
        obtain ⟨hnot, hnodup⟩ := List.nodup_cons.1 h₂
        refine ⟨?_, (hroom.1 h₁).1, (hroom.1 h₁).2, hnodup, fun sig hsig hb => ?_⟩
        · rintro sig ⟨⟩
          exact h₃ sig₀ List.mem_cons_self
        · obtain rfl | hb := (hblocked hsig).1 hb
          · exact hnot hsig
          · exact h₃ sig (List.mem_cons_of_mem _ hsig) hb
      · rintro ⟨hsig₀, hlt, h₁, h₂, h₃⟩
        refine ⟨hroom.2 ⟨hlt, h₁⟩, ?_, ?_⟩
        · rw [List.filterMap_cons_some hfault, List.nodup_cons]
          exact ⟨fun hmem => h₃ sig₀ hmem ((hblocked hmem).2 (.inl rfl)), h₂⟩
        · rw [List.filterMap_cons_some hfault]
          rintro sig hsig hb
          obtain rfl | hsig := List.mem_cons.1 hsig
          · exact hsig₀ sig rfl hb
          · exact h₃ sig hsig ((hblocked hsig).2 (.inr hb))

/-- **The process is still running after the tests exactly when they are survivable**, and then they
have been recorded one after the other. -/
theorem foldl_runTest (ts : List TestFunction) {s : TestSuite} (hs : s.count ≤ capacity)
    (blocked : List Signal) :
    (Survivable s blocked ts ∧ ∃ blocked',
      ts.foldl runTest (.running s blocked) = .running (ts.foldl TestSuite.record s) blocked') ∨
    (¬ Survivable s blocked ts ∧ ∀ s' blocked',
      ts.foldl runTest (.running s blocked) ≠ .running s' blocked') := by
  induction ts generalizing s blocked with
  | nil => exact .inl ⟨⟨by simpa using hs, by simp, by simp⟩, blocked, rfl⟩
  | cons t ts ih =>
      rw [survivable_cons, List.foldl_cons, List.foldl_cons]
      by_cases hfault : ∀ sig, t.fault = some sig → sig ∉ blocked
      · rw [runTest_of_unblocked s hfault, writeRecord]
        by_cases hroom : s.count < capacity
        · rw [if_pos hroom]
          have hcount : (s.record t).count ≤ capacity := hroom
          obtain ⟨hsurv, hrun⟩ | ⟨hnot, hrun⟩ := ih hcount (blockedAfter blocked t)
          · exact .inl ⟨⟨hfault, hroom, hsurv⟩, hrun⟩
          · exact .inr ⟨fun h => hnot h.2.2, hrun⟩
        · rw [if_neg hroom, foldl_runTest_undefined]
          exact .inr ⟨fun h => hroom h.2.1, fun _ _ h => by cases h⟩
      · obtain ⟨sig, hsig, hb⟩ : ∃ sig, t.fault = some sig ∧ sig ∈ blocked := by
          simpa using hfault
        rw [runTest_of_blocked hsig s hb, foldl_runTest_killed]
        exact .inr ⟨fun h => h.1 sig hsig hb, fun _ _ h => by cases h⟩

/-- **Every test is recorded, marked as it went, and counted, exactly when there are at most 256
tests and no two of them fault with the same signal.** -/
theorem recordsEvery_iff (name : String) (ts : List TestFunction) :
    RecordsEvery ts (runSuite name ts) ↔
      ts.length ≤ 256 ∧ (ts.filterMap TestFunction.fault).Nodup := by
  have hsurv : Survivable { suiteName := name } [] ts ↔
      ts.length ≤ 256 ∧ (ts.filterMap TestFunction.fault).Nodup :=
    ⟨fun h => ⟨by simpa [capacity] using h.room, h.nodup⟩,
      fun h => ⟨by simpa [capacity] using h.1, h.2, fun _ _ => List.not_mem_nil⟩⟩
  rw [← hsurv]
  obtain ⟨h, blocked, hrun⟩ | ⟨hnot, hrun⟩ :=
    foldl_runTest ts (s := { suiteName := name }) (Nat.zero_le _) []
  · refine iff_of_true ⟨_, blocked, hrun, ?_⟩ h
    obtain ⟨hresults, hcount, hpassed, hfailed⟩ := foldl_record ts { suiteName := name }
    refine ⟨?_, ?_, ?_, ?_⟩
    · have hrecord (t : TestFunction) : ((t.result name).testName, (t.result name).passed) =
          (t.name, t.passes) := by
        rw [passed_result]
        rfl
      rw [hresults, List.nil_append, List.map_map]
      exact List.map_congr_left fun t _ => hrecord t
    · rw [hcount]
      exact Nat.zero_add _
    · have hsum := List.length_eq_countP_add_countP TestFunction.passes (l := ts)
      have hnot : ts.countP (fun t => !t.passes) =
          ts.countP fun t => decide (¬ t.passes = true) := by simp
      rw [hcount, hpassed, hfailed, hnot]
      change 0 + ts.length = 0 + _ + (0 + _)
      omega
    · rw [TestSuite.exitStatus, hfailed]
      simp only [Nat.zero_add, List.countP_pos_iff]
      simp
  · refine iff_of_false ?_ hnot
    rintro ⟨s, blocked, h, -⟩
    exact hrun s blocked h

/-- Two tests with the same fault: the second one kills the process, and nothing is reported. -/
theorem second_segv_kills :
    ¬ RecordsEvery
      [{ name := "a", ending := .raises .segv }, { name := "b", ending := .raises .segv }]
      (runSuite "crash"
        [{ name := "a", ending := .raises .segv }, { name := "b", ending := .raises .segv }]) := by
  rintro ⟨s, blocked, h, -⟩
  cases h

end CTest

end Dvf
