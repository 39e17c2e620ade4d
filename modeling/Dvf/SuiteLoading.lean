/-
**Loading a suite must not crash the engine** (`loadTestSuite`, `splitPath`, `isVishwaSuite` and the
`start_test` commands of `runWorkflow` in `internal/core/execution_engine.go`; `SubmitTestRun` in
`internal/api/grpc_server.go`).

The suite id of a run is any string that is not empty.  For an id that begins with `vishwa/` the
engine takes the last segment of the rest for the name of the binary, by an index into the list of
segments.  `splitPath` leaves out empty segments, so a rest that is made of slashes has none, and
the index is -1: the goroutine panics, and with it the process.

Here the functions are followed with every index and slice checked; `none` is a panic.  The source
indexes bytes; a slash is one byte and never part of another character, so characters serve as well.

Main definitions:

* `Dvf.splitPathScan` — the loop of `splitPath` over the positions of the path;
* `Dvf.loadTestSuite`, `Dvf.startTestCommand` — a suite, and the command for a step of it;
* `Dvf.SuiteIsSafe` — neither of them panics.

Main results:

* `Dvf.splitPathScan_eq` — the loop never leaves the path, and computes `Dvf.splitPath`;
* `Dvf.startTestCommand_eq` — what is built without a panic is `Dvf.stepCommand`;
* `Dvf.suiteIsSafe_iff` — **when loading a suite is safe**.
-/

import Dvf.Commands
import Dvf.Go
import Mathlib.Data.List.Basic

set_option autoImplicit false

namespace Dvf

/-! ### The source -/

/-- The loop of `splitPath` from the position `i` on, with the start of the current segment and the
segments found so far.  The first argument counts the rounds that are left. -/
def splitPathScan (p : List Char) : ℕ → ℕ → ℕ → List String → Option (List String)
  | 0, _, _, parts => some parts
  | rounds + 1, i, start, parts =>
      (if i = p.length then some true else (Go.index? p i).map (· = '/')).bind fun ends =>
        if ends then
          (if start < i then (Go.slice? p start i).map fun seg => parts ++ [String.ofList seg]
            else some parts).bind fun parts => splitPathScan p rounds (i + 1) (i + 1) parts
        else splitPathScan p rounds (i + 1) start parts

/-- `splitPath` with its bounds checked. -/
def splitPathChecked (p : List Char) : Option (List String) :=
  splitPathScan p (p.length + 1) 0 0 []

/-- `isVishwaSuite` with its bounds checked. -/
def isVishwaSuiteChecked (suiteID : String) : Option Bool :=
  if 7 < suiteID.toList.length then
    (Go.slice? suiteID.toList 0 7).map fun cs => cs = "vishwa/".toList
  else some false

/-- The path of a `vishwa/` suite and the name of its binary: the last segment. -/
def vishwaBinary (suiteID : String) : Option (String × String) :=
  (Go.slice? suiteID.toList 7 suiteID.toList.length).bind fun path =>
    (splitPathChecked path).bind fun segments =>
      (Go.index? segments ((segments.length : ℤ) - 1)).map fun name => (String.ofList path, name)

/-- `loadTestSuite`; `file` is what it makes of the suite file, where it does not index anything. -/
def loadTestSuite (suiteID : String) (device : DeviceEntry) (file : Except String TestSuite) :
    Option (Except String TestSuite) :=
  (isVishwaSuiteChecked suiteID).bind fun vishwa =>
    if vishwa then
      (vishwaBinary suiteID).map fun b =>
        .ok
          { id := suiteID
            steps :=
              [{ id := suiteID, testBinary := vishwaTestDir device ++ "/" ++ b.1 ++ "/" ++ b.2
                 timeoutSec := 180, retryMax := 1 }] }
    else some file

/-- The command that `runWorkflow` builds for one attempt of a step. -/
def startTestCommand (run : TestRun) (device : DeviceEntry) (d : WorkflowStep) (attempt : ℕ) :
    Option AgentCommand :=
  (isVishwaSuiteChecked run.testSuiteID).bind fun vishwa =>
    if vishwa then
      (vishwaBinary run.testSuiteID).map fun b =>
        { id := "cmd-step-" ++ run.id ++ "-" ++ d.id ++ "-" ++ toString attempt
          type := "start_test"
          parameters :=
            [("binary", .text d.testBinary), ("timeout", .text (toString d.timeoutSec)),
              ("suite_name", .text run.testSuiteID), ("env", .env (vishwaStepEnv device))] ++
            (if d.args.isEmpty then [] else [("args", .list d.args)]) ++
            [("loader", .text (vishwaLoader device)), ("lib_dir", .text (vishwaLibDir device)),
              ("binary_dir", .text (vishwaTestDir device ++ "/" ++ b.1)),
              ("binary_name", .text b.2)] }
    else some (stepCommand run device d attempt)

/-- Neither loading the suite nor building a command for it panics, whatever the device is. -/
structure SuiteIsSafe (suiteID : String) : Prop where
  load : ∀ device file, loadTestSuite suiteID device file ≠ none
  command : ∀ run device d attempt, run.testSuiteID = suiteID →
    startTestCommand run device d attempt ≠ none
  segments : isVishwaSuite suiteID = true → splitPath (suitePath suiteID) ≠ []

/-! ### The segments of a path -/

/-- **The loop stays within the path**, and computes the segments: at the position `i`, with the
characters `seg` of the current segment read, the last one first. -/
theorem splitPathScan_eq (p : List Char) (cs : List Char) : ∀ (seg : List Char) (i start : ℕ)
    (parts : List String), p.drop i = cs → i ≤ p.length → start ≤ i →
      (p.take i).drop start = seg.reverse →
      splitPathScan p (cs.length + 1) i start parts = some (parts ++ splitPathLoop cs seg) := by
  have hempty : ∀ {seg : List Char} {i start : ℕ}, i ≤ p.length → start ≤ i →
      (p.take i).drop start = seg.reverse → (seg = [] ↔ ¬ start < i) := by
    intro seg i start hi hstart hseg
    have hlength := congrArg List.length hseg
    rw [List.length_drop, List.length_take, List.length_reverse] at hlength
    rw [← List.length_eq_zero_iff]
    omega
  -- what happens at the end of a segment, at a slash or behind the path
  have hpart : ∀ {seg : List Char} {i start : ℕ} (parts : List String), i ≤ p.length → start ≤ i →
      (p.take i).drop start = seg.reverse →
      (if start < i then (Go.slice? p start i).map fun seg => parts ++ [String.ofList seg]
        else some parts) =
        some (parts ++ if seg.isEmpty then [] else [String.ofList seg.reverse]) := by
    intro seg i start parts hi hstart hseg
    by_cases hlt : start < i
    · have hne : seg ≠ [] := fun h => (hempty hi hstart hseg).1 h hlt
      rw [if_pos hlt, Go.slice?_of_le hstart hi, hseg, if_neg (by simpa using hne)]
      rfl
    · rw [if_neg hlt, (hempty hi hstart hseg).2 hlt]
      simp
  induction cs with
  | nil =>
      intro seg i start parts hcs hi hstart hseg
      have hend : i = p.length := by
        have := congrArg List.length hcs
        rw [List.length_drop, List.length_nil] at this
        omega
      rw [List.length_nil, splitPathScan, if_pos hend, Option.bind_some, if_pos rfl,
        hpart parts hi hstart hseg]
      rfl
  | cons c cs ih =>
      intro seg i start parts hcs hi hstart hseg
      have hget : p[i]? = some c := by
        have := congrArg List.head? hcs
        rwa [List.head?_drop, List.head?_cons] at this
      have hlt : i < p.length := (List.getElem?_eq_some_iff.1 hget).1
      have hnext : p.drop (i + 1) = cs := by
        rw [← List.drop_drop, hcs, List.drop_one, List.tail_cons]
      rw [List.length_cons, splitPathScan, if_neg (by omega), Go.index?_natCast, hget,
        Option.map_some, Option.bind_some, splitPathLoop]
      by_cases hc : c = '/'
      · rw [if_pos (by simpa using hc), hpart parts hi hstart hseg, Option.bind_some, if_pos hc,
          ih [] (i + 1) (i + 1) _ hnext (by omega) le_rfl (by simp), List.append_assoc]
        by_cases hseg' : seg.isEmpty = true
        · rw [if_pos hseg', if_pos hseg', List.nil_append]
        · rw [if_neg hseg', if_neg hseg', List.singleton_append]
      · rw [if_neg (by simpa using hc), if_neg hc,
          ih (c :: seg) (i + 1) start parts hnext (by omega) (by omega)]
        rw [List.take_add_one, hget, List.drop_append_of_le_length (by simp; omega), hseg]
        simp

theorem splitPathChecked_eq (p : List Char) :
    splitPathChecked p = some (splitPath (String.ofList p)) := by
  have h := splitPathScan_eq p p [] 0 0 [] rfl (Nat.zero_le _) le_rfl rfl
  rw [splitPathChecked, h, splitPath, String.toList_ofList, List.nil_append]

theorem splitPathLoop_eq_nil_iff (cs : List Char) : ∀ seg : List Char,
    splitPathLoop cs seg = [] ↔ seg = [] ∧ ∀ c ∈ cs, c = '/' := by
  induction cs with
  | nil =>
      intro seg
      rw [splitPathLoop]
      cases seg with
      | nil => simp
      | cons a seg => simp
  | cons c cs ih =>
      intro seg
      rw [splitPathLoop]
      by_cases hc : c = '/'
      · rw [if_pos hc]
        cases seg with
        | nil => simp [ih, hc]
        | cons a seg => simp
      · rw [if_neg hc, ih]
        simp [hc]

/-- **A path without segments is made of slashes.** -/
theorem splitPath_eq_nil_iff (p : String) : splitPath p = [] ↔ ∀ c ∈ p.toList, c = '/' := by
  rw [splitPath, splitPathLoop_eq_nil_iff]
  simp

/-! ### When loading is safe -/

theorem isVishwaSuiteChecked_eq (suiteID : String) :
    isVishwaSuiteChecked suiteID = some (isVishwaSuite suiteID) := by
  unfold isVishwaSuiteChecked isVishwaSuite
  by_cases hlen : 7 < suiteID.toList.length
  · rw [if_pos hlen, Go.slice?_of_le (by omega) (by omega), List.drop_zero, decide_eq_true hlen]
    rfl
  · rw [if_neg hlen, decide_eq_false hlen, Bool.false_and]

theorem vishwaBinary_eq {suiteID : String} (h : isVishwaSuite suiteID = true) :
    vishwaBinary suiteID =
      (splitPath (suitePath suiteID)).getLast?.map fun name => (suitePath suiteID, name) := by
  have hlen : 7 < suiteID.toList.length := by
    simp only [isVishwaSuite, Bool.and_eq_true, decide_eq_true_eq] at h
    exact h.1
  rw [vishwaBinary, Go.slice?_of_le (by omega) le_rfl, List.take_length, Option.bind_some,
    splitPathChecked_eq, Option.bind_some, Go.index?_length_sub_one, suitePath]

theorem vishwaBinary_eq_none_iff {suiteID : String} (h : isVishwaSuite suiteID = true) :
    vishwaBinary suiteID = none ↔ splitPath (suitePath suiteID) = [] := by
  rw [vishwaBinary_eq h, Option.map_eq_none_iff, List.getLast?_eq_none_iff]

theorem startTestCommand_eq {run : TestRun} {device : DeviceEntry} {d : WorkflowStep} {attempt : ℕ}
    {c : AgentCommand} (h : startTestCommand run device d attempt = some c) :
    c = stepCommand run device d attempt := by
  rw [startTestCommand, isVishwaSuiteChecked_eq, Option.bind_some] at h
  cases hvishwa : isVishwaSuite run.testSuiteID with
  | false =>
      rw [hvishwa, if_neg Bool.false_ne_true] at h
      exact (Option.some.inj h).symm
  | true =>
      rw [hvishwa, if_pos rfl, vishwaBinary_eq hvishwa, Option.map_map] at h
      obtain ⟨name, hname, rfl⟩ := Option.map_eq_some_iff.1 h
      have hbinary : binaryName run.testSuiteID = name := by
        rw [binaryName, List.getLastD_eq_getLast?, hname]
        rfl
      simp [stepCommand, vishwaParameters, hvishwa, hbinary]

/-- **When loading a suite is safe**: unless the id is `vishwa/` followed by one or more slashes and
nothing else. -/
theorem suiteIsSafe_iff (suiteID : String) :
    SuiteIsSafe suiteID ↔
      (isVishwaSuite suiteID = true → ∃ c ∈ suiteID.toList.drop 7, c ≠ '/') := by
  have hslashes : splitPath (suitePath suiteID) ≠ [] ↔ ∃ c ∈ suiteID.toList.drop 7, c ≠ '/' := by
    rw [ne_eq, splitPath_eq_nil_iff, suitePath, String.toList_ofList]
    push Not
    rfl
  constructor
  · intro h hvishwa
    exact hslashes.1 (h.segments hvishwa)
  · intro h
    have hload : ∀ b, isVishwaSuite suiteID = b →
        (b = true → vishwaBinary suiteID ≠ none) := by
      intro b hb htrue
      rw [← hb] at htrue
      rw [ne_eq, vishwaBinary_eq_none_iff htrue]
      exact hslashes.2 (h htrue)
    cases hvishwa : isVishwaSuite suiteID with
    | false =>
        refine ⟨fun device file => ?_, ?_, fun hv => ?_⟩
        · simp [loadTestSuite, isVishwaSuiteChecked_eq, hvishwa]
        · rintro run device d attempt rfl
          simp [startTestCommand, isVishwaSuiteChecked_eq, hvishwa]
        · rw [hvishwa] at hv
          cases hv
    | true =>
        have hbinary := hload true hvishwa rfl
        refine ⟨fun device file => ?_, ?_, fun _ => hslashes.2 (h hvishwa)⟩
        · simp [loadTestSuite, isVishwaSuiteChecked_eq, hvishwa, hbinary]
        · rintro run device d attempt rfl
          simp [startTestCommand, isVishwaSuiteChecked_eq, hvishwa, hbinary]

/-- **A slash too many**: the id `vishwa//` passes the checks of a request, since it is not empty,
and loading it panics on every device. -/
theorem loadTestSuite_slash_panics :
    "vishwa//" ≠ "" ∧ isVishwaSuite "vishwa//" = true ∧ splitPath (suitePath "vishwa//") = [] ∧
      ∀ device file, loadTestSuite "vishwa//" device file = none := by
  have hvishwa : isVishwaSuite "vishwa//" = true := by decide +kernel
  have hnil : splitPath (suitePath "vishwa//") = [] := by decide +kernel
  refine ⟨by decide, hvishwa, hnil, fun device file => ?_⟩
  rw [loadTestSuite, isVishwaSuiteChecked_eq, hvishwa, Option.bind_some, if_pos rfl,
    (vishwaBinary_eq_none_iff hvishwa).2 hnil, Option.map_none]

end Dvf
