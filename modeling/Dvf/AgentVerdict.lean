/-
**The agent's verdict on a test** (`python-agent/agent/__main__.py`, `_handle_start_test`).

The agent starts from the exit code of the test, parses the combined output, and lowers a `passed`
to `failed` if the summary that was parsed shows a failure.  An exception in the parser or in the
comparisons leaves the handler, and the command is reported as `errored`.

The words of a driver that did not come up are looked for in the fourth strategy only.  Wherever an
earlier strategy finds something, they do not count: `Dvf.driver_error_fails_iff` says exactly for
which outputs with such words the test is not reported as passed.

The parser calls `get` on whatever JSON value it decoded, and catches the errors of the decoder
only; and the summary it takes over from the text may be anything.
`Dvf.parser_total_iff` says exactly for which outputs the parser returns, and the comparisons that
follow can be made.

* `Dvf.reconcile`, `Dvf.finishStartTest`, `Dvf.commandStatus` — the code;
* `Dvf.ShowsFailure`, `Dvf.driver_error_fails_iff` — **driver errors in the verdict**;
* `Dvf.Manageable`, `Dvf.parser_total_iff` — **when the parser is total**.
-/

import Dvf.LocalRunner
import Dvf.OutputFindings

set_option autoImplicit false

namespace Dvf

open PyText
open LocalRunner (PyNumbers PyCounts jsonZero integerCounts)

/-! ### The handler -/

/-- The statuses that the agent reports. -/
inductive CommandStatus
  | passed | failed | errored
  deriving DecidableEq

/-- How the test process ends: with an exit code, killed after the timeout, or with an exception
while it is started or waited for. -/
inductive ProcessEnd
  | exited (returncode : ℤ)
  | timedOut
  | raised (message : List Char)

/-- The status before the output is parsed. -/
def ProcessEnd.status : ProcessEnd → CommandStatus
  | .exited returncode => if returncode = 0 then .passed else .failed
  | .timedOut => .errored
  | .raised _ => .errored

/-- The line that is added to the output of the test. -/
def ProcessEnd.note (p : TestProcess) : ProcessEnd → List (List Char)
  | .exited _ => []
  | .timedOut => [("test timed out after " ++ toString p.timeout ++ "s").toList]
  | .raised message => [message]

/-- `v == 0`, for any value. -/
def equalsZero (nums : PyNumbers) (v : Json) : Bool := (nums.read v).elim false nums.isZero

/-- `v > 0`; only numbers can be compared with 0. -/
def exceedsZero (nums : PyNumbers) (v : Json) : Option Bool := (nums.read v).map nums.isPos

/-- The reconciliation: does the summary show a failure, or no pass in a run that is not empty? -/
def reconcile (nums : PyNumbers) (summary : Json) : Option Bool :=
  (pyGet summary "failed" jsonZero).bind fun failed =>
    (pyGet summary "passed" jsonZero).bind fun passed =>
      (pyGet summary "total" jsonZero).bind fun total =>
        (exceedsZero nums failed).bind fun someFailed =>
          if someFailed then some true
          else (exceedsZero nums total).map fun someRan => someRan && equalsZero nums passed

/-- The text that is parsed: the lines from both streams. -/
def combinedOutput (outputLines logsLines : List (List Char)) : List Char :=
  ['\n'].intercalate outputLines ++ '\n' :: ['\n'].intercalate logsLines

/-- `_handle_start_test` from the end of the process on: the parsed results, the status and the
logs. -/
def finishStartTest (py : Python) (nums : PyNumbers) (p : TestProcess) (elapsed : Json)
    (ended : ProcessEnd) (outputLines logsLines : List (List Char)) :
    Option (SuiteResult × CommandStatus × List Char) :=
  (parseVishwaOutput py (combinedOutput (outputLines ++ ended.note p) logsLines) p.suiteName
      elapsed).bind fun parsed =>
    if ended.status = .passed then
      (reconcile nums parsed.summary).map fun failure =>
        (parsed, if failure then .failed else .passed, ['\n'].intercalate logsLines)
    else some (parsed, ended.status, ['\n'].intercalate logsLines)

/-- The status of the command: `errored` if an exception leaves the handler. -/
def commandStatus (py : Python) (nums : PyNumbers) (p : TestProcess) (elapsed : Json)
    (ended : ProcessEnd) (outputLines logsLines : List (List Char)) : CommandStatus :=
  (finishStartTest py nums p elapsed ended outputLines logsLines).elim .errored (·.2.1)

/-- With exit code 0, a test passes if a summary without a failure is parsed. -/
theorem commandStatus_eq_passed_iff (py : Python) (nums : PyNumbers) (p : TestProcess)
    (elapsed : Json) (outputLines logsLines : List (List Char)) :
    commandStatus py nums p elapsed (.exited 0) outputLines logsLines = .passed ↔
      ∃ r, parseVishwaOutput py (combinedOutput outputLines logsLines) p.suiteName elapsed =
          some r ∧ reconcile nums r.summary = some false := by
  simp only [commandStatus, finishStartTest, ProcessEnd.note, List.append_nil, ProcessEnd.status,
    if_true]
  cases parseVishwaOutput py (combinedOutput outputLines logsLines) p.suiteName elapsed with
  | none => simp
  | some r =>
      cases hfail : reconcile nums r.summary with
      | none => simp [hfail]
      | some failure => cases failure <;> simp [hfail]

/-! ### Counts that the parser made -/

theorem reconcile_summaryOf (nums : PyNumbers) (total passed failed : ℕ) (elapsed : Json) :
    reconcile nums (summaryOf total passed failed elapsed) =
      if nums.isPos (nums.ofNumber ⟨false, failed, 0⟩) then some true
      else some (nums.isPos (nums.ofNumber ⟨false, total, 0⟩) &&
        nums.isZero (nums.ofNumber ⟨false, passed, 0⟩)) := rfl

theorem reconcile_counts (nums : PyCounts) (total passed failed : ℕ) (elapsed : Json) :
    reconcile nums.toPyNumbers (summaryOf total passed failed elapsed) =
      some (decide (0 < failed ∨ (0 < total ∧ passed = 0))) := by
  rw [reconcile_summaryOf, nums.isPos_nat, nums.isPos_nat, nums.isZero_nat]
  by_cases hfailed : 0 < failed
  · simp [hfailed]
  · simp [hfailed]

/-! ### Driver errors -/

/-- An entry of a summary, 0 if it is missing. -/
def summaryEntry (summary : Json) (key : String) : Json := (summary.get? key).getD jsonZero

/-- A summary does not let a test pass: it is no dictionary; `failed` or `total` is no number;
`failed` is positive; or `total` is, and `passed` is zero. -/
def SummaryFails (nums : PyNumbers) (summary : Json) : Prop :=
  isObject summary = false ∨ nums.read (summaryEntry summary "failed") = none ∨
  nums.read (summaryEntry summary "total") = none ∨
  exceedsZero nums (summaryEntry summary "failed") = some true ∨
  (exceedsZero nums (summaryEntry summary "total") = some true ∧
    equalsZero nums (summaryEntry summary "passed") = true)

/-- What is decoded from the output does not let the test pass: the summary of the report; without a
report, the last summary; and without both, a result that is not `PASS`, a failure in the progress
report, or nothing that could be counted.  An exception does not either. -/
def ShowsFailure (py : Python) (nums : PyNumbers) (output : List Char) (elapsed : Json) : Prop :=
  (reportFound py none (lines output)).elim
    (summariesReadable py (lines output) = true →
      if summaryValues py.decode (lines output) = [] then
        resultsReadable py (lines output) = true →
          (∃ v ∈ resultValues py.decode (lines output), isPass v = false) ∨
          (∃ line ∈ lines output, isFailLine line = true) ∨
          (resultValues py.decode (lines output) = [] ∧
            ∀ line ∈ lines output, isPassLine line = false)
      else SummaryFails nums
        (lastSummary (summaryOf 0 0 0 elapsed) (summaryValues py.decode (lines output))))
    fun found => ∀ v, found = some v → isObject v = true →
      SummaryFails nums ((v.get? "summary").getD (summaryOf 0 0 0 elapsed))

theorem reconcile_eq_false_iff (nums : PyNumbers) (summary : Json) :
    reconcile nums summary = some false ↔ ¬ SummaryFails nums summary := by
  simp only [reconcile, pyGet_eq, SummaryFails, exceedsZero, summaryEntry]
  cases hobj : isObject summary with
  | false => simp
  | true =>
      simp only [if_true, Option.bind_some]
      cases nums.read ((summary.get? "failed").getD jsonZero) with
      | none => simp
      | some failed =>
          cases nums.read ((summary.get? "total").getD jsonZero) with
          | none => cases nums.isPos failed <;> simp
          | some total => cases hpos : nums.isPos failed <;> simp [hpos]

theorem strategy4_of_driverError {py : Python} {output : List Char}
    (h : driverError (py.upper output) = true) (suiteName : String) (elapsed : Json) :
    strategy4 py output suiteName elapsed = failResult py output suiteName elapsed := by
  simp only [strategy4, h, Bool.not_true, Bool.and_false, Bool.false_eq_true, if_false]

/-- Without a report and a summary line, a failure has to be counted, or nothing at all. -/
theorem reconcile_lines_iff (py : Python) (nums : PyCounts) (output : List Char)
    (suiteName : String) (elapsed : Json) (h : driverError (py.upper output) = true) :
    reconcile nums.toPyNumbers (if 0 < (lineCounts py.decode (lines output)).total then
          (lineCounts py.decode (lines output)).result elapsed
        else strategy4 py output suiteName elapsed).summary ≠ some false ↔
      (∃ v ∈ resultValues py.decode (lines output), isPass v = false) ∨
      (∃ line ∈ lines output, isFailLine line = true) ∨
      (resultValues py.decode (lines output) = [] ∧
        ∀ line ∈ lines output, isPassLine line = false) := by
  have hresults : (∃ v ∈ resultValues py.decode (lines output), isPass v = false) ↔
      0 < (resultValues py.decode (lines output)).countP (fun v => !isPass v) := by
    simp [List.countP_pos_iff]
  have hfails : (∃ line ∈ lines output, isFailLine line = true) ↔
      0 < (lines output).countP isFailLine := List.countP_pos_iff.symm
  have hpasses : (∀ line ∈ lines output, isPassLine line = false) ↔
      (lines output).countP isPassLine = 0 := by
    simp only [List.countP_eq_zero, Bool.not_eq_true]
  have hlength := countP_isPass_add (resultValues py.decode (lines output))
  have hempty : resultValues py.decode (lines output) = [] ↔
      (resultValues py.decode (lines output)).length = 0 := List.length_eq_zero_iff.symm
  rw [hresults, hfails, hpasses, hempty]
  by_cases hpos : 0 < (lineCounts py.decode (lines output)).total
  · rw [if_pos hpos, Counted.result, reconcile_counts, ne_eq, Option.some.injEq,
      decide_eq_false_iff_not, not_not]
    simp only [Counted.total, lineCounts] at hpos ⊢
    omega
  · rw [if_neg hpos, strategy4_of_driverError h, failResult, reconcile_counts]
    simp only [Counted.total, lineCounts] at hpos
    exact iff_of_true (by decide) (.inr (.inr (by omega)))

/-- **Driver errors in the verdict**: a test that exited with 0 and whose output has the words of a
driver error is not reported as passed, exactly if what is decoded from the output shows a failure.
-/
theorem driver_error_fails_iff (py : Python) (nums : PyCounts) (p : TestProcess)
    (elapsed : Json) (outputLines logsLines : List (List Char))
    (h : driverError (py.upper (combinedOutput outputLines logsLines)) = true) :
    commandStatus py nums.toPyNumbers p elapsed (.exited 0) outputLines logsLines ≠ .passed ↔
      ShowsFailure py nums.toPyNumbers (combinedOutput outputLines logsLines) elapsed := by
  rw [ne_eq, commandStatus_eq_passed_iff, exists_parseVishwaOutput_iff, ShowsFailure]
  generalize combinedOutput outputLines logsLines = output at h ⊢
  cases reportFound py none (lines output) with
  | some found => simp [reconcile_eq_false_iff, reportResult]
  | none =>
      by_cases hnil : summaryValues py.decode (lines output) = []
      · simp only [Option.elim_none, hnil, if_true, not_and]
        exact imp_congr_right fun _ => imp_congr_right fun _ =>
          reconcile_lines_iff py nums output p.suiteName elapsed h
      · simp [hnil, reconcile_eq_false_iff]

/-- Numbers without a fraction. -/
def agentCounts : PyCounts where
  toPyNumbers := integerCounts
  isPos_nat n := by simp [integerCounts]
  isZero_nat n := by simp [integerCounts]

/-- A test that is started as it is, for two minutes. -/
def vecaddx : TestProcess where
  argv := ["./vecaddx"]
  env := ∅
  cwd := none
  timeout := 120
  suiteName := "vecaddx"

/-- A driver that does not come up, and nothing else: the test fails although it exits with 0. -/
theorem driver_error_alone_fails :
    driverError (asciiPython.upper (combinedOutput ["[gpurt error] open".toList] [])) = true ∧
    commandStatus asciiPython integerCounts vecaddx .null (.exited 0)
      ["[gpurt error] open".toList] [] ≠ .passed := by
  have herror : driverError (asciiPython.upper
      (combinedOutput ["[gpurt error] open".toList] [])) = true := by decide +kernel
  have hreport : reportFound asciiPython none
      (lines (combinedOutput ["[gpurt error] open".toList] [])) = none := by decide +kernel
  have hsummaries : summaryValues asciiPython.decode
      (lines (combinedOutput ["[gpurt error] open".toList] [])) = [] := by decide +kernel
  refine ⟨herror, (driver_error_fails_iff asciiPython agentCounts vecaddx .null _ _ herror).2 ?_⟩
  rw [ShowsFailure, hreport, hsummaries]
  exact fun _ _ => .inr (.inr (by decide +kernel))

/-- A progress line that says `PASS` ends the search before the words are looked for: a test that
exited with 0 passes although the device could not be opened. -/
theorem progress_line_hides_driver_error :
    driverError (asciiPython.upper (combinedOutput ["running: vecadd ... PASS".toList]
      ["[GPURT ERROR] device open failed".toList])) = true ∧
    commandStatus asciiPython integerCounts vecaddx .null (.exited 0)
      ["running: vecadd ... PASS".toList] ["[GPURT ERROR] device open failed".toList] =
        .passed := by
  decide +kernel

/-! ### The parser is total on manageable outputs -/

/-- Python with a decoder that returns a value or raises `JSONDecodeError`. -/
def Python.ofDecoder (decode : List Char → Option Json) (upper lower : List Char → List Char) :
    Python where
  loads cs := (decode cs).elim .decodeError .ok
  upper := upper
  lower := lower

def reportValue (decode : List Char → Option Json) (acc : Option (List (List Char)))
    (ls : List (List Char)) : Option Json :=
  (reportTexts acc ls).findSome? decode

/-- The comparisons of the reconciliation can be made. -/
def CanReconcile (nums : PyNumbers) (summary : Json) : Prop := reconcile nums summary ≠ none

/-- What is decoded can be handled: a report is a dictionary, and its summary can be compared;
without a report, the summary lines are dictionaries, and the last summary can be compared; and
without these, the result lines are dictionaries. -/
def Manageable (nums : PyNumbers) (decode : List Char → Option Json) (output : List Char)
    (elapsed : Json) : Prop :=
  (reportValue decode none (lines output)).elim
    ((∀ v ∈ summaryValues decode (lines output), isObject v = true) ∧
      if summaryValues decode (lines output) = [] then
        ∀ v ∈ resultValues decode (lines output), isObject v = true
      else CanReconcile nums
        (lastSummary (summaryOf 0 0 0 elapsed) (summaryValues decode (lines output))))
    fun v => isObject v = true ∧
      CanReconcile nums ((v.get? "summary").getD (summaryOf 0 0 0 elapsed))

theorem canReconcile_summaryOf (nums : PyNumbers) (total passed failed : ℕ) (elapsed : Json) :
    CanReconcile nums (summaryOf total passed failed elapsed) := by
  rw [CanReconcile, reconcile_summaryOf]
  split <;> simp

theorem canReconcile_strategy4 (nums : PyNumbers) (py : Python) (output : List Char)
    (suiteName : String) (elapsed : Json) :
    CanReconcile nums (strategy4 py output suiteName elapsed).summary := by
  simp only [strategy4]
  split
  · exact canReconcile_summaryOf nums 1 1 0 elapsed
  · exact canReconcile_summaryOf nums 1 0 1 elapsed

section OfDecoder

variable (decode : List Char → Option Json) (upper lower : List Char → List Char)

theorem loads_ofDecoder (cs : List Char) :
    (Python.ofDecoder decode upper lower).loads cs = (decode cs).elim .decodeError .ok := rfl

theorem decode_ofDecoder : (Python.ofDecoder decode upper lower).decode = decode := by
  funext cs
  rw [Python.decode, loads_ofDecoder]
  cases decode cs <;> rfl

theorem reportFound_ofDecoder (acc : Option (List (List Char))) (ls : List (List Char)) :
    reportFound (.ofDecoder decode upper lower) acc ls = (reportValue decode acc ls).map some := by
  rw [reportFound, reportValue, List.map_findSome?]
  congr 1
  funext cs
  rw [loads_ofDecoder, Function.comp_apply]
  cases decode cs <;> rfl

theorem summariesReadable_ofDecoder (ls : List (List Char)) :
    summariesReadable (.ofDecoder decode upper lower) ls =
      (summaryValues decode ls).all isObject := by
  rw [summaryValues, List.all_filterMap, List.all_filter, summariesReadable]
  congr 1
  funext line
  rw [loads_ofDecoder]
  cases decode (summaryText line) <;> rfl

theorem resultsReadable_ofDecoder (ls : List (List Char)) :
    resultsReadable (.ofDecoder decode upper lower) ls =
      (resultValues decode ls).all isObject := by
  rw [resultValues, List.all_filterMap, List.all_filter, resultsReadable]
  congr 1
  funext line
  rw [loads_ofDecoder]
  cases decode (rstripChar ',' (strip line)) <;> rfl

end OfDecoder

/-- **When the parser is total**: with a decoder that returns a value or raises `JSONDecodeError`,
the parser returns and the reconciliation can be made exactly for the manageable outputs. -/
theorem parser_total_iff (nums : PyNumbers) (decode : List Char → Option Json)
    (upper lower : List Char → List Char) (output : List Char) (suiteName : String)
    (elapsed : Json) :
    (∃ r, parseVishwaOutput (.ofDecoder decode upper lower) output suiteName elapsed = some r ∧
      CanReconcile nums r.summary) ↔ Manageable nums decode output elapsed := by
  have hlines : CanReconcile nums (if 0 < (lineCounts decode (lines output)).total then
        (lineCounts decode (lines output)).result elapsed
      else strategy4 (.ofDecoder decode upper lower) output suiteName elapsed).summary := by
    split
    · exact canReconcile_summaryOf nums _ _ _ elapsed
    · exact canReconcile_strategy4 nums _ output suiteName elapsed
  rw [exists_parseVishwaOutput_iff, reportFound_ofDecoder, summariesReadable_ofDecoder,
    resultsReadable_ofDecoder, decode_ofDecoder, Manageable]
  cases reportValue decode none (lines output) with
  | some v => simp [reportResult]
  | none =>
      by_cases hnil : summaryValues decode (lines output) = []
      · simp [hnil, hlines]
      · simp [hnil]

/-- A list of results on one line: it is decoded, and a list has no `get`.  And a report whose
summary is a number: it is taken over, and a number has no `get` either. -/
theorem parser_not_total :
    parseVishwaOutput (.ofDecoder (fun cs => Json.parse pyNestingDepth (String.ofList cs)) id id)
      "[\x7b\"test\": \"a\", \"status\": \"PASS\"\x7d]".toList "smoke" .null = none ∧
    ∃ r, parseVishwaOutput
        (.ofDecoder (fun cs => Json.parse pyNestingDepth (String.ofList cs)) id id)
        "\x7b\"suite\": \"smoke\", \"summary\": 5\x7d\n".toList "smoke" .null = some r ∧
      ¬ CanReconcile integerCounts r.summary := by
  refine ⟨by decide +kernel, ⟨.arr [], .num ⟨false, 5, 0⟩⟩, by decide +kernel, ?_⟩
  exact fun h => h rfl

end Dvf
