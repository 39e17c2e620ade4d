/-
**When the two parsers agree** (`python-agent/agent/__main__.py`, `parse_vishwa_output`;
`runner/local_runner.py`, `run_tests`).

The agent's parser is a port of the runner's.  They differ in two places: a summary line, which only
the agent reads, and an output in which nothing is found, for which only the agent reports a
failure.  For outputs of programs that exited with 0 `Dvf.parsers_agree_iff` says exactly when the
two give the same results and the same counts.

* `Dvf.SameReport`, `Dvf.hasVerdict` — the comparison, and the words of the fourth strategy;
* `Dvf.ParsersAgreeOn`, `Dvf.parsers_agree_iff` — **when the parsers agree**.
-/

import Dvf.OutputFindings

set_option autoImplicit false

namespace Dvf

open PyText

def counts (summary : Json) : Option Json × Option Json × Option Json :=
  (summary.get? "total", summary.get? "passed", summary.get? "failed")

/-- The same results and the same counts, or an exception from both. -/
def SameReport (a b : Option SuiteResult) : Prop :=
  a.map (fun r => (r.results, counts r.summary)) = b.map fun r => (r.results, counts r.summary)

/-- The output has one of the words that the runner's fourth strategy looks for. -/
def hasVerdict (py : Python) (output : List Char) : Bool :=
  let upper := py.upper output
  contains "TEST PASSED".toList upper || contains "PASSED".toList upper ||
    contains "TEST FAILED".toList upper || contains "FAILED!".toList upper || driverError upper

/-- With one of the words, the fourth strategies agree on an output with exit code 0; without, the
runner's finds nothing. -/
theorem strategy4Runner_eq (py : Python) (output : List Char) (suiteName : String)
    (elapsed : Json) :
    strategy4Runner py output 0 suiteName elapsed =
      if hasVerdict py output then some (strategy4 py output suiteName elapsed) else none := by
  cases hverdict : hasVerdict py output with
  | false =>
      simp only [hasVerdict, Bool.or_eq_false_iff] at hverdict
      obtain ⟨⟨⟨⟨h₁, h₂⟩, h₃⟩, h₄⟩, h₅⟩ := hverdict
      simp only [strategy4Runner, h₁, h₂, h₃, h₄, h₅, Bool.and_false, Bool.or_false, Bool.false_and,
        ne_eq, not_true, decide_false, Bool.false_eq_true, if_false]
  | true =>
      by_cases herr : driverError (py.upper output) = true
      · simp [strategy4Runner, strategy4, herr]
      · by_cases hpass : (contains "TEST PASSED".toList (py.upper output) ||
            contains "PASSED".toList (py.upper output)) = true
        · simp only [strategy4Runner, strategy4, decide_true, Bool.true_and, hpass, herr,
            Bool.not_false, if_true]
        · have hfail : (contains "TEST FAILED".toList (py.upper output) ||
              contains "FAILED!".toList (py.upper output)) = true := by
            simpa only [hasVerdict, Bool.eq_false_of_not_eq_true hpass, Bool.false_or,
              Bool.eq_false_of_not_eq_true herr, Bool.or_false] using hverdict
          simp only [strategy4Runner, strategy4, decide_true, Bool.true_and, hpass, hfail,
            Bool.false_and, Bool.true_or, Bool.false_eq_true, if_false, if_true]

/-- The parsers get the same from an output of a program that exited with 0: when a report ends the
search; when the summary lines end it with an exception, and so do the result lines; when no summary
line is decoded, and lines are counted or there is one of the words; or when the last summary has
the counts of the progress lines, with no result decoded, and no such word if there are none. -/
def ParsersAgreeOn (py : Python) (output : List Char) (elapsed : Json) : Prop :=
  reportFound py none (lines output) ≠ none ∨
  (summariesReadable py (lines output) = false ∧ resultsReadable py (lines output) = false) ∨
  (summariesReadable py (lines output) = true ∧ summaryValues py.decode (lines output) = [] ∧
    (resultsReadable py (lines output) = true →
      0 < (lineCounts py.decode (lines output)).total ∨ hasVerdict py output = true)) ∨
  (summariesReadable py (lines output) = true ∧ summaryValues py.decode (lines output) ≠ [] ∧
    resultsReadable py (lines output) = true ∧ resultValues py.decode (lines output) = [] ∧
    counts (lastSummary (summaryOf 0 0 0 elapsed) (summaryValues py.decode (lines output))) =
      counts (summaryOf ((lines output).countP isPassLine + (lines output).countP isFailLine)
        ((lines output).countP isPassLine) ((lines output).countP isFailLine) elapsed) ∧
    ((∀ line ∈ lines output, isPassLine line = false ∧ isFailLine line = false) →
      hasVerdict py output = false))

theorem results_strategy4_ne (py : Python) (output : List Char) (suiteName : String)
    (elapsed : Json) : (strategy4 py output suiteName elapsed).results ≠ .arr [] := by
  simp only [strategy4]
  split
  · simp [passResult]
  · simp [failResult]

theorem strategy4Runner_getD_eq (py : Python) (output : List Char) (suiteName : String)
    (elapsed : Json) :
    (strategy4Runner py output 0 suiteName elapsed).getD (initialResult elapsed) =
      if hasVerdict py output then strategy4 py output suiteName elapsed
      else initialResult elapsed := by
  rw [strategy4Runner_eq]
  split <;> rfl

section Agreement

variable {py : Python} {output : List Char} {suiteName : String} {elapsed : Json}

theorem sameReport_some_iff {a b : SuiteResult} :
    SameReport (some a) (some b) ↔ a.results = b.results ∧ counts a.summary = counts b.summary := by
  simp [SameReport]

theorem sameReport_words_iff :
    SameReport (some (strategy4 py output suiteName elapsed))
        (some ((strategy4Runner py output 0 suiteName elapsed).getD (initialResult elapsed))) ↔
      hasVerdict py output = true := by
  rw [strategy4Runner_getD_eq, sameReport_some_iff]
  cases hasVerdict py output with
  | true => simp
  | false =>
      have hne := results_strategy4_ne py output suiteName elapsed
      simp [initialResult, hne]

/-- A summary line: the runner has to count the same from progress lines, without a result. -/
theorem sameReport_summary_iff (summary : Json) :
    SameReport (some ⟨.arr [], summary⟩)
        (some (if 0 < (lineCounts py.decode (lines output)).total then
            (lineCounts py.decode (lines output)).result elapsed
          else (strategy4Runner py output 0 suiteName elapsed).getD (initialResult elapsed))) ↔
      resultValues py.decode (lines output) = [] ∧
      counts summary =
        counts (summaryOf ((lines output).countP isPassLine + (lines output).countP isFailLine)
          ((lines output).countP isPassLine) ((lines output).countP isFailLine) elapsed) ∧
      ((∀ line ∈ lines output, isPassLine line = false ∧ isFailLine line = false) →
        hasVerdict py output = false) := by
  have hlength := length_resultValues_le py.decode (lines output)
  rw [strategy4Runner_getD_eq, sameReport_some_iff, forall_not_progress_iff]
  by_cases hparsed : resultValues py.decode (lines output) = []
  · have hlines : lineCounts py.decode (lines output) =
        ⟨[], (lines output).countP isPassLine, (lines output).countP isFailLine⟩ := by
      simp [lineCounts, hparsed]
    have htotal : (lineCounts py.decode (lines output)).total =
        (lines output).countP isPassLine + (lines output).countP isFailLine := by
      rw [hlines, Counted.total]
    by_cases hpos : 0 < (lineCounts py.decode (lines output)).total
    · rw [if_pos hpos, hlines]
      exact ⟨fun h => ⟨hparsed, h.2, fun hzero => by omega⟩, fun h => ⟨rfl, h.2.1⟩⟩
    · obtain ⟨hp, hf⟩ :
          (lines output).countP isPassLine = 0 ∧ (lines output).countP isFailLine = 0 := by omega
      have hne := results_strategy4_ne py output suiteName elapsed
      cases hverdict : hasVerdict py output with
      | true => simp [hpos, hp, hf, hne.symm]
      | false => simp [hpos, hp, hf, hparsed, initialResult]
  · have hpos : 0 < (lineCounts py.decode (lines output)).total := by
      have := List.length_pos_of_ne_nil hparsed
      omega
    rw [if_pos hpos]
    exact iff_of_false (fun h => hparsed (Json.arr.inj h.1).symm) fun h => hparsed h.1

end Agreement

/-- **When the two parsers agree on the output of a program that exited with 0.** -/
theorem parsers_agree_iff (py : Python) (output : List Char) (suiteName : String)
    (elapsed : Json) :
    SameReport (parseVishwaOutput py output suiteName elapsed)
      (runnerParse py output 0 suiteName elapsed) ↔ ParsersAgreeOn py output elapsed := by
  rw [parseVishwaOutput_eq, runnerParse_eq, ParsersAgreeOn]
  cases reportFound py none (lines output) with
  | some found => simp [SameReport]
  | none =>
      rw [Option.elim_none, Option.elim_none]
      cases summariesReadable py (lines output) with
      | false => cases resultsReadable py (lines output) <;> simp [SameReport]
      | true =>
          by_cases hnil : summaryValues py.decode (lines output) = []
          · cases resultsReadable py (lines output) with
            | false => simp [hnil, SameReport]
            | true =>
                by_cases hpos : 0 < (lineCounts py.decode (lines output)).total
                · simp [hnil, hpos, SameReport]
                · simp [hnil, hpos, sameReport_words_iff]
          · cases resultsReadable py (lines output) with
            | false => simp [hnil, SameReport]
            | true => simp [hnil, sameReport_summary_iff]

/-- The total that a parser reports. -/
def reportedTotal (r : Option SuiteResult) : Option ℕ :=
  r.bind fun r => (r.summary.get? "total").bind fun v =>
    match v with
    | .num n => some n.mantissa
    | _ => none

theorem SameReport.reportedTotal_eq {a b : Option SuiteResult} (h : SameReport a b) :
    reportedTotal a = reportedTotal b := by
  cases a with
  | none =>
      cases b with
      | none => rfl
      | some b => cases h
  | some a =>
      cases b with
      | none => cases h
      | some b =>
          have htotal : a.summary.get? "total" = b.summary.get? "total" :=
            congrArg (fun p => p.2.1) (Option.some.inj h)
          simp only [reportedTotal, Option.bind_some, htotal]

/-- An output without any verdict: the agent reports a failure, the runner nothing.  And a summary
line alone: the agent takes its counts, and the runner, which finds the word `PASSED` in it, reports
one test that passed. -/
theorem parsers_disagree :
    ¬ SameReport (parseVishwaOutput asciiPython "done".toList "smoke" .null)
      (runnerParse asciiPython "done".toList 0 "smoke" .null) ∧
    ¬ SameReport
      (parseVishwaOutput asciiPython
        "], \"summary\": \x7b\"total\": 2, \"passed\": 2, \"failed\": 0\x7d\x7d".toList "smoke"
        .null)
      (runnerParse asciiPython
        "], \"summary\": \x7b\"total\": 2, \"passed\": 2, \"failed\": 0\x7d\x7d".toList 0 "smoke"
        .null) :=
  ⟨fun h => absurd h.reportedTotal_eq (by decide +kernel),
    fun h => absurd h.reportedTotal_eq (by decide +kernel)⟩

end Dvf
