/-
**What the parsers find in an output** (`python-agent/agent/__main__.py`, `parse_vishwa_output`;
`runner/local_runner.py`, `run_tests`).

The strategies of `Dvf/OutputParser.lean` go through the lines and carry along what they have read.
Which texts a strategy tries to decode depends on the lines alone (`Dvf.reportTexts`,
`Dvf.summaryText`), and what it returns on the values that come out: the first report, the last
summary, the results with the lines of the progress report.  So what the parsers return can be said
without them (`Dvf.parseVishwaOutput_eq`, `Dvf.runnerParse_eq`); all that is proved about the
parsers starts from there.

The counts and the results of what is returned come from different places.  A report and a summary
line bring their own counts, which nothing compares with anything.  Where lines are counted, a JSON
line for a test is counted and kept, a line of the progress report is counted only; so with both
kinds of lines the counts exceed the results.  `Dvf.counts_agree_iff` says exactly for which outputs
the counts agree with each other and with the results.

* `Dvf.reportFound`, `Dvf.summaryValues`, `Dvf.resultValues`, `Dvf.lineCounts` — what is decoded and
  counted;
* `Dvf.strategy1_eq`, `Dvf.strategy2_eq`, `Dvf.strategy2Runner_eq`, `Dvf.strategy3_eq` — the
  strategies;
* `Dvf.parseVishwaOutput_eq`, `Dvf.runnerParse_eq` — **what the parsers return**, and
  `Dvf.exists_parseVishwaOutput_iff` as the rule for properties of it;
* `Dvf.CountsAgree`, `Dvf.counts_agree_iff` — **when the counts agree with the results**.
-/

import Dvf.OutputParser
import Mathlib.Algebra.Order.Field.Rat

set_option autoImplicit false

namespace Dvf

open PyText

/-! ### The values that are decoded -/

def isObject (v : Json) : Bool := v matches .obj _

/-- The value of a text, if there is one. -/
def Python.decode (py : Python) (cs : List Char) : Option Json :=
  (py.loads cs).elim some none none none

/-- What a text means for strategy 1: nothing if it is no JSON text, and else its value or the
exception. -/
def Loaded.settled : Loaded → Option (Option Json)
  | .ok v => some (some v)
  | .decodeError => none
  | .valueError => some none
  | .otherError => some none

/-- The texts that strategy 1 tries to decode: from a line that begins a report on, what is joined
up to each of the lines that follow. -/
def reportTexts : Option (List (List Char)) → List (List Char) → List (List Char)
  | _, [] => []
  | acc, line :: rest =>
      if "\x7b\"suite\":".toList.isPrefixOf (strip line) then reportTexts (some [strip line]) rest
      else acc.elim (reportTexts none rest) fun js =>
        [' '].intercalate (js ++ [strip line]) :: reportTexts (some (js ++ [strip line])) rest

/-- The first of them that is a JSON text: its value, or the exception. -/
def reportFound (py : Python) (acc : Option (List (List Char))) (ls : List (List Char)) :
    Option (Option Json) :=
  (reportTexts acc ls).findSome? fun cs => (py.loads cs).settled

section Decoded

variable (decode : List Char → Option Json)

def summaryValues (ls : List (List Char)) : List Json :=
  (ls.filter isSummaryLine).filterMap fun line => decode (summaryText line)

/-- The summary after strategy 2: the last one that there is. -/
def lastSummary (summary : Json) (vs : List Json) : Json :=
  vs.foldl (fun s v => (v.get? "summary").getD s) summary

/-- A line that strategy 3 takes for the JSON object of a test. -/
def isResultLine (line : List Char) : Bool :=
  contains "\"test\":".toList (strip line) && contains "\"status\":".toList (strip line)

/-- A line that strategy 3 counts as a test that passed, from the progress report. -/
def isPassLine (line : List Char) : Bool :=
  !isResultLine line &&
    (contains "PASS".toList (strip line) && contains "running:".toList (strip line))

/-- A line that strategy 3 counts as a test that failed, from the progress report. -/
def isFailLine (line : List Char) : Bool :=
  !isResultLine line &&
    !(contains "PASS".toList (strip line) && contains "running:".toList (strip line)) &&
    (contains "FAIL".toList (strip line) && contains "running:".toList (strip line))

/-- `obj.get("status") == "PASS"`. -/
def isPass (v : Json) : Bool :=
  match v.get? "status" with
  | some (.str s) => s = "PASS"
  | _ => false

def resultValues (ls : List (List Char)) : List Json :=
  (ls.filter isResultLine).filterMap fun line => decode (rstripChar ',' (strip line))

/-- What the lines add up to: the results that are decoded, each counted by its status, and the
lines of the progress report, which are counted only. -/
def lineCounts (ls : List (List Char)) : Counted where
  parsed := resultValues decode ls
  passed := (resultValues decode ls).countP isPass + ls.countP isPassLine
  failed := (resultValues decode ls).countP (fun v => !isPass v) + ls.countP isFailLine

end Decoded

/-- Strategy 2 can handle what the summary lines are decoded to. -/
def summariesReadable (py : Python) (ls : List (List Char)) : Bool :=
  ls.all fun line => !isSummaryLine line ||
    (py.loads (summaryText line)).elim isObject true true false

/-- Strategy 3 can handle what the result lines are decoded to. -/
def resultsReadable (py : Python) (ls : List (List Char)) : Bool :=
  ls.all fun line => !isResultLine line ||
    (py.loads (rstripChar ',' (strip line))).elim isObject true false false

/-! ### The strategies -/

theorem pyGet_eq (v : Json) (key : String) (dflt : Json) :
    pyGet v key dflt = if isObject v then some ((v.get? key).getD dflt) else none := by
  cases v <;> rfl

/-- The results and the summary of a report, with their defaults. -/
def reportResult (elapsed v : Json) : SuiteResult :=
  ⟨(v.get? "results").getD (.arr []), (v.get? "summary").getD (summaryOf 0 0 0 elapsed)⟩

theorem takeReport_initialResult (elapsed v : Json) :
    takeReport (initialResult elapsed) v =
      if isObject v then some (reportResult elapsed v) else none := by
  rw [takeReport, pyGet_eq, pyGet_eq]
  cases isObject v <;> rfl

/-- **Strategy 1** takes over the first report. -/
theorem strategy1_eq (py : Python) (r : SuiteResult) (acc : Option (List (List Char)))
    (ls : List (List Char)) :
    strategy1 py r acc ls =
      (reportFound py acc ls).elim (some none) fun v => (v.bind (takeReport r)).map some := by
  induction ls generalizing acc with
  | nil => rfl
  | cons line rest ih =>
      rw [strategy1, reportFound, reportTexts]
      split
      · exact ih _
      · cases acc with
        | none => exact ih none
        | some js =>
            rw [Option.elim_some, Option.elim_some, List.findSome?_cons]
            cases py.loads ([' '].intercalate (js ++ [strip line])) with
            | ok v => rfl
            | decodeError => exact ih _
            | valueError => rfl
            | otherError => rfl

/-- **Strategy 2** takes over the last summary. -/
theorem strategy2_eq (py : Python) (r : SuiteResult) (found : Bool) (ls : List (List Char)) :
    strategy2 py r found ls =
      if summariesReadable py ls then
        some (⟨r.results, lastSummary r.summary (summaryValues py.decode ls)⟩,
          found || !(summaryValues py.decode ls).isEmpty)
      else none := by
  induction ls generalizing r found with
  | nil => simp [strategy2, summariesReadable, summaryValues, lastSummary]
  | cons line rest ih =>
      rw [strategy2]
      by_cases hline : isSummaryLine line = true
      · rw [if_pos hline]
        cases hload : py.loads (summaryText line) with
        | ok v =>
            have hvalues : summaryValues py.decode (line :: rest) =
                v :: summaryValues py.decode rest := by
              simp [summaryValues, hline, Python.decode, hload, Loaded.elim]
            have hreads : summariesReadable py (line :: rest) =
                (isObject v && summariesReadable py rest) := by
              simp [summariesReadable, hline, hload, Loaded.elim]
            simp only [Loaded.elim, pyGet_eq, hvalues, hreads]
            cases hobj : isObject v with
            | false => rfl
            | true =>
                refine (ih _ true).trans ?_
                simp [lastSummary]
        | otherError => simp [Loaded.elim, summariesReadable, hline, hload]
        | _ =>
            refine (ih r found).trans ?_
            simp [summariesReadable, summaryValues, hline, Python.decode, hload, Loaded.elim]
      · rw [if_neg hline]
        refine (ih r found).trans ?_
        simp [summariesReadable, summaryValues, hline]

theorem getLast?_rstripChar (c d : Char) (hd : d ≠ c) (cs : List Char) :
    (d :: rstripChar c cs).getLast? ≠ some c := by
  intro hlast
  cases hcs : rstripChar c cs with
  | nil =>
      rw [hcs] at hlast
      exact hd (Option.some.inj hlast)
  | cons a as =>
      have hne : rstripChar c cs ≠ [] := by simp [hcs]
      have hnot := List.rdropWhile_last_not (fun x => decide (x = c)) cs hne
      rw [List.getLast?_cons_of_ne_nil hne, List.getLast?_eq_getLast_of_ne_nil hne,
        Option.some.injEq] at hlast
      exact hnot (by simpa [rstripChar] using hlast)

/-- **The runner's second strategy never finds anything.** -/
theorem strategy2Runner_eq (py : Python) (r : SuiteResult) (found : Bool) (ls : List (List Char)) :
    strategy2Runner py r found ls = some (r, found) := by
  induction ls with
  | nil => rfl
  | cons line rest ih =>
      rw [strategy2Runner, if_neg fun h => getLast?_rstripChar '}' '{' (by decide) _ h.2, ih]

theorem Counted.add_eq (t : Counted) {v status : Json}
    (h : pyGet v "status" .null = some status) :
    t.add v status = ⟨t.parsed ++ [v], t.passed + (if isPass v then 1 else 0),
      t.failed + (if isPass v then 0 else 1)⟩ := by
  cases v with
  | obj ms =>
      obtain rfl : ((Json.obj ms).get? "status").getD .null = status := by simpa [pyGet] using h
      cases hget : (Json.obj ms).get? "status" with
      | none => simp [Counted.add, isPass, hget]
      | some w =>
          cases w with
          | str s => by_cases hs : s = "PASS" <;> simp [Counted.add, isPass, hget, hs]
          | _ => simp [Counted.add, isPass, hget]
  | _ => cases h

/-- **What strategy 3 does with one line.** -/
theorem strategy3_cons (py : Python) (t : Counted) (line : List Char) (rest : List (List Char)) :
    strategy3 py t (line :: rest) =
      if isResultLine line then
        (py.loads (rstripChar ',' (strip line))).elim
          (fun v => (pyGet v "status" .null).bind fun status => strategy3 py (t.add v status) rest)
          (strategy3 py t rest) none none
      else strategy3 py ⟨t.parsed, t.passed + (if isPassLine line then 1 else 0),
        t.failed + (if isFailLine line then 1 else 0)⟩ rest := by
  rw [strategy3]
  by_cases hresult : isResultLine line = true
  · rw [if_pos hresult]
    exact if_pos hresult
  · rw [if_neg hresult]
    refine (if_neg hresult).trans ?_
    have hnot : isResultLine line = false := Bool.eq_false_of_not_eq_true hresult
    by_cases hpass : (contains "PASS".toList (strip line) &&
        contains "running:".toList (strip line)) = true
    · rw [if_pos hpass]
      simp only [isPassLine, isFailLine, hnot, hpass, Bool.not_false, Bool.and_true, Bool.not_true,
        Bool.and_false, Bool.false_and, if_true, Bool.false_eq_true, if_false, Nat.add_zero]
    · rw [if_neg hpass]
      have hpass' := Bool.eq_false_of_not_eq_true hpass
      by_cases hfail : (contains "FAIL".toList (strip line) &&
          contains "running:".toList (strip line)) = true
      · rw [if_pos hfail]
        simp only [isPassLine, isFailLine, hnot, hpass', hfail, Bool.not_false, Bool.and_true,
          Bool.and_false, if_true, Bool.false_eq_true, if_false, Nat.add_zero]
      · rw [if_neg hfail]
        have hfail' := Bool.eq_false_of_not_eq_true hfail
        simp only [isPassLine, isFailLine, hnot, hpass', hfail', Bool.not_false,
          Bool.and_false, Bool.false_eq_true, if_false, Nat.add_zero]

/-- The counts of two parts of an output. -/
def Counted.plus (t t' : Counted) : Counted :=
  ⟨t.parsed ++ t'.parsed, t.passed + t'.passed, t.failed + t'.failed⟩

theorem Counted.plus_assoc (t t' t'' : Counted) :
    (t.plus t').plus t'' = t.plus (t'.plus t'') := by
  simp only [Counted.plus, List.append_assoc, Nat.add_assoc]

theorem lineCounts_cons (decode : List Char → Option Json) (line : List Char)
    (rest : List (List Char)) :
    lineCounts decode (line :: rest) =
      (lineCounts decode [line]).plus (lineCounts decode rest) := by
  have hvalues : resultValues decode (line :: rest) =
      resultValues decode [line] ++ resultValues decode rest := by
    simp only [resultValues, ← List.filterMap_append, ← List.filter_append, List.singleton_append]
  simp only [lineCounts, Counted.plus, hvalues, List.countP_append, Counted.mk.injEq, true_and,
    List.countP_cons, List.countP_nil]
  omega

/-- **Strategy 3** keeps the results and counts the lines. -/
theorem strategy3_eq (py : Python) (t : Counted) (ls : List (List Char)) :
    strategy3 py t ls =
      if resultsReadable py ls then some (t.plus (lineCounts py.decode ls)) else none := by
  induction ls generalizing t with
  | nil => simp [strategy3, resultsReadable, lineCounts, resultValues, Counted.plus]
  | cons line rest ih =>
      rw [strategy3_cons, lineCounts_cons, ← Counted.plus_assoc]
      by_cases hline : isResultLine line = true
      · rw [if_pos hline]
        -- a result line is never a line of the progress report
        have hpass : isPassLine line = false := by simp [isPassLine, hline]
        have hfail : isFailLine line = false := by simp [isFailLine, hline]
        cases hload : py.loads (rstripChar ',' (strip line)) with
        | ok v =>
            have hone : lineCounts py.decode [line] =
                ⟨[v], if isPass v then 1 else 0, if isPass v then 0 else 1⟩ := by
              cases hstatus : isPass v <;>
                simp [lineCounts, resultValues, hline, hpass, hfail, Python.decode, hload,
                  Loaded.elim, hstatus]
            have hreads : resultsReadable py (line :: rest) =
                (isObject v && resultsReadable py rest) := by
              simp [resultsReadable, hline, hload, Loaded.elim]
            rw [hone, hreads]
            cases hobj : isObject v with
            | false => simp [Loaded.elim, pyGet_eq, hobj]
            | true =>
                have hget := pyGet_eq v "status" .null
                rw [if_pos hobj] at hget
                simp only [Loaded.elim, hget, Option.bind_some, ih, Counted.add_eq t hget,
                  Bool.true_and, Counted.plus]
        | decodeError =>
            refine (ih t).trans ?_
            simp [resultsReadable, lineCounts, resultValues, hline, hpass, hfail, Python.decode,
              hload, Loaded.elim, Counted.plus]
        | _ => simp [Loaded.elim, resultsReadable, hline, hload]
      · rw [if_neg hline, ih]
        simp [resultsReadable, lineCounts, resultValues, hline, Counted.plus, List.countP_cons]

/-! ### What the parsers return -/

/-- The number of tests that were counted. -/
def Counted.total (t : Counted) : ℕ := t.passed + t.failed

/-- The results that were kept, with the counts. -/
def Counted.result (t : Counted) (elapsed : Json) : SuiteResult :=
  ⟨.arr t.parsed, summaryOf t.total t.passed t.failed elapsed⟩

theorem countP_isPass_add (vs : List Json) :
    vs.countP isPass + vs.countP (fun v => !isPass v) = vs.length := by
  rw [List.length_eq_countP_add_countP isPass (l := vs)]
  simp

theorem length_resultValues_le (decode : List Char → Option Json) (ls : List (List Char)) :
    (resultValues decode ls).length ≤ (lineCounts decode ls).total := by
  have hlength := countP_isPass_add (resultValues decode ls)
  simp only [Counted.total, lineCounts]
  omega

theorem found_lineCounts (decode : List Char → Option Json) (ls : List (List Char)) :
    (lineCounts decode ls).found = decide (0 < (lineCounts decode ls).total) := by
  have hlength := length_resultValues_le decode ls
  rcases Nat.eq_zero_or_pos (lineCounts decode ls).total with hzero | hpos
  · have hnil : (lineCounts decode ls).parsed = [] := List.eq_nil_of_length_eq_zero (by
      rw [← Nat.le_zero, ← hzero]
      exact hlength)
    rw [Counted.found, hnil]
    rfl
  · have hsum : 0 < (lineCounts decode ls).passed + (lineCounts decode ls).failed := hpos
    simp [Counted.found, hsum, hpos]

theorem toResult_lineCounts {decode : List Char → Option Json} {ls : List (List Char)}
    (h : 0 < (lineCounts decode ls).total) (elapsed : Json) :
    (lineCounts decode ls).toResult (initialResult elapsed) elapsed =
      (lineCounts decode ls).result elapsed := by
  rw [Counted.toResult, Counted.result]
  congr 1
  · cases (lineCounts decode ls).parsed <;> rfl
  · exact if_pos h

section Returned

variable (py : Python) (output : List Char) (suiteName : String) (elapsed : Json)

/-- Strategy 3 with what comes after it if it finds nothing. -/
theorem strategy3_bind_eq (other : SuiteResult) :
    ((strategy3 py {} (lines output)).map fun t =>
        if t.found then t.toResult (initialResult elapsed) elapsed else other) =
      if resultsReadable py (lines output) then
        some (if 0 < (lineCounts py.decode (lines output)).total then
          (lineCounts py.decode (lines output)).result elapsed else other)
      else none := by
  have hplus : ({} : Counted).plus (lineCounts py.decode (lines output)) =
      lineCounts py.decode (lines output) := by
    simp [Counted.plus]
  rw [strategy3_eq, hplus]
  split
  · rw [Option.map_some, found_lineCounts]
    by_cases hpos : 0 < (lineCounts py.decode (lines output)).total
    · rw [if_pos hpos, if_pos (decide_eq_true hpos), toResult_lineCounts hpos]
    · rw [if_neg hpos, if_neg (by simpa using hpos)]
  · rfl

/-- **What the agent's parser returns**: a report; or else the last summary; or else the lines that
are counted; or else what the words say. -/
theorem parseVishwaOutput_eq :
    parseVishwaOutput py output suiteName elapsed =
      (reportFound py none (lines output)).elim
        (if summariesReadable py (lines output) then
          if summaryValues py.decode (lines output) = [] then
            if resultsReadable py (lines output) then
              some (if 0 < (lineCounts py.decode (lines output)).total then
                  (lineCounts py.decode (lines output)).result elapsed
                else strategy4 py output suiteName elapsed)
            else none
          else some ⟨.arr [], lastSummary (summaryOf 0 0 0 elapsed)
            (summaryValues py.decode (lines output))⟩
        else none)
        fun v => v.bind fun v => if isObject v then some (reportResult elapsed v) else none := by
  rw [parseVishwaOutput, strategy1_eq]
  simp only [← takeReport_initialResult]
  cases reportFound py none (lines output) with
  | some found =>
      rw [Option.elim_some, Option.elim_some]
      cases found.bind (takeReport (initialResult elapsed)) <;> rfl
  | none =>
      rw [Option.elim_none, Option.elim_none, Option.bind_some, Option.elim_none, strategy2_eq]
      cases summariesReadable py (lines output) with
      | false => rfl
      | true =>
          cases summaryValues py.decode (lines output) with
          | nil => exact strategy3_bind_eq py output elapsed _
          | cons v vs => rfl

/-- The parser returns something with a property. -/
theorem exists_parseVishwaOutput_iff (p : SuiteResult → Prop) :
    (∃ r, parseVishwaOutput py output suiteName elapsed = some r ∧ p r) ↔
      (reportFound py none (lines output)).elim
        (summariesReadable py (lines output) = true ∧
          if summaryValues py.decode (lines output) = [] then
            resultsReadable py (lines output) = true ∧
              p (if 0 < (lineCounts py.decode (lines output)).total then
                  (lineCounts py.decode (lines output)).result elapsed
                else strategy4 py output suiteName elapsed)
          else p ⟨.arr [], lastSummary (summaryOf 0 0 0 elapsed)
            (summaryValues py.decode (lines output))⟩)
        fun found => ∃ v, found = some v ∧ isObject v = true ∧ p (reportResult elapsed v) := by
  rw [parseVishwaOutput_eq]
  cases reportFound py none (lines output) with
  | some found => cases found <;> simp
  | none =>
      rw [Option.elim_none, Option.elim_none]
      cases summariesReadable py (lines output) with
      | false => simp
      | true => by_cases hnil : summaryValues py.decode (lines output) = [] <;> simp [hnil]

/-- **What the runner's parser returns**: the second strategy is missing. -/
theorem runnerParse_eq (rc : ℤ) :
    runnerParse py output rc suiteName elapsed =
      (reportFound py none (lines output)).elim
        (if resultsReadable py (lines output) then
          some (if 0 < (lineCounts py.decode (lines output)).total then
              (lineCounts py.decode (lines output)).result elapsed
            else (strategy4Runner py output rc suiteName elapsed).getD (initialResult elapsed))
        else none)
        fun v => v.bind fun v => if isObject v then some (reportResult elapsed v) else none := by
  rw [runnerParse, strategy1_eq]
  simp only [← takeReport_initialResult]
  cases reportFound py none (lines output) with
  | some found =>
      rw [Option.elim_some, Option.elim_some]
      cases found.bind (takeReport (initialResult elapsed)) <;> rfl
  | none =>
      rw [Option.elim_none, Option.elim_none, Option.bind_some, Option.elim_none,
        strategy2Runner_eq]
      exact strategy3_bind_eq py output elapsed _

end Returned

/-! ### Counts that agree -/

/-- The number that a JSON number denotes. -/
def jsonValue (n : JsonNumber) : ℚ :=
  (if n.negative then -1 else 1) * n.mantissa * 10 ^ n.exponent

/-- A count of a summary. -/
def countOf (summary : Json) (key : String) : Option ℚ :=
  (summary.get? key).bind fun v =>
    match v with
    | .num n => some (jsonValue n)
    | _ => none

/-- The counts of a summary are numbers, and the total is the sum of the others. -/
def SumAgrees (summary : Json) : Prop :=
  ∃ total passed failed : ℚ, countOf summary "total" = some total ∧
    countOf summary "passed" = some passed ∧ countOf summary "failed" = some failed ∧
    total = passed + failed

/-- The counts agree with each other, and with the list of results unless it is empty. -/
def CountsAgree (r : SuiteResult) : Prop :=
  SumAgrees r.summary ∧ ∀ vs, r.results = .arr vs → vs ≠ [] →
    countOf r.summary "total" = some (vs.length : ℚ) ∧
    countOf r.summary "passed" = some (vs.countP isPass : ℚ)

/-- The counts of a report agree: its own, if it has a summary; and without one, which gives zeros,
it lists no results. -/
def ReportAgrees (v : Json) : Prop :=
  (v.get? "summary").elim (∀ vs, v.get? "results" = some (.arr vs) → vs = []) fun summary =>
    SumAgrees summary ∧ ∀ vs, v.get? "results" = some (.arr vs) → vs ≠ [] →
      countOf summary "total" = some (vs.length : ℚ) ∧
      countOf summary "passed" = some (vs.countP isPass : ℚ)

/-- What is decoded brings counts that agree: a report its own; without a report, the last summary
its own; and without both, no result line is decoded or no line of the progress report is counted.
Where an exception ends the parser, there are no counts. -/
def CountsConsistent (py : Python) (output : List Char) (elapsed : Json) : Prop :=
  (reportFound py none (lines output)).elim
    (summariesReadable py (lines output) = true →
      if summaryValues py.decode (lines output) = [] then
        resultsReadable py (lines output) = true →
          resultValues py.decode (lines output) = [] ∨
          ∀ line ∈ lines output, isPassLine line = false ∧ isFailLine line = false
      else SumAgrees
        (lastSummary (summaryOf 0 0 0 elapsed) (summaryValues py.decode (lines output))))
    fun found => ∀ v, found = some v → isObject v = true → ReportAgrees v

theorem jsonValue_nat (n : ℕ) : jsonValue ⟨false, n, 0⟩ = n := by
  simp [jsonValue]

theorem countOf_total (total passed failed : ℕ) (elapsed : Json) :
    countOf (summaryOf total passed failed elapsed) "total" = some (total : ℚ) :=
  congrArg some (jsonValue_nat total)

theorem countOf_passed (total passed failed : ℕ) (elapsed : Json) :
    countOf (summaryOf total passed failed elapsed) "passed" = some (passed : ℚ) :=
  congrArg some (jsonValue_nat passed)

theorem countOf_failed (total passed failed : ℕ) (elapsed : Json) :
    countOf (summaryOf total passed failed elapsed) "failed" = some (failed : ℚ) :=
  congrArg some (jsonValue_nat failed)

theorem sumAgrees_summaryOf (passed failed : ℕ) (elapsed : Json) :
    SumAgrees (summaryOf (passed + failed) passed failed elapsed) :=
  ⟨_, _, _, countOf_total _ _ _ _, countOf_passed _ _ _ _, countOf_failed _ _ _ _,
    Nat.cast_add _ _⟩

theorem countsAgree_summaryOf_iff (results : Json) (passed failed : ℕ) (elapsed : Json) :
    CountsAgree ⟨results, summaryOf (passed + failed) passed failed elapsed⟩ ↔
      ∀ vs, results = .arr vs → vs ≠ [] →
        passed + failed = vs.length ∧ passed = vs.countP isPass := by
  rw [CountsAgree, and_iff_right (sumAgrees_summaryOf passed failed elapsed)]
  simp only [countOf_total, countOf_passed, Option.some.injEq, Nat.cast_inj]

theorem countsAgree_strategy4 (py : Python) (output : List Char) (suiteName : String)
    (elapsed : Json) : CountsAgree (strategy4 py output suiteName elapsed) := by
  simp only [strategy4]
  split
  · refine (countsAgree_summaryOf_iff _ 1 0 elapsed).2 ?_
    rintro vs ⟨⟩ -
    exact ⟨rfl, rfl⟩
  · refine (countsAgree_summaryOf_iff _ 0 1 elapsed).2 ?_
    rintro vs ⟨⟩ -
    exact ⟨rfl, rfl⟩

theorem countsAgree_iff_sumAgrees {r : SuiteResult} (h : r.results = .arr []) :
    CountsAgree r ↔ SumAgrees r.summary := by
  refine ⟨fun hagree => hagree.1, fun hsum => ⟨hsum, fun vs hvs hne => ?_⟩⟩
  rw [h] at hvs
  exact absurd (Json.arr.inj hvs).symm hne

theorem getD_results_eq_iff {o : Option Json} {vs : List Json} (hne : vs ≠ []) :
    o.getD (.arr []) = .arr vs ↔ o = some (.arr vs) := by
  cases o with
  | none => simp [hne.symm]
  | some v => simp

theorem countsAgree_reportResult_iff (elapsed v : Json) :
    CountsAgree (reportResult elapsed v) ↔ ReportAgrees v := by
  unfold ReportAgrees
  cases hsummary : v.get? "summary" with
  | none =>
      rw [reportResult, hsummary, Option.getD_none, Option.elim_none,
        countsAgree_summaryOf_iff _ 0 0]
      refine forall_congr' fun vs => ?_
      by_cases hne : vs = []
      · simp [hne]
      · have hlength : vs.length ≠ 0 := fun h => hne (List.eq_nil_of_length_eq_zero h)
        simp only [getD_results_eq_iff hne, hne, ne_eq, not_false_eq_true, true_imp_iff, imp_false]
        exact forall_congr' fun _ => ⟨fun h => hlength h.1.symm, fun h => h.elim⟩
  | some summary =>
      rw [CountsAgree, reportResult, hsummary, Option.getD_some, Option.elim_some]
      refine and_congr_right fun _ => forall_congr' fun vs => ?_
      by_cases hne : vs = []
      · simp [hne]
      · rw [getD_results_eq_iff hne]

theorem forall_not_progress_iff {ls : List (List Char)} :
    (∀ line ∈ ls, isPassLine line = false ∧ isFailLine line = false) ↔
      ls.countP isPassLine = 0 ∧ ls.countP isFailLine = 0 := by
  simp only [List.countP_eq_zero, forall_and, Bool.not_eq_true]

/-- **Lines that were counted**: the counts agree with the results unless there are both kinds of
lines. -/
theorem countsAgree_lineCounts_iff (decode : List Char → Option Json) (ls : List (List Char))
    (elapsed : Json) :
    CountsAgree ((lineCounts decode ls).result elapsed) ↔
      resultValues decode ls = [] ∨
      ∀ line ∈ ls, isPassLine line = false ∧ isFailLine line = false := by
  have hlength := countP_isPass_add (resultValues decode ls)
  rw [Counted.result, Counted.total, countsAgree_summaryOf_iff, forall_not_progress_iff, lineCounts]
  simp only [Json.arr.injEq, forall_eq']
  by_cases hempty : resultValues decode ls = []
  · simp [hempty]
  · simp only [hempty, ne_eq, not_false_eq_true, true_imp_iff, false_or]
    omega

/-- So do those of what is found in the lines and words: where nothing is counted, there are no
results. -/
theorem countsAgree_lines_iff (py : Python) (output : List Char) (suiteName : String)
    (elapsed : Json) :
    CountsAgree (if 0 < (lineCounts py.decode (lines output)).total then
        (lineCounts py.decode (lines output)).result elapsed
      else strategy4 py output suiteName elapsed) ↔
    resultValues py.decode (lines output) = [] ∨
      ∀ line ∈ lines output, isPassLine line = false ∧ isFailLine line = false := by
  split
  · exact countsAgree_lineCounts_iff _ _ elapsed
  · have hlength := length_resultValues_le py.decode (lines output)
    exact iff_of_true (countsAgree_strategy4 py output suiteName elapsed)
      (.inl (List.eq_nil_of_length_eq_zero (by omega)))

/-- **When the counts agree with the results**: for every output for which something is returned. -/
theorem counts_agree_iff (py : Python) (output : List Char) (suiteName : String) (elapsed : Json) :
    (∀ r, parseVishwaOutput py output suiteName elapsed = some r → CountsAgree r) ↔
      CountsConsistent py output elapsed := by
  rw [← not_iff_not, CountsConsistent]
  simp only [not_forall, exists_prop, exists_parseVishwaOutput_iff]
  cases reportFound py none (lines output) with
  | some found => simp [countsAgree_reportResult_iff]
  | none =>
      by_cases hnil : summaryValues py.decode (lines output) = []
      · simp [hnil, countsAgree_lines_iff]
      · simp [hnil, countsAgree_iff_sumAgrees]

/-- A test that is reported twice, in the progress report and with a JSON line, is counted twice:
one result, and a total of 2. -/
theorem doubly_reported_test_counts_twice :
    ∃ r, parseVishwaOutput asciiPython
        "running: a ... PASS\n\x7b\"test\": \"a\", \"status\": \"PASS\"\x7d".toList "smoke" .null =
          some r ∧ ¬ CountsAgree r := by
  refine ⟨⟨.arr [.obj [("test", .str "a"), ("status", .str "PASS")]], summaryOf 2 2 0 .null⟩,
    by decide +kernel, ?_⟩
  rw [countsAgree_summaryOf_iff _ 2 0]
  intro hagree
  exact absurd (hagree _ rfl (by simp)).1 (by decide)

end Dvf
