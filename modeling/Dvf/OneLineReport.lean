/-
**Reports on one line** (`python-agent/agent/__main__.py`, `parse_vishwa_output`, strategies 1 and
2).

The first strategy of the parser waits for a line that begins with `{"suite":`, and then joins the
lines that follow until they are a JSON text.  It tries to decode only when a line has been joined
to the first one.  So a report that is complete on its own line is not decoded there; and what is
joined to it spoils it, unless it is white space.  The report is read if the next line is blank, and
passed over if there is none or it is not (`Dvf.reportFound_report_line`).  When it is passed over,
later reports may be found, and the other strategies look at the line again: the second takes the
summary and leaves the results empty.  So the report is still returned as it is if another one says
the same, or if it lists no results and its summary is the last one (`Dvf.FoundElsewhere`).

What `json.loads` does is a parameter.  All that is used of it is that after an object it accepts
white space and rejects anything else (`Dvf.Python.EndsObjects`), as the decoder of
`Dvf/JsonText.lean` does (`Dvf.endsObjects_jsonLoads`).

* `Dvf.reportFound_spoiled`, `Dvf.reportTexts_append` — joined lines that are of no use, and the
  search up to a line that begins a report;
* `Dvf.FoundElsewhere` — the same results and summary in the rest of the output;
* `Dvf.oneLineReport_iff` — **when a report on one line is read completely**.
-/

import Dvf.OutputFindings

set_option autoImplicit false

namespace Dvf

open PyText

/-! ### The decoder -/

/-- `json.loads` reads an object to its end: white space may follow it, and everything else is an
error (`Extra data`). -/
structure Python.EndsObjects (py : Python) : Prop where
  blank : ∀ {cs w : List Char} {v : Json}, py.loads ('{' :: cs) = .ok v → Json.Blank w →
    py.loads ('{' :: (cs ++ w)) = .ok v
  extra : ∀ {cs q : List Char} {v : Json}, py.loads ('{' :: cs) = .ok v → ¬ Json.Blank q →
    py.loads ('{' :: (cs ++ q)) = .decodeError

theorem jsonLoads_eq_ok_iff {cs : List Char} {v : Json} :
    jsonLoads cs = .ok v ↔ Json.parse pyNestingDepth (String.ofList cs) = some v := by
  rw [jsonLoads]
  cases Json.parse pyNestingDepth (String.ofList cs) with
  | none => simp
  | some w => simp

theorem endsObjects_jsonLoads (upper lower : List Char → List Char) :
    (⟨jsonLoads, upper, lower⟩ : Python).EndsObjects where
  blank {cs w v} h hw := by
    have hskip : Json.skipSpace w = [] := List.dropWhile_eq_nil_iff.mpr hw
    rw [jsonLoads_eq_ok_iff] at h ⊢
    rw [Json.parse_object_append h, if_pos hskip]
  extra {cs q v} h hq := by
    have hskip : Json.skipSpace q ≠ [] := fun hnil => hq (List.dropWhile_eq_nil_iff.mp hnil)
    change jsonLoads ('{' :: (cs ++ q)) = .decodeError
    rw [jsonLoads, Json.parse_object_append (jsonLoads_eq_ok_iff.1 h), if_neg hskip]
    rfl

theorem isSpace_of_jsonSpace {c : Char} (h : Json.isSpace c = true) : isSpace c = true := by
  simp only [Json.isSpace, Bool.or_eq_true, decide_eq_true_eq] at h
  obtain ((rfl | rfl) | rfl) | rfl := h <;> rfl

theorem not_blank_strip {line : List Char} (h : strip line ≠ []) (w q : List Char) :
    ¬ Json.Blank (w ++ (strip line ++ q)) := by
  obtain ⟨c, rest, hline⟩ := List.exists_cons_of_ne_nil h
  intro hblank
  have hc := isSpace_of_jsonSpace (hblank c (by simp [hline]))
  rw [isSpace_of_strip_eq_cons hline] at hc
  cases hc

/-! ### The search -/

def beginsReport (line : List Char) : Bool := "\x7b\"suite\":".toList.isPrefixOf (strip line)

section Search

variable {py : Python} {line : List Char} {rest : List (List Char)}

theorem reportTexts_begins (h : beginsReport line = true) (acc : Option (List (List Char))) :
    reportTexts acc (line :: rest) = reportTexts (some [strip line]) rest := by
  rw [reportTexts]
  exact if_pos h

theorem reportTexts_skips (h : beginsReport line = false) :
    reportTexts none (line :: rest) = reportTexts none rest := by
  rw [reportTexts]
  exact if_neg (ne_of_eq_of_ne h Bool.false_ne_true)

theorem reportTexts_joins (h : beginsReport line = false) (js : List (List Char)) :
    reportTexts (some js) (line :: rest) =
      [' '].intercalate (js ++ [strip line]) :: reportTexts (some (js ++ [strip line])) rest := by
  rw [reportTexts]
  exact if_neg (ne_of_eq_of_ne h Bool.false_ne_true)

theorem strip_of_beginsReport (h : beginsReport line = true) : ∃ cs, strip line = '{' :: cs := by
  obtain ⟨tail, htail⟩ := List.isPrefixOf_iff_prefix.1 h
  exact ⟨_, htail.symm⟩

theorem reportTexts_of_no_report {ls : List (List Char)}
    (h : ∀ line ∈ ls, beginsReport line = false) : reportTexts none ls = [] := by
  induction ls with
  | nil => rfl
  | cons line rest ih =>
      rw [reportTexts_skips (h line (by simp))]
      exact ih fun l hl => h l (by simp [hl])

/-- **The search up to a line that begins a report**: it begins anew there. -/
theorem reportTexts_append (h : beginsReport line = true) (pre : List (List Char))
    (acc : Option (List (List Char))) :
    reportTexts acc (pre ++ line :: rest) =
      reportTexts acc pre ++ reportTexts (some [strip line]) rest := by
  induction pre generalizing acc with
  | nil => exact reportTexts_begins h acc
  | cons l pre ih =>
      rw [List.cons_append]
      cases hl : beginsReport l with
      | true => rw [reportTexts_begins hl, reportTexts_begins hl, ih]
      | false =>
          cases acc with
          | none => rw [reportTexts_skips hl, reportTexts_skips hl, ih]
          | some js => rw [reportTexts_joins hl, reportTexts_joins hl, ih, List.cons_append]

/-- **Joined lines that are of no use**: with more than white space after an object, nothing that is
joined makes a JSON text of them, and the search goes on as if it had not begun. -/
theorem reportFound_spoiled (hpy : py.EndsObjects) {cs q : List Char} {v : Json}
    (hload : py.loads ('{' :: cs) = .ok v) (hq : ∀ q', ¬ Json.Blank (q ++ q'))
    {js : List (List Char)} (hjs : [' '].intercalate js = '{' :: (cs ++ q))
    (ls : List (List Char)) : reportFound py (some js) ls = reportFound py none ls := by
  induction ls generalizing q js with
  | nil => rfl
  | cons line rest ih =>
      cases hline : beginsReport line with
      | true => rw [reportFound, reportFound, reportTexts_begins hline, reportTexts_begins hline]
      | false =>
          have hne : js ≠ [] := by
            rintro rfl
            cases hjs
          have hjoin : [' '].intercalate (js ++ [strip line]) =
              '{' :: (cs ++ (q ++ (' ' :: strip line))) := by
            rw [intercalate_concat _ hne, hjs]
            simp
          rw [reportFound, reportFound, reportTexts_joins hline, reportTexts_skips hline,
            List.findSome?_cons, hjoin, hpy.extra hload (hq _)]
          refine ih (fun q' => ?_) hjoin
          rw [List.append_assoc]
          exact hq _

/-- **A report on one line**: it is read if the next line is blank, and passed over otherwise. -/
theorem reportFound_report_line (hpy : py.EndsObjects) {v : Json}
    (hline : beginsReport line = true) (hload : py.loads (strip line) = .ok v)
    (post : List (List Char)) :
    reportFound py (some [strip line]) post =
      if post.head?.map strip = some [] then some (some v) else reportFound py none post := by
  obtain ⟨cs, hcs⟩ := strip_of_beginsReport hline
  rw [hcs] at hload ⊢
  cases post with
  | nil => rfl
  | cons next rest =>
      simp only [List.head?_cons, Option.map_some, Option.some.injEq]
      have hjoin : [' '].intercalate (['{' :: cs] ++ [strip next]) =
          '{' :: (cs ++ (' ' :: strip next)) := by
        simp [List.intercalate]
      by_cases hblank : strip next = []
      · have hnext : beginsReport next = false := by
          rw [beginsReport, hblank]
          rfl
        rw [if_pos hblank, reportFound, reportTexts_joins hnext, List.findSome?_cons, hjoin,
          hblank, hpy.blank hload Json.blank_space]
        rfl
      · rw [if_neg hblank]
        cases hnext : beginsReport next with
        | true => rw [reportFound, reportFound, reportTexts_begins hnext, reportTexts_begins hnext]
        | false =>
            have hspoiled : ∀ q', ¬ Json.Blank ((' ' :: strip next) ++ q') :=
              fun q' => not_blank_strip hblank [' '] q'
            have hextra := hspoiled []
            rw [List.append_nil] at hextra
            rw [reportFound, reportFound, reportTexts_joins hnext, reportTexts_skips hnext,
              List.findSome?_cons, hjoin, hpy.extra hload hextra]
            exact reportFound_spoiled hpy hload hspoiled hjoin rest

end Search

/-! ### The report -/

/-- The line between `pre` and `post` is reached, and the next line is blank. -/
def IsReadAt (py : Python) (pre post : List (List Char)) : Prop :=
  reportFound py none pre = none ∧ post.head?.map strip = some []

/-- The output says that the suite passed, and nothing of a driver error. -/
def saysPassed (py : Python) (output : List Char) : Bool :=
  (contains "TEST PASSED".toList (py.upper output) || contains "PASSED".toList (py.upper output)) &&
    !driverError (py.upper output)

/-- The same results and summary are found without the line between `pre` and `post`: in a report
from before or after it; without one, as no results and the last summary of the summary lines;
without these, as the values of the result lines and what the lines add up to; and if there is
nothing to be counted, as the one result that the words give. -/
def FoundElsewhere (py : Python) (output : List Char) (suiteName : String) (elapsed : Json)
    (pre post : List (List Char)) (results summary : Json) : Prop :=
  ((reportFound py none pre).or (reportFound py none post)).elim
    (summariesReadable py (lines output) = true ∧
      if summaryValues py.decode (lines output) = [] then
        resultsReadable py (lines output) = true ∧
          if 0 < (lineCounts py.decode (lines output)).total then
            (lineCounts py.decode (lines output)).result elapsed = ⟨results, summary⟩
          else if saysPassed py output then passResult suiteName elapsed = ⟨results, summary⟩
          else failResult py output suiteName elapsed = ⟨results, summary⟩
      else .arr [] = results ∧
        lastSummary (summaryOf 0 0 0 elapsed) (summaryValues py.decode (lines output)) = summary)
    fun found => ∃ v, found = some v ∧ isObject v = true ∧
      (v.get? "results").getD (.arr []) = results ∧
      (v.get? "summary").getD (summaryOf 0 0 0 elapsed) = summary

section Report

variable {py : Python} {output line : List Char} {pre post : List (List Char)}
  {v results summary : Json}

theorem reportFound_oneLine (hpy : py.EndsObjects)
    (hlines : lines output = pre ++ line :: post) (hline : beginsReport line = true)
    (hload : py.loads (strip line) = .ok v) :
    reportFound py none (lines output) = (reportFound py none pre).or
      (if post.head?.map strip = some [] then some (some v) else reportFound py none post) := by
  rw [hlines, reportFound, reportTexts_append hline, List.findSome?_append,
    ← reportFound_report_line hpy hline hload post]
  rfl

/-- What the parser returns without the line is what is found elsewhere. -/
theorem foundElsewhere_iff
    (h : reportFound py none (lines output) =
      (reportFound py none pre).or (reportFound py none post)) (suiteName : String)
    (elapsed : Json) :
    parseVishwaOutput py output suiteName elapsed = some ⟨results, summary⟩ ↔
      FoundElsewhere py output suiteName elapsed pre post results summary := by
  have hexists := exists_parseVishwaOutput_iff py output suiteName elapsed (· = ⟨results, summary⟩)
  rw [exists_eq_right, h] at hexists
  rw [hexists, FoundElsewhere]
  cases (reportFound py none pre).or (reportFound py none post) with
  | some found => simp [reportResult]
  | none =>
      by_cases hnil : summaryValues py.decode (lines output) = []
      · simp only [Option.elim_none, hnil, if_true]
        refine and_congr_right fun _ => and_congr_right fun _ => ?_
        by_cases hpos : 0 < (lineCounts py.decode (lines output)).total
        · rw [if_pos hpos, if_pos hpos]
        · rw [if_neg hpos, if_neg hpos, strategy4, saysPassed]
          split <;> rfl
      · simp [hnil]

/-- **When a report on one line is read completely**: exactly if nothing before it ends the search
and the next line is blank, or the same is found elsewhere. -/
theorem oneLineReport_iff (hpy : py.EndsObjects)
    (hlines : lines output = pre ++ line :: post) (hline : beginsReport line = true)
    (hload : py.loads (strip line) = .ok v) (hresults : v.get? "results" = some results)
    (hsummary : v.get? "summary" = some summary) (suiteName : String) (elapsed : Json) :
    parseVishwaOutput py output suiteName elapsed = some ⟨results, summary⟩ ↔
      IsReadAt py pre post ∨
      FoundElsewhere py output suiteName elapsed pre post results summary := by
  have hfound := reportFound_oneLine hpy hlines hline hload
  by_cases hread : IsReadAt py pre post
  · have hobj : isObject v = true := by
      cases v with
      | obj ms => rfl
      | _ => cases hresults
    rw [hread.1, if_pos hread.2, Option.none_or] at hfound
    refine iff_of_true ?_ (.inl hread)
    rw [parseVishwaOutput_eq, hfound, Option.elim_some, Option.bind_some, if_pos hobj, reportResult,
      hresults, hsummary, Option.getD_some, Option.getD_some]
  · rw [or_iff_right hread]
    refine foundElsewhere_iff ?_ suiteName elapsed
    rw [hfound]
    cases hpre : reportFound py none pre with
    | some found => rfl
    | none => rw [if_neg fun hpost => hread ⟨hpre, hpost⟩]

theorem isReadAt_of_no_report (hpre : ∀ l ∈ pre, beginsReport l = false) {next : List Char}
    (hnext : strip next = []) (rest : List (List Char)) : IsReadAt py pre (next :: rest) :=
  ⟨by rw [reportFound, reportTexts_of_no_report hpre]; rfl, by simp [hnext]⟩

end Report

/-- A report with one result, on one line. -/
def smokeLine : List Char :=
  ("\x7b\"suite\": \"smoke\", \"results\": [\x7b\"test\": \"a\", \"status\": \"PASS\"\x7d], " ++
    "\"summary\": \x7b\"total\": 1, \"passed\": 1, \"failed\": 0\x7d\x7d").toList

def smokeResults : Json := .arr [.obj [("test", .str "a"), ("status", .str "PASS")]]

def smokeSummary : Json :=
  .obj [("total", .num ⟨false, 1, 0⟩), ("passed", .num ⟨false, 1, 0⟩),
    ("failed", .num ⟨false, 0, 0⟩)]

/-- After a line of a log and before a blank line, the report is read. -/
theorem oneLineReport_before_blank :
    parseVishwaOutput asciiPython ("start\n".toList ++ smokeLine ++ "\n\nend".toList) "smoke"
      .null = some ⟨smokeResults, smokeSummary⟩ := by
  have hloads : ∀ cs, asciiPython.loads cs = jsonLoads cs := fun _ => rfl
  have hload : asciiPython.loads (strip smokeLine) = .ok (.obj [("suite", .str "smoke"),
      ("results", smokeResults), ("summary", smokeSummary)]) := by
    rw [hloads, jsonLoads_eq_ok_iff, Json.parse, String.toList_ofList]
    decide +kernel
  have hpy : asciiPython.EndsObjects := endsObjects_jsonLoads _ _
  have hlines : lines ("start\n".toList ++ smokeLine ++ "\n\nend".toList) =
      ["start".toList] ++ smokeLine :: [[], "end".toList] := by decide +kernel
  have hpre : ∀ l ∈ ["start".toList], beginsReport l = false := by decide +kernel
  have hline : beginsReport smokeLine = true := by decide +kernel
  have hread : IsReadAt asciiPython ["start".toList] [[], "end".toList] :=
    isReadAt_of_no_report hpre rfl _
  exact (oneLineReport_iff hpy hlines hline hload rfl rfl "smoke" .null).2 (.inl hread)

/-- At the end of the output, or before a line of the progress report, it is not: its summary is
taken over, and its results are lost. -/
theorem oneLineReport_loses_results :
    Json.parse pyNestingDepth (String.ofList smokeLine) = some (.obj [("suite", .str "smoke"),
      ("results", smokeResults), ("summary", smokeSummary)]) ∧
    parseVishwaOutput asciiPython smokeLine "smoke" .null = some ⟨.arr [], smokeSummary⟩ ∧
    parseVishwaOutput asciiPython (smokeLine ++ "\nrunning: a ... PASS".toList) "smoke" .null =
      some ⟨.arr [], smokeSummary⟩ ∧
    smokeResults ≠ .arr [] := by
  refine ⟨?_, ?_⟩
  · rw [Json.parse, String.toList_ofList]
    decide +kernel
  · decide +kernel

end Dvf
