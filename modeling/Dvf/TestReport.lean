/-
**The report of the C test framework and the agent's parser** (`test_framework.c`, `json_escape` and
`test_suite_print_json`; `python-agent/agent/__main__.py`, `parse_vishwa_output`).

The framework prints its report as one JSON object over several lines: a line that opens the object
and the list of results, one line for each test, and a line with the summary.  The parser's first
strategy joins the stripped lines and tries, after every line, whether what it has is a JSON text.

The report comes back as it was recorded (`Dvf.CTest.parse_printJson`).  The whole text is a text of
the grammar of JSON (`Dvf.CTest.reads_report`); what the parser tries before the last line is a
proper initial part of it, and such a part is never read (`Json.parse_eq_none_of_append`).  The
escapes take at most two characters for one, so that the buffer of 1024 has room for every message
of 511, and they leave no line feed in a line.  Nothing that follows the report is looked at.

* `Dvf.CTest.jsonEscape`, `Dvf.CTest.printJson` — the printer;
* `Dvf.CTest.TestResult.toJson`, `Dvf.CTest.reportJson` — the values it prints;
* `Dvf.CTest.parse_printJson` — **the report round-trips**.
-/

import Dvf.OutputParser
import Dvf.TestFramework

set_option autoImplicit false

namespace Dvf

namespace CTest

open PyText

/-! ### The printer -/

/-- What `json_escape` writes for a character. -/
def escapeChar (c : Char) : List Char :=
  if c = '"' then ['\\', '"'] else if c = '\\' then ['\\', '\\'] else if c = '\n' then ['\\', 'n']
  else if c = '\t' then ['\\', 't'] else [c]

/-- The loop of `json_escape`, with `j` characters written into a buffer of `size`. -/
def jsonEscapeLoop (size : ℕ) : List Char → ℕ → List Char
  | [], _ => []
  | c :: cs, j =>
      if j < size - 2 then
        escapeChar c ++ jsonEscapeLoop size cs (j + (escapeChar c).length)
      else []

/-- `json_escape`. -/
def jsonEscape (s : List Char) (size : ℕ) : List Char := jsonEscapeLoop size s 0

/-- `%.2f` of a number of hundredths. -/
def fixed2 (n : ℕ) : List Char :=
  Json.decimal false (n / 100) [Nat.digitChar (n / 10 % 10), Nat.digitChar (n % 10)]

/-- `r->passed ? "PASS" : "FAIL"`. -/
def TestResult.status (r : TestResult) : String := if r.passed then "PASS" else "FAIL"

def quoted (cs : List Char) : List Char := '"' :: (cs ++ ['"'])

/-- A member of a printed object: the key, a colon and a space, and the text of the value. -/
def field (key : String) (text : List Char) : List Char := quoted key.toList ++ ':' :: ' ' :: text

/-- The object that is printed for a test. -/
def testObject (r : TestResult) : List Char :=
  '{' :: (field "test" (quoted r.testName.toList) ++ ',' :: ' ' ::
    (field "status" (quoted r.status.toList) ++ ',' :: ' ' ::
      (field "duration_ms" (fixed2 r.duration) ++ ',' :: ' ' ::
        (field "message" (quoted (jsonEscape r.message.toList 1024)) ++ ['}']))))

/-- The line of a test; all but the last have a comma. -/
def testLine (r : TestResult) (last : Bool) : List Char :=
  [' ', ' '] ++ (testObject r ++ if last then [] else [','])

/-- The lines of the tests. -/
def testLines : List TestResult → List (List Char)
  | [] => []
  | [r] => [testLine r true]
  | r :: rs => testLine r false :: testLines rs

def headerLine (name : String) : List Char :=
  '{' :: (field "suite" (quoted name.toList) ++ ',' :: ' ' :: field "results" ['['])

/-- The summary, as an object. -/
def summaryObject (s : TestSuite) : List Char :=
  '{' :: (field "total" (Json.decimal false s.count []) ++ ',' :: ' ' ::
    (field "passed" (Json.decimal false s.passed []) ++ ',' :: ' ' ::
      (field "failed" (Json.decimal false s.failed []) ++ ',' :: ' ' ::
        (field "duration_ms" (fixed2 s.totalDuration) ++ ['}']))))

/-- The line that closes the list and the report. -/
def summaryLine (s : TestSuite) : List Char :=
  ']' :: ',' :: ' ' :: (field "summary" (summaryObject s) ++ ['}'])

/-- `test_suite_print_json`. -/
def printJson (s : TestSuite) : List Char :=
  (headerLine s.suiteName :: (testLines (s.results.take s.count) ++ [summaryLine s])).flatMap
    (· ++ ['\n'])

/-! ### The values -/

/-- A number of hundredths as a JSON number. -/
def hundredths (n : ℕ) : Json :=
  .num (Json.decimalNumber false (n / 100) [Nat.digitChar (n / 10 % 10), Nat.digitChar (n % 10)])

def jsonNat (n : ℕ) : Json := .num ⟨false, n, 0⟩

/-- A record: the name, the status and the message of the test, and its duration. -/
def TestResult.toJson (r : TestResult) : Json :=
  .obj [("test", .str r.testName), ("status", .str r.status),
    ("duration_ms", hundredths r.duration),
    ("message", .str r.message)]

def summaryJson (s : TestSuite) : Json :=
  .obj [("total", jsonNat s.count), ("passed", jsonNat s.passed), ("failed", jsonNat s.failed),
    ("duration_ms", hundredths s.totalDuration)]

def reportJson (s : TestSuite) : Json :=
  .obj [("suite", .str s.suiteName), ("results", .arr (s.results.map TestResult.toJson)),
    ("summary", summaryJson s)]

/-! ### What the framework records -/

/-- A C identifier: letters, digits and underscores, not a digit first. -/
def IsIdentifier (s : String) : Prop :=
  s.toList ≠ [] ∧ (∀ c ∈ s.toList, c.isAlphanum = true ∨ c = '_') ∧
    ∀ c, s.toList.head? = some c → c.isDigit = false

/-- Printable ASCII characters, line feeds and tabs. -/
def isMessageChar (c : Char) : Bool := Json.isPrintable c || c = '\n' || c = '\t'

/-- A record as the tests of a suite leave it: the name of a function and a message that fits its
field. -/
structure TestResult.WellFormed (r : TestResult) : Prop where
  name : IsIdentifier r.testName
  length : r.message.toList.length ≤ 511
  message : ∀ c ∈ r.message.toList, isMessageChar c = true

/-- Printable ASCII without quotes and backslashes. -/
def IsSuiteName (s : String) : Prop :=
  ∀ c ∈ s.toList, Json.isPrintable c = true ∧ c ≠ '"' ∧ c ≠ '\\'

/-- The suite with the given records. -/
def suiteOf (name : String) (rs : List TestResult) (totalDuration : ℕ) : TestSuite where
  suiteName := name
  results := rs
  count := rs.length
  passed := rs.countP TestResult.passed
  failed := rs.countP fun r => !r.passed
  totalDuration := totalDuration

/-! ### Escapes -/

theorem length_escapeChar (c : Char) : (escapeChar c).length ≤ 2 := by
  unfold escapeChar
  split_ifs <;> simp

theorem jsonEscapeLoop_eq {size : ℕ} (cs : List Char) {j : ℕ} (h : j + 2 * cs.length ≤ size - 2) :
    jsonEscapeLoop size cs j = cs.flatMap escapeChar := by
  induction cs generalizing j with
  | nil => rfl
  | cons c cs ih =>
      have hlength := length_escapeChar c
      simp only [List.length_cons] at h
      rw [jsonEscapeLoop, if_pos (by omega), ih (by omega), List.flatMap_cons]

theorem jsonEscape_eq {r : TestResult} (h : r.WellFormed) :
    jsonEscape r.message.toList 1024 = r.message.toList.flatMap escapeChar := by
  have hlength := h.length
  exact jsonEscapeLoop_eq _ (by omega)

theorem not_control_of_isPrintable {c : Char} (h : Json.isPrintable c = true) :
    ¬ c.toNat < 32 := by
  simp only [Json.isPrintable, Bool.and_eq_true, decide_eq_true_eq] at h
  omega

/-- What is written for a character is read back, but for other control characters. -/
theorem strItems_escapeChar {c : Char} (hc : c.toNat < 32 → c = '\n' ∨ c = '\t')
    {rest r : List Char} {its : List Json.StrItem} (hread : Json.strItems rest = some (its, r)) :
    Json.strItems (escapeChar c ++ rest) = some (.char c :: its, r) := by
  unfold escapeChar
  split_ifs with hq hb hn ht
  · subst hq
    exact Json.strItems_escape rfl hread
  · subst hb
    exact Json.strItems_escape rfl hread
  · subst hn
    exact Json.strItems_escape rfl hread
  · subst ht
    exact Json.strItems_escape rfl hread
  · exact Json.strItems_char (fun hctl => (hc hctl).elim hn ht) hq hb hread

theorem stringText_message {r : TestResult} (h : r.WellFormed) :
    Json.StringText r.message (jsonEscape r.message.toList 1024) := by
  have htext := Json.stringText_flatMap escapeChar r.message.toList ?_
  · rw [String.ofList_toList] at htext
    rwa [jsonEscape_eq h]
  · intro c hc rest tail its hread
    refine strItems_escapeChar (fun hctl => ?_) hread
    have hchar := h.message c hc
    simp only [isMessageChar, Bool.or_eq_true, decide_eq_true_eq] at hchar
    have hprint : Json.isPrintable c ≠ true := fun hp => not_control_of_isPrintable hp hctl
    tauto

theorem isPrintable_of_isAlphanum {c : Char} (h : c.isAlphanum = true ∨ c = '_') :
    Json.isPrintable c = true ∧ c ≠ '"' ∧ c ≠ '\\' := by
  obtain h | rfl := h
  · have hrange : (48 ≤ c.toNat ∧ c.toNat ≤ 57) ∨ (65 ≤ c.toNat ∧ c.toNat ≤ 90) ∨
        (97 ≤ c.toNat ∧ c.toNat ≤ 122) := by
      have hclass : c.isAlphanum = ((decide (65 ≤ c.val ∧ c.val ≤ 90) ||
          (decide (97 ≤ c.val) && decide (c.val ≤ 122))) ||
          (decide (48 ≤ c.val) && decide (c.val ≤ 57))) := rfl
      simp only [hclass, Bool.or_eq_true, Bool.and_eq_true, decide_eq_true_eq,
        UInt32.le_iff_toNat_le] at h
      change (((65 ≤ c.toNat ∧ c.toNat ≤ 90) ∨ (97 ≤ c.toNat ∧ c.toNat ≤ 122)) ∨
        (48 ≤ c.toNat ∧ c.toNat ≤ 57)) at h
      omega
    refine ⟨?_, ?_, ?_⟩
    · simp only [Json.isPrintable, Bool.and_eq_true, decide_eq_true_eq]
      omega
    · rintro rfl
      revert hrange
      decide
    · rintro rfl
      revert hrange
      decide
  · decide

theorem stringText_name {r : TestResult} (h : r.WellFormed) :
    Json.StringText r.testName r.testName.toList := by
  have htext := Json.stringText_plain r.testName.toList fun c hc =>
    have hprint := isPrintable_of_isAlphanum (h.name.2.1 c hc)
    ⟨not_control_of_isPrintable hprint.1, hprint.2⟩
  rwa [String.ofList_toList] at htext

theorem stringText_suiteName {name : String} (h : IsSuiteName name) :
    Json.StringText name name.toList := by
  have htext := Json.stringText_plain name.toList fun c hc =>
    ⟨not_control_of_isPrintable (h c hc).1, (h c hc).2⟩
  rwa [String.ofList_toList] at htext

theorem stringText_status (r : TestResult) : Json.StringText r.status r.status.toList := by
  have hplain : ∀ c ∈ r.status.toList, ¬ c.toNat < 32 ∧ c ≠ '"' ∧ c ≠ '\\' := by
    unfold TestResult.status
    split <;> exact Json.forall_mem_of_all (by decide)
  have htext := Json.stringText_plain _ hplain
  rwa [String.ofList_toList] at htext

/-! ### The report is a JSON text -/

theorem isDigit_digitChar {n : ℕ} (h : n < 10) : (Nat.digitChar n).isDigit = true := by
  interval_cases n <;> decide

theorem isDigit_hundredths (n : ℕ) :
    ∀ c ∈ [Nat.digitChar (n / 10 % 10), Nat.digitChar (n % 10)], c.isDigit = true := by
  intro c hc
  simp only [List.mem_cons, List.not_mem_nil, or_false] at hc
  obtain rfl | rfl := hc <;> exact isDigit_digitChar (Nat.mod_lt _ (by decide))

theorem reads_fixed2 (d n : ℕ) : Json.Reads d (.value (hundredths n)) (fixed2 n) :=
  Json.Reads.num d false (n / 100) (isDigit_hundredths n)

theorem reads_jsonNat (d n : ℕ) : Json.Reads d (.value (jsonNat n)) (Json.decimal false n []) := by
  have hread := Json.Reads.num d false n (List.forall_mem_nil _)
  rwa [Json.decimalNumber_nil] at hread

theorem stringText_key (k : String)
    (hk : ∀ c ∈ k.toList, ¬ c.toNat < 32 ∧ c ≠ '"' ∧ c ≠ '\\') : Json.StringText k k.toList := by
  have htext := Json.stringText_plain _ hk
  rwa [String.ofList_toList] at htext

theorem reads_lastField {d : ℕ} {k : String} (hk : Json.StringText k k.toList) {v : Json}
    {cs : List Char} (hv : Json.Reads d (.value v) cs) :
    Json.Reads d (.members [(k, v)]) (' ' :: field k cs) := by
  have hread := Json.Reads.lastMember Json.blank_space hk Json.blank_nil Json.blank_space hv
    Json.blank_nil
  simpa [field, quoted] using hread

theorem reads_field {d : ℕ} {k : String} (hk : Json.StringText k k.toList) {v : Json}
    {cs : List Char} (hv : Json.Reads d (.value v) cs) {ms : List (String × Json)}
    {cs' : List Char} (hms : Json.Reads d (.members ms) cs') :
    Json.Reads d (.members ((k, v) :: ms)) (' ' :: (field k cs ++ ',' :: cs')) := by
  have hread := Json.Reads.member Json.blank_space hk Json.blank_nil Json.blank_space hv
    Json.blank_nil hms
  simpa [field, quoted] using hread

theorem reads_firstField {d : ℕ} {k : String} (hk : Json.StringText k k.toList) {v : Json}
    {cs : List Char} (hv : Json.Reads d (.value v) cs) {ms : List (String × Json)}
    {cs' : List Char} (hms : Json.Reads d (.members ms) cs') :
    Json.Reads d (.members ((k, v) :: ms)) (field k cs ++ ',' :: cs') := by
  have hread := Json.Reads.member Json.blank_nil hk Json.blank_nil Json.blank_space hv
    Json.blank_nil hms
  simpa [field, quoted] using hread

/-- The object of a test is a text for its record. -/
theorem reads_testObject {r : TestResult} (h : r.WellFormed) (d : ℕ) :
    Json.Reads (d + 1) (.value r.toJson) (testObject r) := by
  have hmessage := reads_lastField (stringText_key "message" (Json.forall_mem_of_all (by decide)))
    (Json.Reads.str d (stringText_message h))
  have hduration := reads_field (stringText_key "duration_ms" (Json.forall_mem_of_all (by decide)))
    (reads_fixed2 d r.duration) hmessage
  have hstatus := reads_field (stringText_key "status" (Json.forall_mem_of_all (by decide)))
    (Json.Reads.str d (stringText_status r)) hduration
  have hname := reads_firstField (stringText_key "test" (Json.forall_mem_of_all (by decide)))
    (Json.Reads.str d (stringText_name h)) hstatus
  have htext : testObject r = '{' :: (field "test" (quoted r.testName.toList) ++ ',' :: ' ' ::
      (field "status" (quoted r.status.toList) ++ ',' :: ' ' ::
        (field "duration_ms" (fixed2 r.duration) ++ ',' :: ' ' ::
          field "message" (quoted (jsonEscape r.message.toList 1024)))) ++ ['}']) := by
    simp only [testObject, List.append_assoc, List.cons_append]
  rw [htext]
  exact hname.obj

/-- The summary is a text for the counts. -/
theorem reads_summaryObject (s : TestSuite) (d : ℕ) :
    Json.Reads (d + 1) (.value (summaryJson s)) (summaryObject s) := by
  have hduration := reads_lastField
    (stringText_key "duration_ms" (Json.forall_mem_of_all (by decide)))
    (reads_fixed2 d s.totalDuration)
  have hfailed := reads_field (stringText_key "failed" (Json.forall_mem_of_all (by decide)))
    (reads_jsonNat d s.failed) hduration
  have hpassed := reads_field (stringText_key "passed" (Json.forall_mem_of_all (by decide)))
    (reads_jsonNat d s.passed) hfailed
  have htotal := reads_firstField (stringText_key "total" (Json.forall_mem_of_all (by decide)))
    (reads_jsonNat d s.count) hpassed
  have htext : summaryObject s = '{' :: (field "total" (Json.decimal false s.count []) ++
      ',' :: ' ' :: (field "passed" (Json.decimal false s.passed []) ++
        ',' :: ' ' :: (field "failed" (Json.decimal false s.failed []) ++
          ',' :: ' ' :: field "duration_ms" (fixed2 s.totalDuration))) ++ ['}']) := by
    simp only [summaryObject, List.append_assoc, List.cons_append]
  rw [htext]
  exact htotal.obj

/-- The stripped lines of the tests, each with a space before it, and a space at the end. -/
def elementsText : List TestResult → List Char
  | [] => [' ']
  | [r] => ' ' :: (testObject r ++ [' '])
  | r :: rs => ' ' :: (testObject r ++ ',' :: elementsText rs)

theorem reads_elementsText {r : TestResult} {rs : List TestResult}
    (h : ∀ r' ∈ r :: rs, r'.WellFormed) (d : ℕ) :
    Json.Reads (d + 1) (.elements ((r :: rs).map TestResult.toJson)) (elementsText (r :: rs)) := by
  induction rs generalizing r with
  | nil =>
      have hread := Json.Reads.lastElement Json.blank_space
        (reads_testObject (h r (by simp)) d) Json.blank_space
      simpa [elementsText] using hread
  | cons r' rs ih =>
      have hrest := ih (r := r') fun r'' hr'' => h r'' (List.mem_cons_of_mem _ hr'')
      have hread := Json.Reads.element Json.blank_space (reads_testObject (h r (by simp)) d)
        Json.blank_nil hrest
      rw [elementsText]
      · simpa using hread
      · simp

def reportText (s : TestSuite) : List Char :=
  headerLine s.suiteName ++ (elementsText s.results ++ summaryLine s)

/-- **The joined lines are a JSON text for the report.** -/
theorem reads_report {s : TestSuite} (hname : IsSuiteName s.suiteName)
    (h : ∀ r ∈ s.results, r.WellFormed) (d : ℕ) :
    Json.Reads (d + 3) (.value (reportJson s)) (reportText s) := by
  have hresults : Json.Reads (d + 2) (.value (.arr (s.results.map TestResult.toJson)))
      ('[' :: (elementsText s.results ++ [']'])) := by
    cases hrs : s.results with
    | nil => exact .emptyArr (d + 1) Json.blank_space
    | cons r rs =>
        rw [hrs] at h
        exact (reads_elementsText h d).arr
  have hsummary := reads_lastField (stringText_key "summary" (Json.forall_mem_of_all (by decide)))
    (reads_summaryObject s (d + 1))
  have hlist := reads_field (stringText_key "results" (Json.forall_mem_of_all (by decide)))
    hresults hsummary
  have hsuite := reads_firstField (stringText_key "suite" (Json.forall_mem_of_all (by decide)))
    (Json.Reads.str (d + 2) (stringText_suiteName hname)) hlist
  have htext : reportText s = '{' :: (field "suite" (quoted s.suiteName.toList) ++ ',' :: ' ' ::
      (field "results" ('[' :: (elementsText s.results ++ [']'])) ++ ',' :: ' ' ::
        field "summary" (summaryObject s)) ++ ['}']) := by
    simp only [reportText, headerLine, summaryLine, field, List.append_assoc, List.cons_append,
      List.nil_append]
  rw [htext]
  exact hsuite.obj

/-! ### The lines of the report -/

theorem newline_notMem_quoted {cs : List Char} (h : '\n' ∉ cs) : '\n' ∉ quoted cs := by
  simp [quoted, h]

theorem newline_notMem_field {k : String} (hk : '\n' ∉ k.toList) {cs : List Char}
    (h : '\n' ∉ cs) : '\n' ∉ field k cs := by
  simp [field, newline_notMem_quoted hk, h]

theorem newline_notMem_of_isPrintable {cs : List Char} (h : ∀ c ∈ cs, Json.isPrintable c = true) :
    '\n' ∉ cs :=
  fun hmem => absurd (h _ hmem) (by decide)

theorem newline_notMem_decimal (n : ℕ) : '\n' ∉ Json.decimal false n [] :=
  newline_notMem_of_isPrintable fun _ hc => Json.isPrintable_of_mem_decimal (by simp) hc

theorem newline_notMem_fixed2 (n : ℕ) : '\n' ∉ fixed2 n :=
  newline_notMem_of_isPrintable fun _ hc =>
    Json.isPrintable_of_mem_decimal (isDigit_hundredths n) hc

theorem newline_notMem_jsonEscape {r : TestResult} (h : r.WellFormed) :
    '\n' ∉ jsonEscape r.message.toList 1024 := by
  rw [jsonEscape_eq h]
  intro hmem
  obtain ⟨c, -, hc⟩ := List.mem_flatMap.1 hmem
  unfold escapeChar at hc
  split_ifs at hc with hq hb hn ht
  · revert hc; decide
  · revert hc; decide
  · revert hc; decide
  · revert hc; decide
  · exact hn (List.mem_singleton.1 hc).symm

theorem newline_notMem_testObject {r : TestResult} (h : r.WellFormed) : '\n' ∉ testObject r := by
  have hname : '\n' ∉ r.testName.toList := newline_notMem_of_isPrintable fun c hc =>
    (isPrintable_of_isAlphanum (h.name.2.1 c hc)).1
  have hstatus : '\n' ∉ r.status.toList := by
    unfold TestResult.status
    split <;> decide
  have h₁ := newline_notMem_field (k := "test") (by decide) (newline_notMem_quoted hname)
  have h₂ := newline_notMem_field (k := "status") (by decide) (newline_notMem_quoted hstatus)
  have h₃ := newline_notMem_field (k := "duration_ms") (by decide)
    (newline_notMem_fixed2 r.duration)
  have h₄ := newline_notMem_field (k := "message") (by decide)
    (newline_notMem_quoted (newline_notMem_jsonEscape h))
  simp [testObject, h₁, h₂, h₃, h₄]

theorem newline_notMem_testLine {r : TestResult} (h : r.WellFormed) (last : Bool) :
    '\n' ∉ testLine r last := by
  cases last <;> simp [testLine, newline_notMem_testObject h]

theorem newline_notMem_headerLine {name : String} (h : IsSuiteName name) :
    '\n' ∉ headerLine name := by
  have hname : '\n' ∉ name.toList := newline_notMem_of_isPrintable fun c hc => (h c hc).1
  have h₁ := newline_notMem_field (k := "suite") (by decide) (newline_notMem_quoted hname)
  have h₂ := newline_notMem_field (k := "results") (by decide) (show '\n' ∉ ['['] by decide)
  simp [headerLine, h₁, h₂]

theorem newline_notMem_summaryLine (s : TestSuite) : '\n' ∉ summaryLine s := by
  have h₁ := newline_notMem_field (k := "total") (by decide) (newline_notMem_decimal s.count)
  have h₂ := newline_notMem_field (k := "passed") (by decide) (newline_notMem_decimal s.passed)
  have h₃ := newline_notMem_field (k := "failed") (by decide) (newline_notMem_decimal s.failed)
  have h₄ := newline_notMem_field (k := "duration_ms") (by decide)
    (newline_notMem_fixed2 s.totalDuration)
  have hobject : '\n' ∉ summaryObject s := by simp [summaryObject, h₁, h₂, h₃, h₄]
  simp [summaryLine, newline_notMem_field (k := "summary") (by decide) hobject]

theorem newline_notMem_testLines {rs : List TestResult} (h : ∀ r ∈ rs, r.WellFormed) :
    ∀ l ∈ testLines rs, '\n' ∉ l := by
  induction rs with
  | nil => simp [testLines]
  | cons r rs ih =>
      cases rs with
      | nil =>
          intro l hl
          rw [List.mem_singleton.1 hl]
          exact newline_notMem_testLine (h r (by simp)) true
      | cons r' rs =>
          intro l hl
          obtain rfl | hl := List.mem_cons.1 hl
          · exact newline_notMem_testLine (h r (by simp)) false
          · exact ih (fun r'' hr'' => h r'' (List.mem_cons_of_mem _ hr'')) l hl

theorem lines_printJson {s : TestSuite} (hname : IsSuiteName s.suiteName)
    (h : ∀ r ∈ s.results, r.WellFormed) (hcount : s.count = s.results.length) (rest : List Char) :
    lines (printJson s ++ rest) =
      headerLine s.suiteName :: (testLines s.results ++ summaryLine s :: lines rest) := by
  have hall : ∀ l ∈ headerLine s.suiteName :: (testLines s.results ++ [summaryLine s]),
      '\n' ∉ l := by
    intro l hl
    obtain rfl | hl := List.mem_cons.1 hl
    · exact newline_notMem_headerLine hname
    · obtain hl | hl := List.mem_append.1 hl
      · exact newline_notMem_testLines h l hl
      · rw [List.mem_singleton.1 hl]
        exact newline_notMem_summaryLine s
  rw [printJson, hcount, List.take_length, lines_flatMap hall, List.cons_append, List.append_assoc,
    List.singleton_append]

/-! ### The parser on the report -/

theorem strip_headerLine (name : String) : strip (headerLine name) = headerLine name := by
  have htext : headerLine name = '{' :: (field "suite" (quoted name.toList) ++ ',' :: ' ' ::
      (quoted "results".toList ++ [':', ' ']) ++ ['[']) := by
    simp only [headerLine, field, List.append_assoc, List.cons_append, List.nil_append]
  rw [htext]
  exact strip_of_ends (by decide) (by decide) [] (by simp)

theorem strip_summaryLine (s : TestSuite) : strip (summaryLine s) = summaryLine s := by
  have htext : summaryLine s =
      ']' :: (',' :: ' ' :: field "summary" (summaryObject s) ++ ['}']) := by
    simp only [summaryLine, List.cons_append]
  rw [htext]
  exact strip_of_ends (by decide) (by decide) [] (by simp)

/-- Stripping the line of a test takes off the two spaces before it. -/
theorem strip_testLine (r : TestResult) (last : Bool) :
    strip (testLine r last) = testObject r ++ if last then [] else [','] := by
  obtain ⟨mid, hmid⟩ : ∃ mid, testObject r = '{' :: (mid ++ ['}']) := by
    refine ⟨field "test" (quoted r.testName.toList) ++ ',' :: ' ' ::
      (field "status" (quoted r.status.toList) ++ ',' :: ' ' ::
        (field "duration_ms" (fixed2 r.duration) ++ ',' :: ' ' ::
          field "message" (quoted (jsonEscape r.message.toList 1024)))), ?_⟩
    simp only [testObject, List.append_assoc, List.cons_append]
  rw [testLine, hmid]
  cases last with
  | true =>
      rw [if_pos rfl, List.append_nil]
      exact strip_of_ends (by decide) (by decide) [' ', ' '] (Json.forall_mem_of_all (by decide))
  | false =>
      rw [if_neg Bool.false_ne_true, List.cons_append]
      exact strip_of_ends (by decide) (by decide) [' ', ' '] (Json.forall_mem_of_all (by decide))

theorem marker_headerLine (name : String) :
    "\x7b\"suite\":".toList.isPrefixOf (headerLine name) = true := rfl

theorem not_marker_testObject (r : TestResult) (tail : List Char) :
    "\x7b\"suite\":".toList.isPrefixOf (testObject r ++ tail) = false := rfl

theorem not_marker_summaryLine (s : TestSuite) :
    "\x7b\"suite\":".toList.isPrefixOf (summaryLine s) = false := rfl

section Parsing

variable {upper lower : List Char → List Char} {r₀ : SuiteResult} {whole : List Char} {v : Json}

/-- The lines joined before the last one are not a JSON text, and the parser goes on. -/
theorem strategy1_line (hwhole : Json.Reads pyNestingDepth (.value v) whole)
    {js : List (List Char)} {cs : List Char} (hjs : [' '].intercalate js = '{' :: cs)
    {line tail q : List Char}
    (hmarker : "\x7b\"suite\":".toList.isPrefixOf (strip line) = false)
    (hline : strip line = tail) (hq : q ≠ [])
    (htext : whole = [' '].intercalate js ++ (' ' :: tail ++ q)) (rest : List (List Char)) :
    strategy1 ⟨jsonLoads, upper, lower⟩ r₀ (some js) (line :: rest) =
      strategy1 ⟨jsonLoads, upper, lower⟩ r₀ (some (js ++ [tail])) rest := by
  have hne : js ≠ [] := by
    rintro rfl
    cases hjs
  have hjoin : [' '].intercalate (js ++ [tail]) = '{' :: (cs ++ ' ' :: tail) := by
    rw [intercalate_concat _ hne, hjs, List.cons_append, List.singleton_append]
  have hnone : jsonLoads ([' '].intercalate (js ++ [tail])) = .decodeError := by
    have hread : Json.Reads pyNestingDepth (.value v) ('{' :: ((cs ++ ' ' :: tail) ++ q)) := by
      rw [htext, hjs] at hwhole
      simpa using hwhole
    rw [jsonLoads, hjoin, Json.parse_eq_none_of_append hread hq]
    rfl
  rw [strategy1, hmarker, if_neg Bool.false_ne_true, Option.elim_some, hline]
  simp only [hnone, Loaded.elim]

theorem strategy1_summaryLine (hwhole : Json.Reads pyNestingDepth (.value v) whole)
    {js : List (List Char)} (hne : js ≠ []) (s : TestSuite)
    (htext : whole = [' '].intercalate js ++ (' ' :: summaryLine s)) (rest : List (List Char)) :
    strategy1 ⟨jsonLoads, upper, lower⟩ r₀ (some js) (summaryLine s :: rest) =
      (takeReport r₀ v).map some := by
  have hjoin : [' '].intercalate (js ++ [summaryLine s]) = whole := by
    rw [intercalate_concat _ hne, htext, List.singleton_append]
  have hload : jsonLoads whole = .ok v := by
    rw [jsonLoads, hwhole.parse_eq]
    rfl
  rw [strategy1, strip_summaryLine, not_marker_summaryLine, if_neg Bool.false_ne_true,
    Option.elim_some, hjoin]
  simp only [hload, Loaded.elim]

/-- **The parser collects the rest of the report**: by induction on the tests whose lines are still
to come. -/
theorem strategy1_report (hwhole : Json.Reads pyNestingDepth (.value v) whole) (s : TestSuite)
    (rest : List (List Char)) (rs : List TestResult) (js : List (List Char)) {cs : List Char}
    (hjs : [' '].intercalate js = '{' :: cs)
    (htext : whole = [' '].intercalate js ++ (elementsText rs ++ summaryLine s)) :
    strategy1 ⟨jsonLoads, upper, lower⟩ r₀ (some js) (testLines rs ++ summaryLine s :: rest) =
      (takeReport r₀ v).map some := by
  have hne {js : List (List Char)} {cs : List Char} (hjs : [' '].intercalate js = '{' :: cs) :
      js ≠ [] := by
    rintro rfl
    cases hjs
  have hnext {js : List (List Char)} {cs : List Char} (hjs : [' '].intercalate js = '{' :: cs)
      (tail : List Char) :
      [' '].intercalate (js ++ [tail]) = '{' :: (cs ++ ' ' :: tail) := by
    rw [intercalate_concat _ (hne hjs), hjs, List.cons_append, List.singleton_append]
  induction rs generalizing js cs with
  | nil =>
      refine strategy1_summaryLine hwhole (hne hjs) s ?_ rest
      rw [htext]
      rfl
  | cons r rs ih =>
      cases rs with
      | nil =>
          have hline := strip_testLine r true
          rw [if_pos rfl, List.append_nil] at hline
          have hmarker : "\x7b\"suite\":".toList.isPrefixOf (strip (testLine r true)) = false := by
            rw [hline, ← List.append_nil (testObject r)]
            exact not_marker_testObject r []
          have hsplit : whole = [' '].intercalate js ++
              (' ' :: testObject r ++ (' ' :: summaryLine s)) := by
            rw [htext, elementsText]
            simp
          rw [testLines, List.singleton_append,
            strategy1_line hwhole hjs hmarker hline (by simp) hsplit]
          refine strategy1_summaryLine hwhole (by simp) s ?_ rest
          rw [hnext hjs, hsplit, hjs]
          simp
      | cons r' rs =>
          have hline := strip_testLine r false
          rw [if_neg Bool.false_ne_true] at hline
          have hmarker : "\x7b\"suite\":".toList.isPrefixOf (strip (testLine r false)) = false := by
            rw [hline]
            exact not_marker_testObject r [',']
          have hsplit : whole = [' '].intercalate js ++ (' ' :: (testObject r ++ [',']) ++
              (elementsText (r' :: rs) ++ summaryLine s)) := by
            rw [htext, elementsText]
            · simp
            · simp
          have hrest : elementsText (r' :: rs) ++ summaryLine s ≠ [] := by simp [summaryLine]
          rw [testLines, List.cons_append, strategy1_line hwhole hjs hmarker hline hrest hsplit]
          · refine ih _ (hnext hjs _) ?_
            rw [hnext hjs, hsplit, hjs]
            simp
          · simp

end Parsing

/-- **The report round-trips**: whatever follows it, the parser returns the records in order, with
their names, marks and messages, and a summary with the counts. -/
theorem parse_printJson (upper lower : List Char → List Char) (name : String)
    (rs : List TestResult) (totalDuration : ℕ) (hname : IsSuiteName name)
    (h : ∀ r ∈ rs, r.WellFormed) (stderr : List Char) (suiteName : String) (elapsed : Json) :
    parseVishwaOutput ⟨jsonLoads, upper, lower⟩
      (printJson (suiteOf name rs totalDuration) ++ '\n' :: stderr) suiteName elapsed =
    some ⟨.arr (rs.map TestResult.toJson), summaryJson (suiteOf name rs totalDuration)⟩ := by
  set s := suiteOf name rs totalDuration with hs
  have hwhole := reads_report (s := s) hname h 987
  have hlines := lines_printJson (s := s) hname h rfl ('\n' :: stderr)
  have hstart : strategy1 ⟨jsonLoads, upper, lower⟩ (initialResult elapsed) none
      (lines (printJson s ++ '\n' :: stderr)) =
        (takeReport (initialResult elapsed) (reportJson s)).map some := by
    have hmarker : "\x7b\"suite\":".toList.isPrefixOf (strip (headerLine s.suiteName)) = true := by
      rw [strip_headerLine]
      exact marker_headerLine s.suiteName
    rw [hlines, strategy1, if_pos hmarker, strip_headerLine]
    refine strategy1_report hwhole s _ s.results [headerLine s.suiteName] rfl ?_
    rw [List.intercalate_singleton]
    rfl
  rw [parseVishwaOutput, hstart]
  rfl

/-- A suite with a test that passed and one that failed, with a message that has a quote, a line
feed and something like a report in it. -/
theorem parse_printJson_read_write :
    IsSuiteName "read_write" ∧
    parseVishwaOutput ⟨jsonLoads, id, id⟩
      (printJson (suiteOf "read_write"
        [⟨"test_read", "read_write", true, 12, ""⟩,
          ⟨"test_write", "read_write", false, 1034, "got \"x\"\n\x7b\"suite\":"⟩] 1046) ++
        '\n' :: "=== Test Suite".toList) "read_write" .null =
    some ⟨.arr [
        .obj [("test", .str "test_read"), ("status", .str "PASS"), ("duration_ms", hundredths 12),
          ("message", .str "")],
        .obj [("test", .str "test_write"), ("status", .str "FAIL"),
          ("duration_ms", hundredths 1034), ("message", .str "got \"x\"\n\x7b\"suite\":")]],
      .obj [("total", jsonNat 2), ("passed", jsonNat 1), ("failed", jsonNat 1),
        ("duration_ms", hundredths 1046)]⟩ := by
  have hname : IsSuiteName "read_write" :=
    Json.forall_mem_of_all (by decide)
  refine ⟨hname, parse_printJson id id "read_write" _ 1046 hname ?_ _ "read_write" .null⟩
  intro r hr
  simp only [List.mem_cons, List.not_mem_nil, or_false] at hr
  obtain rfl | rfl := hr
  · refine ⟨⟨by decide, Json.forall_mem_of_all (by decide), ?_⟩, by decide,
      Json.forall_mem_of_all (by decide)⟩
    rintro c ⟨⟩
    decide
  · refine ⟨⟨by decide, Json.forall_mem_of_all (by decide), ?_⟩, by decide,
      Json.forall_mem_of_all (by decide)⟩
    rintro c ⟨⟩
    decide

end CTest

end Dvf
