/-
**The two result parsers** (`python-agent/agent/__main__.py`, `parse_vishwa_output`;
`runner/local_runner.py`, `run_tests`).

Both take the output of a test apart with four strategies, each tried when the ones before it found
nothing: reassemble a JSON object that begins with `{"suite":`, take a summary line, count result
lines, look for words.  The agent's parser was ported from the runner, with two edits.  In the
runner the second strategy never finds anything, because it strips the closing braces off a text and
then asks whether the text ends with one; the agent's does.  And where no verdict can be found, the
runner reports no result at all, the agent a failure.

Strings are lists of characters.  What Python's library does — `json.loads` with its exceptions,
`upper` and `lower` — is a parameter, the same for both parsers; `none` stands for an exception that
leaves the parser.

* `Dvf.Python`, `Dvf.Loaded` — the library;
* `Dvf.strategy1`, `Dvf.strategy2`, `Dvf.strategy2Runner`, `Dvf.strategy3`, `Dvf.strategy4`,
  `Dvf.strategy4Runner` — the strategies;
* `Dvf.parseVishwaOutput`, `Dvf.runnerParse` — the parsers.

What they return is worked out in `Dvf/OutputFindings.lean`, and compared in
`Dvf/ParserAgreement.lean`.
-/

import Dvf.JsonDumps
import Dvf.PyText
import Dvf.StepWire

set_option autoImplicit false

namespace Dvf

open PyText

/-! ### Python's library -/

/-- What `json.loads` does: a value, `JSONDecodeError`, another `ValueError` (a number with too many
digits), or an exception that is none (`RecursionError`). -/
inductive Loaded
  | ok (v : Json)
  | decodeError
  | valueError
  | otherError

/-- The outcome of `json.loads` told apart. -/
def Loaded.elim {β : Type} (ok : Json → β) (decodeError valueError otherError : β) : Loaded → β
  | .ok v => ok v
  | .decodeError => decodeError
  | .valueError => valueError
  | .otherError => otherError

/-- The parts of Python that the parsers use. -/
structure Python where
  loads : List Char → Loaded
  upper : List Char → List Char
  lower : List Char → List Char

/-- `json.loads` on texts that neither nest too deeply nor have numbers that are too long. -/
def jsonLoads (cs : List Char) : Loaded :=
  ((Json.parse pyNestingDepth (String.ofList cs)).map Loaded.ok).getD .decodeError

/-- Python's library on ASCII texts. -/
def asciiPython : Python where
  loads := jsonLoads
  upper cs := cs.map Char.toUpper
  lower cs := cs.map Char.toLower

/-- `v.get(key, dflt)`; only dictionaries have `get`. -/
def pyGet (v : Json) (key : String) (dflt : Json) : Option Json :=
  match v with
  | .obj _ => some ((v.get? key).getD dflt)
  | _ => none

/-! ### The strategies -/

/-- The entries `results` and `summary` of the dictionary that the parsers fill in. -/
structure SuiteResult where
  results : Json
  summary : Json
  deriving DecidableEq

def summaryOf (total passed failed : ℕ) (elapsed : Json) : Json :=
  .obj [("total", .num ⟨false, total, 0⟩), ("passed", .num ⟨false, passed, 0⟩),
    ("failed", .num ⟨false, failed, 0⟩), ("duration_ms", elapsed)]

def initialResult (elapsed : Json) : SuiteResult := ⟨.arr [], summaryOf 0 0 0 elapsed⟩

/-- The results and the summary of a JSON object that was put together. -/
def takeReport (r : SuiteResult) (v : Json) : Option SuiteResult :=
  (pyGet v "results" (.arr [])).bind fun results =>
    (pyGet v "summary" r.summary).map fun summary => ⟨results, summary⟩

/-- Strategy 1: from a line that begins with `{"suite":` on, join the stripped lines until they are
a JSON text.  `acc` holds the lines joined so far, once there was such a line. -/
def strategy1 (py : Python) (r : SuiteResult) :
    Option (List (List Char)) → List (List Char) → Option (Option SuiteResult)
  | _, [] => some none
  | acc, line :: rest =>
      if "\x7b\"suite\":".toList.isPrefixOf (strip line) then
        strategy1 py r (some [strip line]) rest
      else acc.elim (strategy1 py r none rest) fun js =>
        (py.loads ([' '].intercalate (js ++ [strip line]))).elim
          (fun v => (takeReport r v).map some) (strategy1 py r (some (js ++ [strip line])) rest)
          none none

/-- A line that the second strategy looks at. -/
def isSummaryLine (line : List Char) : Bool :=
  contains "\"summary\":".toList (strip line) && contains "\"total\":".toList (strip line)

/-- The text from `"summary":` on, with an opening brace. -/
def summaryText (line : List Char) : List Char :=
  '{' :: (fromFirst "\"summary\":".toList (strip line)).getD []

/-- The agent's strategy 2: the last summary line that can be read.  The flag says that there was
one. -/
def strategy2 (py : Python) : SuiteResult → Bool → List (List Char) → Option (SuiteResult × Bool)
  | r, found, [] => some (r, found)
  | r, found, line :: rest =>
      if isSummaryLine line then
        (py.loads (summaryText line)).elim
          (fun v => (pyGet v "summary" r.summary).bind fun summary =>
            strategy2 py { r with summary := summary } true rest)
          (strategy2 py r found rest) (strategy2 py r found rest) none
      else strategy2 py r found rest

/-- The runner's strategy 2. -/
def strategy2Runner (py : Python) :
    SuiteResult → Bool → List (List Char) → Option (SuiteResult × Bool)
  | r, found, [] => some (r, found)
  | r, found, line :: rest =>
      if isSummaryLine line ∧
          ('{' :: rstripChar '}'
            ((fromFirst "\"summary\":".toList (strip line)).getD [])).getLast? = some '}' then
        (py.loads (summaryText line)).elim
          (fun v => (pyGet v "summary" r.summary).bind fun summary =>
            strategy2Runner py { r with summary := summary } true rest)
          (strategy2Runner py r found rest) (strategy2Runner py r found rest) none
      else strategy2Runner py r found rest

/-- What strategy 3 has collected. -/
structure Counted where
  parsed : List Json := []
  passed : ℕ := 0
  failed : ℕ := 0
  deriving DecidableEq

/-- A result line that was read. -/
def Counted.add (t : Counted) (v status : Json) : Counted :=
  match status with
  | .str s =>
      if s = "PASS" then { t with parsed := t.parsed ++ [v], passed := t.passed + 1 }
      else { t with parsed := t.parsed ++ [v], failed := t.failed + 1 }
  | _ => { t with parsed := t.parsed ++ [v], failed := t.failed + 1 }

/-- Strategy 3: lines with a JSON object for one test, and lines of a progress report. -/
def strategy3 (py : Python) : Counted → List (List Char) → Option Counted
  | t, [] => some t
  | t, line :: rest =>
      let stripped := strip line
      if contains "\"test\":".toList stripped && contains "\"status\":".toList stripped then
        (py.loads (rstripChar ',' stripped)).elim
          (fun v => (pyGet v "status" .null).bind fun status =>
            strategy3 py (t.add v status) rest)
          (strategy3 py t rest) none none
      else if contains "PASS".toList stripped && contains "running:".toList stripped then
        strategy3 py { t with passed := t.passed + 1 } rest
      else if contains "FAIL".toList stripped && contains "running:".toList stripped then
        strategy3 py { t with failed := t.failed + 1 } rest
      else strategy3 py t rest

def Counted.found (t : Counted) : Bool := !t.parsed.isEmpty || 0 < t.passed + t.failed

/-- The dictionary after strategy 3. -/
def Counted.toResult (t : Counted) (r : SuiteResult) (elapsed : Json) : SuiteResult where
  results := if t.parsed.isEmpty then r.results else .arr t.parsed
  summary :=
    if 0 < t.passed + t.failed then summaryOf (t.passed + t.failed) t.passed t.failed elapsed
    else r.summary

/-- The words of a driver that did not come up. -/
def driverError (upper : List Char) : Bool :=
  contains "GPURT ERROR".toList upper || contains "DEVICE OPEN FAILED".toList upper ||
    contains "IOCTL FAILED".toList upper

/-- The first line with a word of failure, cut to 120 characters. -/
def errHint (py : Python) : List (List Char) → List Char
  | [] => []
  | line :: rest =>
      if contains "error".toList (py.lower line) || contains "failed".toList (py.lower line) then
        (strip line).take 120
      else errHint py rest

/-- The one result for a suite that passed. -/
def passResult (suiteName : String) (elapsed : Json) : SuiteResult :=
  ⟨.arr [.obj [("test", .str suiteName), ("status", .str "PASS"), ("duration_ms", elapsed)]],
    summaryOf 1 1 0 elapsed⟩

/-- The one result for a suite that failed. -/
def failResult (py : Python) (output : List Char) (suiteName : String) (elapsed : Json) :
    SuiteResult :=
  let hint := errHint py (lines output)
  ⟨.arr [.obj [("test", .str suiteName), ("status", .str "FAIL"), ("duration_ms", elapsed),
      ("message", .str (if hint = [] then "hardware/driver initialization failed"
        else String.ofList hint))]],
    summaryOf 1 0 1 elapsed⟩

/-- The agent's strategy 4: passed if the output says so, and failed otherwise. -/
def strategy4 (py : Python) (output : List Char) (suiteName : String) (elapsed : Json) :
    SuiteResult :=
  let upper := py.upper output
  if (contains "TEST PASSED".toList upper || contains "PASSED".toList upper) &&
      !driverError upper then
    passResult suiteName elapsed
  else failResult py output suiteName elapsed

/-- The runner's strategy 4: passed or failed if the output or the exit code says so. -/
def strategy4Runner (py : Python) (output : List Char) (rc : ℤ) (suiteName : String)
    (elapsed : Json) : Option SuiteResult :=
  let upper := py.upper output
  if (contains "TEST PASSED".toList upper || (rc = 0 && contains "PASSED".toList upper)) &&
      !driverError upper then
    some (passResult suiteName elapsed)
  else if contains "TEST FAILED".toList upper || contains "FAILED!".toList upper || rc ≠ 0 ||
      driverError upper then
    some (failResult py output suiteName elapsed)
  else none

/-! ### The parsers -/

/-- `parse_vishwa_output`. -/
def parseVishwaOutput (py : Python) (output : List Char) (suiteName : String) (elapsed : Json) :
    Option SuiteResult :=
  (strategy1 py (initialResult elapsed) none (lines output)).bind fun found₁ =>
    found₁.elim
      ((strategy2 py (initialResult elapsed) false (lines output)).bind fun found₂ =>
        if found₂.2 then some found₂.1
        else (strategy3 py {} (lines output)).map fun t =>
          if t.found then t.toResult found₂.1 elapsed else strategy4 py output suiteName elapsed)
      some

/-- The result parsing of `run_tests`, with the exit code `rc`. -/
def runnerParse (py : Python) (output : List Char) (rc : ℤ) (suiteName : String) (elapsed : Json) :
    Option SuiteResult :=
  (strategy1 py (initialResult elapsed) none (lines output)).bind fun found₁ =>
    found₁.elim
      ((strategy2Runner py (initialResult elapsed) false (lines output)).bind fun found₂ =>
        if found₂.2 then some found₂.1
        else (strategy3 py {} (lines output)).map fun t =>
          if t.found then t.toResult found₂.1 elapsed
          else (strategy4Runner py output rc suiteName elapsed).getD found₂.1)
      some

end Dvf
