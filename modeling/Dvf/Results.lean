/-
**From the agent's output to stored results** (`processResultsForStep`, `mapAgentStatus` and the
final verdict of `internal/core/execution_engine.go`).

The output of a test is decoded with `encoding/json`, first as an object with a `results` list,
then as a list; an output that is neither gives one row with the agent's own status.  What matters
for the verdict is the list of rows an output leads to: empty output, `null` and `[]` lead to none.

The decoder follows `encoding/json`: keys match without regard to case, `null` leaves a field as it
is, unknown keys are ignored, a value of the wrong type makes the whole decoding fail, and an array
decoded into a slice that already has elements decodes into those elements.

Main definitions:

* `Dvf.RawResultItem`, `Dvf.RawResultItem.decode` — one test result of an output;
* `Dvf.rawResults` — the results of an output, if it has one of the two formats;
* `Dvf.mapAgentStatus` — agent statuses;
* `Dvf.resultRows` — the rows that an agent result leads to;
* `Dvf.isFailing`, `Dvf.verdict` — the final status from the rows of a run.

Main results:

* `Dvf.verdict_eq_passed_iff` — a run passes when none of its rows is failed or errored.
-/

import Dvf.Json
import Dvf.Store
import Mathlib.Algebra.Group.Nat.Defs

set_option autoImplicit false

namespace Dvf

/-! ### Decoding -/

/-- How deep `encoding/json` lets arrays and objects nest. -/
def maxNestingDepth : ℕ := 10000

/-- One test result of an output: the fields that reach the store as text. -/
structure RawResultItem where
  test : String := ""
  status : String := ""
  message : String := ""
  deriving DecidableEq, Repr, Inhabited

/-- The case folding of `encoding/json`, on the characters that can match an ASCII name. -/
def foldRune (c : Char) : Char :=
  if c.toNat = 0x17F then 'S'
  else if c.toNat = 0x212A then 'K'
  else c.toUpper

/-- A key of an object names the field `name`. -/
def keyMatches (key name : String) : Bool :=
  key.toList.map foldRune = name.toList.map foldRune

/-- A string field: the field keeps its value on `null`. -/
def decodeString (prev : String) : Json → Option String
  | .str s => some s
  | .null => some prev
  | _ => none

/-- The least number that does not round to a finite 64-bit float. -/
def float64Bound : ℕ := 2 ^ 1024 - 2 ^ 970

/-- A number literal that `strconv.ParseFloat` accepts: it does not round to infinity. -/
def isFloat64 (n : JsonNumber) : Bool :=
  if 0 ≤ n.exponent then n.mantissa * 10 ^ n.exponent.toNat < float64Bound
  else n.mantissa < float64Bound * 10 ^ (-n.exponent).toNat

/-- A value that can be decoded into a number field. -/
def decodesFloat : Json → Bool
  | .num n => isFloat64 n
  | .null => true
  | _ => false

/-- A value that can be decoded into a map from names to numbers. -/
def decodesFloatMap : Json → Bool
  | .obj members => members.all fun m => decodesFloat m.2
  | .null => true
  | _ => false

namespace RawResultItem

/-- One member of a result object. -/
def decodeField (item : RawResultItem) (key : String) (v : Json) : Option RawResultItem :=
  if keyMatches key "test" then (decodeString item.test v).map fun s => { item with test := s }
  else if keyMatches key "status" then
    (decodeString item.status v).map fun s => { item with status := s }
  else if keyMatches key "duration_ms" then if decodesFloat v then some item else none
  else if keyMatches key "message" then
    (decodeString item.message v).map fun s => { item with message := s }
  else if keyMatches key "metrics" then if decodesFloatMap v then some item else none
  else some item

/-- The members of a result object, from the first to the last. -/
def decodeFields (item : RawResultItem) : List (String × Json) → Option RawResultItem
  | [] => some item
  | (key, v) :: rest => (item.decodeField key v).bind fun item => item.decodeFields rest

/-- Decoding into a result that may already have values. -/
def decode (item : RawResultItem) : Json → Option RawResultItem
  | .obj members => item.decodeFields members
  | .null => some item
  | _ => none

/-- Decoding the elements of an array into the elements that are there already. -/
def decodeElems : List RawResultItem → List Json → Option (List RawResultItem)
  | _, [] => some []
  | prev, j :: js =>
      match (prev.headD default).decode j, decodeElems prev.tail js with
      | some item, some items => some (item :: items)
      | _, _ => none

end RawResultItem

/-- A slice with its elements and those that its array still holds behind them. -/
structure Slice where
  elems : List RawResultItem := []
  rest : List RawResultItem := []

/-- Decoding into a slice. -/
def Slice.decode (s : Slice) : Json → Option Slice
  | .arr [] => some {}
  | .arr js =>
      (RawResultItem.decodeElems (s.elems ++ s.rest) js).map fun items =>
        ⟨items, (s.elems ++ s.rest).drop items.length⟩
  | .null => some {}
  | _ => none

/-- The `results` of an object, its members taken from the first to the last. -/
def decodeResults (s : Slice) : List (String × Json) → Option Slice
  | [] => some s
  | (key, v) :: rest =>
      if keyMatches key "results" then (s.decode v).bind fun s => decodeResults s rest
      else decodeResults s rest

/-- The first format: an object with a non-empty `results` list. -/
def objResults : Json → Option (List RawResultItem)
  | .obj members => (decodeResults {} members).map Slice.elems
  | .null => some []
  | _ => none

/-- The second format: a list of results. -/
def listResults (j : Json) : Option (List RawResultItem) := (Slice.decode {} j).map Slice.elems

/-- The results of an output, if it has one of the two formats. -/
def rawResults (output : String) : Option (List RawResultItem) :=
  match Json.parse maxNestingDepth output with
  | none => none
  | some j =>
      match objResults j with
      | some (item :: items) => some (item :: items)
      | _ => listResults j

/-! ### Rows -/

/-- `mapAgentStatus`. -/
def mapAgentStatus (s : String) : TestRunStatus :=
  if s = "passed" ∨ s = "PASS" then .passed
  else if s = "failed" ∨ s = "FAIL" then .failed
  else .errored

/-- The rows that `processResultsForStep` saves, in this order. -/
def resultRows (run : TestRun) (stepID : String) (res : AgentResult) : List TestResult :=
  if res.output = "" then []
  else
    match rawResults res.output with
    | none => [⟨run.id, stepID, mapAgentStatus res.status, res.output, res.logs⟩]
    | some items =>
        items.map fun raw => ⟨run.id, raw.test, mapAgentStatus raw.status, raw.message, res.logs⟩

theorem testRunID_of_mem_resultRows {run : TestRun} {stepID : String} {res : AgentResult}
    {r : TestResult} (h : r ∈ resultRows run stepID res) : r.testRunID = run.id := by
  unfold resultRows at h
  split at h
  · simp at h
  · split at h
    · simp only [List.mem_singleton] at h
      rw [h]
    · obtain ⟨raw, _, rfl⟩ := List.mem_map.1 h
      rfl

/-! ### The verdict -/

def isFailing (r : TestResult) : Bool := r.status = .failed || r.status = .errored

/-- The final status of a run with these rows. -/
def verdict (rows : List TestResult) : TestRunStatus :=
  if rows.any isFailing then .failed else .passed

theorem verdict_eq_passed_iff {rows : List TestResult} :
    verdict rows = .passed ↔ ∀ r ∈ rows, isFailing r = false := by
  unfold verdict
  split
  · next h =>
      obtain ⟨r, hr, hf⟩ := List.any_eq_true.1 h
      simp only [reduceCtorEq, false_iff, not_forall]
      exact ⟨r, hr, by simp [hf]⟩
  · next h => simpa using h

theorem verdict_cases (rows : List TestResult) :
    verdict rows = .passed ∨ verdict rows = .failed := by
  unfold verdict
  split
  · exact Or.inr rfl
  · exact Or.inl rfl

theorem isTerminal_verdict (rows : List TestResult) : (verdict rows).isTerminal = true := by
  rcases verdict_cases rows with h | h
  · rw [h]
    rfl
  · rw [h]
    rfl

end Dvf
