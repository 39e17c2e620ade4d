/-
**The store in a database** (`internal/storage/postgres.go`): test runs.

A test run is a row of the table `test_runs`.  Columns that may be `NULL` are options; an empty text
is stored as `NULL` and read back with `COALESCE`.  A status write is one of three `UPDATE`
statements.  What the database keeps of an instant, how it turns an interval into a number of
milliseconds and which texts and numbers it takes belongs to its column types; these are parameters
(`Dvf.PgTypes`, `Dvf.PgColumns`), with the types of the version that the repository deploys as
instances (`Dvf.postgres16`, `Dvf.postgres16Columns`).  A statement with a value that a column does
not take is an error and changes nothing.  Times are nanoseconds, as in the program.

Main definitions:

* `Dvf.PgTypes`, `Dvf.PgColumns`, `Dvf.postgres16Columns` — column types;
* `Dvf.PgTestRun`, `Dvf.PgStore` — rows, and the table by its primary key;
* `Dvf.PgStore.createTestRun`, `Dvf.PgStore.updateTestRunStatus`, `Dvf.PgStore.getTestRun` — the
  operations.

Main results:

* `Dvf.PgStore.exists_update`, `Dvf.PgStore.update_rejected` — a status write changes one row, or is
  refused;
* `Dvf.timestamptz_eq_self_iff`, `Dvf.millis_eq_tdiv_iff` — when the column types lose nothing.
-/

import Dvf.Store

set_option autoImplicit false

namespace Dvf

open Go

/-- **Column types**: what a `TIMESTAMPTZ` column keeps of an instant, and what a `BIGINT` column
receives as `EXTRACT(EPOCH FROM d) * 1000` for an interval `d`. -/
structure PgTypes where
  timestamptz : ℤ → ℤ
  millis : ℤ → ℤ

/-- Instants are kept in microseconds, the driver drops the rest; `EXTRACT` gives an exact number,
and assigning it to a `BIGINT` rounds half away from zero. -/
def postgres16 : PgTypes where
  timestamptz t := t / 1000 * 1000
  millis d := if 0 ≤ d then (d + 500000) / 1000000 else -((-d + 500000) / 1000000)

theorem timestamptz_eq_self_iff (t : ℤ) : postgres16.timestamptz t = t ↔ 1000 ∣ t := by
  change t / 1000 * 1000 = t ↔ 1000 ∣ t
  omega

theorem millis_eq_tdiv_iff {d : ℤ} (hd : 0 ≤ d) :
    postgres16.millis d = d.tdiv 1000000 ↔ d % 1000000 < 500000 := by
  change (if 0 ≤ d then (d + 500000) / 1000000 else _) = _ ↔ _
  rw [if_pos hd, Int.tdiv_eq_ediv_of_nonneg hd]
  omega

/-- **What the columns take**: besides the types, which numbers an `INTEGER` column takes, which
texts a `TEXT` or `JSONB` column takes, and the error for the others. -/
structure PgColumns extends PgTypes where
  int4 : ℤ → Bool
  text : String → Bool
  rejected : String

/-- The columns of the deployed version. -/
def postgres16Columns : PgColumns :=
  { postgres16 with
    int4 := fun n => decide (-2147483648 ≤ n ∧ n ≤ 2147483647)
    text := fun s => !s.toList.contains (Char.ofNat 0)
    rejected := "value out of range" }

/-- A row of `test_runs`. -/
structure PgTestRun where
  id : String
  deviceID : String
  testSuiteID : String
  status : TestRunStatus
  vmID : Option String
  priority : ℤ
  createdAt : ℤ
  startedAt : Option ℤ := none
  completedAt : Option ℤ := none
  durationMs : ℤ := 0
  requestedBy : Option String
  tags : List String
  errorMessage : Option String
  deriving DecidableEq, Repr

/-- The table `test_runs` by its primary key, which is a text that the column can hold. -/
structure PgStore (ty : PgColumns) where
  testRuns : GoMap String PgTestRun
  text : ∀ id ∈ testRuns, ty.text id = true
  keyed : ∀ id row, testRuns.lookup id = some row → row.id = id

/-- The empty table. -/
def newPostgresStore (ty : PgColumns) : PgStore ty where
  testRuns := ∅
  text _ h := absurd h (AList.notMem_empty _)
  keyed := by
    intro id row h
    rw [AList.lookup_empty] at h
    cases h

/-- `nullableStr`. -/
def nullableStr (s : String) : Option String := if s = "" then none else some s

/-- `NULLIF(a, b)`. -/
def nullif (a b : String) : Option String := if a = b then none else some a

namespace PgTestRun

/-- The columns as `SELECT` reads them into a record, with `COALESCE` for texts. -/
def toTestRun (row : PgTestRun) : TestRun where
  id := row.id
  deviceID := row.deviceID
  testSuiteID := row.testSuiteID
  status := row.status
  vmID := row.vmID.getD ""
  priority := row.priority
  createdAt := row.createdAt
  startedAt := row.startedAt
  completedAt := row.completedAt
  durationMs := row.durationMs
  requestedBy := row.requestedBy.getD ""
  tags := row.tags
  errorMessage := row.errorMessage.getD ""

/-- The row that `INSERT` makes.  The columns `started_at`, `completed_at` and `duration_ms` are not
among those it names, and get their defaults. -/
def insert (ty : PgTypes) (id : String) (now : ℤ) (run : TestRun) : PgTestRun where
  id := id
  deviceID := run.deviceID
  testSuiteID := run.testSuiteID
  status := run.status
  vmID := nullableStr run.vmID
  priority := run.priority
  createdAt := ty.timestamptz now
  requestedBy := nullableStr run.requestedBy
  tags := run.tags
  errorMessage := nullableStr run.errorMessage

/-- Every column but the key can hold its value. -/
def accepted (ty : PgColumns) (row : PgTestRun) : Bool :=
  ty.text row.deviceID && ty.text row.testSuiteID && row.vmID.all ty.text && ty.int4 row.priority &&
    row.requestedBy.all ty.text && row.tags.all ty.text && row.errorMessage.all ty.text

/-- The row after the `UPDATE` of a status write at time `now`. -/
def withStatus (ty : PgTypes) (now : ℤ) (status : TestRunStatus) (errMsg : String)
    (row : PgTestRun) : PgTestRun :=
  match status with
  | .running =>
      { row with
        status := status
        startedAt := some (ty.timestamptz now)
        errorMessage := nullif errMsg "" }
  | .passed | .failed | .errored | .cancelled | .timeout =>
      { row with
        status := status
        completedAt := some (ty.timestamptz now)
        durationMs := ty.millis (ty.timestamptz now - row.startedAt.getD row.createdAt)
        errorMessage := nullif errMsg "" }
  | .pending | .queued =>
      { row with
        status := status
        errorMessage := nullif errMsg "" }

@[simp] theorem id_withStatus (ty : PgTypes) (now : ℤ) (st : TestRunStatus) (errMsg : String)
    (row : PgTestRun) : (withStatus ty now st errMsg row).id = row.id := by
  cases st <;> rfl

end PgTestRun

namespace PgStore

variable {ty : PgColumns}

/-- Writing a row under its primary key. -/
def insertRow (s : PgStore ty) (id : String) (row : PgTestRun) (htext : ty.text id = true)
    (hid : row.id = id) : PgStore ty where
  testRuns := s.testRuns.insert id row
  text := by
    intro id' h
    rw [AList.mem_insert] at h
    obtain rfl | h := h
    · exact htext
    · exact s.text id' h
  keyed := keyed_insert s.keyed hid

theorem text_of_lookup {s : PgStore ty} {id : String} {row : PgTestRun}
    (h : s.testRuns.lookup id = some row) : ty.text id = true :=
  s.text id (AList.lookup_isSome.1 (by rw [h]; rfl))

/-- `CreateTestRun`, with the id that the database generated. -/
def createTestRun (s : PgStore ty) (id : String) (now : ℤ) (run : TestRun) :
    Except String (TestRun × PgStore ty) :=
  let row := PgTestRun.insert ty.toPgTypes id now run
  if h : ty.text id = true ∧ row.accepted ty = true then
    .ok ({ run with id := row.id, createdAt := row.createdAt }, s.insertRow id row h.1 rfl)
  else .error ("inserting test run: " ++ ty.rejected)

/-- `GetTestRun`. -/
def getTestRun (s : PgStore ty) (id : String) : Except String TestRun :=
  if ty.text id = true then
    (s.testRuns.lookup id).elim (.error ("test run " ++ quote id ++ " not found")) fun row =>
      .ok row.toTestRun
  else .error ("querying test run: " ++ ty.rejected)

/-- `UpdateTestRunStatus`: the message and the id have to be texts that the columns take, and no row
is affected if none has this id. -/
def updateTestRunStatus (s : PgStore ty) (now : ℤ) (id : String) (status : TestRunStatus)
    (errMsg : String) : Except String (PgStore ty) :=
  if htext : ty.text id = true ∧ (nullif errMsg "").all ty.text = true then
    match h : s.testRuns.lookup id with
    | some row =>
        .ok (s.insertRow id (row.withStatus ty.toPgTypes now status errMsg) htext.1
          ((PgTestRun.id_withStatus _ now status errMsg row).trans (s.keyed id row h)))
    | none => .error ("test run " ++ quote id ++ " not found")
  else .error ("updating test run status: " ++ ty.rejected)

theorem getTestRun_eq_ok_iff {s : PgStore ty} {id : String} {run : TestRun} :
    s.getTestRun id = .ok run ↔ ∃ row, s.testRuns.lookup id = some row ∧ row.toTestRun = run := by
  unfold getTestRun
  cases h : s.testRuns.lookup id with
  | some row => simp [text_of_lookup h]
  | none => split <;> simp

/-- **A status write changes one row**, if the column takes its message. -/
theorem exists_update {s : PgStore ty} {id : String} {row : PgTestRun}
    (h : s.testRuns.lookup id = some row) (now : ℤ) (st : TestRunStatus) {errMsg : String}
    (hmsg : (nullif errMsg "").all ty.text = true) :
    ∃ s', s.updateTestRunStatus now id st errMsg = .ok s' ∧
      s'.testRuns = s.testRuns.insert id (row.withStatus ty.toPgTypes now st errMsg) := by
  unfold updateTestRunStatus
  rw [dif_pos ⟨text_of_lookup h, hmsg⟩]
  split
  · next row' hrow =>
      rw [hrow] at h
      cases h
      exact ⟨_, rfl, rfl⟩
  · next hnone =>
      rw [hnone] at h
      cases h

theorem update_rejected (s : PgStore ty) (id : String) (now : ℤ) (st : TestRunStatus)
    {errMsg : String} (hmsg : ¬ (nullif errMsg "").all ty.text = true) :
    s.updateTestRunStatus now id st errMsg =
      .error ("updating test run status: " ++ ty.rejected) := by
  rw [updateTestRunStatus, dif_neg fun h => hmsg h.2]

end PgStore

end Dvf
