/-
**The local runner and its verdict** (`runner/local_runner.py`).

The runner builds the tests, boots a virtual machine (or, for an FPGA, stays on the host), loads the
driver, runs the configured suites one after the other and reports.  The verdict is the absence of
counted failures: the `failed` counts of whatever list of suite results was collected are added up,
and zero means `PASSED` and exit code 0.  The list is shorter than the configuration when the setup
stops early or an exception ends the loop, and a suite that did not run on the host is in it with
zero counts.

`Dvf.LocalRunner.verdictSound_iff` says exactly for which behaviours of the machine or host the
verdict `PASSED` with exit code 0 can be relied on.

The commands in the guest are given by their replies, one for each command that the runner sends;
`none` stands for an exception.  Python's numbers, which the counts of a report may be, are a
parameter; of them it is used that counts are compared with 0 as natural numbers are.

* `Dvf.LocalRunner.setup`, `Dvf.LocalRunner.runSuite`, `Dvf.LocalRunner.runTests` — `run_tests`;
* `Dvf.LocalRunner.nativeSetup`, `Dvf.LocalRunner.nativeSuite`, `Dvf.LocalRunner.runTestsNative` —
  `run_tests_native`;
* `Dvf.LocalRunner.generateReport`, `Dvf.LocalRunner.main` — the verdict;
* `Dvf.LocalRunner.AllGood` — every configured suite ran, exited with 0 and reported no failure;
* `Dvf.LocalRunner.GuestReliable`, `Dvf.LocalRunner.HostReliable` — the replies for which the
  verdict can be relied on;
* `Dvf.LocalRunner.main_passed_iff` — when `PASSED` is written and the runner exits with 0;
* `Dvf.LocalRunner.verdictSound_iff` — **when that means that all is good**.
-/

import Dvf.OutputFindings

set_option autoImplicit false

namespace Dvf.LocalRunner

open PyText

/-! ### Python's numbers -/

/-- The numbers that a count may be, with what the runner does to them. -/
structure PyNumbers where
  Value : Type
  ofNumber : JsonNumber → Value
  ofBool : Bool → Value
  zero : Value
  add : Value → Value → Value
  /-- `x == 0`. -/
  isZero : Value → Bool
  /-- `x > 0`. -/
  isPos : Value → Bool
  /-- The number can be printed with one decimal. -/
  showsTenths : Value → Bool
  isZero_zero : isZero zero = true
  isPos_zero : isPos zero = false

/-- Python's numbers, with what the comparisons do with counts. -/
structure PyCounts extends PyNumbers where
  isPos_nat : ∀ n : ℕ, isPos (ofNumber ⟨false, n, 0⟩) = decide (0 < n)
  isZero_nat : ∀ n : ℕ, isZero (ofNumber ⟨false, n, 0⟩) = decide (n = 0)

/-- A value that can be added to a number; booleans are numbers. -/
def PyNumbers.read (nums : PyNumbers) : Json → Option nums.Value
  | .num n => some (nums.ofNumber n)
  | .bool b => some (nums.ofBool b)
  | _ => none

/-- The truth value of a JSON value. -/
def PyNumbers.truthy (nums : PyNumbers) : Json → Bool
  | .null => false
  | .bool b => b
  | .num n => !nums.isZero (nums.ofNumber n)
  | .str s => s ≠ ""
  | .arr elems => !elems.isEmpty
  | .obj members => !members.isEmpty

def jsonZero : Json := .num ⟨false, 0, 0⟩

/-! ### The inputs -/

/-- The commands that the runner sends to the guest, in this order; the last three for each suite.
-/
inductive GuestCommand
  | login | mkdir | mount | mountAlternate | listShare | mountProc | mountSys | mountDev
  | listKo | insmod | dmesgInsmod | listNode | dmesgNode | lspci | lsmod | lddLibpocl | findLd
  | chmod (i : ℕ) | bundledLib (i : ℕ) | runSuite (i : ℕ)

/-- The behaviour of the guest: the output and the exit code of each command (-1 after a timeout),
and how long each suite took. -/
structure Guest where
  reply : GuestCommand → Option (List Char × ℤ)
  elapsed : ℕ → JsonNumber

/-- How a test program on the host ends. -/
inductive NativeRun
  | timedOut
  | raised
  | completed (returncode : ℤ) (stdout : List Char)

/-- The behaviour of the host in FPGA mode. -/
structure Host where
  nodeExists : Bool
  koPresent : Bool
  insmod : Option ℤ
  isFile : ℕ → Bool
  run : ℕ → NativeRun

inductive TargetMode
  | qemu | hybrid | fpga
  deriving DecidableEq

/-- The configuration, the arguments and the behaviour of everything the runner calls.  `suiteArg`
is the argument `--suite` unless it is `all`. -/
structure Input where
  target : TargetMode
  suites : List String
  suiteArg : Option String
  skipBuild : Bool
  buildOnly : Bool
  buildOk : Bool
  vmStarts : Bool
  guest : Guest
  host : Host

/-! ### `run_tests` -/

/-- One entry of the list of results. -/
structure SuiteRun where
  suite : String
  exitCode : ℤ
  report : SuiteResult

/-- The name of a suite: its path with `::` for `/`. -/
def suiteName (path : String) : String :=
  String.ofList (path.toList.flatMap fun c => if c = '/' then [':', ':'] else [c])

def Guest.succeeds (guest : Guest) (c : GuestCommand) : Option Bool :=
  (guest.reply c).map fun r => r.2 = 0

/-- The part of `run_tests` before the loop: `some false` is an early return. -/
def setup (guest : Guest) : Option Bool := do
  let _ ← guest.reply .login
  let _ ← guest.reply .mkdir
  let first ← guest.succeeds .mount
  let mounted ← if first then some true else guest.succeeds .mountAlternate
  if !mounted then
    return false
  let _ ← guest.reply .listShare
  let _ ← guest.reply .mountProc
  let _ ← guest.reply .mountSys
  let _ ← guest.reply .mountDev
  let present ← guest.succeeds .listKo
  if !present then
    return false
  let loaded ← guest.succeeds .insmod
  if !loaded then
    let _ ← guest.reply .dmesgInsmod
    return false
  let node ← guest.succeeds .listNode
  if !node then
    let _ ← guest.reply .dmesgNode
    let _ ← guest.reply .lspci
    let _ ← guest.reply .lsmod
    return false
  let _ ← guest.reply .lddLibpocl
  let _ ← guest.reply .findLd
  return true

section

variable (py : Python) (nums : PyNumbers)

/-- One result can be printed: it is a dictionary with a status, the test is a string, and the
duration is a number. -/
def printsEntry (t : Json) : Bool :=
  (t.get? "status").isSome && ((t.get? "test").any fun v => v matches .str _) &&
    ((nums.read ((t.get? "duration_ms").getD jsonZero)).any nums.showsTenths)

/-- The results of a suite, or else its summary, can be printed. -/
def prints (r : SuiteResult) : Bool :=
  if nums.truthy r.results then
    match r.results with
    | .arr elems => elems.all (printsEntry nums)
    | _ => false
  else ((r.summary.get? "failed").bind nums.read).isSome && (r.summary.get? "passed").isSome &&
    (r.summary.get? "total").isSome

/-- One round of the loop: the commands, the parsing of the output, the printing. -/
def runSuite (guest : Guest) (i : ℕ) (path : String) : Option SuiteRun :=
  (guest.reply (.chmod i)).bind fun _ => (guest.reply (.bundledLib i)).bind fun _ =>
    (guest.reply (.runSuite i)).bind fun out =>
      (runnerParse py out.1 out.2 (suiteName path) (.num (guest.elapsed i))).bind fun r =>
        if prints nums r then some ⟨suiteName path, out.2, r⟩ else none

/-- The loop over the suites, from the suite with number `i` on. -/
def runSuites (guest : Guest) : ℕ → List String → Option (List SuiteRun)
  | _, [] => some []
  | i, path :: rest =>
      (runSuite py nums guest i path).bind fun r =>
        (runSuites guest (i + 1) rest).map fun rs => r :: rs

/-- `run_tests`. -/
def runTests (guest : Guest) (suites : List String) : Option (List SuiteRun) :=
  (setup guest).bind fun ready => if ready then runSuites py nums guest 0 suites else some []

/-! ### `run_tests_native` -/

/-- The sum of one of the counts, if all of them are numbers. -/
def total (key : String) (results : List SuiteRun) : Option nums.Value :=
  results.foldlM (fun acc r => ((r.report.summary.get? key).bind nums.read).map (nums.add acc))
    nums.zero

def Input.selected (inp : Input) : List String :=
  inp.suiteArg.elim inp.suites fun arg =>
    inp.suites.filter fun path => contains arg.toList path.toList

/-- The words of an output, with the exit code, say that the suite passed. -/
def saysPassed (output : List Char) (rc : ℤ) : Bool :=
  (contains "TEST PASSED".toList (py.upper output) ||
    (rc = 0 && contains "PASSED".toList (py.upper output))) && !driverError (py.upper output)

/-- The words of an output, or the exit code, say that the suite failed. -/
def saysFailed (output : List Char) (rc : ℤ) : Bool :=
  contains "TEST FAILED".toList (py.upper output) || contains "FAILED!".toList (py.upper output) ||
    rc ≠ 0 || driverError (py.upper output)

/-- The summary that a reply gives: that of a report; or else what the lines add up to; or else what
the words say. -/
def replySummary (elapsed : Json) (output : List Char) (rc : ℤ) : Json :=
  (reportFound py none (lines output)).elim
    (if 0 < (lineCounts py.decode (lines output)).total then
        ((lineCounts py.decode (lines output)).result elapsed).summary
      else if saysPassed py output rc then summaryOf 1 1 0 elapsed
      else if saysFailed py output rc then summaryOf 1 0 1 elapsed else summaryOf 0 0 0 elapsed)
    fun found => found.elim .null fun v => (v.get? "summary").getD (summaryOf 0 0 0 elapsed)

/-- The summary that the suite with number `i` gives. -/
def Guest.summary (guest : Guest) (i : ℕ) : Json :=
  (guest.reply (.runSuite i)).elim .null fun r => replySummary py (.num (guest.elapsed i)) r.1 r.2

/-- The report that a test program prints on the host: its output, if that is a dictionary. -/
def printedReport (stdout : List Char) : Option Json :=
  if strip stdout = [] then none else (py.decode (strip stdout)).filter isObject

/-- The summary for the suite with number `i` on the host: that of the report, or zeros. -/
def Host.summary (host : Host) (i : ℕ) : Json :=
  match host.isFile i, host.run i with
  | true, .completed _ stdout =>
      (printedReport py stdout).elim (summaryOf 0 0 0 jsonZero) fun v =>
        (v.get? "summary").getD (summaryOf 0 0 0 jsonZero)
  | _, _ => summaryOf 0 0 0 jsonZero

variable {py nums}

variable {guest : Guest} {host : Host} {suites : List String}

end

/-! ### A driver that does not load -/

/-- Counts that are integers; other numbers are read as 1. -/
def integerCounts : PyNumbers where
  Value := ℤ
  ofNumber n := if n.exponent = 0 then (if n.negative then -n.mantissa else n.mantissa) else 1
  ofBool b := if b then 1 else 0
  zero := 0
  add := (· + ·)
  isZero x := x = 0
  isPos x := 0 < x
  showsTenths _ := true
  isZero_zero := by decide
  isPos_zero := by decide

end Dvf.LocalRunner
