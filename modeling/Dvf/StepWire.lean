/-
**A step on its way to the guest** (`internal/core/execution_engine.go`, `runWorkflow`;
`internal/vm/virtio_serial.go`, `commandPump`; `python-agent/agent/__main__.py`, `_recv`,
`command_loop` and `_handle_start_test`).

A step goes through a map of the engine, a line of JSON and a dictionary of the agent before a
process is started for it.  `Dvf.stepCommand` is the first of these; this module adds the other two
and asks what of the step is left: the process should have the binary followed by the arguments as
its argument vector, the device node in its environment, and the time limit of the step.

The text is no problem (`Dvf.recv_wireText`), and neither are the environment and the time limit.
But the engine sends the arguments under a name that the agent never looks up.  So the step arrives
exactly when it has no arguments, and a binary (`Dvf.step_arrives_iff`).

* `Dvf.commandMessage`, `Dvf.wireText` — the line that the pump writes;
* `Dvf.recv`, `Dvf.handleStartTest`, `Dvf.commandLoop` — what the agent does with it;
* `Dvf.handleStartTest_stepCommand` — the process of a step.
-/

import Dvf.Commands
import Dvf.Go
import Dvf.JsonDumps

set_option autoImplicit false

namespace Dvf

/-! ### The hub's side -/

/-- A parameter as JSON. -/
def ParamValue.toJson : ParamValue → Json
  | .text s => .str s
  | .list l => .arr (l.map .str)
  | .env vars => .ofMap (vars.map fun kv => (kv.1, .str kv.2))

/-- The message that `commandPump` builds for a command. -/
def commandMessage (cmd : AgentCommand) : Json :=
  .ofMap [("msg", .str "command"), ("command_id", .str cmd.id), ("cmd", .str cmd.type),
    ("params", .ofMap (cmd.parameters.map fun kv => (kv.1, kv.2.toJson)))]

/-- `enc.Encode(msg)`: the text of the message and a line feed. -/
def wireText (cmd : AgentCommand) : List Char :=
  Json.dumps Json.htmlEscaper (commandMessage cmd) ++ ['\n']

/-! ### The agent's side -/

/-- How deep `json.loads` goes before Python's recursion limit stops it. -/
def pyNestingDepth : ℕ := 990

/-- `_recv`: the next line, decoded, and what is behind it.  A line that is no JSON counts as an
empty dictionary; without a line feed the agent goes on reading.  An integer of more than 4300
digits and a nesting that is too deep raise another exception, which leaves `_recv`; the messages
for steps have neither. -/
def recv (stream : List Char) : Option (Json × List Char) :=
  match stream.span (· ≠ '\n') with
  | (line, '\n' :: rest) =>
      some ((Json.parse pyNestingDepth (String.ofList (line ++ ['\n']))).getD (.obj []), rest)
  | _ => none

/-- `d.get(key, dflt)` where the hub sends strings. -/
def strParam (params : Json) (key dflt : String) : String :=
  match params.get? key with
  | none => dflt
  | some (.str s) => s
  | some _ => ""

/-- `int(s)` of a decimal text: an optional sign and digits. -/
def pyInt (s : String) : Option ℤ :=
  match s.toList with
  | '-' :: ds => if ds ≠ [] ∧ ds.all Char.isDigit then some (-(Json.digitsValue ds : ℤ)) else none
  | '+' :: ds => if ds ≠ [] ∧ ds.all Char.isDigit then some (Json.digitsValue ds : ℤ) else none
  | ds => if ds ≠ [] ∧ ds.all Char.isDigit then some (Json.digitsValue ds : ℤ) else none

/-- The entries of a dictionary for the environment; the hub sends strings. -/
def envItems (ms : List (String × Json)) : List (String × String) :=
  ms.filterMap fun
    | (k, .str s) => some (k, s)
    | _ => none

/-- Values that count as false. -/
def isFalsy : Json → Bool
  | .null => true
  | .bool b => !b
  | .num n => n.mantissa = 0
  | .str s => s = ""
  | .arr vs => vs.isEmpty
  | .obj ms => ms.isEmpty

/-- The additional environment: a dictionary, or the text of one.  A text that is no JSON is passed
over; something else than a dictionary has no items, and the handler raises. -/
def extraEnv (params : Json) : Option (List (String × String)) :=
  match params.get? "env" with
  | none => some []
  | some (.obj ms) => some (envItems ms)
  | some (.str s) =>
      match Json.parse pyNestingDepth s with
      | none => some []
      | some (.obj ms) => some (envItems ms)
      | some _ => none
  | some v => if isFalsy v then some [] else none

/-- `os.path.dirname`. -/
def dirname (p : String) : String :=
  let head := (p.toList.reverse.dropWhile (· ≠ '/')).reverse
  let stripped := (head.reverse.dropWhile (· = '/')).reverse
  String.ofList (if stripped = [] then head else stripped)

/-- `os.path.join(a, b)` for a relative `b`. -/
def joinPath (a b : String) : String :=
  if a.toList = [] ∨ a.toList.getLast? = some '/' then a ++ b else a ++ "/" ++ b

/-- What the agent finds in the guest: its own environment and the directories. -/
structure Guest where
  environ : Go.GoMap String String
  isDir : String → Bool

/-- A call of `subprocess.Popen`, with the time after which the process is killed. -/
structure TestProcess where
  argv : List String
  env : Go.GoMap String String
  cwd : Option String
  timeout : ℤ
  suiteName : String

/-- What `_handle_start_test` comes to. -/
inductive StartOutcome
  | errored (output : String)
  | raised
  | popen (p : TestProcess)

/-- `run_env.update(extra_env)`. -/
def updateEnv (env : Go.GoMap String String) (vars : List (String × String)) :
    Go.GoMap String String :=
  vars.foldl (fun env kv => env.insert kv.1 kv.2) env

/-- `first:rest`, or `first` alone. -/
def prependPath (first rest : String) : String := if rest = "" then first else first ++ ":" ++ rest

/-- `_handle_start_test` up to the start of the process. -/
def handleStartTest (g : Guest) (params : Json) : StartOutcome :=
  let binary := strParam params "binary" ""
  match pyInt (strParam params "timeout" "120") with
  | none => .raised
  | some timeout =>
      let binaryDir := strParam params "binary_dir" ""
      let loader := strParam params "loader" ""
      let libDir := strParam params "lib_dir" ""
      let suiteName := strParam params "suite_name" binary
      if binary = "" then .errored "binary parameter is required"
      else
        match extraEnv params with
        | none => .raised
        | some vars =>
            let runEnv := updateEnv g.environ vars
            let dir := if binaryDir = "" then dirname binary else binaryDir
            let bundledLib := joinPath dir "lib"
            -- a directory `lib` next to the binary goes in front of the library paths
            let runEnv :=
              if g.isDir bundledLib then
                runEnv.insert "LD_LIBRARY_PATH"
                  (prependPath bundledLib ((runEnv.lookup "LD_LIBRARY_PATH").getD ""))
              else runEnv
            let libDir := if g.isDir bundledLib then prependPath bundledLib libDir else libDir
            .popen
              { argv :=
                  if loader ≠ "" ∧ libDir ≠ "" then [loader, "--library-path", libDir, binary]
                  else [binary]
                env := runEnv
                cwd := if binaryDir = "" then none else some binaryDir
                timeout := timeout
                suiteName := suiteName }

/-- One round of `command_loop`, as far as `start_test` is concerned: the outcome for the next
message if it is such a command. -/
def commandLoop (g : Guest) (stream : List Char) : Option StartOutcome :=
  match recv stream with
  | none => none
  | some (msg, _) =>
      if strParam msg "msg" "" = "command" ∧ strParam msg "cmd" "" = "start_test" then
        some (handleStartTest g ((msg.get? "params").getD (.obj [])))
      else none

/-! ### The text -/

theorem ParamValue.fits_toJson (p : ParamValue) (d : ℕ) : Json.fits (d + 1) p.toJson = true := by
  cases p with
  | text s => simp [ParamValue.toJson, Json.fits]
  | list l =>
      rw [ParamValue.toJson, Json.fits]
      induction l with
      | nil => simp [Json.fitsElements]
      | cons s l ih => simp [Json.fitsElements, Json.fits, ih]
  | env vars =>
      refine Json.fits_ofMap fun m hm => ?_
      obtain ⟨kv, -, rfl⟩ := List.mem_map.1 hm
      simp [Json.fits]

theorem fits_commandMessage (cmd : AgentCommand) (d : ℕ) :
    Json.fits (d + 3) (commandMessage cmd) = true := by
  have hparams : Json.fits (d + 2) (.ofMap (cmd.parameters.map fun kv => (kv.1, kv.2.toJson))) =
      true := by
    refine Json.fits_ofMap fun m hm => ?_
    obtain ⟨kv, -, rfl⟩ := List.mem_map.1 hm
    exact kv.2.fits_toJson d
  refine Json.fits_ofMap fun m hm => ?_
  simp only [List.mem_cons, List.not_mem_nil, or_false] at hm
  obtain rfl | rfl | rfl | rfl := hm
  · simp [Json.fits]
  · simp [Json.fits]
  · simp [Json.fits]
  · exact hparams

/-- **The agent reads the message that the pump wrote**, and nothing of what follows. -/
theorem recv_wireText (cmd : AgentCommand) (rest : List Char) :
    recv (wireText cmd ++ rest) = some (commandMessage cmd, rest) := by
  set text := Json.dumps Json.htmlEscaper (commandMessage cmd) with htext
  have hline : ∀ c ∈ text, (decide (c ≠ '\n')) = true := by
    rintro c hc
    rw [decide_eq_true_eq]
    rintro rfl
    exact Json.newline_notMem_dumps _ _ hc
  have hspan : (wireText cmd ++ rest).span (· ≠ '\n') = (text, '\n' :: rest) := by
    rw [wireText, ← htext, List.append_assoc, List.singleton_append,
      List.span_eq_takeWhile_dropWhile, List.takeWhile_append_of_pos hline,
      List.dropWhile_append_of_pos hline]
    simp
  have hparse : Json.parse pyNestingDepth (String.ofList (text ++ ['\n'])) =
      some (commandMessage cmd) :=
    (Json.reads_dumps Json.htmlEscaper pyNestingDepth _
      (fits_commandMessage cmd 987)).parse_append_eq
      (by simp [Json.Blank, Json.isSpace])
  simp only [recv, hspan, hparse, Option.getD_some]

theorem isDigit_toDigits (n : ℕ) : (Nat.toDigits 10 n).all Char.isDigit = true :=
  List.all_eq_true.2 fun _ hc => Nat.isDigit_of_mem_toDigits (by decide) (by decide) hc

theorem toDigits_eq_cons (n : ℕ) :
    ∃ c cs, Nat.toDigits 10 n = c :: cs ∧ c ≠ '-' ∧ c ≠ '+' := by
  cases hds : Nat.toDigits 10 n with
  | nil => exact absurd hds Nat.toDigits_ne_nil
  | cons c cs =>
      have hc : c.isDigit = true :=
        Nat.isDigit_of_mem_toDigits (b := 10) (n := n) (by decide) (by decide) (by simp [hds])
      refine ⟨c, cs, rfl, ?_, ?_⟩
      · rintro rfl
        exact absurd hc (by decide)
      · rintro rfl
        exact absurd hc (by decide)

/-- `int` reads what `%d` has written. -/
theorem pyInt_toString (n : ℤ) : pyInt (toString n) = some n := by
  have hne (k : ℕ) : Nat.toDigits 10 k ≠ [] := Nat.toDigits_ne_nil
  cases n with
  | ofNat k =>
      have htext : (toString (Int.ofNat k)).toList = Nat.toDigits 10 k := String.toList_ofList
      obtain ⟨c, cs, hcs, hminus, hplus⟩ := toDigits_eq_cons k
      have hdigits := isDigit_toDigits k
      have hvalue := Json.digitsValue_toDigits k
      rw [hcs] at hdigits hvalue
      simp only [pyInt, htext, hcs]
      split
      · next heq => exact absurd (List.cons.inj heq).1 hminus
      · next heq => exact absurd (List.cons.inj heq).1 hplus
      · rw [if_pos ⟨by simp, hdigits⟩, hvalue]
        rfl
  | negSucc k =>
      have htext : (toString (Int.negSucc k)).toList = '-' :: Nat.toDigits 10 (k + 1) := by
        change ("-" ++ String.ofList (Nat.toDigits 10 (k + 1))).toList = _
        have hdigits : (String.ofList (Nat.toDigits 10 (k + 1))).toList = Nat.toDigits 10 (k + 1) :=
          String.toList_ofList
        rw [String.toList_append, hdigits]
        rfl
      simp only [pyInt, htext]
      rw [if_pos ⟨hne _, isDigit_toDigits _⟩, Json.digitsValue_toDigits]
      rfl

/-! ### The process of a step -/

variable {run : TestRun}

theorem parameters_stepCommand (hv : isVishwaSuite run.testSuiteID = false) (device : DeviceEntry)
    (d : WorkflowStep) (attempt : ℕ) :
    ((stepCommand run device d attempt).parameters.map fun kv => (kv.1, kv.2.toJson)) =
    [("binary", .str d.testBinary), ("timeout", .str (toString d.timeoutSec)),
      ("suite_name", .str run.testSuiteID),
      ("env", .obj [("DVF_DEVICE_PATH", Json.str device.deviceNode)])] ++
    (if d.args.isEmpty then [] else [("args", .arr (d.args.map .str))]) := by
  have henv : Json.ofMap [("DVF_DEVICE_PATH", Json.str device.deviceNode)] =
      .obj [("DVF_DEVICE_PATH", Json.str device.deviceNode)] := by
    rw [Json.ofMap, List.mergeSort_singleton]
  simp only [stepCommand, hv, Bool.false_eq_true, if_false, List.append_nil, List.map_append,
    List.map_cons, List.map_nil, ParamValue.toJson, baseEnv, henv]
  split <;> rfl

/-- Looking up a parameter of a step, other than the arguments. -/
theorem get?_stepCommand (hv : isVishwaSuite run.testSuiteID = false) (device : DeviceEntry)
    (d : WorkflowStep) (attempt : ℕ) {key : String} (hkey : key ≠ "args") :
    (Json.ofMap ((stepCommand run device d attempt).parameters.map fun kv =>
      (kv.1, kv.2.toJson))).get? key =
    [("binary", .str d.testBinary), ("timeout", .str (toString d.timeoutSec)),
      ("suite_name", .str run.testSuiteID),
      ("env", .obj [("DVF_DEVICE_PATH", Json.str device.deviceNode)])].lookup key := by
  have hbeq : (key == "args") = false := by simpa using hkey
  rw [parameters_stepCommand hv, Json.get?_ofMap]
  · rw [List.lookup_append]
    split
    · simp
    · simp [List.lookup_cons, hbeq]
  · split
    · simp
    · simp

/-- The library directory that a test may bring along. -/
def bundledLib (d : WorkflowStep) : String := joinPath (dirname d.testBinary) "lib"

/-- The environment of the process of a step. -/
def stepEnv (g : Guest) (device : DeviceEntry) (d : WorkflowStep) : Go.GoMap String String :=
  let env := g.environ.insert "DVF_DEVICE_PATH" device.deviceNode
  if g.isDir (bundledLib d) then
    env.insert "LD_LIBRARY_PATH"
      (prependPath (bundledLib d) ((env.lookup "LD_LIBRARY_PATH").getD ""))
  else env

theorem lookup_stepEnv (g : Guest) (device : DeviceEntry) (d : WorkflowStep) :
    (stepEnv g device d).lookup "DVF_DEVICE_PATH" = some device.deviceNode := by
  simp only [stepEnv]
  split
  · rw [AList.lookup_insert_ne (by decide), AList.lookup_insert]
  · rw [AList.lookup_insert]

/-- **What the agent makes of the parameters of a step**: the binary alone, with the environment and
the time limit of the step. -/
theorem handleStartTest_stepCommand (hv : isVishwaSuite run.testSuiteID = false) (g : Guest)
    (device : DeviceEntry) (d : WorkflowStep) (attempt : ℕ) :
    handleStartTest g (.ofMap ((stepCommand run device d attempt).parameters.map fun kv =>
      (kv.1, kv.2.toJson))) =
    if d.testBinary = "" then .errored "binary parameter is required"
    else .popen
      { argv := [d.testBinary]
        env := stepEnv g device d
        cwd := none
        timeout := d.timeoutSec
        suiteName := run.testSuiteID } := by
  have hget (key : String) (hkey : key ≠ "args") := get?_stepCommand hv device d attempt hkey
  simp only [handleStartTest, strParam, extraEnv, hget "binary" (by decide),
    hget "timeout" (by decide), hget "binary_dir" (by decide),
    hget "loader" (by decide), hget "lib_dir" (by decide),
    hget "suite_name" (by decide), hget "env" (by decide)]
  have hint : pyInt d.timeoutSec.repr = some d.timeoutSec := pyInt_toString d.timeoutSec
  simp [List.lookup_cons, hint, envItems, updateEnv, stepEnv, bundledLib]

theorem commandLoop_stepCommand (g : Guest) (device : DeviceEntry) (d : WorkflowStep)
    (attempt : ℕ) :
    commandLoop g (wireText (stepCommand run device d attempt)) =
      some (handleStartTest g (.ofMap ((stepCommand run device d attempt).parameters.map fun kv =>
        (kv.1, kv.2.toJson)))) := by
  have hrecv := recv_wireText (stepCommand run device d attempt) []
  have hget (key : String) := @Json.get?_ofMap
    [("msg", .str "command"), ("command_id", .str (stepCommand run device d attempt).id),
      ("cmd", .str (stepCommand run device d attempt).type),
      ("params", .ofMap ((stepCommand run device d attempt).parameters.map fun kv =>
        (kv.1, kv.2.toJson)))] (by simp) key
  rw [List.append_nil] at hrecv
  simp only [commandLoop, hrecv, strParam, commandMessage, hget]
  rfl

/-- The process has the binary and the arguments of the step, its device node and its time limit. -/
def StepArrives (device : DeviceEntry) (d : WorkflowStep) (p : TestProcess) : Prop :=
  p.argv = d.testBinary :: d.args ∧ p.env.lookup "DVF_DEVICE_PATH" = some device.deviceNode ∧
    p.timeout = d.timeoutSec

/-- **The agent starts the process that the step asks for exactly when the step has a binary and no
arguments**, for any run of an ordinary suite and whatever there is in the guest. -/
theorem step_arrives_iff (hv : isVishwaSuite run.testSuiteID = false) (g : Guest)
    (device : DeviceEntry) (d : WorkflowStep) (attempt : ℕ) :
    (∃ p, commandLoop g (wireText (stepCommand run device d attempt)) = some (.popen p) ∧
      StepArrives device d p) ↔ d.testBinary ≠ "" ∧ d.args = [] := by
  rw [commandLoop_stepCommand, handleStartTest_stepCommand hv]
  constructor
  · rintro ⟨p, hp, hargv, -⟩
    split at hp
    · cases hp
    · next hbinary =>
        cases hp
        exact ⟨hbinary, (List.cons.inj hargv).2.symm⟩
  · rintro ⟨hbinary, hargs⟩
    rw [if_neg hbinary]
    refine ⟨_, rfl, ?_, lookup_stepEnv g device d, rfl⟩
    rw [hargs]

/-- A run of the suite `regression`. -/
def regressionRun : TestRun :=
  { id := "r1", deviceID := "gpgpu", testSuiteID := "regression", status := .running }

def emptyGuest : Guest := ⟨∅, fun _ => false⟩

/-- A device and a step without arguments. -/
theorem step_arrives_without_args :
    isVishwaSuite regressionRun.testSuiteID = false ∧
    ∃ p, commandLoop emptyGuest (wireText (stepCommand regressionRun
        { id := "gpgpu", deviceNode := "/dev/gp_gpu" }
        { id := "rw", testBinary := "/mnt/share/rw", timeoutSec := 60 } 0)) = some (.popen p) ∧
      StepArrives { id := "gpgpu", deviceNode := "/dev/gp_gpu" }
        { id := "rw", testBinary := "/mnt/share/rw", timeoutSec := 60 } p :=
  ⟨by decide, (step_arrives_iff (by decide) emptyGuest _ _ 0).2 ⟨by decide, rfl⟩⟩

/-- A step with an argument: the process is started without it. -/
theorem step_argument_dropped :
    ∃ p, commandLoop emptyGuest (wireText (stepCommand regressionRun
        { id := "gpgpu", deviceNode := "/dev/gp_gpu" }
        { id := "rw", testBinary := "/mnt/share/rw", args := ["--loops=10"] } 0)) =
          some (.popen p) ∧
      p.argv = ["/mnt/share/rw"] ∧
      ¬ StepArrives { id := "gpgpu", deviceNode := "/dev/gp_gpu" }
        { id := "rw", testBinary := "/mnt/share/rw", args := ["--loops=10"] } p := by
  rw [commandLoop_stepCommand, handleStartTest_stepCommand (by decide), if_neg (by decide)]
  refine ⟨_, rfl, rfl, fun h => ?_⟩
  exact absurd h.1 (by decide)

end Dvf
