/-
**The agent's command loop** (`python-agent/agent/__main__.py`, `command_loop`, `execute` and the
handlers).

The agent takes one message after the other, executes the commands among them and reports a result
for each.  Whatever a handler raises is caught in `execute` and reported as `errored`, so that no
exception of a handler is lost.  Two things are outside of that: the lines that `command_loop` and
`execute` print around a command, where an exception ends the loop, and waiting.  Only the test
itself is waited for with a limit; `insmod`, `rmmod`, `ls` and the others are waited for until they
end, and so is a test that was killed.

The handlers are programs over the calls that may fail or never come back.  The world that answers
the calls is arbitrary: it may raise an exception at any call, or give no answer at all.  The
messages are dictionaries with any members; the parameters may be anything.  Log messages, which the
agent sends on the way, are left out, and writing to the port succeeds.

Main definitions:

* `Dvf.GuestAgent.AgentCall`, `Dvf.GuestAgent.AgentM` — calls, and programs that may raise;
* `Dvf.GuestAgent.handle`, `Dvf.GuestAgent.execute`, `Dvf.GuestAgent.commandLoop` — the code;
* `Dvf.GuestAgent.AnsweredOnce` — every command up to the first `shutdown` has one result, in order;
* `Dvf.GuestAgent.Unhindered` — the worlds in which that holds.

Main results:

* `Dvf.GuestAgent.answeredOnce_iff` — **commands are answered exactly in those worlds**;
* `Dvf.GuestAgent.handle_stepCommand` — for the command of a step, the handler starts the process
  that `Dvf/StepWire.lean` says.
-/

import Dvf.AgentVerdict
import Dvf.Prog
import Dvf.StepWire

set_option autoImplicit false

namespace Dvf

namespace GuestAgent

open PyText
open LocalRunner (PyNumbers jsonZero)

/-! ### Calls and exceptions -/

/-- An exception; of `OSError` the agent takes special notice. -/
inductive PyError
  | osError (text : String)
  | other (text : String)
  deriving DecidableEq, Repr

/-- `str(e)`. -/
def PyError.text : PyError → String
  | .osError text => text
  | .other text => text

/-- The parts of Python that the agent uses: `str` and `int` of a value, `json.dumps`, and the
exceptions for a value that has no `get` or is no path, of `json.loads` and of the parser. -/
structure AgentPython extends Python where
  nums : PyNumbers
  str : Json → String
  int : Json → Except PyError ℤ
  dumps : Json → String
  wrongType : Json → PyError
  loadsError : PyError
  parserError : PyError

/-- The calls of the agent to its surroundings. -/
inductive AgentCall
  | print (line : String)
  | pathExists (path : Json)
  | run (argv : List Json)
  | sleep (seconds : ℕ)
  | environ
  | isdir (path : String)
  | chmod (path : Json)
  | popen (argv : List Json) (cwd : Option Json) (env : Go.GoMap String String)
  | wait (timeout : ℤ)
  | kill
  | waitKilled
  | drained
  | elapsed
  | duration

/-- The answers.  `_run` gives the output and the exit code; waiting with a timeout gives the exit
code unless the time is over; `drained` gives the lines that the two threads have read. -/
def AgentCall.Resp : AgentCall → Type
  | .print _ => Except PyError Unit
  | .pathExists _ => Except PyError Bool
  | .run _ => Except PyError (String × ℤ)
  | .sleep _ => Unit
  | .environ => Go.GoMap String String
  | .isdir _ => Bool
  | .chmod _ => Except PyError Unit
  | .popen .. => Except PyError Unit
  | .wait _ => Except PyError (Option ℤ)
  | .kill => Except PyError Unit
  | .waitKilled => Unit
  | .drained => List (List Char) × List (List Char)
  | .elapsed => Json
  | .duration => ℤ

abbrev AgentProg := Prog AgentCall AgentCall.Resp

/-- Programs that may raise an exception. -/
abbrev AgentM := ExceptT PyError AgentProg

def agentCall (c : AgentCall) : AgentProg c.Resp := Prog.perform c

def sys (c : AgentCall) : AgentM c.Resp := ExceptT.lift (agentCall c)

/-- `print`. -/
def printLine (line : String) : AgentM Unit := ExceptT.mk (agentCall (.print line))

/-- `os.path.exists`. -/
def pathExists (path : Json) : AgentM Bool := ExceptT.mk (agentCall (.pathExists path))

/-- `_run`. -/
def runCommand (argv : List Json) : AgentM (String × ℤ) := ExceptT.mk (agentCall (.run argv))

/-- `params.get(key, dflt)`. -/
def getParam (py : AgentPython) (params : Json) (key : String) (dflt : Json) : AgentM Json :=
  (pyGet params key dflt).elim (throw (py.wrongType params)) pure

/-! ### The handlers -/

/-- `_handle_load_driver`. -/
def handleLoadDriver (py : AgentPython) (params : Json) : AgentM (String × CommandStatus) := do
  let modulePath ← getParam py params "module_path" (.str "")
  let koPath ← getParam py params "ko_path" modulePath
  if isFalsy koPath then return ("ko_path parameter is required", .errored)
  else if (← pathExists koPath) = false then
    return ("ko file not found: " ++ py.str koPath, .errored)
  else
    let (out, rc) ← runCommand [.str "insmod", koPath]
    if rc ≠ 0 then
      let (dmesg, _) ← runCommand [.str "sh", .str "-c", .str "dmesg | tail -5"]
      return ("insmod failed (rc=" ++ toString rc ++ "): " ++ out ++ "\ndmesg: " ++ dmesg, .failed)
    else return (if out = "" then "driver loaded" else out, .passed)

/-- The command `unload_driver`. -/
def handleUnloadDriver (py : AgentPython) (params : Json) : AgentM (String × CommandStatus) := do
  let moduleName ← getParam py params "module" (.str "")
  let (out, rc) ← runCommand [.str "rmmod", moduleName]
  return (out, if rc = 0 then .passed else .failed)

/-- `_handle_verify_device`. -/
def handleVerifyDevice (py : AgentPython) (params : Json) :
    AgentM (String × CommandStatus × String) := do
  let deviceNode ← getParam py params "device_node" (.str "/dev/gp_gpu")
  let _ ← sys (.sleep 1)
  let (out, rc) ← runCommand [.str "ls", .str "-la", deviceNode]
  if rc = 0 then return (out, .passed, "")
  else
    let (dmesg, _) ← runCommand [.str "sh", .str "-c", .str "dmesg | tail -20"]
    let (lspci, _) ← runCommand [.str "sh", .str "-c",
      .str ("lspci -nn 2>/dev/null || cat /proc/bus/pci/devices 2>/dev/null || " ++
        "echo 'no lspci'")]
    return ("device node " ++ py.str deviceNode ++ " not found (rc=" ++ toString rc ++ "): " ++ out,
      .failed, "dmesg:\n" ++ dmesg ++ "\n\nlspci:\n" ++ lspci)

/-- The additional environment of a test: a dictionary, or the text of one.  A text that is no JSON
is passed over. -/
def decodeEnv (py : AgentPython) (envRaw : Json) : AgentM Json :=
  if isFalsy envRaw then pure (.obj [])
  else
    match envRaw with
    | .str s =>
        (py.loads s.toList).elim pure (pure (.obj [])) (throw py.loadsError) (throw py.loadsError)
    | v => pure v

/-- `v.items()`. -/
def dictItems (py : AgentPython) : Json → AgentM (List (String × Json))
  | .obj ms => pure ms
  | v => throw (py.wrongType v)

def pathText (py : AgentPython) : Json → AgentM String
  | .str s => pure s
  | v => throw (py.wrongType v)

/-- A value in a text: a text as it is, and `str` of another one. -/
def AgentPython.text (py : AgentPython) : Json → String
  | .str s => s
  | v => py.str v

/-- The test process from its start to its end.  What is raised on the way is caught, and a process
that was killed after the timeout is waited for. -/
def runProcess (argv : List Json) (cwd : Option Json) (env : Go.GoMap String String)
    (timeout : ℤ) : AgentProg ProcessEnd := do
  let started ← agentCall (.popen argv cwd env)
  match started with
  | .error e => return .raised e.text.toList
  | .ok _ =>
      let waited ← agentCall (.wait timeout)
      match waited with
      | .error e => return .raised e.text.toList
      | .ok (some returncode) => return .exited returncode
      | .ok none =>
          let killed ← agentCall .kill
          match killed with
          | .error e => return .raised e.text.toList
          | .ok _ =>
              let _ ← agentCall .waitKilled
              return .timedOut

/-- `os.chmod(binary, 0o755)`, where an `OSError` is passed over. -/
def makeExecutable (binary : Json) : AgentM Unit := do
  let done ← sys (.chmod binary)
  match done with
  | .ok _ => pure ()
  | .error (.osError _) => pure ()
  | .error e => throw e

/-- `_handle_start_test` from the end of the process on. -/
def reportTest (py : AgentPython) (p : TestProcess) (suiteName : Json) (ended : ProcessEnd) :
    AgentM (String × CommandStatus × String) := do
  let (outputLines, logsLines) ← sys .drained
  let elapsed ← sys .elapsed
  match finishStartTest py.toPython py.nums p elapsed ended outputLines logsLines with
  | none => throw py.parserError
  | some (parsed, status, rawLogs) =>
      let output := py.dumps (.obj [("suite", suiteName), ("results", parsed.results),
        ("summary", parsed.summary)])
      if ended.status = .passed ∧ status = .failed then
        printLine ("[agent] Status reconciled: exit code was 0 but parser detected " ++
          py.text ((parsed.summary.get? "failed").getD jsonZero) ++ " failure(s) / " ++
          py.text ((parsed.summary.get? "passed").getD jsonZero) ++ " pass(es) — marking FAILED")
      return (output, status, String.ofList rawLogs)

/-- `_handle_start_test`. -/
def handleStartTest (py : AgentPython) (params : Json) :
    AgentM (String × CommandStatus × String) := do
  let binary ← getParam py params "binary" (.str "")
  let timeoutParam ← getParam py params "timeout" (.str "120")
  let timeout ← ExceptT.mk (pure (py.int timeoutParam))
  let binaryDir ← getParam py params "binary_dir" (.str "")
  let loader ← getParam py params "loader" (.str "")
  let libDir ← getParam py params "lib_dir" (.str "")
  let suiteName ← getParam py params "suite_name" binary
  let envRaw ← getParam py params "env" (.str "")
  let extraEnv ← decodeEnv py envRaw
  if isFalsy binary then return ("binary parameter is required", .errored, "")
  else
    let environ ← sys .environ
    let vars ← dictItems py extraEnv
    let runEnv := updateEnv environ (vars.map fun kv => (kv.1, py.text kv.2))
    let dir ← if isFalsy binaryDir then dirname <$> pathText py binary else pathText py binaryDir
    let bundledLib := joinPath dir "lib"
    let bundled : Bool ← sys (.isdir bundledLib)
    -- a directory `lib` next to the binary goes in front of the library paths
    if bundled then
      printLine ("[agent] Found bundled lib/ at " ++ bundledLib ++
        " — prepending to library path")
    let runEnv :=
      if bundled then
        runEnv.insert "LD_LIBRARY_PATH"
          (prependPath bundledLib ((runEnv.lookup "LD_LIBRARY_PATH").getD ""))
      else runEnv
    let libDir :=
      if bundled then
        .str (if isFalsy libDir then bundledLib else bundledLib ++ ":" ++ py.text libDir)
      else libDir
    makeExecutable binary
    let argv :=
      if isFalsy loader || isFalsy libDir then [binary]
      else [loader, .str "--library-path", libDir, binary]
    let cwd := if isFalsy binaryDir then none else some binaryDir
    let ended ← ExceptT.lift (runProcess argv cwd runEnv timeout)
    let p : TestProcess :=
      { argv := argv.map py.text
        env := runEnv
        cwd := cwd.map py.text
        timeout := timeout
        suiteName := py.text suiteName }
    reportTest py p suiteName ended

/-! ### The loop -/

/-- A message: the members of a dictionary. -/
abbrev Message := List (String × Json)

/-- `msg.get(key, dflt)`. -/
def Message.get (m : Message) (key : String) (dflt : Json) : Json :=
  ((Json.obj m).get? key).getD dflt

def Message.isCommand (m : Message) : Bool := m.get "msg" .null = .str "command"

def Message.isShutdown (m : Message) : Bool := m.get "cmd" (.str "") = .str "shutdown"

def Message.commandID (m : Message) : Json := m.get "command_id" (.str "")

/-- The message that reports a result. -/
structure AgentResult where
  commandID : Json
  status : CommandStatus
  output : String
  logs : String
  durationMs : ℤ
  deriving DecidableEq

/-- The dispatch of `execute`: the output, the status and the logs. -/
def handle (py : AgentPython) (m : Message) : AgentM (String × CommandStatus × String) :=
  let cmd := m.get "cmd" (.str "")
  let params := m.get "params" (.obj [])
  if cmd = .str "load_driver" then
    (fun r => (r.1, r.2, "")) <$> handleLoadDriver py params
  else if cmd = .str "unload_driver" then
    (fun r => (r.1, r.2, "")) <$> handleUnloadDriver py params
  else if cmd = .str "verify_device" then handleVerifyDevice py params
  else if cmd = .str "start_test" then handleStartTest py params
  else if cmd = .str "shutdown" then pure ("shutting down", .passed, "")
  else pure ("unknown command type: " ++ py.text cmd, .errored, "")

/-- The result of a command: what the handler returned, or the exception that it raised. -/
def resultOf (m : Message) (durationMs : ℤ) :
    Except PyError (String × CommandStatus × String) → AgentResult
  | .ok (output, status, logs) => ⟨m.commandID, status, output, logs, durationMs⟩
  | .error e => ⟨m.commandID, .errored, e.text, "", durationMs⟩

/-- **`execute`** up to the message with the result. -/
def execute (py : AgentPython) (m : Message) : AgentProg AgentResult := do
  let outcome ← (handle py m).run
  let durationMs ← agentCall .duration
  return resultOf m durationMs outcome

/-- The line that is printed before a command. -/
def gotLine (py : AgentPython) (m : Message) : String :=
  "[agent] Got command: " ++ py.text (m.get "cmd" .null) ++ " (" ++
    py.text (m.get "command_id" .null) ++ ")"

/-- The word for a status. -/
def statusText : CommandStatus → String
  | .passed => "passed"
  | .failed => "failed"
  | .errored => "errored"

/-- The line that is printed after a command. -/
def reportedLine (py : AgentPython) (r : AgentResult) : String :=
  "[agent] Reported: " ++ py.text r.commandID ++ " -> " ++ statusText r.status ++ " (" ++
    toString r.durationMs ++ "ms)"

section Loop

variable {σ : Type} (py : AgentPython) (answer : σ → (c : AgentCall) → Option (c.Resp × σ))

/-- Printing a line: the world after it, unless the console raises an exception or takes forever. -/
def console (line : String) (s : σ) : Option σ :=
  (answer s (.print line)).bind fun x => (Except.toOption x.1).map fun _ => x.2

/-- **`command_loop`** on the messages that come until the host closes the port: the results that it
sends.  An exception while a line is printed ends the loop, and a call that is never answered ends
everything. -/
def commandLoop : List Message → σ → List AgentResult
  | [], _ => []
  | m :: ms, s =>
      if m.isCommand then
        (console answer (gotLine py m) s).elim [] fun s₁ =>
          ((execute py m).eval answer s₁).elim [] fun x =>
            x.1 ::
              if m.isShutdown then []
              else (console answer (reportedLine py x.1) x.2).elim [] fun s₃ => commandLoop ms s₃
      else commandLoop ms s

/-! ### Answers -/

/-- The commands that are to be answered: those up to the first `shutdown`. -/
def answerable : List Message → List Message
  | [] => []
  | m :: ms =>
      if m.isCommand then m :: if m.isShutdown then [] else answerable ms else answerable ms

/-- **Every command is answered once**: the results are those of the commands up to the first
`shutdown`, in order, each with the id of its command and one of the three statuses. -/
def AnsweredOnce (msgs : List Message) (s : σ) : Prop :=
  List.Forall₂ (fun m r => r.commandID = m.commandID ∧ r.status ∈ [.passed, .failed, .errored])
    (answerable msgs) (commandLoop py answer msgs s)

/-- **Nothing stands in the way** of the commands: for each of them the console takes the line
before it and every call of `execute` is answered; and for each but the last the console takes the
line after it. -/
def Unhindered : List Message → σ → Prop
  | [], _ => True
  | m :: ms, s =>
      ∃ s₁ r s₂, console answer (gotLine py m) s = some s₁ ∧
        (execute py m).eval answer s₁ = some (r, s₂) ∧
        (ms ≠ [] → ∃ s₃, console answer (reportedLine py r) s₂ = some s₃ ∧ Unhindered ms s₃)

variable {py answer}

theorem commandLoop_eq_nil {msgs : List Message} (h : answerable msgs = []) (s : σ) :
    commandLoop py answer msgs s = [] := by
  induction msgs generalizing s with
  | nil => rfl
  | cons m ms ih =>
      rw [answerable] at h
      by_cases hm : m.isCommand = true
      · rw [if_pos hm] at h
        cases h
      · rw [if_neg hm] at h
        rw [commandLoop, if_neg hm]
        exact ih h s

/-- **A result carries the id of its command.** -/
theorem commandID_of_execute {m : Message} {s s' : σ} {r : AgentResult}
    (h : (execute py m).eval answer s = some (r, s')) : r.commandID = m.commandID := by
  have hresult : ∀ d x, (resultOf m d x).commandID = m.commandID := by
    rintro d (e | ⟨output, status, logs⟩)
    · rfl
    · rfl
  rw [execute, Prog.eval_bind, Option.bind_eq_some_iff] at h
  obtain ⟨⟨outcome, s₁⟩, _, h⟩ := h
  rw [Prog.eval_bind, Option.bind_eq_some_iff] at h
  obtain ⟨⟨d, s₂⟩, _, h⟩ := h
  cases h
  exact hresult d outcome

theorem mem_statuses (status : CommandStatus) :
    status ∈ [CommandStatus.passed, .failed, .errored] := by
  cases status <;> decide

/-- **One command**: its answer, and those of the rest. -/
theorem answeredOnce_command {m : Message} {ms : List Message} (hm : m.isCommand = true) {s : σ} :
    AnsweredOnce py answer (m :: ms) s ↔
      ∃ s₁ r s₂, console answer (gotLine py m) s = some s₁ ∧
        (execute py m).eval answer s₁ = some (r, s₂) ∧
        (m.isShutdown = false → answerable ms ≠ [] → ∃ s₃,
          console answer (reportedLine py r) s₂ = some s₃ ∧ AnsweredOnce py answer ms s₃) := by
  rw [AnsweredOnce, answerable, commandLoop, if_pos hm, if_pos hm]
  constructor
  · intro h
    cases hgot : console answer (gotLine py m) s with
    | none =>
        rw [hgot] at h
        cases h
    | some s₁ =>
        rw [hgot, Option.elim_some] at h
        cases hexec : (execute py m).eval answer s₁ with
        | none =>
            rw [hexec] at h
            cases h
        | some x =>
            rw [hexec, Option.elim_some] at h
            refine ⟨s₁, x.1, x.2, rfl, hexec, fun hdown hne => ?_⟩
            have hrest := (List.forall₂_cons.1 h).2
            simp only [hdown, Bool.false_eq_true, if_false] at hrest
            cases hrep : console answer (reportedLine py x.1) x.2 with
            | none =>
                rw [hrep] at hrest
                exact absurd (List.forall₂_nil_right_iff.1 hrest) hne
            | some s₃ =>
                rw [hrep] at hrest
                exact ⟨s₃, rfl, hrest⟩
  · rintro ⟨s₁, r, s₂, hgot, hexec, hrest⟩
    rw [hgot, Option.elim_some, hexec, Option.elim_some]
    refine List.Forall₂.cons ⟨commandID_of_execute hexec, mem_statuses _⟩ ?_
    cases hdown : m.isShutdown with
    | true => exact .nil
    | false =>
        simp only [Bool.false_eq_true, if_false]
        by_cases hne : answerable ms = []
        · -- nothing is left to answer, so the line after the command does not matter
          rw [hne, List.forall₂_nil_left_iff]
          cases console answer (reportedLine py r) s₂ with
          | none => rfl
          | some s₃ => exact commandLoop_eq_nil hne s₃
        · obtain ⟨s₃, hrep, hs₃⟩ := hrest hdown hne
          rw [hrep]
          exact hs₃

/-- **Every command is answered once** exactly when nothing stands in the way of those that are to
be answered. -/
theorem answeredOnce_iff (msgs : List Message) (s : σ) :
    AnsweredOnce py answer msgs s ↔ Unhindered py answer (answerable msgs) s := by
  induction msgs generalizing s with
  | nil => exact iff_of_true .nil trivial
  | cons m ms ih =>
      by_cases hm : m.isCommand = true
      · rw [answeredOnce_command hm, answerable, if_pos hm, Unhindered]
        cases hdown : m.isShutdown with
        | true => simp
        | false =>
            simp only [true_imp_iff, Bool.false_eq_true, if_false, ih]
      · have hskip : AnsweredOnce py answer (m :: ms) s ↔ AnsweredOnce py answer ms s := by
          rw [AnsweredOnce, AnsweredOnce, answerable, commandLoop, if_neg hm, if_neg hm]
        rw [hskip, answerable, if_neg hm]
        exact ih s

end Loop

/-! ### A step on the wire -/

section Wire

variable {σ : Type} {py : AgentPython} {answer : σ → (c : AgentCall) → Option (c.Resp × σ)}
  {g : Guest}

/-- The world is the guest of `Dvf/StepWire.lean`: it has its environment and its directories, and
lines can be printed and modes changed. -/
structure AnswersAs (g : Guest) (answer : σ → (c : AgentCall) → Option (c.Resp × σ)) : Prop where
  environ : ∀ s, answer s .environ = some (g.environ, s)
  isdir : ∀ s path, answer s (.isdir path) = some (g.isDir path, s)
  print : ∀ s line, answer s (.print line) = some (.ok (), s)
  chmod : ∀ s path, answer s (.chmod path) = some (.ok (), s)

theorem eval_bind_ok {α β : Type} {m : AgentM α} {a : α} {s s' : σ}
    (h : m.run.eval answer s = some (.ok a, s')) (f : α → AgentM β) :
    (m >>= f).run.eval answer s = (f a).run.eval answer s' := by
  change (m.run >>= ExceptT.bindCont f).eval answer s = _
  rw [Prog.eval_bind, h]
  rfl

theorem eval_sys {c : AgentCall} {r : c.Resp} {s s' : σ} (h : answer s c = some (r, s')) :
    (sys c).run.eval answer s = some (.ok r, s') := by
  change (Prog.perform c >>= fun a => pure (Except.ok a)).eval answer s = _
  rw [Prog.eval_bind, Prog.eval_perform, h]
  rfl

/-- The handler of the loop starts the process of a step, and reports on it. -/
theorem handleStartTest_eval {params : Json} (hobj : isObject params = true) {run : TestRun}
    {device : DeviceEntry} {d : WorkflowStep}
    (hget : ∀ key, key ≠ "args" → params.get? key = [("binary", .str d.testBinary),
      ("timeout", .str (toString d.timeoutSec)), ("suite_name", .str run.testSuiteID),
      ("env", .obj [("DVF_DEVICE_PATH", Json.str device.deviceNode)])].lookup key)
    (hint : py.int (.str (toString d.timeoutSec)) = .ok d.timeoutSec)
    (hanswer : AnswersAs g answer) (hbinary : d.testBinary ≠ "") (s : σ) :
    (handleStartTest py params).run.eval answer s =
      (ExceptT.lift (runProcess [.str d.testBinary] none (stepEnv g device d) d.timeoutSec) >>=
        reportTest py ⟨[d.testBinary], stepEnv g device d, none, d.timeoutSec, run.testSuiteID⟩
          (.str run.testSuiteID)).run.eval answer s := by
  have hparam {key : String} (hkey : key ≠ "args") (dflt : Json) :
      (getParam py params key dflt).run.eval answer s = some (.ok (([("binary", .str d.testBinary),
        ("timeout", .str (toString d.timeoutSec)), ("suite_name", .str run.testSuiteID),
        ("env", .obj [("DVF_DEVICE_PATH", Json.str device.deviceNode)])].lookup key).getD dflt),
          s) := by
    rw [getParam, pyGet_eq, if_pos hobj, hget key hkey]
    rfl
  have htimeout : (ExceptT.mk (pure (py.int (.str (toString d.timeoutSec)))) :
      AgentM ℤ).run.eval answer s = some (.ok d.timeoutSec, s) := by
    rw [hint]
    rfl
  have hexec : (makeExecutable (.str d.testBinary)).run.eval answer s = some (.ok (), s) := by
    rw [makeExecutable, eval_bind_ok (eval_sys (hanswer.chmod s _))]
    rfl
  have hprint (line : String) : (printLine line).run.eval answer s = some (.ok (), s) :=
    (Prog.eval_perform answer (.print line) s).trans (hanswer.print s line)
  unfold handleStartTest
  rw [eval_bind_ok (hparam (by decide) _), eval_bind_ok (hparam (by decide) _)]
  refine (eval_bind_ok htimeout _).trans ?_
  rw [eval_bind_ok (hparam (by decide) _), eval_bind_ok (hparam (by decide) _),
    eval_bind_ok (hparam (by decide) _), eval_bind_ok (hparam (by decide) _),
    eval_bind_ok (hparam (by decide) _)]
  have hdecode : (decodeEnv py (.obj [("DVF_DEVICE_PATH", .str device.deviceNode)])).run.eval
      answer s = some (.ok (.obj [("DVF_DEVICE_PATH", .str device.deviceNode)]), s) := rfl
  have hitems : (dictItems py (.obj [("DVF_DEVICE_PATH", .str device.deviceNode)])).run.eval
      answer s = some (.ok [("DVF_DEVICE_PATH", .str device.deviceNode)], s) := rfl
  have hdir : (dirname <$> pathText py (.str d.testBinary)).run.eval answer s =
      some (.ok (dirname d.testBinary), s) := rfl
  refine (eval_bind_ok hdecode _).trans ?_
  rw [if_neg (by simpa [isFalsy] using hbinary), eval_bind_ok (eval_sys (hanswer.environ s)),
    eval_bind_ok hitems]
  refine (eval_bind_ok hdir _).trans ?_
  refine (eval_bind_ok (eval_sys (hanswer.isdir s _)) _).trans ?_
  rw [stepEnv, bundledLib]
  cases g.isDir (joinPath (dirname d.testBinary) "lib") with
  | true =>
      rw [if_pos rfl, eval_bind_ok (hprint _)]
      exact eval_bind_ok hexec _
  | false =>
      rw [if_neg Bool.false_ne_true]
      exact eval_bind_ok hexec _

/-- **The two models of the agent agree on a step**: what the command loop of `Dvf/StepWire.lean`
makes of the line is a process; and the handler of the loop here, on the message of that line,
starts this process and reports on it. -/
theorem handle_stepCommand {run : TestRun} (hv : isVishwaSuite run.testSuiteID = false)
    (device : DeviceEntry) {d : WorkflowStep} (hbinary : d.testBinary ≠ "") (attempt : ℕ)
    (hint : py.int (.str (toString d.timeoutSec)) = .ok d.timeoutSec)
    (hanswer : AnswersAs g answer) :
    ∃ m p, recv (wireText (stepCommand run device d attempt)) = some (.obj m, []) ∧
      Dvf.commandLoop g (wireText (stepCommand run device d attempt)) = some (.popen p) ∧
      Message.isCommand m = true ∧ ∀ s, (handle py m).run.eval answer s =
        (ExceptT.lift (runProcess (p.argv.map .str) (p.cwd.map .str) p.env p.timeout) >>=
          reportTest py p (.str p.suiteName)).run.eval answer s := by
  have hrecv := recv_wireText (stepCommand run device d attempt) []
  have hget (key : String) (dflt : Json) := congrArg (Option.getD · dflt) (@Json.get?_ofMap
    [("msg", .str "command"), ("command_id", .str (stepCommand run device d attempt).id),
      ("cmd", .str (stepCommand run device d attempt).type),
      ("params", .ofMap ((stepCommand run device d attempt).parameters.map fun kv =>
        (kv.1, kv.2.toJson)))] (by simp) key)
  rw [List.append_nil] at hrecv
  refine ⟨_, _, hrecv, (commandLoop_stepCommand g device d attempt).trans
    (congrArg some ((handleStartTest_stepCommand hv g device d attempt).trans
      (if_neg hbinary))), ?_, fun s => ?_⟩
  · exact decide_eq_true (hget "msg" .null)
  · have hhandle : ∀ {m : Message} {params : Json}, m.get "cmd" (.str "") = .str "start_test" →
        m.get "params" (.obj []) = params → handle py m = handleStartTest py params := by
      rintro m params hcmd rfl
      rw [handle, hcmd]
      rfl
    rw [hhandle (hget "cmd" _) (hget "params" _)]
    exact handleStartTest_eval rfl (fun key hkey => get?_stepCommand hv device d attempt hkey) hint
      hanswer hbinary s

end Wire

/-! ### Worlds -/

/-- `int` of a decimal text, as the hub sends it. -/
def intOfText : Json → Except PyError ℤ
  | .str s => (pyInt s).elim (.error (.other "invalid literal for int()")) .ok
  | _ => .error (.other "int() argument must be a string")

/-- A Python whose conversions are those of the texts that the hub sends. -/
def hubPython : AgentPython where
  loads := jsonLoads
  upper := id
  lower := id
  nums := agentCounts.toPyNumbers
  str v := String.ofList (Json.dumps Json.asciiEscaper v)
  int := intOfText
  dumps v := String.ofList (Json.dumps Json.asciiEscaper v)
  wrongType _ := .other "object has no attribute 'get'"
  loadsError := .other "Exceeds the limit for integer string conversion"
  parserError := .other "object has no attribute 'get'"

/-- Everything goes well. -/
def goodAnswer : (c : AgentCall) → c.Resp
  | .print _ => .ok ()
  | .pathExists _ => .ok true
  | .run _ => .ok ("", 0)
  | .sleep _ => ()
  | .environ => (∅ : Go.GoMap String String)
  | .isdir _ => false
  | .chmod _ => .ok ()
  | .popen .. => .ok ()
  | .wait _ => .ok (some 0)
  | .kill => .ok ()
  | .waitKilled => ()
  | .drained => ([], [])
  | .elapsed => jsonZero
  | .duration => (0 : ℤ)

/-- A world in which a program does not end. -/
def neverEnds (program : String) (_ : Unit) (c : AgentCall) : Option (c.Resp × Unit) :=
  match c with
  | .run argv => if argv.head? = some (.str program) then none else some (.ok ("", 0), ())
  | c => some (goodAnswer c, ())

/-- A world in which the console raises an exception. -/
def brokenConsole (_ : Unit) (c : AgentCall) : Option (c.Resp × Unit) :=
  match c with
  | .print _ => some (.error (.other "surrogates not allowed"), ())
  | c => some (goodAnswer c, ())

def commandMsg (id cmd : String) (params : Json) : Message :=
  [("msg", .str "command"), ("command_id", .str id), ("cmd", .str cmd), ("params", params)]

def unloadThenVerify : List Message :=
  [commandMsg "c-1" "unload_driver" (.obj [("module", .str "gp_gpu")]),
    commandMsg "c-2" "verify_device" .null]

-- parameters that are no dictionary are reported, and so is a command that is not known
example : (commandLoop hubPython (neverEnds "insmod")
    (unloadThenVerify ++ [commandMsg "c-3" "reboot" .null, commandMsg "c-4" "shutdown" .null,
      commandMsg "c-5" "reboot" .null]) ()).map (fun r => (r.commandID, r.status)) =
    [(.str "c-1", .passed), (.str "c-2", .errored), (.str "c-3", .errored),
      (.str "c-4", .passed)] := by
  decide +kernel

/-- **A driver that does not unload**: `rmmod` never ends, and neither its command nor the next one
is answered.  Nor is any if the console raises an exception at the first line. -/
theorem unload_never_answered :
    (answerable unloadThenVerify).map Message.commandID = [.str "c-1", .str "c-2"] ∧
      commandLoop hubPython (neverEnds "rmmod") unloadThenVerify () = [] ∧
      ¬ AnsweredOnce hubPython (neverEnds "rmmod") unloadThenVerify () ∧
      commandLoop hubPython brokenConsole unloadThenVerify () = [] := by
  have hloop : commandLoop hubPython (neverEnds "rmmod") unloadThenVerify () = [] := by
    decide +kernel
  refine ⟨by decide +kernel, hloop, fun h => ?_, by decide +kernel⟩
  rw [AnsweredOnce, hloop] at h
  cases h

end GuestAgent

end Dvf
