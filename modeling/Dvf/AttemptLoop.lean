/-
**The attempts of the steps of a workflow** (`runWorkflow` and its goroutines in
`internal/core/execution_engine.go`), with the number of an attempt as the 64-bit `int` that it is.

The goroutine of a step counts its attempts from zero and makes one after the other until one passes
or the number is `RetryMax`.  Where `RetryMax` is the largest `int`, the test `attempt <=
maxAttempts` never fails and the counter wraps; the pause after a failed attempt shifts by the
counter, and a shift by a negative number panics, so that a goroutine makes at most one attempt with
a negative number.

The machine here has the loop of `runWorkflow` as `Dvf/RunWorkflow.lean` has it; the agent may
answer every command in any way and at any time, or not at all.  It records which attempts of which
steps were issued, and no attempt of a step is issued twice.

Main definitions:

* `Dvf.AttemptPC`, `Dvf.afterAnswer` — where a goroutine is, and what it does with an answer;
* `Dvf.AttemptState`, `Dvf.AttemptAct`, `Dvf.AttemptState.step` — the machine;
* `Dvf.Workflow.Past`, `Dvf.AttemptState.Inv` — a step that is not pending, and the invariant.

Main results:

* `Dvf.AttemptState.Inv.step`, `Dvf.AttemptState.Inv.of_reachable` — every action keeps the
  invariant, in which **no attempt was issued twice**;
* `Dvf.LoopState.exists_attempts_run`, `Dvf.LoopState.exists_commands_eq` — the runs of
  `Dvf/RunWorkflow.lean`, whose counters are unbounded, are runs of this machine where no counter
  wraps, with the same commands.
-/

import Dvf.RunWorkflowInv
import Mathlib.Algebra.Order.Ring.Int

set_option autoImplicit false

namespace Dvf

/-! ### The goroutine of a step -/

/-- What `runWorkflow` is called with. -/
structure WorkflowCall where
  run : TestRun
  device : DeviceEntry
  suite : TestSuite

/-- What `runWorkflow` is called with in the surroundings of `Dvf/RunWorkflow.lean`. -/
def WorkflowEnv.toCall (env : WorkflowEnv) : WorkflowCall := ⟨env.run, env.device, env.suite⟩

/-- `maxAttempts`: `RetryMax`, or zero if it is negative. -/
def maxAttemptsInt (d : WorkflowStep) : Int64 :=
  if Int64.ofInt d.retryMax < 0 then 0 else Int64.ofInt d.retryMax

/-- The command for an attempt of a step. -/
def attemptCommand (run : TestRun) (device : DeviceEntry) (d : WorkflowStep) (attempt : Int64) :
    AgentCommand :=
  { stepCommand run device d 0 with
    id := "cmd-step-" ++ run.id ++ "-" ++ d.id ++ "-" ++ toString attempt.toInt }

/-- Where a goroutine is: before the command of an attempt, in `SendCommand`, or before its send. -/
inductive AttemptPC
  | calling (attempt : Int64)
  | waiting (attempt : Int64)
  | sending (r : StepResult)
  deriving DecidableEq

/-- A goroutine with its copy of the step definition. -/
structure AttemptGo where
  defn : WorkflowStep
  pc : AttemptPC
  deriving DecidableEq

/-- After an attempt that did not pass: a panic, the next attempt, or the result. -/
def afterFailed (d : WorkflowStep) (attempt : Int64) (err : String) : Option AttemptPC :=
  -- the pause before the next attempt takes `1<<attempt` seconds
  if attempt < maxAttemptsInt d ∧ attempt < 0 then none
  else if attempt + 1 ≤ maxAttemptsInt d then some (.calling (attempt + 1))
  else some (.sending ⟨d.id, .failed, some err⟩)

/-- After the answer to a command.  The rows of the answer that are saved first change nothing
here. -/
def afterAnswer (d : WorkflowStep) (attempt : Int64) :
    Except String AgentResult → Option AttemptPC
  | .error err => afterFailed d attempt err
  | .ok res =>
      if res.status = "passed" then some (.sending ⟨d.id, .passed, none⟩)
      else afterFailed d attempt
        ("step failed with status: " ++ res.status ++ ", output: " ++ res.output)

/-! ### The machine -/

/-- The state of a run.  The last field records the attempts whose commands were issued; no action
reads it. -/
structure AttemptState where
  w : Workflow
  running : List String := []
  gos : List AttemptGo := []
  results : List StepResult := []
  pc : LoopPC := .top
  ctx : Option CtxErr
  panicked : Bool := false
  issued : List (WorkflowStep × Int64) := []

/-- The actions: an iteration up to the `select`, the two cases of the `select`, the end of the
context; and of a goroutine, the call of `SendCommand`, its return, and the send of the result. -/
inductive AttemptAct
  | loop
  | receive
  | cancelled
  | expire (e : CtxErr)
  | issue (i : ℕ)
  | answer (i : ℕ) (ans : Except String AgentResult)
  | report (i : ℕ)

namespace AttemptState

def start (w : Workflow) (ctx : Option CtxErr) : AttemptState := { w := w, ctx := ctx }

/-- One iteration of the dispatch loop. -/
def dispatch (s : AttemptState) (sid : String) : AttemptState :=
  if sid ∈ s.running then s
  else
    { s with
      w := match s.w.markRunning sid with
        | .ok w => w
        | .error _ => s.w
      running := sid :: s.running
      gos := s.gos ++ [⟨(s.w.stepDef sid).getD default, .calling 0⟩] }

/-- An action, while nothing has panicked. -/
def act (c : WorkflowCall) (s : AttemptState) : AttemptAct → Option AttemptState
  | .loop =>
      match s.pc with
      | .top =>
          if s.w.isDone then some { s with pc := .returned s.w.exit }
          else some { s.w.ready.foldl dispatch s with pc := .select }
      | _ => none
  | .receive =>
      match s.pc, s.results with
      | .select, r :: rs =>
          some { s with
            results := rs
            running := s.running.filter (· ≠ r.stepID)
            w := match s.w.advance r.stepID r.status with
              | .ok w => w
              | .error _ => s.w
            pc := .top }
      | _, _ => none
  | .cancelled =>
      match s.pc, s.ctx with
      | .select, some e => some { s with pc := .returned (.ctxErr e) }
      | _, _ => none
  | .expire e => if s.ctx = none then some { s with ctx := some e } else none
  | .issue i =>
      match s.gos[i]? with
      | some ⟨d, .calling attempt⟩ =>
          some { s with
            gos := s.gos.set i ⟨d, .waiting attempt⟩
            issued := s.issued ++ [(d, attempt)] }
      | _ => none
  | .answer i ans =>
      match s.gos[i]? with
      | some ⟨d, .waiting attempt⟩ =>
          match afterAnswer d attempt ans with
          | some pc => some { s with gos := s.gos.set i ⟨d, pc⟩ }
          | none => some { s with panicked := true }
      | _ => none
  | .report i =>
      match s.gos[i]? with
      | some ⟨_, .sending r⟩ =>
          -- the channel has room for one result per step of the suite
          if s.results.length < c.suite.steps.length then
            some { s with gos := s.gos.eraseIdx i, results := s.results ++ [r] }
          else none
      | _ => none

/-- **One action of the machine.** -/
def step (c : WorkflowCall) (s : AttemptState) (a : AttemptAct) : Option AttemptState :=
  if s.panicked = true then none else s.act c a

def commands (c : WorkflowCall) (s : AttemptState) : List AgentCommand :=
  s.issued.map fun x => attemptCommand c.run c.device x.1 x.2

/-! ### What the actions can do -/

variable {c : WorkflowCall} {s s' : AttemptState}

theorem act_of_step {a : AttemptAct} (h : s.step c a = some s') : s.act c a = some s' := by
  unfold step at h
  split at h
  · cases h
  · exact h

theorem act_loop (h : s.act c .loop = some s') :
    s.pc = .top ∧ (s' = { s with pc := .returned s.w.exit } ∨
      s' = { s.w.ready.foldl dispatch s with pc := .select }) := by
  simp only [act] at h
  split at h
  · next hpc =>
      split at h
      · cases h
        exact ⟨hpc, Or.inl rfl⟩
      · cases h
        exact ⟨hpc, Or.inr rfl⟩
  · cases h

theorem act_receive (h : s.act c .receive = some s') :
    ∃ r rs, s.results = r :: rs ∧ s' = { s with
      results := rs
      running := s.running.filter (· ≠ r.stepID)
      w := match s.w.advance r.stepID r.status with
        | .ok w => w
        | .error _ => s.w
      pc := .top } := by
  simp only [act] at h
  split at h
  · next r rs _ hresults =>
      cases h
      exact ⟨r, rs, hresults, rfl⟩
  · cases h

theorem act_cancelled (h : s.act c .cancelled = some s') : ∃ pc, s' = { s with pc := pc } := by
  simp only [act] at h
  split at h
  · cases h
    exact ⟨_, rfl⟩
  · cases h

theorem act_expire {e : CtxErr} (h : s.act c (.expire e) = some s') :
    s' = { s with ctx := some e } := by
  simp only [act] at h
  split at h
  · cases h
    rfl
  · cases h

theorem act_issue {i : ℕ} (h : s.act c (.issue i) = some s') :
    ∃ l₁ d attempt l₂, s.gos = l₁ ++ ⟨d, .calling attempt⟩ :: l₂ ∧
      s' = { s with
        gos := l₁ ++ ⟨d, .waiting attempt⟩ :: l₂
        issued := s.issued ++ [(d, attempt)] } := by
  simp only [act] at h
  split at h
  · next d attempt hi =>
      obtain ⟨l₁, l₂, hsplit, _, hset⟩ := Machine.split_of_getElem? hi
      cases h
      exact ⟨l₁, d, attempt, l₂, hsplit, by rw [hset]⟩
  · cases h

theorem step_issue {i : ℕ} {d : WorkflowStep} {attempt : Int64} (hp : s.panicked = false)
    (hi : s.gos[i]? = some ⟨d, .calling attempt⟩) :
    s.step c (.issue i) = some { s with
      gos := s.gos.set i ⟨d, .waiting attempt⟩
      issued := s.issued ++ [(d, attempt)] } := by
  simp [step, act, hp, hi]

theorem step_answer {i : ℕ} {d : WorkflowStep} {attempt : Int64} {ans : Except String AgentResult}
    {pc : AttemptPC} (hp : s.panicked = false) (hi : s.gos[i]? = some ⟨d, .waiting attempt⟩)
    (hpc : afterAnswer d attempt ans = some pc) :
    s.step c (.answer i ans) = some { s with gos := s.gos.set i ⟨d, pc⟩ } := by
  simp [step, act, hp, hi, hpc]

theorem step_report {i : ℕ} {d : WorkflowStep} {r : StepResult} (hp : s.panicked = false)
    (hi : s.gos[i]? = some ⟨d, .sending r⟩) (hroom : s.results.length < c.suite.steps.length) :
    s.step c (.report i) = some { s with
      gos := s.gos.eraseIdx i
      results := s.results ++ [r] } := by
  simp [step, act, hp, hi, hroom]

theorem act_answer {i : ℕ} {ans : Except String AgentResult}
    (h : s.act c (.answer i ans) = some s') :
    ∃ l₁ d attempt l₂, s.gos = l₁ ++ ⟨d, .waiting attempt⟩ :: l₂ ∧
      ((∃ pc, afterAnswer d attempt ans = some pc ∧ s' = { s with gos := l₁ ++ ⟨d, pc⟩ :: l₂ }) ∨
        s' = { s with panicked := true }) := by
  simp only [act] at h
  split at h
  · next d attempt hi =>
      obtain ⟨l₁, l₂, hsplit, _, hset⟩ := Machine.split_of_getElem? hi
      refine ⟨l₁, d, attempt, l₂, hsplit, ?_⟩
      split at h
      · next pc hpc =>
          cases h
          exact Or.inl ⟨pc, hpc, by rw [hset]⟩
      · cases h
        exact Or.inr rfl
  · cases h

theorem act_report {i : ℕ} (h : s.act c (.report i) = some s') :
    ∃ l₁ d r l₂, s.gos = l₁ ++ ⟨d, .sending r⟩ :: l₂ ∧
      s' = { s with gos := l₁ ++ l₂, results := s.results ++ [r] } := by
  simp only [act] at h
  split at h
  · next d r hi =>
      obtain ⟨l₁, l₂, hsplit, herase, _⟩ := Machine.split_of_getElem? hi
      split at h
      · cases h
        exact ⟨l₁, d, r, l₂, hsplit, by rw [herase]⟩
      · cases h
  · cases h

end AttemptState

/-! ### Steps that are not pending -/

namespace Workflow

variable {defs : List WorkflowStep} {w w' : Workflow} {sid k : String} {st : StepStatus}

def Past (w : Workflow) (k : String) : Prop := w.stepStatus k ≠ some .pending

theorem Past.modifyStep (h : w.Past k) {f : Step → Step}
    (hf : ∀ x : Step, x.status ≠ .pending → (f x).status ≠ .pending) :
    (w.modifyStep sid f).Past k := by
  rw [Past, stepStatus] at h ⊢
  rw [lookup_modifyStep]
  split
  · cases hx : w.steps.lookup k with
    | none => simp
    | some x =>
        rw [hx] at h
        simpa using hf x (by simpa using h)
  · exact h

theorem Past.setStatus (h : w.Past k) (hst : st ≠ .pending) : (w.setStatus sid st).Past k :=
  h.modifyStep fun _ _ => hst

theorem Past.started (h : w.Past k) : (w.started sid).Past k :=
  h.modifyStep fun _ _ => by simp

theorem past_started_self (h : sid ∈ w.steps.keys) : (w.started sid).Past sid := by
  rw [Past, stepStatus_started h, if_pos rfl]
  simp

/-- **A step never becomes pending again.** -/
theorem Past.advance (h : w.Past k) (hst : st ≠ .pending) (hadv : w.advance sid st = .ok w') :
    w'.Past k := by
  unfold Workflow.advance at hadv
  split at hadv
  · cases hadv
  · split at hadv
    · cases hadv
      exact foldl_skipStep_induction (P := fun v => v.Past k)
        (fun _ _ hv => hv.setStatus (by simp)) _ (h.setStatus hst)
    · cases hadv
      exact h.setStatus hst

theorem Shape.advance (h : Shape defs w) (hadv : w.advance sid st = .ok w') : Shape defs w' := by
  unfold Workflow.advance at hadv
  split at hadv
  · cases hadv
  · split at hadv
    · cases hadv
      exact (h.setStatus sid st).foldl_skipStep _
    · cases hadv
      exact h.setStatus sid st

end Workflow

/-! ### Rounds -/

/-- The round of the loop in which the counter has a value. -/
def roundOf (attempt : Int64) : ℕ := (attempt.toInt % 2 ^ 64).toNat

theorem roundOf_zero : roundOf 0 = 0 := by decide

theorem roundOf_lt_iff {attempt : Int64} : roundOf attempt < 2 ^ 63 ↔ 0 ≤ attempt.toInt := by
  have hlt := attempt.toInt_lt
  have hge := attempt.le_toInt
  rw [roundOf]
  omega

theorem roundOf_add_one {attempt : Int64} (h : roundOf attempt < 2 ^ 63) :
    roundOf (attempt + 1) = roundOf attempt + 1 := by
  have hlt := attempt.toInt_lt
  have hge := roundOf_lt_iff.1 h
  have hone : (1 : Int64).toInt = 1 := by decide
  rw [roundOf, roundOf, Int64.toInt_add, hone, Int.bmod_def]
  omega

theorem maxAttemptsInt_nonneg (d : WorkflowStep) : 0 ≤ maxAttemptsInt d := by
  unfold maxAttemptsInt
  split
  · exact Int64.le_refl 0
  · next h => exact Int64.not_lt.1 h

/-- A goroutine in a round up to the one after the largest `int`, or with a result. -/
def AttemptPC.Ok : AttemptPC → Prop
  | .calling attempt => roundOf attempt ≤ 2 ^ 63
  | .waiting attempt => roundOf attempt ≤ 2 ^ 63
  | .sending r => r.status ≠ .pending

/-- A goroutine that has issued the attempt, if it has a round left. -/
def AttemptPC.Beyond (a : Int64) : AttemptPC → Prop
  | .calling attempt => roundOf a < roundOf attempt
  | .waiting attempt => roundOf a ≤ roundOf attempt
  | .sending _ => True

/-- **The end of a round**: the next one is one higher, and none follows a negative number. -/
theorem afterFailed_spec {d : WorkflowStep} {attempt : Int64} {err : String} {pc : AttemptPC}
    (h : afterFailed d attempt err = some pc) :
    pc.Ok ∧ ∀ a, roundOf a ≤ roundOf attempt → pc.Beyond a := by
  unfold afterFailed at h
  split at h
  · cases h
  · next hpanic =>
      split at h
      · cases h
        -- a negative number is below the largest one, so the pause would have panicked
        have hnonneg : 0 ≤ attempt := by
          by_contra hneg
          have hlt : attempt < 0 := Int64.not_le.1 hneg
          exact hpanic ⟨Int64.lt_of_lt_of_le hlt (maxAttemptsInt_nonneg d), hlt⟩
        have hround : roundOf attempt < 2 ^ 63 := by
          rw [roundOf_lt_iff]
          rw [Int64.le_iff_toInt_le] at hnonneg
          exact hnonneg
        have hnext := roundOf_add_one hround
        refine ⟨?_, fun a ha => ?_⟩
        · rw [AttemptPC.Ok, hnext]
          exact hround
        · rw [AttemptPC.Beyond, hnext]
          exact Nat.lt_succ_of_le ha
      · cases h
        exact ⟨by simp [AttemptPC.Ok], fun _ _ => trivial⟩

theorem afterAnswer_spec {d : WorkflowStep} {attempt : Int64} {ans : Except String AgentResult}
    {pc : AttemptPC} (h : afterAnswer d attempt ans = some pc) :
    pc.Ok ∧ ∀ a, roundOf a ≤ roundOf attempt → pc.Beyond a := by
  cases ans with
  | error err => exact afterFailed_spec h
  | ok res =>
      rw [afterAnswer] at h
      split at h
      · cases h
        exact ⟨by simp [AttemptPC.Ok], fun _ _ => trivial⟩
      · exact afterFailed_spec h

/-! ### The invariant -/

namespace AttemptState

variable {c : WorkflowCall} {s s' : AttemptState}

/-- **The invariant**: the goroutines are of different steps, which are pending no more; an attempt
that was issued is behind the goroutine of its step, and no attempt was issued twice. -/
structure Inv (c : WorkflowCall) (s : AttemptState) : Prop where
  shape : s.w.Shape c.suite.steps
  go_ok : ∀ g ∈ s.gos, g.defn ∈ c.suite.steps ∧ s.w.Past g.defn.id ∧ g.pc.Ok
  go_once : s.gos.Pairwise fun g g' => g.defn.id ≠ g'.defn.id
  result_ok : ∀ r ∈ s.results, r.status ≠ .pending
  issued_ok : ∀ x ∈ s.issued, x.1 ∈ c.suite.steps ∧ s.w.Past x.1.id ∧ roundOf x.2 ≤ 2 ^ 63
  issued_beyond : ∀ x ∈ s.issued, ∀ g ∈ s.gos, g.defn = x.1 → g.pc.Beyond x.2
  issued_nodup : s.issued.Nodup

theorem Inv.start {w : Workflow} (h : Fresh c.suite.steps w) (ctx : Option CtxErr) :
    Inv c (start w ctx) where
  shape := Workflow.Shape.of_fresh h
  go_ok _ hg := absurd hg List.not_mem_nil
  go_once := List.Pairwise.nil
  result_ok _ hr := absurd hr List.not_mem_nil
  issued_ok _ hx := absurd hx List.not_mem_nil
  issued_beyond _ hx := absurd hx List.not_mem_nil
  issued_nodup := List.nodup_nil

theorem Inv.workflow (h : Inv c s) {w : Workflow} (hshape : w.Shape c.suite.steps)
    (hpast : ∀ k, s.w.Past k → w.Past k) (running : List String) {results : List StepResult}
    (hresults : ∀ r ∈ results, r.status ≠ .pending) (pc : LoopPC) :
    Inv c { s with w := w, running := running, results := results, pc := pc } where
  shape := hshape
  go_ok g hg := ⟨(h.go_ok g hg).1, hpast _ (h.go_ok g hg).2.1, (h.go_ok g hg).2.2⟩
  go_once := h.go_once
  result_ok := hresults
  issued_ok x hx := ⟨(h.issued_ok x hx).1, hpast _ (h.issued_ok x hx).2.1, (h.issued_ok x hx).2.2⟩
  issued_beyond := h.issued_beyond
  issued_nodup := h.issued_nodup

/-- **The dispatch of a pending step**: it has no goroutine, and no attempt of it was issued. -/
theorem Inv.dispatch (h : Inv c s) {sid : String} (hord : sid ∈ s.w.order)
    (hpend : s.w.stepStatus sid = some .pending) : Inv c (s.dispatch sid) := by
  obtain ⟨d, hd, rfl⟩ := List.mem_map.1 (h.shape.order_perm.mem_iff.1 hord)
  have hkey := h.shape.mem_order_iff.1 hord
  unfold AttemptState.dispatch
  split
  · exact h
  · rw [Workflow.markRunning_eq hkey, h.shape.stepDef_eq d hd, Option.getD_some]
    have hbase := h.workflow (h.shape.started d.id) (fun _ hk => hk.started) (d.id :: s.running)
      h.result_ok s.pc
    have hnew : ∀ k, s.w.Past k → k ≠ d.id := by
      rintro k hk rfl
      exact hk hpend
    refine ⟨hbase.shape, ?_, ?_, h.result_ok, hbase.issued_ok, ?_, h.issued_nodup⟩
    · intro g hg
      rcases List.mem_append.1 hg with hg | hg
      · exact hbase.go_ok g hg
      · rw [List.mem_singleton.1 hg]
        refine ⟨hd, Workflow.past_started_self hkey, ?_⟩
        rw [AttemptPC.Ok, roundOf_zero]
        exact Nat.zero_le _
    · refine List.pairwise_append.2 ⟨h.go_once, List.pairwise_singleton _ _, ?_⟩
      intro g hg g' hg'
      rw [List.mem_singleton.1 hg']
      exact hnew _ (h.go_ok g hg).2.1
    · intro x hx g hg hdef
      rcases List.mem_append.1 hg with hg | hg
      · exact h.issued_beyond x hx g hg hdef
      · rw [List.mem_singleton.1 hg] at hdef
        exact absurd (congrArg WorkflowStep.id hdef.symm) (hnew _ (h.issued_ok x hx).2.1)

theorem pending_dispatch {sid k : String} (hkey : sid ∈ s.w.steps.keys) (hne : k ≠ sid)
    (h : s.w.stepStatus k = some .pending) :
    (s.dispatch sid).w.stepStatus k = some .pending := by
  unfold dispatch
  split
  · exact h
  · rw [Workflow.markRunning_eq hkey]
    change (s.w.started sid).stepStatus k = some .pending
    rw [Workflow.stepStatus_started hkey, if_neg hne, h]

/-- **The dispatch loop**, over different pending steps. -/
theorem Inv.foldl_dispatch (h : Inv c s) (l : List String) (hl : l.Nodup)
    (hpend : ∀ sid ∈ l, sid ∈ s.w.order ∧ s.w.stepStatus sid = some .pending) :
    Inv c (l.foldl AttemptState.dispatch s) := by
  induction l generalizing s with
  | nil => exact h
  | cons sid l ih =>
      obtain ⟨hsid, hl⟩ := List.nodup_cons.1 hl
      obtain ⟨hord, hst⟩ := hpend sid List.mem_cons_self
      have hnext := h.dispatch hord hst
      refine ih hnext hl fun k hk => ?_
      obtain ⟨hkord, hkst⟩ := hpend k (List.mem_cons_of_mem _ hk)
      have hne : k ≠ sid := by
        rintro rfl
        exact hsid hk
      refine ⟨?_, pending_dispatch (h.shape.mem_order_iff.1 hord) hne hkst⟩
      -- the dispatch keeps the steps
      rw [hnext.shape.order_perm.mem_iff, ← h.shape.order_perm.mem_iff]
      exact hkord

/-- A goroutine goes on, and keeps what it has issued behind it. -/
theorem Inv.replace (h : Inv c s) {l₁ l₂ : List AttemptGo} {d : WorkflowStep} {pc pc' : AttemptPC}
    (hgos : s.gos = l₁ ++ ⟨d, pc⟩ :: l₂) (hok : pc'.Ok)
    (hbeyond : ∀ a, pc.Beyond a → pc'.Beyond a) :
    Inv c { s with gos := l₁ ++ ⟨d, pc'⟩ :: l₂ } := by
  have hgo := h.go_ok
  have honce := h.go_once
  have hissued := h.issued_beyond
  rw [hgos] at hgo honce hissued
  have hold := hgo ⟨d, pc⟩ (List.mem_append_right _ List.mem_cons_self)
  refine ⟨h.shape, ?_, ?_, h.result_ok, h.issued_ok, ?_, h.issued_nodup⟩
  · exact Machine.forall_mem_replace hgo ⟨hold.1, hold.2.1, hok⟩
  · -- the steps of the goroutines are the same
    rw [← List.pairwise_map] at honce ⊢
    simpa using honce
  · intro x hx
    refine Machine.forall_mem_replace (hissued x hx) fun hdef => hbeyond _ ?_
    exact hissued x hx ⟨d, pc⟩ (List.mem_append_right _ List.mem_cons_self) hdef

/-- **A command is issued**: for the attempt that the goroutine is at, which is higher than all that
were issued for its step. -/
theorem Inv.issue (h : Inv c s) {l₁ l₂ : List AttemptGo} {d : WorkflowStep} {attempt : Int64}
    (hgos : s.gos = l₁ ++ ⟨d, .calling attempt⟩ :: l₂) :
    Inv c { s with
      gos := l₁ ++ ⟨d, .waiting attempt⟩ :: l₂
      issued := s.issued ++ [(d, attempt)] } := by
  have hmem : (⟨d, .calling attempt⟩ : AttemptGo) ∈ s.gos := by
    rw [hgos]
    exact List.mem_append_right _ List.mem_cons_self
  obtain ⟨hd, hpast, hround⟩ := h.go_ok _ hmem
  have hnew : (d, attempt) ∉ s.issued := by
    intro hx
    exact Nat.lt_irrefl _ (h.issued_beyond _ hx _ hmem rfl)
  have hnext : Inv c { s with gos := l₁ ++ ⟨d, .waiting attempt⟩ :: l₂ } :=
    h.replace hgos hround fun _ ha => Nat.le_of_lt ha
  refine ⟨h.shape, hnext.go_ok, hnext.go_once, h.result_ok, ?_, ?_, ?_⟩
  · intro x hx
    rcases List.mem_append.1 hx with hx | hx
    · exact h.issued_ok x hx
    · rw [List.mem_singleton.1 hx]
      exact ⟨hd, hpast, hround⟩
  · intro x hx g hg hdef
    rcases List.mem_append.1 hx with hx | hx
    · exact hnext.issued_beyond x hx g hg hdef
    · rw [List.mem_singleton.1 hx] at hdef ⊢
      -- the only goroutine of the step is the one that issued the command
      rcases List.mem_append.1 hg with hg₁ | hg₂
      · have hne := (List.pairwise_append.1 hnext.go_once).2.2 g hg₁ _ List.mem_cons_self
        exact absurd (congrArg WorkflowStep.id hdef) hne
      · rcases List.mem_cons.1 hg₂ with rfl | hg₂
        · exact Nat.le_refl _
        · have hcons := (List.pairwise_append.1 hnext.go_once).2.1
          have hne := (List.pairwise_cons.1 hcons).1 g hg₂
          exact absurd (congrArg WorkflowStep.id hdef.symm) hne
  · rw [List.nodup_append]
    refine ⟨h.issued_nodup, List.nodup_singleton _, ?_⟩
    intro x hx y hy
    rw [List.mem_singleton.1 hy]
    rintro rfl
    exact hnew hx

/-- A goroutine ends and leaves its result. -/
theorem Inv.report (h : Inv c s) {l₁ l₂ : List AttemptGo} {d : WorkflowStep} {r : StepResult}
    (hgos : s.gos = l₁ ++ ⟨d, .sending r⟩ :: l₂) :
    Inv c { s with gos := l₁ ++ l₂, results := s.results ++ [r] } := by
  have hsub : (l₁ ++ l₂).Sublist s.gos := by
    rw [hgos]
    exact List.Sublist.append_left (List.sublist_cons_self _ _) _
  have hr : r.status ≠ .pending := by
    refine (h.go_ok ⟨d, .sending r⟩ ?_).2.2
    rw [hgos]
    exact List.mem_append_right _ List.mem_cons_self
  refine ⟨h.shape, fun g hg => h.go_ok g (hsub.subset hg), h.go_once.sublist hsub, ?_, h.issued_ok,
    fun x hx g hg => h.issued_beyond x hx g (hsub.subset hg), h.issued_nodup⟩
  intro r' hr'
  rcases List.mem_append.1 hr' with hr' | hr'
  · exact h.result_ok r' hr'
  · rw [List.mem_singleton.1 hr']
    exact hr

theorem Inv.frame (h : Inv c s) (pc : LoopPC) (ctx : Option CtxErr) (panicked : Bool) :
    Inv c { s with pc := pc, ctx := ctx, panicked := panicked } :=
  ⟨h.shape, h.go_ok, h.go_once, h.result_ok, h.issued_ok, h.issued_beyond, h.issued_nodup⟩

/-- **Every action keeps the invariant.** -/
theorem Inv.step (h : Inv c s) {a : AttemptAct} (hs : s.step c a = some s') : Inv c s' := by
  replace hs := act_of_step hs
  cases a with
  | loop =>
      obtain ⟨_, rfl | rfl⟩ := act_loop hs
      · exact h.frame _ s.ctx s.panicked
      · refine Inv.frame (h.foldl_dispatch s.w.ready ?_ fun sid hsid => ?_) _ _ _
        · exact h.shape.order_nodup.filter _
        · obtain ⟨hord, hpend, _⟩ := Workflow.mem_ready_iff.1 hsid
          exact ⟨hord, hpend⟩
  | receive =>
      obtain ⟨r, rs, hresults, rfl⟩ := act_receive hs
      have hok := h.result_ok
      rw [hresults, List.forall_mem_cons] at hok
      cases hadv : s.w.advance r.stepID r.status with
      | ok w =>
          exact h.workflow (h.shape.advance hadv) (fun _ hk => hk.advance hok.1 hadv) _ hok.2 _
      | error err => exact h.workflow h.shape (fun _ hk => hk) _ hok.2 _
  | cancelled =>
      obtain ⟨pc, rfl⟩ := act_cancelled hs
      exact h.frame pc s.ctx s.panicked
  | expire e =>
      rw [act_expire hs]
      exact h.frame s.pc _ s.panicked
  | issue i =>
      obtain ⟨l₁, d, attempt, l₂, hgos, rfl⟩ := act_issue hs
      exact h.issue hgos
  | answer i ans =>
      obtain ⟨l₁, d, attempt, l₂, hgos, ⟨pc, hpc, rfl⟩ | rfl⟩ := act_answer hs
      · obtain ⟨hok, hbeyond⟩ := afterAnswer_spec hpc
        exact h.replace hgos hok hbeyond
      · exact h.frame s.pc s.ctx true
  | report i =>
      obtain ⟨l₁, d, r, l₂, hgos, rfl⟩ := act_report hs
      exact h.report hgos

theorem Inv.of_reachable {w : Workflow} {ctx : Option CtxErr} (h : Fresh c.suite.steps w)
    (hs : Machine.Reachable (AttemptState.step c) (AttemptState.start w ctx) s) : Inv c s :=
  hs.invariant (Inv.start h ctx) fun _ _ _ hI hstep => hI.step hstep

end AttemptState

/-! ### The machine with unbounded counters -/

/-- The retries of the step fit into an `int` and are not the largest one. -/
def WorkflowStep.RetriesFit (d : WorkflowStep) : Prop :=
  -2 ^ 63 ≤ d.retryMax ∧ d.retryMax < 2 ^ 63 - 1

theorem attemptCommand_ofNat (run : TestRun) (device : DeviceEntry) (d : WorkflowStep) {n : ℕ}
    (h : n < 2 ^ 63) :
    attemptCommand run device d (Int64.ofNat n) = stepCommand run device d n := by
  rw [attemptCommand, Int64.toInt_ofNat_of_lt h]
  rfl

theorem toInt_maxAttemptsInt {d : WorkflowStep} (h : d.RetriesFit) :
    (maxAttemptsInt d).toInt = maxAttempts d := by
  have hword : (Int64.ofInt d.retryMax).toInt = d.retryMax :=
    Int64.toInt_ofInt_of_le h.1 (by have := h.2; omega)
  have hzero : (0 : Int64).toInt = 0 := by decide
  unfold maxAttemptsInt maxAttempts
  split
  · next hneg =>
      rw [Int64.lt_iff_toInt_lt, hword, hzero] at hneg
      rw [hzero]
      omega
  · next hneg =>
      rw [Int64.lt_iff_toInt_lt, hword, hzero] at hneg
      rw [hword]
      omega

/-- Where a goroutine of `Dvf/RunWorkflow.lean` is.  While it saves the rows of an answer, the
answer is still to be taken here. -/
def AttemptPC.ofGo : GoPC → AttemptPC
  | .calling attempt => .calling (Int64.ofNat attempt)
  | .saving attempt _ _ => .waiting (Int64.ofNat attempt)
  | .sending r => .sending r

/-- **The end of a round** is the same for both counters while the `int` can count it. -/
theorem afterFailed_ofNat {d : WorkflowStep} (hd : d.RetriesFit) {n : ℕ} (hn : n ≤ maxAttempts d)
    (err : String) :
    afterFailed d (Int64.ofNat n) err = some (AttemptPC.ofGo (GoPC.retry d n err)) := by
  have hmax := toInt_maxAttemptsInt hd
  have hbound : maxAttempts d < 2 ^ 63 - 1 := by
    have hlt := hd.2
    unfold maxAttempts
    omega
  have hzero : (0 : Int64).toInt = 0 := by decide
  have hword := Int64.toInt_ofNat_of_lt (n := n) (by omega)
  have hnext : Int64.ofNat n + 1 = Int64.ofNat (n + 1) := (Int64.ofNat_add n 1).symm
  have hword' := Int64.toInt_ofNat_of_lt (n := n + 1) (by omega)
  have hpause : ¬ (Int64.ofNat n < maxAttemptsInt d ∧ Int64.ofNat n < 0) := by
    rintro ⟨_, hneg⟩
    rw [Int64.lt_iff_toInt_lt, hword, hzero] at hneg
    omega
  rw [afterFailed, if_neg hpause, hnext, GoPC.retry]
  by_cases hlt : n < maxAttempts d
  · have hle : Int64.ofNat (n + 1) ≤ maxAttemptsInt d := by
      rw [Int64.le_iff_toInt_le, hword', hmax]
      omega
    rw [if_pos hlt, if_pos hle]
    rfl
  · have hle : ¬ Int64.ofNat (n + 1) ≤ maxAttemptsInt d := by
      rw [Int64.le_iff_toInt_le, hword', hmax]
      omega
    rw [if_neg hlt, if_neg hle]
    rfl

theorem afterAnswer_ofNat {d : WorkflowStep} (hd : d.RetriesFit) {n : ℕ} (hn : n ≤ maxAttempts d)
    (res : AgentResult) :
    afterAnswer d (Int64.ofNat n) (.ok res) =
      some (AttemptPC.ofGo (GoPC.processed d n res)) := by
  rw [afterAnswer, GoPC.processed]
  split
  · rfl
  · exact afterFailed_ofNat hd hn _

namespace LoopState

variable {env : WorkflowEnv} {s s' : LoopState}

/-- A goroutine with the `int` for its counter. -/
def toGo (g : Goroutine) : AttemptGo := ⟨g.defn, AttemptPC.ofGo g.pc⟩

/-- The state without the store, and with the attempts that were issued. -/
def toAttempts (s : LoopState) (issued : List (WorkflowStep × Int64)) : AttemptState where
  w := s.w
  running := s.running
  gos := s.gos.map toGo
  results := s.results
  pc := s.pc
  ctx := s.ctx
  issued := issued

/-- The attempt that an action asks the agent for. -/
def asked (s : LoopState) : LoopAct → List (WorkflowStep × ℕ)
  | .go i =>
      match s.gos[i]? with
      | some ⟨d, .calling attempt⟩ => [(d, attempt)]
      | _ => []
  | _ => []

/-- The attempts of a run of `Dvf/RunWorkflow.lean`, with the `int` for their numbers. -/
def toIssued (asked : List (WorkflowStep × ℕ)) : List (WorkflowStep × Int64) :=
  asked.map fun x => (x.1, Int64.ofNat x.2)

theorem toIssued_append (l l' : List (WorkflowStep × ℕ)) :
    toIssued (l ++ l') = toIssued l ++ toIssued l' := List.map_append

theorem toAttempts_dispatch (s : LoopState) (issued : List (WorkflowStep × Int64)) (sid : String) :
    (s.dispatch sid).toAttempts issued = (s.toAttempts issued).dispatch sid := by
  have hrunning : (s.toAttempts issued).running = s.running := rfl
  unfold dispatch AttemptState.dispatch
  rw [hrunning]
  split
  · rfl
  · rw [toAttempts, List.map_append]
    rfl

theorem toAttempts_foldl_dispatch (l : List String) (s : LoopState)
    (issued : List (WorkflowStep × Int64)) :
    (l.foldl dispatch s).toAttempts issued =
      l.foldl AttemptState.dispatch (s.toAttempts issued) := by
  induction l generalizing s with
  | nil => rfl
  | cons sid l ih => rw [List.foldl_cons, ih, toAttempts_dispatch, List.foldl_cons]

theorem toAttempts_getElem? {i : ℕ} {g : Goroutine} (hg : s.gos[i]? = some g)
    (issued : List (WorkflowStep × Int64)) :
    (s.toAttempts issued).gos[i]? = some (toGo g) := by
  rw [toAttempts, List.getElem?_map, hg]
  rfl

section Simulation

variable {c : WorkflowCall} {i n : ℕ} {d : WorkflowStep}

theorem step_issue_toAttempts (hg : s.gos[i]? = some ⟨d, .calling n⟩) (res : AgentResult)
    (issued : List (WorkflowStep × Int64)) :
    (s.toAttempts issued).step c (.issue i) =
      some (toAttempts { s with gos := s.gos.set i ⟨d, .saving n res 0⟩ }
        (issued ++ [(d, Int64.ofNat n)])) := by
  rw [AttemptState.step_issue rfl (toAttempts_getElem? hg issued)]
  simp only [toAttempts, List.map_set]
  rfl

theorem step_answer_toAttempts {res : AgentResult} {rows : ℕ} {ans : Except String AgentResult}
    {pc : GoPC} (hg : s.gos[i]? = some ⟨d, .saving n res rows⟩)
    (hpc : afterAnswer d (Int64.ofNat n) ans = some (AttemptPC.ofGo pc))
    (issued : List (WorkflowStep × Int64)) :
    (s.toAttempts issued).step c (.answer i ans) =
      some (toAttempts { s with gos := s.gos.set i ⟨d, pc⟩ } issued) := by
  rw [AttemptState.step_answer rfl (toAttempts_getElem? hg issued) hpc]
  simp only [toAttempts, List.map_set]
  rfl

/-- **A step of a goroutine** before its send, by the actions of the other machine. -/
theorem exists_attempts_next (hd : d.RetriesFit) {pc₀ pc : GoPC} {row : Option TestResult}
    (hg : s.gos[i]? = some ⟨d, pc₀⟩) (hok : pc₀.Ok env d)
    (hnext : pc₀.next env d = some (pc, row)) (issued : List (WorkflowStep × Int64)) :
    ∃ as, Machine.run (AttemptState.step c) (s.toAttempts issued) as =
      some (toAttempts { s with gos := s.gos.set i ⟨d, pc⟩ }
        (issued ++ toIssued (s.asked (.go i)))) := by
  cases pc₀ with
  | calling n =>
      have hasked : toIssued (s.asked (.go i)) = [(d, Int64.ofNat n)] := by
        simp [asked, hg, toIssued]
      rw [hasked]
      simp only [GoPC.next] at hnext
      cases hans : env.answer d n with
      | ok res =>
          rw [hans] at hnext
          cases hnext
          refine ⟨[.issue i], ?_⟩
          rw [Machine.run_cons, step_issue_toAttempts hg res]
          rfl
      | error err =>
          rw [hans] at hnext
          cases hnext
          refine ⟨[.issue i, .answer i (.error err)], ?_⟩
          obtain ⟨res⟩ : Nonempty AgentResult := ⟨{ status := "" }⟩
          have hset : (s.gos.set i ⟨d, .saving n res 0⟩)[i]? = some ⟨d, .saving n res 0⟩ :=
            Machine.getElem?_set_self_of hg _
          have hfailed : afterAnswer d (Int64.ofNat n) (.error err) =
              some (AttemptPC.ofGo (GoPC.retry d n err)) := afterFailed_ofNat hd hok.1 err
          have hanswer := step_answer_toAttempts (c := c)
            (s := { s with gos := s.gos.set i ⟨d, .saving n res 0⟩ }) hset hfailed
            (issued ++ [(d, Int64.ofNat n)])
          rw [Machine.run_cons, step_issue_toAttempts hg res, Option.bind_some,
            Machine.run_cons, hanswer]
          simp only [List.set_set]
          rfl
  | saving n res rows =>
      have hasked : toIssued (s.asked (.go i)) = [] := by simp [asked, hg, toIssued]
      rw [hasked, List.append_nil]
      simp only [GoPC.next] at hnext
      split at hnext
      · -- a row changes nothing
        cases hnext
        have hself : (s.gos.map toGo).set i ⟨d, .waiting (Int64.ofNat n)⟩ = s.gos.map toGo := by
          obtain ⟨hlt, hget⟩ := List.getElem?_eq_some_iff.1 (toAttempts_getElem? hg issued)
          have hsame := List.set_getElem_self hlt
          rwa [hget] at hsame
        refine ⟨[], ?_⟩
        simp only [toAttempts, List.map_set, Machine.run, toGo, AttemptPC.ofGo, Option.some.injEq]
        rw [hself]
      · cases hnext
        refine ⟨[.answer i (.ok res)], ?_⟩
        rw [Machine.run_cons, step_answer_toAttempts hg (afterAnswer_ofNat hd hok.1.1 res)]
        rfl
  | sending r => cases hnext

end Simulation

/-- **The machine of `Dvf/RunWorkflow.lean` is this one** where the counters do not wrap: each of
its actions is done by some actions of this machine, which issue what it asks the agent for. -/
theorem exists_attempts_step (hcore : Core env s) (hfit : ∀ d ∈ env.suite.steps, d.RetriesFit)
    {a : LoopAct} (h : s.step env a = some s') (issued : List (WorkflowStep × Int64)) :
    ∃ as, Machine.run (AttemptState.step env.toCall) (s.toAttempts issued) as =
      some (s'.toAttempts (issued ++ toIssued (s.asked a))) := by
  -- one action of this machine
  have hone : ∀ b, (s.toAttempts issued).step env.toCall b =
      some (s'.toAttempts (issued ++ toIssued (s.asked a))) →
      ∃ as, Machine.run (AttemptState.step env.toCall) (s.toAttempts issued) as =
        some (s'.toAttempts (issued ++ toIssued (s.asked a))) := by
    intro b hb
    refine ⟨[b], ?_⟩
    rw [Machine.run_cons, hb]
    rfl
  cases a with
  | loop =>
      obtain ⟨hpc, ⟨hdone, rfl⟩ | ⟨hdone, rfl⟩⟩ := step_loop h
      · refine hone .loop ?_
        simp [AttemptState.step, AttemptState.act, toAttempts, hpc, hdone, asked, toIssued]
      · refine hone .loop ?_
        have hpc' : (s.toAttempts issued).pc = .top := hpc
        have hdone' : (s.toAttempts issued).w.isDone = false := hdone
        have hfold : (s.toAttempts issued).w.ready.foldl AttemptState.dispatch
            (s.toAttempts issued) = (s.w.ready.foldl dispatch s).toAttempts issued :=
          (toAttempts_foldl_dispatch s.w.ready s issued).symm
        simp only [AttemptState.step, AttemptState.act, hpc', hdone', hfold, asked, toIssued,
          List.map_nil, List.append_nil]
        rfl
  | receive =>
      obtain ⟨hpc, r, rs, hresults, rfl⟩ := step_receive h
      refine hone .receive ?_
      simp only [AttemptState.step, AttemptState.act, toAttempts, hpc, hresults, asked, toIssued,
        List.map_nil, List.append_nil]
      rfl
  | cancelled =>
      obtain ⟨hpc, e, hctx, rfl⟩ := step_cancelled h
      refine hone .cancelled ?_
      simp [AttemptState.step, AttemptState.act, toAttempts, hpc, hctx, asked, toIssued]
  | expire e =>
      obtain ⟨hctx, rfl⟩ := step_expire h
      refine hone (.expire e) ?_
      simp [AttemptState.step, AttemptState.act, toAttempts, hctx, asked, toIssued]
  | go i =>
      simp only [step] at h
      split at h
      · cases h
      · next g hg =>
          obtain ⟨hd, hok⟩ := hcore.go_ok g (List.mem_of_getElem? hg)
          split at h
          · next r hr =>
              split at h
              · next hroom =>
                  cases h
                  refine hone (.report i) ?_
                  obtain ⟨d, pc₀⟩ := g
                  obtain rfl : pc₀ = .sending r := hr
                  have hi := toAttempts_getElem? hg issued
                  have hasked : toIssued (s.asked (.go i)) = [] := by simp [asked, hg, toIssued]
                  rw [hasked, List.append_nil,
                    AttemptState.step_report (c := env.toCall) rfl hi hroom]
                  simp only [toAttempts, List.eraseIdx_map]
              · cases h
          · obtain ⟨⟨pc, row⟩, hnext, rfl⟩ := Option.map_eq_some_iff.1 h
            exact exists_attempts_next (hfit _ hd) hg hok hnext issued

/-- The attempts that a run asks the agent for. -/
def askedAlong (env : WorkflowEnv) : LoopState → List LoopAct → List (WorkflowStep × ℕ)
  | _, [] => []
  | s, a :: as =>
      s.asked a ++
        match s.step env a with
        | some s' => askedAlong env s' as
        | none => []

/-- **A whole run**, action by action. -/
theorem exists_attempts_run (hfit : ∀ d ∈ env.suite.steps, d.RetriesFit) {as : List LoopAct} :
    ∀ {s s' : LoopState}, Inv env s → Machine.run (step env) s as = some s' →
      ∀ issued, ∃ bs, Machine.run (AttemptState.step env.toCall) (s.toAttempts issued) bs =
        some (s'.toAttempts (issued ++ toIssued (askedAlong env s as))) := by
  induction as with
  | nil =>
      intro s s' _ h issued
      cases h
      refine ⟨[], ?_⟩
      rw [askedAlong, toIssued, List.map_nil, List.append_nil]
      rfl
  | cons a as ih =>
      intro s s' hI h issued
      obtain ⟨s₁, hstep, hrun⟩ := Machine.run_cons_eq_some.1 h
      obtain ⟨bs₁, hbs₁⟩ := exists_attempts_step hI.toCore hfit hstep issued
      obtain ⟨bs₂, hbs₂⟩ := ih (hI.step hstep) hrun (issued ++ toIssued (s.asked a))
      refine ⟨bs₁ ++ bs₂, ?_⟩
      simp only [askedAlong, hstep, toIssued_append]
      rw [← List.append_assoc]
      exact Machine.run_append_eq_some hbs₁ hbs₂

theorem mem_asked (hcore : Core env s) {a : LoopAct} {x : WorkflowStep × ℕ} (hx : x ∈ s.asked a) :
    x.1 ∈ env.suite.steps ∧ x.2 ≤ maxAttempts x.1 := by
  cases a with
  | go i =>
      simp only [asked] at hx
      split at hx
      · next d n hg =>
          obtain ⟨hd, hok⟩ := hcore.go_ok _ (List.mem_of_getElem? hg)
          rw [List.mem_singleton.1 hx]
          exact ⟨hd, hok.1⟩
      · cases hx
  | loop | receive | cancelled | expire => cases hx

theorem mem_askedAlong {as : List LoopAct} {x : WorkflowStep × ℕ} :
    ∀ {s : LoopState}, Inv env s → x ∈ askedAlong env s as →
      x.1 ∈ env.suite.steps ∧ x.2 ≤ maxAttempts x.1 := by
  induction as with
  | nil =>
      intro s _ hx
      cases hx
  | cons a as ih =>
      intro s hI hx
      rcases List.mem_append.1 hx with hx | hx
      · exact mem_asked hI.toCore hx
      · split at hx
        · next s' hstep => exact ih (hI.step hstep) hx
        · cases hx

/-- **The commands of a run of `Dvf/RunWorkflow.lean`** are commands of a run of this machine. -/
theorem exists_commands_eq (hfit : ∀ d ∈ env.suite.steps, d.RetriesFit) {w : Workflow}
    (hw : Fresh env.suite.steps w) {ctx : Option CtxErr} {store : Store} {as : List LoopAct}
    (h : Machine.run (step env) (start w ctx store) as = some s) :
    ∃ t, Machine.Reachable (AttemptState.step env.toCall) (AttemptState.start w ctx) t ∧
      t.commands env.toCall = (askedAlong env (start w ctx store) as).map fun x =>
        stepCommand env.run env.device x.1 x.2 := by
  have hI : Inv env (start w ctx store) := Inv.start hw ctx store
  obtain ⟨bs, hbs⟩ := exists_attempts_run hfit hI h []
  refine ⟨_, ⟨bs, hbs⟩, ?_⟩
  rw [AttemptState.commands, toAttempts, List.nil_append, toIssued, List.map_map]
  refine List.map_congr_left fun x hx => ?_
  obtain ⟨hd, hle⟩ := mem_askedAlong hI hx
  have hlt : x.2 < 2 ^ 63 := by
    have hmax := (hfit x.1 hd).2
    unfold maxAttempts at hle
    omega
  exact attemptCommand_ofNat env.run env.device x.1 hlt

end LoopState

end Dvf
