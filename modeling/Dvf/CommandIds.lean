/-
**The ids of the commands of a run** (`executeTestRun` and `runWorkflow` in
`internal/core/execution_engine.go`).

The coordinator keeps the channel on which the result of a command is awaited under the id of the
command, so two commands of a run with one id would take each other's results.  The engine joins the
ids from the id of the run, the id of the step and the number of the attempt, with dashes between
them, and step ids may contain dashes and digits themselves.

An id tells its command nevertheless.  Its first word tells the three kinds of commands apart; an
execution loads the driver, checks the device and starts the workflow at most once each; the last
dash of the id of an attempt stands before the number, unless the number is negative, and the only
negative number that an attempt can have is not the opposite of another one.  A run that is deferred
is executed again, but the execution that defers it issues nothing.

Main definitions:

* `Dvf.Call.Issues`, `Dvf.Issued` — the commands that a call, and the calls of an execution, issue;
* `Dvf.issuing` — the protocol: the calls that issue commands come in order, each once;
* `Dvf.Executes` — the executions of a run, all but the last of which defer it.

Main results:

* `Dvf.attemptCommand_id_inj` — the id of an attempt tells the step and the number;
* `Dvf.issuing_executeTestRun` — `executeTestRun` follows the protocol, whatever it is answered;
* `Dvf.command_ids_distinct` — **no two commands of a run have the same id.**
-/

import Dvf.AttemptLoop
import Dvf.Engine

set_option autoImplicit false

namespace Dvf

/-! ### The ids of attempts -/

theorem eq_of_natAbs_eq {a b : Int64} (ha : roundOf a ≤ 2 ^ 63) (hb : roundOf b ≤ 2 ^ 63)
    (h : a.toInt.natAbs = b.toInt.natAbs) : a.toInt = b.toInt := by
  have hlt := a.toInt_lt
  have hge := a.le_toInt
  have hlt' := b.toInt_lt
  have hge' := b.le_toInt
  rw [roundOf] at ha hb
  omega

/-- **The id of an attempt tells the step and the number.** -/
theorem attemptCommand_id_inj {run : TestRun} {device : DeviceEntry} {d d' : WorkflowStep}
    {a b : Int64} (ha : roundOf a ≤ 2 ^ 63) (hb : roundOf b ≤ 2 ^ 63)
    (h : (attemptCommand run device d a).id = (attemptCommand run device d' b).id) :
    d.id = d'.id ∧ a = b := by
  obtain ⟨habs, hstem⟩ := Go.dash_int_inj h
  have hab := eq_of_natAbs_eq ha hb habs
  exact ⟨(String.append_right_inj _).1 (hstem hab), Int64.toInt_inj.1 hab⟩

/-- **The commands of a workflow** have different ids. -/
theorem AttemptState.Inv.nodup_ids {c : WorkflowCall} {s : AttemptState} (h : s.Inv c) :
    ((s.commands c).map AgentCommand.id).Nodup := by
  rw [commands, List.map_map]
  refine List.Nodup.map_on ?_ h.issued_nodup
  intro x hx y hy hid
  obtain ⟨hxmem, _, hxround⟩ := h.issued_ok x hx
  obtain ⟨hymem, _, hyround⟩ := h.issued_ok y hy
  obtain ⟨hstep, hnumber⟩ := attemptCommand_id_inj hxround hyround hid
  exact Prod.ext (h.shape.wf.eq_of_id_eq hxmem hymem hstep) hnumber

theorem LoopState.nodup_ids {env : WorkflowEnv} (hfit : ∀ d ∈ env.suite.steps, d.RetriesFit)
    {w : Workflow} (hw : Fresh env.suite.steps w) {ctx : Option CtxErr} {store : Store}
    {as : List LoopAct} {s : LoopState}
    (h : Machine.run (LoopState.step env) (LoopState.start w ctx store) as = some s) :
    ((askedAlong env (LoopState.start w ctx store) as).map fun x =>
      (stepCommand env.run env.device x.1 x.2).id).Nodup := by
  obtain ⟨t, ht, hcommands⟩ := exists_commands_eq hfit hw h
  have hnodup := (AttemptState.Inv.of_reachable hw ht).nodup_ids
  rw [hcommands, List.map_map] at hnodup
  exact hnodup

/-! ### The commands of an execution -/

/-- The place of a call among those that issue commands, or zero. -/
def Call.rank : Call → ℕ
  | .sendCommand _ cmd => if cmd.type = "load_driver" then 1 else 2
  | .runWorkflow .. => 3
  | _ => 0

/-- **The commands that a call issues**: `runWorkflow` those of any run of its machine up to any
state, also after its return, when goroutines may be left. -/
inductive Call.Issues : Call → List AgentCommand → Prop
  | command (vmID : String) (cmd : AgentCommand) : Issues (.sendCommand vmID cmd) [cmd]
  | rejected {run : TestRun} {device : DeviceEntry} {vm : VMInstance} {suite : TestSuite}
      {o : NewWorkflowOrders} {err : WorkflowError}
      (h : newWorkflow o suite.id run.id suite.steps = .error err) :
      Issues (.runWorkflow run device vm suite) []
  | accepted {run : TestRun} {device : DeviceEntry} {vm : VMInstance} {suite : TestSuite}
      {o : NewWorkflowOrders} {w : Workflow} {ctx : Option CtxErr} {s : AttemptState}
      (h : newWorkflow o suite.id run.id suite.steps = .ok w)
      (hs : Machine.Reachable (AttemptState.step ⟨run, device, suite⟩)
        (AttemptState.start w ctx) s) :
      Issues (.runWorkflow run device vm suite) (s.commands ⟨run, device, suite⟩)
  | quiet {c : Call} (h : c.rank = 0) : Issues c []

/-- The commands that the calls of an execution issue, one call after the other. -/
inductive Issued : List ((c : Call) × c.Resp) → List AgentCommand → Prop
  | nil : Issued [] []
  | cons {c : Call} {r : c.Resp} {calls : List ((c : Call) × c.Resp)}
      {part cmds : List AgentCommand} (h : c.Issues part) (hrest : Issued calls cmds) :
      Issued (⟨c, r⟩ :: calls) (part ++ cmds)

/-- The first word of the ids of the commands that the calls of a rank issue. -/
def idHead : ℕ → String
  | 1 => "cmd-load-"
  | 2 => "cmd-verify-"
  | _ => "cmd-step-"

/-- The call is about the run with this id. -/
def Call.ForRun (runID : String) : Call → Prop
  | .sendCommand vmID cmd => cmd.id = idHead (Call.sendCommand vmID cmd).rank ++ runID
  | .runWorkflow run .. => run.id = runID
  | _ => True

theorem idHead_append_ne {m n : ℕ} (hm : 0 < m) (hmn : m < n) (hn : n ≤ 3) (s t : String) :
    idHead m ++ s ≠ idHead n ++ t := by
  intro h
  have hchars := congrArg String.toList h
  rw [String.toList_append, String.toList_append] at hchars
  obtain rfl | rfl : m = 1 ∨ m = 2 := by omega
  · obtain rfl | rfl : n = 2 ∨ n = 3 := by omega
    · simp [idHead] at hchars
    · simp [idHead] at hchars
  · obtain rfl : n = 3 := by omega
    simp [idHead] at hchars

theorem Call.rank_le (c : Call) : c.rank ≤ 3 := by
  unfold Call.rank
  split
  · split <;> decide
  · exact Nat.le_refl 3
  · exact Nat.zero_le 3

namespace Call.Issues

variable {c : Call} {runID : String} {cmds : List AgentCommand}

/-- **The ids of the commands of a call** start with the word of its rank. -/
theorem exists_id_eq (h : c.Issues cmds) (hrun : 0 < c.rank → c.ForRun runID) :
    ∀ cmd ∈ cmds, 0 < c.rank ∧ ∃ rest, cmd.id = idHead c.rank ++ rest := by
  cases h with
  | command vmID cmd =>
      intro cmd' hcmd'
      rw [List.mem_singleton.1 hcmd']
      have hpos : 0 < (Call.sendCommand vmID cmd).rank := by
        simp only [rank]
        split
        · exact Nat.one_pos
        · exact Nat.two_pos
      exact ⟨hpos, runID, hrun hpos⟩
  | rejected _ => simp
  | accepted _ _ =>
      intro cmd hcmd
      obtain ⟨x, _, rfl⟩ := List.mem_map.1 hcmd
      refine ⟨Nat.succ_pos 2, ?_⟩
      simp only [attemptCommand, rank, idHead, String.append_assoc]
      exact ⟨_, rfl⟩
  | quiet _ => simp

theorem nodup_ids (h : c.Issues cmds) : (cmds.map AgentCommand.id).Nodup := by
  cases h with
  | command vmID cmd => exact List.nodup_singleton _
  | rejected _ => exact List.nodup_nil
  | accepted hnew hs => exact (AttemptState.Inv.of_reachable (newWorkflow_fresh hnew) hs).nodup_ids
  | quiet _ => exact List.nodup_nil

end Call.Issues

/-- **Calls in order**: those that issue commands are about the run, and their ranks go up. -/
structure InOrder (runID : String) (calls : List ((c : Call) × c.Resp)) : Prop where
  for_run : ∀ x ∈ calls, 0 < x.1.rank → x.1.ForRun runID
  ascending : calls.Pairwise fun x y => 0 < x.1.rank → 0 < y.1.rank → x.1.rank < y.1.rank

theorem Issued.exists_call {calls : List ((c : Call) × c.Resp)} {cmds : List AgentCommand}
    (h : Issued calls cmds) {cmd : AgentCommand} (hcmd : cmd ∈ cmds) :
    ∃ x ∈ calls, ∃ part, x.1.Issues part ∧ cmd ∈ part := by
  induction h with
  | nil => cases hcmd
  | cons hc _ ih =>
      rcases List.mem_append.1 hcmd with hmem | hmem
      · exact ⟨_, List.mem_cons_self, _, hc, hmem⟩
      · obtain ⟨x, hx, hpart⟩ := ih hmem
        exact ⟨x, List.mem_cons_of_mem _ hx, hpart⟩

theorem Issued.of_quiet {l calls : List ((c : Call) × c.Resp)} {cmds : List AgentCommand}
    (hl : ∀ x ∈ l, x.1.rank = 0) (h : Issued calls cmds) : Issued (l ++ calls) cmds := by
  induction l with
  | nil => exact h
  | cons x l ih =>
      obtain ⟨hx, hl⟩ := List.forall_mem_cons.1 hl
      exact .cons (.quiet hx) (ih hl)

/-- **Calls in order issue commands with different ids.** -/
theorem InOrder.nodup_ids {runID : String} {calls : List ((c : Call) × c.Resp)}
    {cmds : List AgentCommand} (h : InOrder runID calls) (hcmds : Issued calls cmds) :
    (cmds.map AgentCommand.id).Nodup := by
  induction hcmds with
  | nil => exact List.nodup_nil
  | @cons c r calls part cmds hc hrest ih =>
      obtain ⟨hfirst, hlater⟩ := List.pairwise_cons.1 h.ascending
      have hrun := List.forall_mem_cons.1 h.for_run
      rw [List.map_append, List.nodup_append]
      refine ⟨hc.nodup_ids, ih ⟨hrun.2, hlater⟩, ?_⟩
      -- a later command has another first word
      intro id hid id' hid'
      obtain ⟨cmd, hcmd, rfl⟩ := List.mem_map.1 hid
      obtain ⟨cmd', hcmd', rfl⟩ := List.mem_map.1 hid'
      obtain ⟨x, hx, part', hpart', hmem'⟩ := hrest.exists_call hcmd'
      obtain ⟨hpos, rest, hrest⟩ := hc.exists_id_eq hrun.1 cmd hcmd
      obtain ⟨hpos', rest', hrest'⟩ := hpart'.exists_id_eq (hrun.2 x hx) cmd' hmem'
      rw [hrest, hrest']
      exact idHead_append_ne hpos (hfirst x hx hpos hpos') x.1.rank_le _ _

/-! ### The order of the calls -/

/-- The call puts the run back for a later execution. -/
def Call.defers : Call → Bool
  | .submitLater _ => true
  | _ => false

/-- **Issuing commands**: the calls that do are about the run and come in order; a run is deferred
only if none of them was made, and none is made afterwards.  The state is the rank of the last of
them, or the highest one after a deferral. -/
def issuing (runID : String) : Protocol Call Call.Resp ℕ where
  allowed q c := (0 < c.rank → c.ForRun runID ∧ q < c.rank) ∧ (c.defers = true → q = 0)
  next q c _ := if c.defers = true then 3 else max q c.rank

section Follows

variable {e : EngineConfig} {run : TestRun} {device : DeviceEntry} {vm : VMInstance}
  {suite : TestSuite} {q : ℕ}

theorem idle_of_rank {c : Call} (hrank : c.rank = 0) (hdefers : c.defers = false)
    (runID : String) : (issuing runID).Idle c := by
  intro q
  refine ⟨⟨fun hpos => ?_, fun hd => ?_⟩, fun _ => ?_⟩
  · rw [hrank] at hpos
    exact absurd hpos (Nat.lt_irrefl 0)
  · rw [hdefers] at hd
    cases hd
  · simp [issuing, hrank, hdefers]

theorem issuing_call_bind {α : Type} {c : Call} {f : c.Resp → EngineProg α} {runID : String}
    {post : α → ℕ → Prop} (hrank : c.rank = 0) (hdefers : c.defers = false)
    (hf : ∀ r, (f r).Follows (issuing runID) post q) :
    (call c >>= f).Follows (issuing runID) post q :=
  (Prog.Calls.perform (idle_of_rank hrank hdefers runID)).bind_follows hf

theorem issuing_last {α : Type} {runID : String} {p : EngineProg α}
    (h : p.Calls (issuing runID).Idle) : p.Follows (issuing runID) (fun _ _ => True) q :=
  (h.follows_idle q).mono fun _ _ _ => trivial

theorem issuing_finish {st : TestRunStatus} {msg runID : String} {r : Except String Unit} :
    (setStatus run st msg >>= fun _ => (pure r : EngineProg (Except String Unit))).Follows
      (issuing runID) (fun _ _ => True) q :=
  issuing_last (calls_finish (idle_of_rank rfl rfl runID))

theorem issuing_recordVerdict {runID : String} :
    (recordVerdict run).Follows (issuing runID) (fun _ _ => True) q :=
  issuing_call_bind rfl rfl fun _ => issuing_finish

theorem issuing_requirePassed {cmd : AgentCommand} {what runID : String}
    (hallowed : (issuing runID).allowed q (.sendCommand vm.id cmd)) :
    (requirePassed vm cmd what).Follows (issuing runID)
      (fun _ q' => q' = max q (Call.sendCommand vm.id cmd).rank) q := by
  refine Prog.Follows.perform_bind hallowed fun ans => ?_
  cases ans with
  | error err => rfl
  | ok res =>
      dsimp only
      split
      · rfl
      · rfl

theorem issuing_runSuite (hq : q < 3) :
    (runSuite run device vm suite).Follows (issuing run.id) (fun _ _ => True) q := by
  refine Prog.Follows.perform_bind ⟨fun _ => ⟨rfl, hq⟩, fun h => by cases h⟩ fun ret => ?_
  cases ret with
  | ok => exact issuing_recordVerdict
  | failed f sk => exact issuing_recordVerdict
  | error err => exact issuing_finish

theorem issuing_verifyAndRun (hq : q < 2) :
    (verifyAndRun run device vm suite).Follows (issuing run.id) (fun _ _ => True) q := by
  unfold verifyAndRun
  split
  · have hallowed : (issuing run.id).allowed q (.sendCommand vm.id (verifyCommand run device)) :=
      ⟨fun _ => ⟨rfl, hq⟩, fun h => by cases h⟩
    refine Prog.Follows.bind (issuing_requirePassed hallowed) fun ans q' hq' => ?_
    have hnext : q' < 3 := by
      rw [hq']
      exact Nat.lt_of_le_of_lt (Nat.max_le.2 ⟨Nat.le_of_lt hq, Nat.le_refl 2⟩) (by decide)
    cases ans with
    | error err => exact issuing_finish
    | ok u => exact issuing_runSuite hnext
  · exact issuing_runSuite (Nat.lt_succ_of_lt hq)

theorem issuing_runTests (run : TestRun) :
    (runTests e run device vm suite).Follows (issuing run.id) (fun _ _ => True) 0 := by
  unfold runTests
  split
  · refine issuing_call_bind rfl rfl fun ans => ?_
    cases ans with
    | error err => exact issuing_finish
    | ok u =>
        have hallowed : (issuing run.id).allowed 0 (.sendCommand vm.id (loadCommand run device)) :=
          ⟨fun _ => ⟨rfl, Nat.one_pos⟩, fun _ => rfl⟩
        refine Prog.Follows.bind (issuing_requirePassed hallowed) fun ans q' hq' => ?_
        have hnext : q' < 2 := by
          rw [hq']
          exact Nat.lt_succ_self 1
        cases ans with
        | error err => exact issuing_finish
        | ok u => exact issuing_verifyAndRun hnext
  · exact issuing_recordVerdict

theorem issuing_runOnVM :
    (runOnVM e run device suite).Follows (issuing run.id) (fun _ _ => True) 0 := by
  refine issuing_call_bind rfl rfl fun ans => ?_
  cases ans with
  | error err => exact issuing_finish
  | ok vm =>
      refine Prog.Calls.bind_follows (calls_ifCoordinator (idle_of_rank rfl rfl _)) fun _ => ?_
      refine issuing_call_bind rfl rfl fun ans => ?_
      cases ans with
      | error err =>
          refine Prog.Calls.bind_follows (calls_ifCoordinator (idle_of_rank rfl rfl _)) fun _ => ?_
          exact issuing_call_bind rfl rfl fun _ => issuing_finish
      | ok u =>
          refine Prog.Follows.bind (issuing_runTests { run with vmID := vm.id }) fun r _ _ => ?_
          have hidle : ∀ {c : Call}, c.rank = 0 → c.defers = false → (issuing run.id).Idle c :=
            fun hrank hdefers => idle_of_rank hrank hdefers run.id
          exact Prog.Calls.bind_follows
            (calls_teardown (hidle rfl rfl) (hidle rfl rfl) (hidle rfl rfl)) fun _ => trivial

theorem issuing_runWithBudget :
    (runWithBudget e run device suite).Follows (issuing run.id) (fun _ _ => True) 0 := by
  unfold runWithBudget
  cases e.allocator with
  | none => exact issuing_runOnVM
  | some alloc =>
      refine issuing_call_bind rfl rfl fun acquired => ?_
      cases acquired with
      | true =>
          refine Prog.Follows.bind issuing_runOnVM fun r _ _ => ?_
          exact issuing_call_bind rfl rfl fun _ => trivial
      | false =>
          have hlater : (issuing run.id).allowed 0 (.submitLater run) :=
            ⟨fun hpos => absurd hpos (Nat.lt_irrefl 0), fun _ => rfl⟩
          refine Prog.Calls.bind_follows (calls_setStatus (idle_of_rank rfl rfl _)) fun _ => ?_
          exact Prog.Follows.perform_bind hlater fun _ => trivial

/-- **An execution issues its commands in order**, whatever its calls are answered. -/
theorem issuing_executeTestRun (e : EngineConfig) (run : TestRun) :
    (executeTestRun e run).Follows (issuing run.id) (fun _ _ => True) 0 := by
  refine issuing_call_bind rfl rfl fun ans => ?_
  cases ans with
  | error err => trivial
  | ok u =>
      refine issuing_call_bind rfl rfl fun ans => ?_
      cases ans with
      | error err => exact issuing_finish
      | ok device =>
          dsimp only
          split
          · refine issuing_call_bind rfl rfl fun ans => ?_
            cases ans with
            | error err => exact issuing_finish
            | ok suite => exact issuing_runWithBudget
          · exact issuing_finish

end Follows

/-! ### The commands of a run -/

section Runs

variable {α : Type} {runID : String} {post : α → ℕ → Prop}

/-- **The calls of a program that follows the protocol** are in order, above the rank where it
starts. -/
theorem inOrder_of_follows {p : EngineProg α} {calls : List ((c : Call) × c.Resp)} {a : α}
    (h : p.Runs calls a) : ∀ {q : ℕ}, p.Follows (issuing runID) post q →
      InOrder runID calls ∧ ∀ x ∈ calls, 0 < x.1.rank → q < x.1.rank := by
  induction h with
  | pure a =>
      intro q _
      exact ⟨⟨fun _ hx => absurd hx List.not_mem_nil, List.Pairwise.nil⟩,
        fun _ hx => absurd hx List.not_mem_nil⟩
  | @call c k r calls a _ ih =>
      intro q hf
      obtain ⟨⟨hrank, hdefers⟩, hrest⟩ := hf
      obtain ⟨hin, habove⟩ := ih (hrest r)
      have hle : max q c.rank ≤ (issuing runID).next q c r := by
        simp only [issuing]
        split
        · next hd =>
            rw [hdefers hd]
            exact Nat.max_le.2 ⟨Nat.zero_le 3, c.rank_le⟩
        · exact Nat.le_refl _
      obtain ⟨hq, hc⟩ := Nat.max_le.1 hle
      refine ⟨⟨?_, ?_⟩, ?_⟩
      · exact List.forall_mem_cons.2 ⟨fun hpos => (hrank hpos).1, hin.for_run⟩
      · refine List.pairwise_cons.2 ⟨fun x hx _ hpos => ?_, hin.ascending⟩
        exact Nat.lt_of_le_of_lt hc (habove x hx hpos)
      · refine List.forall_mem_cons.2 ⟨fun hpos => (hrank hpos).2, fun x hx hpos => ?_⟩
        exact Nat.lt_of_le_of_lt hq (habove x hx hpos)

theorem Call.rank_eq_zero_of_defers {c : Call} (h : c.defers = true) : c.rank = 0 := by
  cases c <;> first | rfl | cases h

/-- **A program that defers the run** issues nothing. -/
theorem rank_eq_zero_of_deferred {p : EngineProg α} {calls : List ((c : Call) × c.Resp)} {a : α}
    (h : p.Runs calls a) : ∀ {q : ℕ}, p.Follows (issuing runID) post q →
      (∃ x ∈ calls, x.1.defers = true) → q = 0 ∧ ∀ x ∈ calls, x.1.rank = 0 := by
  induction h with
  | pure a =>
      rintro q _ ⟨x, hx, _⟩
      cases hx
  | @call c k r calls a hruns ih =>
      intro q hf hdefer
      obtain ⟨⟨_, hdefers⟩, hrest⟩ := hf
      by_cases hc : c.defers = true
      · -- the state after the call is the highest rank
        have hnext : (issuing runID).next q c r = 3 := if_pos hc
        have habove := (inOrder_of_follows hruns (hrest r)).2
        rw [hnext] at habove
        refine ⟨hdefers hc, List.forall_mem_cons.2 ⟨Call.rank_eq_zero_of_defers hc, ?_⟩⟩
        intro x hx
        by_contra hne
        exact absurd (habove x hx (Nat.pos_of_ne_zero hne)) (Nat.not_lt.2 x.1.rank_le)
      · -- the state before the deferral is zero, so it was so all along
        have hnext : (issuing runID).next q c r = max q c.rank := if_neg hc
        have hlater : ∃ x ∈ calls, x.1.defers = true := by
          obtain ⟨x, hx, hd⟩ := hdefer
          rcases List.mem_cons.1 hx with rfl | hx
          · exact absurd hd hc
          · exact ⟨x, hx, hd⟩
        obtain ⟨hzero, hcalls⟩ := ih (hrest r) hlater
        rw [hnext, Nat.max_eq_zero_iff] at hzero
        exact ⟨hzero.1, List.forall_mem_cons.2 ⟨hzero.2, hcalls⟩⟩

end Runs

/-- **The executions of a run**, one after the other: all but the last one have deferred it. -/
inductive Executes (e : EngineConfig) (run : TestRun) : List ((c : Call) × c.Resp) → Prop
  | last {calls : List ((c : Call) × c.Resp)} {r : Except String Unit}
      (h : (executeTestRun e run).Runs calls r) : Executes e run calls
  | again {calls later : List ((c : Call) × c.Resp)} {r : Except String Unit}
      (h : (executeTestRun e run).Runs calls r) (hdefer : ∃ x ∈ calls, x.1.defers = true)
      (hlater : Executes e run later) : Executes e run (calls ++ later)

theorem Executes.inOrder {e : EngineConfig} {run : TestRun} {calls : List ((c : Call) × c.Resp)}
    (h : Executes e run calls) : InOrder run.id calls := by
  induction h with
  | last h => exact (inOrder_of_follows h (issuing_executeTestRun e run)).1
  | again h hdefer _ ih =>
      have hfirst := (inOrder_of_follows h (issuing_executeTestRun e run)).1
      have hzero := (rank_eq_zero_of_deferred h (issuing_executeTestRun e run) hdefer).2
      refine ⟨List.forall_mem_append.2 ⟨hfirst.for_run, ih.for_run⟩, ?_⟩
      refine List.pairwise_append.2 ⟨hfirst.ascending, ih.ascending, fun x hx y _ hpos => ?_⟩
      rw [hzero x hx] at hpos
      exact absurd hpos (Nat.lt_irrefl 0)

/-- **No two commands of a run have the same id.**  Whatever the calls of `executeTestRun` are
answered and however often the run is deferred, the commands that load the driver, check the device
and start the attempts of the steps have different ids, for every workflow that `NewWorkflow`
accepts, whatever the ids of its steps are, in every interleaving of their goroutines and with every
answer of the agent. -/
theorem command_ids_distinct (e : EngineConfig) (run : TestRun)
    {calls : List ((c : Call) × c.Resp)} (h : Executes e run calls) {cmds : List AgentCommand}
    (hcmds : Issued calls cmds) : (cmds.map AgentCommand.id).Nodup :=
  h.inOrder.nodup_ids hcmds

/-- A suite in which the id of a step is that of another one with a dash and a digit. -/
def dashedSuite : TestSuite where
  id := "vishwa/dma"
  steps := [{ id := "s-1" }, { id := "s", retryMax := 1 }]

/-- A run of it, its device and its machine. -/
def dashedRun : TestRun where
  id := "r"
  deviceID := "dev"
  testSuiteID := "vishwa/dma"
  status := .pending
  vmID := "vm"

def dashedDevice : DeviceEntry := { id := "dev" }

def dashedVM : VMInstance := { id := "vm", status := .creating }

def dashedWorkflow : WorkflowCall := ⟨dashedRun, dashedDevice, dashedSuite⟩

/-- Both steps are started, and the first attempt of one fails and is made again. -/
def dashedAttempts : List AttemptAct :=
  [.loop, .issue 0, .answer 0 (.error "lost"), .issue 0, .issue 1]

/-- The calls of an execution in which nothing else fails. -/
def dashedCalls : List ((c : Call) × c.Resp) :=
  [⟨.updateTestRunStatus "r" .running "", .ok ()⟩, ⟨.findDevice "dev", .ok dashedDevice⟩,
    ⟨.loadTestSuite "vishwa/dma" dashedDevice, .ok dashedSuite⟩,
    ⟨.createVM dashedDevice, .ok dashedVM⟩, ⟨.registerVM "vm", ()⟩,
    ⟨.startVM "vm", .ok ()⟩, ⟨.waitForAgent "vm", .ok ()⟩,
    ⟨.sendCommand "vm" (loadCommand dashedRun dashedDevice), .ok { status := "passed" }⟩,
    ⟨.sendCommand "vm" (verifyCommand dashedRun dashedDevice), .ok { status := "passed" }⟩,
    ⟨.runWorkflow dashedRun dashedDevice dashedVM dashedSuite, .ok⟩,
    ⟨.getTestResults "r", .ok []⟩, ⟨.updateTestRunStatus "r" .passed "", .ok ()⟩,
    ⟨.unregisterVM "vm", ()⟩, ⟨.stopVM .background "vm", .ok ()⟩,
    ⟨.destroyVM .background "vm", .ok ()⟩]

theorem runs_dashedCalls : (executeTestRun ⟨none, true⟩ dashedRun).Runs dashedCalls (.ok ()) := by
  repeat' constructor

theorem exists_dashedAttempts : ∃ w s,
    newWorkflow storedOrders "vishwa/dma" "r" dashedSuite.steps = .ok w ∧
      Machine.run (AttemptState.step dashedWorkflow) (AttemptState.start w none) dashedAttempts =
        some s ∧
      (s.commands dashedWorkflow).map AgentCommand.id =
        ["cmd-step-r-s-0", "cmd-step-r-s-1", "cmd-step-r-s-1-0"] := by
  have hids : ((newWorkflow storedOrders "vishwa/dma" "r" dashedSuite.steps).toOption.bind fun w =>
      (Machine.run (AttemptState.step dashedWorkflow) (AttemptState.start w none)
        dashedAttempts).map fun s => (s.commands dashedWorkflow).map AgentCommand.id) =
      some ["cmd-step-r-s-0", "cmd-step-r-s-1", "cmd-step-r-s-1-0"] := by decide +kernel
  cases hw : newWorkflow storedOrders "vishwa/dma" "r" dashedSuite.steps with
  | error err =>
      rw [hw] at hids
      cases hids
  | ok w =>
      rw [hw] at hids
      obtain ⟨s, hs, hcmds⟩ := Option.map_eq_some_iff.1 hids
      exact ⟨w, s, rfl, hs, hcmds⟩

/-- The ids of an execution whose step ids have dashes and digits. -/
theorem command_ids_distinct_dashed : ∃ cmds, Issued dashedCalls cmds ∧
    cmds.map AgentCommand.id = ["cmd-load-r", "cmd-verify-r", "cmd-step-r-s-0", "cmd-step-r-s-1",
      "cmd-step-r-s-1-0"] ∧ (cmds.map AgentCommand.id).Nodup := by
  obtain ⟨w, s, hnew, hs, hids⟩ := exists_dashedAttempts
  have hload := Call.Issues.command "vm" (loadCommand dashedRun dashedDevice)
  have hverify := Call.Issues.command "vm" (verifyCommand dashedRun dashedDevice)
  have hsteps : (Call.runWorkflow dashedRun dashedDevice dashedVM dashedSuite).Issues
      (s.commands dashedWorkflow) := .accepted hnew ⟨_, hs⟩
  have hcmds : Issued dashedCalls ([loadCommand dashedRun dashedDevice] ++
      ([verifyCommand dashedRun dashedDevice] ++ (s.commands dashedWorkflow ++ []))) :=
    .of_quiet (l := dashedCalls.take 7) (by decide) (.cons hload (.cons hverify (.cons hsteps
      (.of_quiet (l := dashedCalls.drop 10) (by decide) .nil))))
  refine ⟨_, hcmds, ?_, command_ids_distinct ⟨none, true⟩ dashedRun (.last runs_dashedCalls) hcmds⟩
  rw [List.append_nil, List.map_append, List.map_append, hids]
  rfl

end Dvf
