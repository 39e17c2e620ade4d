/-
**The agent coordinator** (`internal/core/agent_state.go`).

For each virtual machine the coordinator keeps an agent state: a channel for commands with room for
16, and a table of channels, one for each command that is waited for.  `SendCommand` looks the agent
state up, enters its channel into the table, puts its command into the command channel, waits for a
result or for the end of its context, and takes its channel out of the table.  `GetNextCommand`
takes a command, `DeliverResult` puts a result into the channel that the table has for it.  The
table is under a lock, but the channels are used outside of it, and `UnregisterVM` closes the
command channel.

The calls are those of any number of goroutines, and each action is one atomic step of one call: a
section under a lock, or one case of a `select`.  A call that is blocked on a channel and one that
is about to use it are not told apart; a value that Go hands directly to a blocked receiver is a
send with the receipt right after it.  The agent states are numbered in the order of their creation,
since a call may still hold one that is no longer in the map.  Calls are numbered as well, and some
of the times of their steps are recorded; no action depends on the recorded values.

Main definitions:

* `Dvf.AgentState` — an agent state with its channels;
* `Dvf.SendCall`, `Dvf.GetCall`, `Dvf.DeliverCall`, `Dvf.NotifyCall` — calls and where they are;
* `Dvf.CoordState`, `Dvf.CoordAct`, `Dvf.CoordState.step` — the machine.

Main results:

* `Dvf.CoordState.exists_act` and one lemma for each action — what the next state is.
-/

import Dvf.Machine
import Dvf.Store

set_option autoImplicit false

namespace Dvf

open Go

/-! ### Calls -/

/-- An agent state.  The command channel holds commands with the number of the call that sent them;
a result channel is named by the number of the call that made it.  The last two fields record what
was put into the command channel, and what was taken out of it, by which call. -/
structure AgentState where
  vmID : String
  agentID : String := ""
  ready : Bool := false
  readyOnce : Bool := false
  commands : List (ℕ × AgentCommand) := []
  closed : Bool := false
  resultWaiters : GoMap String ℕ := ∅
  sent : List (ℕ × AgentCommand) := []
  handedOut : List (ℕ × ℕ × AgentCommand) := []

/-- What `SendCommand` returns; a result comes with the number of the call that delivered it. -/
inductive SendOut
  | result (d : ℕ) (r : AgentResult)
  | ctxErr (e : CtxErr)
  | noAgent (msg : String)
  deriving DecidableEq, Repr

/-- Where a call of `SendCommand` is, and on which agent state: before the table, before the first
`select`, before the second one, before the deferred removal, or returned, at some time. -/
inductive SendPC
  | registering (o : ℕ)
  | enqueuing (o : ℕ)
  | waiting (o : ℕ)
  | returning (o : ℕ) (out : SendOut)
  | returned (out : SendOut) (time : ℕ)
  deriving DecidableEq, Repr

/-- A call of `SendCommand`, with its result channel.  When it entered its channel into the table,
and into which agent state it put its command, is recorded. -/
structure SendCall where
  vmID : String
  cmd : AgentCommand
  pc : SendPC
  resultCh : Option (ℕ × AgentResult) := none
  registeredAt : Option ℕ := none
  enqueuedOn : Option ℕ := none
  deriving DecidableEq, Repr

/-- What `GetNextCommand` returns; a command comes with the number of the call that sent it. -/
inductive GetOut
  | command (i : ℕ) (cmd : AgentCommand)
  | closed (msg : String)
  | ctxErr (e : CtxErr)
  | noAgent (msg : String)
  deriving DecidableEq, Repr

/-- Where a call of `GetNextCommand` is. -/
inductive GetPC
  | receiving (o : ℕ)
  | returned (out : GetOut) (time : ℕ)
  deriving DecidableEq, Repr

/-- A call of `GetNextCommand`. -/
structure GetCall where
  vmID : String
  pc : GetPC
  deriving DecidableEq, Repr

/-- Where a call of `DeliverResult` is: before the table, before the send on the channel that it
found there, or returned, with an error or without. -/
inductive DeliverPC
  | finding (o : ℕ)
  | sending (i : ℕ)
  | returned (err : Option String)
  deriving DecidableEq, Repr

/-- A call of `DeliverResult`.  Which channel it found, and when, is recorded. -/
structure DeliverCall where
  vmID : String
  result : AgentResult
  pc : DeliverPC
  found : Option (ℕ × ℕ) := none
  deriving DecidableEq, Repr

/-- A call of `NotifyAgentReady` that has found the agent state, and whether it has returned. -/
structure NotifyCall where
  agentID : String
  agent : ℕ
  done : Bool := false
  deriving DecidableEq, Repr

/-! ### The machine -/

/-- Why the program has panicked. -/
inductive ChanPanic
  | sendOnClosed
  | closeOfClosed
  deriving DecidableEq, Repr

/-- The state: all agent states that were made, and the map of the current ones; the calls; whether
the program has panicked; and a clock that counts the actions. -/
structure CoordState where
  objects : List AgentState := []
  agents : GoMap String ℕ := ∅
  sends : List SendCall := []
  gets : List GetCall := []
  delivers : List DeliverCall := []
  notifies : List NotifyCall := []
  panicked : Option ChanPanic := none
  time : ℕ := 0

/-- The actions.  Each call starts with the lookup of the agent state. -/
inductive CoordAct
  | registerVM (vmID : String)
  | unregisterVM (vmID : String)
  | notifyAgentReady (vmID agentID : String)
  | closeReady (k : ℕ)
  | sendCommand (vmID : String) (cmd : AgentCommand)
  | registerWaiter (i : ℕ)
  | enqueue (i : ℕ)
  | receiveResult (i : ℕ)
  | abandon (i : ℕ) (e : CtxErr)
  | removeWaiter (i : ℕ)
  | getNextCommand (vmID : String)
  | receiveCommand (g : ℕ)
  | abandonGet (g : ℕ) (e : CtxErr)
  | deliverResult (vmID : String) (r : AgentResult)
  | findWaiter (d : ℕ)
  | sendResult (d : ℕ)
  | timeoutDeliver (d : ℕ)
  deriving DecidableEq, Repr

/-- The error of a call for a machine that is not registered. -/
def noAgentState (vmID : String) : String := "no agent state for VM " ++ vmID

namespace CoordState

/-- `RegisterVM`. -/
def registerVM (s : CoordState) (vmID : String) : CoordState :=
  { s with
    objects := s.objects ++ [{ vmID := vmID }]
    agents := s.agents.insert vmID s.objects.length }

/-- `UnregisterVM`. -/
def unregisterVM (s : CoordState) (vmID : String) : Option CoordState :=
  match s.agents.lookup vmID with
  | none => some s
  | some o =>
      match s.objects[o]? with
      | none => none
      | some obj =>
          if obj.closed = true then some { s with panicked := some .closeOfClosed }
          else
            some { s with
              objects := s.objects.set o { obj with closed := true }
              agents := s.agents.erase vmID }

/-- The second step of `NotifyAgentReady`: the channel is closed once. -/
def closeReady (s : CoordState) (k : ℕ) : Option CoordState :=
  match s.notifies[k]? with
  | some ⟨agentID, o, false⟩ =>
      match s.objects[o]? with
      | some obj =>
          let s := { s with notifies := s.notifies.set k ⟨agentID, o, true⟩ }
          if obj.readyOnce = true then
            some { s with objects := s.objects.set o { obj with agentID := agentID } }
          else if obj.ready = true then some { s with panicked := some .closeOfClosed }
          else
            some { s with
              objects := s.objects.set o
                { obj with agentID := agentID, ready := true, readyOnce := true } }
      | none => none
  | _ => none

/-- The first critical section of `SendCommand` on the agent state. -/
def registerWaiter (s : CoordState) (i : ℕ) : Option CoordState :=
  match s.sends[i]? with
  | some c =>
      match c.pc with
      | .registering o =>
          match s.objects[o]? with
          | some obj =>
              some { s with
                objects := s.objects.set o
                  { obj with resultWaiters := obj.resultWaiters.insert c.cmd.id i }
                sends := s.sends.set i
                  { c with pc := .enqueuing o, registeredAt := some s.time } }
          | none => none
      | _ => none
  | none => none

/-- The send case of the first `select` of `SendCommand`. -/
def enqueue (s : CoordState) (i : ℕ) : Option CoordState :=
  match s.sends[i]? with
  | some c =>
      match c.pc with
      | .enqueuing o =>
          match s.objects[o]? with
          | some obj =>
              if obj.closed = true then some { s with panicked := some .sendOnClosed }
              else if obj.commands.length < 16 then
                some { s with
                  objects := s.objects.set o
                    { obj with
                      commands := obj.commands ++ [(i, c.cmd)]
                      sent := obj.sent ++ [(i, c.cmd)] }
                  sends := s.sends.set i { c with pc := .waiting o, enqueuedOn := some o } }
              else none
          | none => none
      | _ => none
  | none => none

/-- The result case of the second `select` of `SendCommand`. -/
def receiveResult (s : CoordState) (i : ℕ) : Option CoordState :=
  match s.sends[i]? with
  | some c =>
      match c.pc, c.resultCh with
      | .waiting o, some (d, r) =>
          some { s with
            sends := s.sends.set i { c with pc := .returning o (.result d r), resultCh := none } }
      | _, _ => none
  | none => none

/-- The other case of either `select` of `SendCommand`. -/
def abandon (s : CoordState) (i : ℕ) (e : CtxErr) : Option CoordState :=
  match s.sends[i]? with
  | some c =>
      match c.pc with
      | .enqueuing o | .waiting o =>
          some { s with sends := s.sends.set i { c with pc := .returning o (.ctxErr e) } }
      | _ => none
  | none => none

/-- The deferred function of `SendCommand`, and its return. -/
def removeWaiter (s : CoordState) (i : ℕ) : Option CoordState :=
  match s.sends[i]? with
  | some c =>
      match c.pc with
      | .returning o out =>
          match s.objects[o]? with
          | some obj =>
              some { s with
                objects := s.objects.set o
                  { obj with resultWaiters := obj.resultWaiters.erase c.cmd.id }
                sends := s.sends.set i { c with pc := .returned out s.time } }
          | none => none
      | _ => none
  | none => none

/-- The receive case of `GetNextCommand`; a closed channel is emptied first. -/
def receiveCommand (s : CoordState) (g : ℕ) : Option CoordState :=
  match s.gets[g]? with
  | some ⟨vmID, .receiving o⟩ =>
      match s.objects[o]? with
      | some obj =>
          match obj.commands with
          | (i, cmd) :: rest =>
              some { s with
                objects := s.objects.set o
                  { obj with commands := rest, handedOut := obj.handedOut ++ [(g, i, cmd)] }
                gets := s.gets.set g ⟨vmID, .returned (.command i cmd) s.time⟩ }
          | [] =>
              if obj.closed = true then
                some { s with
                  gets := s.gets.set g
                    ⟨vmID, .returned (.closed ("command channel closed for VM " ++ vmID)) s.time⟩ }
              else none
      | none => none
  | _ => none

/-- The other case of `GetNextCommand`. -/
def abandonGet (s : CoordState) (g : ℕ) (e : CtxErr) : Option CoordState :=
  match s.gets[g]? with
  | some ⟨vmID, .receiving _⟩ =>
      some { s with gets := s.gets.set g ⟨vmID, .returned (.ctxErr e) s.time⟩ }
  | _ => none

/-- The critical section of `DeliverResult` on the agent state. -/
def findWaiter (s : CoordState) (d : ℕ) : Option CoordState :=
  match s.delivers[d]? with
  | some x =>
      match x.pc with
      | .finding o =>
          match s.objects[o]? with
          | some obj =>
              match obj.resultWaiters.lookup x.result.commandID with
              | some i =>
                  some { s with
                    delivers := s.delivers.set d
                      { x with pc := .sending i, found := some (i, s.time) } }
              | none =>
                  let msg := "no waiter for command " ++ x.result.commandID ++ " in VM " ++ x.vmID
                  some { s with delivers := s.delivers.set d { x with pc := .returned (some msg) } }
          | none => none
      | _ => none
  | none => none

/-- The send case of `DeliverResult`. -/
def sendResult (s : CoordState) (d : ℕ) : Option CoordState :=
  match s.delivers[d]? with
  | some x =>
      match x.pc with
      | .sending i =>
          match s.sends[i]? with
          | some c =>
              match c.resultCh with
              | none =>
                  some { s with
                    sends := s.sends.set i { c with resultCh := some (d, x.result) }
                    delivers := s.delivers.set d { x with pc := .returned none } }
              | some _ => none
          | none => none
      | _ => none
  | none => none

/-- The other case of `DeliverResult`. -/
def timeoutDeliver (s : CoordState) (d : ℕ) : Option CoordState :=
  match s.delivers[d]? with
  | some x =>
      match x.pc with
      | .sending _ =>
          let msg := "timeout delivering result for command " ++ x.result.commandID
          some { s with delivers := s.delivers.set d { x with pc := .returned (some msg) } }
      | _ => none
  | none => none

/-- One action of a program that has not panicked. -/
def act (s : CoordState) : CoordAct → Option CoordState
  | .registerVM vmID => some (s.registerVM vmID)
  | .unregisterVM vmID => s.unregisterVM vmID
  | .notifyAgentReady vmID agentID =>
      match s.agents.lookup vmID with
      | some o => some { s with notifies := s.notifies ++ [⟨agentID, o, false⟩] }
      | none => some s
  | .closeReady k => s.closeReady k
  | .sendCommand vmID cmd =>
      match s.agents.lookup vmID with
      | some o =>
          some { s with sends := s.sends ++ [⟨vmID, cmd, .registering o, none, none, none⟩] }
      | none =>
          let pc := .returned (.noAgent (noAgentState vmID)) s.time
          some { s with sends := s.sends ++ [⟨vmID, cmd, pc, none, none, none⟩] }
  | .registerWaiter i => s.registerWaiter i
  | .enqueue i => s.enqueue i
  | .receiveResult i => s.receiveResult i
  | .abandon i e => s.abandon i e
  | .removeWaiter i => s.removeWaiter i
  | .getNextCommand vmID =>
      match s.agents.lookup vmID with
      | some o => some { s with gets := s.gets ++ [⟨vmID, .receiving o⟩] }
      | none =>
          let pc := .returned (.noAgent (noAgentState vmID)) s.time
          some { s with gets := s.gets ++ [⟨vmID, pc⟩] }
  | .receiveCommand g => s.receiveCommand g
  | .abandonGet g e => s.abandonGet g e
  | .deliverResult vmID r =>
      match s.agents.lookup vmID with
      | some o => some { s with delivers := s.delivers ++ [⟨vmID, r, .finding o, none⟩] }
      | none =>
          let pc := .returned (some (noAgentState vmID))
          some { s with delivers := s.delivers ++ [⟨vmID, r, pc, none⟩] }
  | .findWaiter d => s.findWaiter d
  | .sendResult d => s.sendResult d
  | .timeoutDeliver d => s.timeoutDeliver d

def tick (s : CoordState) : CoordState := { s with time := s.time + 1 }

/-- **One action of the machine**; nothing happens after a panic. -/
def step (s : CoordState) (a : CoordAct) : Option CoordState :=
  match s.panicked with
  | some _ => none
  | none => (s.act a).map tick

/-- `NewAgentCoordinator`. -/
def start : CoordState := {}

/-! ### What an action does -/

variable {s s' : CoordState} {i g d k : ℕ} {e : CtxErr}

theorem exists_act {a : CoordAct} (h : s.step a = some s') :
    s.panicked = none ∧ ∃ s₁, s.act a = some s₁ ∧ s' = s₁.tick := by
  rw [step] at h
  split at h
  · cases h
  · next hp =>
      obtain ⟨s₁, h₁, rfl⟩ := Option.map_eq_some_iff.1 h
      exact ⟨hp, s₁, h₁, rfl⟩

theorem exists_of_unregisterVM {vmID : String} (h : s.unregisterVM vmID = some s') :
    s.agents.lookup vmID = none ∧ s' = s ∨
      ∃ o obj, s.agents.lookup vmID = some o ∧ s.objects[o]? = some obj ∧
        (obj.closed = true ∧ s' = { s with panicked := some .closeOfClosed } ∨
          obj.closed = false ∧
            s' = { s with
              objects := s.objects.set o { obj with closed := true }
              agents := s.agents.erase vmID }) := by
  rw [unregisterVM] at h
  split at h
  · next hl =>
      cases h
      exact Or.inl ⟨hl, rfl⟩
  · next o hl =>
      split at h
      · cases h
      · next obj ho =>
          split at h
          · next hcl =>
              cases h
              exact Or.inr ⟨o, obj, hl, ho, Or.inl ⟨hcl, rfl⟩⟩
          · next hcl =>
              cases h
              exact Or.inr ⟨o, obj, hl, ho, Or.inr ⟨Bool.eq_false_iff.2 hcl, rfl⟩⟩

theorem exists_of_closeReady (h : s.closeReady k = some s') :
    ∃ agentID o obj, s.notifies[k]? = some ⟨agentID, o, false⟩ ∧ s.objects[o]? = some obj ∧
      ((obj.readyOnce = false ∧ obj.ready = true ∧ s'.panicked = some .closeOfClosed ∧
          s'.objects = s.objects) ∨
        (obj.readyOnce = true ∨ obj.ready = false) ∧ s'.panicked = s.panicked ∧
          s'.objects = s.objects.set o
            { obj with
              agentID := agentID
              ready := obj.ready || !obj.readyOnce
              readyOnce := true }) ∧
      s' = { s with
        objects := s'.objects
        notifies := s.notifies.set k ⟨agentID, o, true⟩
        panicked := s'.panicked } := by
  rw [closeReady] at h
  split at h
  · next agentID o hk =>
      split at h
      · next obj ho =>
          refine ⟨agentID, o, obj, hk, ho, ?_⟩
          dsimp only at h
          split at h
          · next hr =>
              cases h
              refine ⟨Or.inr ⟨Or.inl hr, rfl, ?_⟩, rfl⟩
              simp [hr]
          · next hr =>
              split at h
              · next hrd =>
                  cases h
                  exact ⟨Or.inl ⟨Bool.eq_false_iff.2 hr, hrd, rfl, rfl⟩, rfl⟩
              · next hrd =>
                  cases h
                  refine ⟨Or.inr ⟨Or.inr (Bool.eq_false_iff.2 hrd), rfl, ?_⟩, rfl⟩
                  simp [hr]
      · cases h
  · cases h

theorem exists_of_registerWaiter (h : s.registerWaiter i = some s') :
    ∃ c o obj, s.sends[i]? = some c ∧ c.pc = .registering o ∧ s.objects[o]? = some obj ∧
      s' = { s with
        objects := s.objects.set o
          { obj with resultWaiters := obj.resultWaiters.insert c.cmd.id i }
        sends := s.sends.set i { c with pc := .enqueuing o, registeredAt := some s.time } } := by
  rw [registerWaiter] at h
  split at h
  · next c hc =>
      split at h
      · next o hpc =>
          split at h
          · next obj ho =>
              cases h
              exact ⟨c, o, obj, hc, hpc, ho, rfl⟩
          · cases h
      · cases h
  · cases h

theorem exists_of_enqueue (h : s.enqueue i = some s') :
    ∃ c o obj, s.sends[i]? = some c ∧ c.pc = .enqueuing o ∧ s.objects[o]? = some obj ∧
      (obj.closed = true ∧ s' = { s with panicked := some .sendOnClosed } ∨
        obj.closed = false ∧
          s' = { s with
            objects := s.objects.set o
              { obj with
                commands := obj.commands ++ [(i, c.cmd)]
                sent := obj.sent ++ [(i, c.cmd)] }
            sends := s.sends.set i { c with pc := .waiting o, enqueuedOn := some o } }) := by
  rw [enqueue] at h
  split at h
  · next c hc =>
      split at h
      · next o hpc =>
          split at h
          · next obj ho =>
              refine ⟨c, o, obj, hc, hpc, ho, ?_⟩
              split at h
              · next hcl =>
                  cases h
                  exact Or.inl ⟨hcl, rfl⟩
              · next hcl =>
                  split at h
                  · cases h
                    exact Or.inr ⟨Bool.eq_false_iff.2 hcl, rfl⟩
                  · cases h
          · cases h
      · cases h
  · cases h

theorem exists_of_receiveResult (h : s.receiveResult i = some s') :
    ∃ c o d r, s.sends[i]? = some c ∧ c.pc = .waiting o ∧ c.resultCh = some (d, r) ∧
      s' = { s with
        sends := s.sends.set i { c with pc := .returning o (.result d r), resultCh := none } } := by
  rw [receiveResult] at h
  split at h
  · next c hc =>
      split at h
      · next o d r hpc hr =>
          cases h
          exact ⟨c, o, d, r, hc, hpc, hr, rfl⟩
      · cases h
  · cases h

theorem exists_of_abandon (h : s.abandon i e = some s') :
    ∃ c o, s.sends[i]? = some c ∧ (c.pc = .enqueuing o ∨ c.pc = .waiting o) ∧
      s' = { s with sends := s.sends.set i { c with pc := .returning o (.ctxErr e) } } := by
  rw [abandon] at h
  split at h
  · next c hc =>
      split at h
      · next o hpc =>
          cases h
          exact ⟨c, o, hc, Or.inl hpc, rfl⟩
      · next o hpc =>
          cases h
          exact ⟨c, o, hc, Or.inr hpc, rfl⟩
      · cases h
  · cases h

theorem exists_of_removeWaiter (h : s.removeWaiter i = some s') :
    ∃ c o out obj, s.sends[i]? = some c ∧ c.pc = .returning o out ∧ s.objects[o]? = some obj ∧
      s' = { s with
        objects := s.objects.set o
          { obj with resultWaiters := obj.resultWaiters.erase c.cmd.id }
        sends := s.sends.set i { c with pc := .returned out s.time } } := by
  rw [removeWaiter] at h
  split at h
  · next c hc =>
      split at h
      · next o out hpc =>
          split at h
          · next obj ho =>
              cases h
              exact ⟨c, o, out, obj, hc, hpc, ho, rfl⟩
          · cases h
      · cases h
  · cases h

theorem exists_of_receiveCommand (h : s.receiveCommand g = some s') :
    ∃ vmID o obj, s.gets[g]? = some ⟨vmID, .receiving o⟩ ∧ s.objects[o]? = some obj ∧
      ((∃ i cmd rest, obj.commands = (i, cmd) :: rest ∧
          s' = { s with
            objects := s.objects.set o
              { obj with commands := rest, handedOut := obj.handedOut ++ [(g, i, cmd)] }
            gets := s.gets.set g ⟨vmID, .returned (.command i cmd) s.time⟩ }) ∨
        obj.commands = [] ∧ ∃ msg,
          s' = { s with gets := s.gets.set g ⟨vmID, .returned (.closed msg) s.time⟩ }) := by
  rw [receiveCommand] at h
  split at h
  · next vmID o hg =>
      split at h
      · next obj ho =>
          refine ⟨vmID, o, obj, hg, ho, ?_⟩
          split at h
          · next i cmd rest hq =>
              cases h
              exact Or.inl ⟨i, cmd, rest, hq, rfl⟩
          · next hq =>
              split at h
              · cases h
                exact Or.inr ⟨hq, _, rfl⟩
              · cases h
      · cases h
  · cases h

theorem exists_of_abandonGet (h : s.abandonGet g e = some s') :
    ∃ vmID o, s.gets[g]? = some ⟨vmID, .receiving o⟩ ∧
      s' = { s with gets := s.gets.set g ⟨vmID, .returned (.ctxErr e) s.time⟩ } := by
  rw [abandonGet] at h
  split at h
  · next vmID o hg =>
      cases h
      exact ⟨vmID, o, hg, rfl⟩
  · cases h

theorem exists_of_findWaiter (h : s.findWaiter d = some s') :
    ∃ x o obj, s.delivers[d]? = some x ∧ x.pc = .finding o ∧ s.objects[o]? = some obj ∧
      ((∃ i, obj.resultWaiters.lookup x.result.commandID = some i ∧
          s' = { s with
            delivers := s.delivers.set d { x with pc := .sending i, found := some (i, s.time) } }) ∨
        ∃ msg,
          s' = { s with delivers := s.delivers.set d { x with pc := .returned (some msg) } }) := by
  rw [findWaiter] at h
  split at h
  · next x hx =>
      split at h
      · next o hpc =>
          split at h
          · next obj ho =>
              refine ⟨x, o, obj, hx, hpc, ho, ?_⟩
              split at h
              · next i hi =>
                  cases h
                  exact Or.inl ⟨i, hi, rfl⟩
              · cases h
                exact Or.inr ⟨_, rfl⟩
          · cases h
      · cases h
  · cases h

theorem exists_of_sendResult (h : s.sendResult d = some s') :
    ∃ x i c, s.delivers[d]? = some x ∧ x.pc = .sending i ∧ s.sends[i]? = some c ∧
      s' = { s with
        sends := s.sends.set i { c with resultCh := some (d, x.result) }
        delivers := s.delivers.set d { x with pc := .returned none } } := by
  rw [sendResult] at h
  split at h
  · next x hx =>
      split at h
      · next i hpc =>
          split at h
          · next c hc =>
              split at h
              · cases h
                exact ⟨x, i, c, hx, hpc, hc, rfl⟩
              · cases h
          · cases h
      · cases h
  · cases h

theorem exists_of_timeoutDeliver (h : s.timeoutDeliver d = some s') :
    ∃ x i msg, s.delivers[d]? = some x ∧ x.pc = .sending i ∧
      s' = { s with delivers := s.delivers.set d { x with pc := .returned (some msg) } } := by
  rw [timeoutDeliver] at h
  split at h
  · next x hx =>
      split at h
      · next i hpc =>
          cases h
          exact ⟨x, i, _, hx, hpc, rfl⟩
      · cases h
  · cases h

end CoordState

end Dvf
