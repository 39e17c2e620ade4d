/-
**What the agent coordinator's actions do** (`internal/core/agent_state.go`).

An action replaces at most one agent state and one call of each kind.  This module says once what
each of them can be after an action, and that what is known of an agent state or of a call stays
known; the invariants of the coordinator are derived from that.

Main definitions:

* `Dvf.CoordState.ObjStep`, `Dvf.CoordState.SendStep`, `Dvf.CoordState.GetStep`,
  `Dvf.CoordState.DeliverStep`, `Dvf.CoordState.AgentsStep`, `Dvf.CoordState.PanicStep` — agent
  states, calls and entries of the map after an action, and panics;
* `Dvf.CoordState.ChannelStep` — the channel of an agent state after an action;
* `Dvf.CoordState.Extends` — what is known of agent states and calls stays known;
* `Dvf.CoordState.Wf` — what the calls hold belongs to their machines.

Main results:

* `Dvf.CoordState.Effect.of_step` — **every action has only the effects listed**;
* `Dvf.CoordState.Extends.of_step` — **what is known stays known**;
* `Dvf.CoordState.Wf.step` — the calls go on holding what belongs to their machines.
-/

import Dvf.Coordinator

set_option autoImplicit false

namespace Dvf

open Go

/-- The machine that an action registers. -/
def CoordAct.registers : CoordAct → List String
  | .registerVM vmID => [vmID]
  | _ => []

namespace CoordState

variable {s s' : CoordState}

/-! ### What an action does to each party

The next relations say, for an action, what an agent state or a call can be after it.  Every
invariant goes through the few ways in which its party can come about. -/

/-- Agent state number `o` after an action. -/
inductive ObjStep (s : CoordState) : CoordAct → ℕ → AgentState → Prop
  | same {a : CoordAct} {o : ℕ} {obj : AgentState} (ho : s.objects[o]? = some obj) :
      ObjStep s a o obj
  | registered {vmID : String} : ObjStep s (.registerVM vmID) s.objects.length { vmID := vmID }
  | closed {vmID : String} {o : ℕ} {obj : AgentState} (hl : s.agents.lookup vmID = some o)
      (ho : s.objects[o]? = some obj) :
      ObjStep s (.unregisterVM vmID) o { obj with closed := true }
  | ready {k o : ℕ} {agentID : String} {obj : AgentState} (ho : s.objects[o]? = some obj) :
      ObjStep s (.closeReady k) o
        { obj with
          agentID := agentID
          ready := obj.ready || !obj.readyOnce
          readyOnce := true }
  | waiter {i o : ℕ} {c : SendCall} {obj : AgentState} (hc : s.sends[i]? = some c)
      (hpc : c.pc = .registering o) (ho : s.objects[o]? = some obj) :
      ObjStep s (.registerWaiter i) o
        { obj with resultWaiters := obj.resultWaiters.insert c.cmd.id i }
  | put {i o : ℕ} {c : SendCall} {obj : AgentState} (hc : s.sends[i]? = some c)
      (hpc : c.pc = .enqueuing o) (ho : s.objects[o]? = some obj) :
      ObjStep s (.enqueue i) o
        { obj with
          commands := obj.commands ++ [(i, c.cmd)]
          sent := obj.sent ++ [(i, c.cmd)] }
  | removed {i o : ℕ} {c : SendCall} {obj : AgentState} (ho : s.objects[o]? = some obj) :
      ObjStep s (.removeWaiter i) o
        { obj with resultWaiters := obj.resultWaiters.erase c.cmd.id }
  | taken {g o i : ℕ} {vmID : String} {cmd : AgentCommand} {rest : List (ℕ × AgentCommand)}
      {obj : AgentState} (hg : s.gets[g]? = some ⟨vmID, .receiving o⟩)
      (ho : s.objects[o]? = some obj) (hq : obj.commands = (i, cmd) :: rest) :
      ObjStep s (.receiveCommand g) o
        { obj with commands := rest, handedOut := obj.handedOut ++ [(g, i, cmd)] }

/-- The channel of agent state number `o` after an action, with what was ever put into it and taken
out of it: it is new, a command was put in, or none was, and one may have been taken out. -/
inductive ChannelStep (s : CoordState) (a : CoordAct) (o : ℕ) (obj' : AgentState) : Prop
  | fresh (hsent : obj'.sent = []) (hcommands : obj'.commands = [])
      (hhanded : obj'.handedOut = [])
  | kept {obj : AgentState} (ho : s.objects[o]? = some obj) (hvm : obj'.vmID = obj.vmID)
      (hsent : obj'.sent = obj.sent) (hsub : obj'.commands ⊆ obj.commands)
      (hall : obj'.handedOut.map Prod.snd ++ obj'.commands =
        obj.handedOut.map Prod.snd ++ obj.commands)
  | put {i : ℕ} {c : SendCall} {obj : AgentState} (ha : a = .enqueue i)
      (hc : s.sends[i]? = some c) (hpc : c.pc = .enqueuing o) (ho : s.objects[o]? = some obj)
      (hvm : obj'.vmID = obj.vmID) (hsent : obj'.sent = obj.sent ++ [(i, c.cmd)])
      (hcommands : obj'.commands = obj.commands ++ [(i, c.cmd)])
      (hhanded : obj'.handedOut = obj.handedOut)

theorem ObjStep.channel {a : CoordAct} {o : ℕ} {obj' : AgentState} (h : s.ObjStep a o obj') :
    s.ChannelStep a o obj' := by
  cases h with
  | same ho => exact .kept ho rfl rfl (List.Subset.refl _) rfl
  | registered => exact .fresh rfl rfl rfl
  | closed _ ho => exact .kept ho rfl rfl (List.Subset.refl _) rfl
  | ready ho => exact .kept ho rfl rfl (List.Subset.refl _) rfl
  | waiter _ _ ho => exact .kept ho rfl rfl (List.Subset.refl _) rfl
  | removed ho => exact .kept ho rfl rfl (List.Subset.refl _) rfl
  | put hc hpc ho => exact .put rfl hc hpc ho rfl rfl rfl rfl
  | taken _ ho hq =>
      refine .kept ho rfl rfl ?_ ?_
      · rw [hq]
        exact List.subset_cons_self _ _
      · simp [hq]

/-- Call number `i` of `SendCommand` after an action. -/
inductive SendStep (s : CoordState) : CoordAct → ℕ → SendCall → Prop
  | same {a : CoordAct} {i : ℕ} {c : SendCall} (hc : s.sends[i]? = some c) : SendStep s a i c
  | called {vmID : String} {cmd : AgentCommand} {o : ℕ} (hl : s.agents.lookup vmID = some o) :
      SendStep s (.sendCommand vmID cmd) s.sends.length
        ⟨vmID, cmd, .registering o, none, none, none⟩
  | refused {vmID : String} {cmd : AgentCommand} {msg : String} :
      SendStep s (.sendCommand vmID cmd) s.sends.length
        ⟨vmID, cmd, .returned (.noAgent msg) s.time, none, none, none⟩
  | registered {i o : ℕ} {c : SendCall} (hc : s.sends[i]? = some c) (hpc : c.pc = .registering o) :
      SendStep s (.registerWaiter i) i
        { c with pc := .enqueuing o, registeredAt := some s.time }
  | put {i o : ℕ} {c : SendCall} (hc : s.sends[i]? = some c) (hpc : c.pc = .enqueuing o) :
      SendStep s (.enqueue i) i { c with pc := .waiting o, enqueuedOn := some o }
  | received {i o d : ℕ} {r : AgentResult} {c : SendCall} (hc : s.sends[i]? = some c)
      (hpc : c.pc = .waiting o) (hr : c.resultCh = some (d, r)) :
      SendStep s (.receiveResult i) i
        { c with pc := .returning o (.result d r), resultCh := none }
  | abandoned {i o : ℕ} {e : CtxErr} {c : SendCall} (hc : s.sends[i]? = some c)
      (hpc : c.pc = .enqueuing o ∨ c.pc = .waiting o) :
      SendStep s (.abandon i e) i { c with pc := .returning o (.ctxErr e) }
  | returned {i o : ℕ} {out : SendOut} {c : SendCall} (hc : s.sends[i]? = some c)
      (hpc : c.pc = .returning o out) :
      SendStep s (.removeWaiter i) i { c with pc := .returned out s.time }
  | filled {i d : ℕ} {c : SendCall} {x : DeliverCall} (hc : s.sends[i]? = some c)
      (hx : s.delivers[d]? = some x) (hpc : x.pc = .sending i) :
      SendStep s (.sendResult d) i { c with resultCh := some (d, x.result) }

/-- Call number `g` of `GetNextCommand` after an action. -/
inductive GetStep (s : CoordState) : CoordAct → ℕ → GetCall → Prop
  | same {a : CoordAct} {g : ℕ} {x : GetCall} (hg : s.gets[g]? = some x) : GetStep s a g x
  | called {vmID : String} {o : ℕ} (hl : s.agents.lookup vmID = some o) :
      GetStep s (.getNextCommand vmID) s.gets.length ⟨vmID, .receiving o⟩
  | took {g o i : ℕ} {vmID : String} {cmd : AgentCommand} {rest : List (ℕ × AgentCommand)}
      {obj : AgentState} (hg : s.gets[g]? = some ⟨vmID, .receiving o⟩)
      (ho : s.objects[o]? = some obj) (hq : obj.commands = (i, cmd) :: rest) :
      GetStep s (.receiveCommand g) g ⟨vmID, .returned (.command i cmd) s.time⟩
  | failed {a : CoordAct} {g : ℕ} {vmID : String} {out : GetOut}
      (hout : ∀ i cmd, out ≠ .command i cmd) : GetStep s a g ⟨vmID, .returned out s.time⟩

/-- Call number `d` of `DeliverResult` after an action. -/
inductive DeliverStep (s : CoordState) : CoordAct → ℕ → DeliverCall → Prop
  | same {a : CoordAct} {d : ℕ} {x : DeliverCall} (hx : s.delivers[d]? = some x) :
      DeliverStep s a d x
  | called {vmID : String} {r : AgentResult} {o : ℕ} (hl : s.agents.lookup vmID = some o) :
      DeliverStep s (.deliverResult vmID r) s.delivers.length ⟨vmID, r, .finding o, none⟩
  | found {d o i : ℕ} {x : DeliverCall} {obj : AgentState} (hx : s.delivers[d]? = some x)
      (hpc : x.pc = .finding o) (ho : s.objects[o]? = some obj)
      (hw : obj.resultWaiters.lookup x.result.commandID = some i) :
      DeliverStep s (.findWaiter d) d { x with pc := .sending i, found := some (i, s.time) }
  | returned {a : CoordAct} {d : ℕ} {vmID : String} {r : AgentResult} {err : Option String}
      {it : Option (ℕ × ℕ)} : DeliverStep s a d ⟨vmID, r, .returned err, it⟩

/-- An entry of the map after an action: one that was there and is not deleted, or the new one. -/
inductive AgentsStep (s : CoordState) : CoordAct → String → ℕ → Prop
  | same {a : CoordAct} {vmID : String} {o : ℕ} (ha : a ≠ .unregisterVM vmID)
      (hl : s.agents.lookup vmID = some o) : AgentsStep s a vmID o
  | registered {vmID : String} : AgentsStep s (.registerVM vmID) vmID s.objects.length
  | panicked {vmID vmID' : String} {o o' : ℕ} {obj : AgentState}
      (hl : s.agents.lookup vmID = some o) (ho : s.objects[o]? = some obj)
      (hcl : obj.closed = true) (hl' : s.agents.lookup vmID' = some o') :
      AgentsStep s (.unregisterVM vmID) vmID' o'

/-- How an action can panic. -/
inductive PanicStep (s : CoordState) : CoordAct → ChanPanic → Prop
  | send {i o : ℕ} {c : SendCall} {obj : AgentState} (hc : s.sends[i]? = some c)
      (hpc : c.pc = .enqueuing o) (ho : s.objects[o]? = some obj) (hcl : obj.closed = true) :
      PanicStep s (.enqueue i) .sendOnClosed
  | close {vmID : String} {o : ℕ} {obj : AgentState} (hl : s.agents.lookup vmID = some o)
      (ho : s.objects[o]? = some obj) (hcl : obj.closed = true) :
      PanicStep s (.unregisterVM vmID) .closeOfClosed
  | ready {k o : ℕ} {obj : AgentState} (ho : s.objects[o]? = some obj)
      (hr : obj.ready ≠ obj.readyOnce) : PanicStep s (.closeReady k) .closeOfClosed

theorem map_vmID_set {objects : List AgentState} {o : ℕ} {obj new : AgentState}
    (ho : objects[o]? = some obj) (hvm : new.vmID = obj.vmID) :
    (objects.set o new).map (·.vmID) = objects.map (·.vmID) ++ [] := by
  obtain ⟨l₁, l₂, hl, -, hset⟩ := Machine.split_of_getElem? ho
  rw [hset, hl]
  simp [hvm]

/-- **What an action can do**, party by party. -/
structure Effect (s : CoordState) (a : CoordAct) (s' : CoordState) : Prop where
  objects : ∀ (o : ℕ) (obj : AgentState), s'.objects[o]? = some obj → s.ObjStep a o obj
  sends : ∀ (i : ℕ) (c : SendCall), s'.sends[i]? = some c → s.SendStep a i c
  gets : ∀ (g : ℕ) (x : GetCall), s'.gets[g]? = some x → s.GetStep a g x
  delivers : ∀ (d : ℕ) (x : DeliverCall), s'.delivers[d]? = some x → s.DeliverStep a d x
  agents : ∀ (vmID : String) (o : ℕ), s'.agents.lookup vmID = some o → s.AgentsStep a vmID o
  panicked : ∀ p, s'.panicked = some p → s.PanicStep a p
  names : s'.objects.map (·.vmID) = s.objects.map (·.vmID) ++ a.registers
  time : s'.time = s.time + 1

/-- Every action does what its effect says. -/
theorem Effect.of_step {a : CoordAct} (h : s.step a = some s') : s.Effect a s' := by
  obtain ⟨hp, s₁, hact, rfl⟩ := exists_act h
  -- each action leaves most of the lists as they are
  have hobj : ∀ (o : ℕ) (obj : AgentState), s.objects[o]? = some obj → s.ObjStep a o obj :=
    fun _ _ ho => .same ho
  have hsend : ∀ (i : ℕ) (c : SendCall), s.sends[i]? = some c → s.SendStep a i c :=
    fun _ _ hc => .same hc
  have hget : ∀ (g : ℕ) (x : GetCall), s.gets[g]? = some x → s.GetStep a g x :=
    fun _ _ hx => .same hx
  have hdel : ∀ (d : ℕ) (x : DeliverCall), s.delivers[d]? = some x → s.DeliverStep a d x :=
    fun _ _ hx => .same hx
  have hag : (∀ vmID, a ≠ .unregisterVM vmID) →
      ∀ (vmID : String) (o : ℕ), s.agents.lookup vmID = some o → s.AgentsStep a vmID o :=
    fun hne vmID _ hl => .same (hne vmID) hl
  have hnames : s.objects.map (·.vmID) = s.objects.map (·.vmID) ++ [] := by simp
  have hnp : ∀ p, s.panicked = some p → s.PanicStep a p := by simp [hp]
  cases a with
  | registerVM vmID =>
      cases hact
      refine ⟨Machine.forall_concat hobj .registered, hsend, hget, hdel, fun vm o hl => ?_, hnp,
        List.map_append, rfl⟩
      obtain ⟨rfl, rfl⟩ | ⟨-, hl⟩ := lookup_of_insert hl
      · exact .registered
      · exact hag (by simp) vm o hl
  | unregisterVM vmID =>
      obtain ⟨hn, rfl⟩ | ⟨p, obj, hl, ho, ⟨hcl, rfl⟩ | ⟨-, rfl⟩⟩ := exists_of_unregisterVM hact
      · refine ⟨hobj, hsend, hget, hdel, fun vm o hl => .same ?_ hl, hnp, hnames, rfl⟩
        rintro ⟨⟩
        exact absurd (hn.symm.trans hl) (by simp)
      · refine ⟨hobj, hsend, hget, hdel, fun vm o hl' => .panicked hl ho hcl hl', fun p hp => ?_,
          hnames, rfl⟩
        cases hp
        exact .close hl ho hcl
      · refine ⟨Machine.forall_set hobj (.closed hl ho), hsend, hget, hdel, fun vm o hl => ?_, hnp,
          map_vmID_set ho rfl, rfl⟩
        obtain ⟨hne, hl⟩ := lookup_of_erase hl
        exact .same (by rintro ⟨⟩; exact hne rfl) hl
  | notifyAgentReady vmID agentID =>
      dsimp only [act] at hact
      split at hact <;> cases hact <;>
        exact ⟨hobj, hsend, hget, hdel, hag (by simp), hnp, hnames, rfl⟩
  | closeReady k =>
      obtain ⟨agentID, p, obj, -, ho, hcase, hs₁⟩ := exists_of_closeReady hact
      rw [hs₁]
      obtain ⟨hro, hr, hpan, hobjs⟩ | ⟨-, hpan, hobjs⟩ := hcase <;> rw [hobjs, hpan]
      · refine ⟨hobj, hsend, hget, hdel, hag (by simp), fun p hp => ?_, hnames, rfl⟩
        cases hp
        exact .ready ho (by simp [hro, hr])
      · exact ⟨Machine.forall_set hobj (.ready ho), hsend, hget, hdel, hag (by simp), hnp,
          map_vmID_set ho rfl, rfl⟩
  | sendCommand vmID cmd =>
      dsimp only [act] at hact
      split at hact
      · next o hl =>
          cases hact
          exact ⟨hobj, Machine.forall_concat hsend (.called hl), hget, hdel,
            hag (by simp), hnp, hnames, rfl⟩
      · cases hact
        exact ⟨hobj, Machine.forall_concat hsend .refused, hget, hdel,
          hag (by simp), hnp, hnames, rfl⟩
  | registerWaiter i =>
      obtain ⟨c, o, obj, hc, hpc, ho, rfl⟩ := exists_of_registerWaiter hact
      exact ⟨Machine.forall_set hobj (.waiter hc hpc ho),
        Machine.forall_set hsend (.registered hc hpc), hget, hdel, hag (by simp), hnp,
        map_vmID_set ho rfl, rfl⟩
  | enqueue i =>
      obtain ⟨c, o, obj, hc, hpc, ho, ⟨hcl, rfl⟩ | ⟨-, rfl⟩⟩ := exists_of_enqueue hact
      · refine ⟨hobj, hsend, hget, hdel, hag (by simp), fun p hp => ?_, hnames, rfl⟩
        cases hp
        exact .send hc hpc ho hcl
      · exact ⟨Machine.forall_set hobj (.put hc hpc ho), Machine.forall_set hsend (.put hc hpc),
          hget, hdel, hag (by simp), hnp, map_vmID_set ho rfl, rfl⟩
  | receiveResult i =>
      obtain ⟨c, o, d, r, hc, hpc, hr, rfl⟩ := exists_of_receiveResult hact
      exact ⟨hobj, Machine.forall_set hsend (.received hc hpc hr), hget, hdel,
        hag (by simp), hnp, hnames, rfl⟩
  | abandon i e =>
      obtain ⟨c, o, hc, hpc, rfl⟩ := exists_of_abandon hact
      exact ⟨hobj, Machine.forall_set hsend (.abandoned hc hpc), hget, hdel,
        hag (by simp), hnp, hnames, rfl⟩
  | removeWaiter i =>
      obtain ⟨c, o, out, obj, hc, hpc, ho, rfl⟩ := exists_of_removeWaiter hact
      exact ⟨Machine.forall_set hobj (.removed ho), Machine.forall_set hsend (.returned hc hpc),
        hget, hdel, hag (by simp), hnp, map_vmID_set ho rfl, rfl⟩
  | getNextCommand vmID =>
      dsimp only [act] at hact
      split at hact
      · next o hl =>
          cases hact
          exact ⟨hobj, hsend, Machine.forall_concat hget (.called hl), hdel,
            hag (by simp), hnp, hnames, rfl⟩
      · cases hact
        exact ⟨hobj, hsend, Machine.forall_concat hget (.failed (by simp)), hdel,
          hag (by simp), hnp, hnames, rfl⟩
  | receiveCommand g =>
      obtain ⟨vmID, o, obj, hg, ho, ⟨i, cmd, rest, hq, rfl⟩ | ⟨-, msg, rfl⟩⟩ :=
        exists_of_receiveCommand hact
      · exact ⟨Machine.forall_set hobj (.taken hg ho hq), hsend,
          Machine.forall_set hget (.took hg ho hq), hdel, hag (by simp), hnp, map_vmID_set ho rfl,
          rfl⟩
      · exact ⟨hobj, hsend, Machine.forall_set hget (.failed (by simp)), hdel,
          hag (by simp), hnp, hnames, rfl⟩
  | abandonGet g e =>
      obtain ⟨vmID, o, -, rfl⟩ := exists_of_abandonGet hact
      exact ⟨hobj, hsend, Machine.forall_set hget (.failed (by simp)), hdel,
        hag (by simp), hnp, hnames, rfl⟩
  | deliverResult vmID r =>
      dsimp only [act] at hact
      split at hact
      · next o hl =>
          cases hact
          exact ⟨hobj, hsend, hget, Machine.forall_concat hdel (.called hl),
            hag (by simp), hnp, hnames, rfl⟩
      · cases hact
        exact ⟨hobj, hsend, hget, Machine.forall_concat hdel .returned,
          hag (by simp), hnp, hnames, rfl⟩
  | findWaiter d =>
      obtain ⟨x, o, obj, hx, hpc, ho, ⟨i, hw, rfl⟩ | ⟨msg, rfl⟩⟩ := exists_of_findWaiter hact
      · exact ⟨hobj, hsend, hget, Machine.forall_set hdel (.found hx hpc ho hw),
          hag (by simp), hnp, hnames, rfl⟩
      · exact ⟨hobj, hsend, hget, Machine.forall_set hdel .returned,
          hag (by simp), hnp, hnames, rfl⟩
  | sendResult d =>
      obtain ⟨x, i, c, hx, hpc, hc, rfl⟩ := exists_of_sendResult hact
      exact ⟨hobj, Machine.forall_set hsend (.filled hc hx hpc), hget,
        Machine.forall_set hdel .returned, hag (by simp), hnp, hnames, rfl⟩
  | timeoutDeliver d =>
      obtain ⟨x, i, msg, -, -, rfl⟩ := exists_of_timeoutDeliver hact
      exact ⟨hobj, hsend, hget, Machine.forall_set hdel .returned, hag (by simp), hnp, hnames, rfl⟩

/-! ### What stays known -/

/-- The agent state number `o` is one of the machine `vmID`. -/
def OnVM (s : CoordState) (o : ℕ) (vmID : String) : Prop :=
  ∃ obj, s.objects[o]? = some obj ∧ obj.vmID = vmID

end CoordState

/-- The agent state that a call of `SendCommand` still uses. -/
def SendPC.agent : SendPC → Option ℕ
  | .registering o => some o
  | .enqueuing o => some o
  | .waiting o => some o
  | .returning o _ => some o
  | .returned _ _ => none

/-- The call has looked up agent state `o` and has not yet left the first `select`. -/
def SendPC.Before (pc : SendPC) (o : ℕ) : Prop := pc = .registering o ∨ pc = .enqueuing o

instance (pc : SendPC) (o : ℕ) : Decidable (pc.Before o) :=
  inferInstanceAs (Decidable (_ ∨ _))

/-- What a call of `SendCommand` holds belongs to its machine, and what it has not yet done is not
recorded. -/
structure SendCall.Wf (s : CoordState) (c : SendCall) : Prop where
  onVM : ∀ o, c.pc.agent = some o → s.OnVM o c.vmID
  early : ∀ o, c.pc = .registering o → c.registeredAt = none
  fresh : ∀ o, c.pc.Before o → c.enqueuedOn = none

theorem SendCall.Wf.late {s : CoordState} {c : SendCall} (h : c.Wf s) {pc : SendPC}
    (hagent : ∀ o, pc.agent = some o → c.pc.agent = some o) (hpc : ∀ o, ¬ pc.Before o)
    {ch : Option (ℕ × AgentResult)} {on : Option ℕ} :
    SendCall.Wf s { c with pc := pc, resultCh := ch, enqueuedOn := on } where
  onVM o ho := h.onVM o (hagent o ho)
  early o ho := absurd (Or.inl ho) (hpc o)
  fresh o ho := absurd ho (hpc o)

namespace CoordState

/-- **What the calls hold belongs to their machines.** -/
structure Wf (s : CoordState) : Prop where
  agents : ∀ vmID o, s.agents.lookup vmID = some o → s.OnVM o vmID
  sends : ∀ (i : ℕ) (c : SendCall), s.sends[i]? = some c → c.Wf s
  gets : ∀ (g : ℕ) (x : GetCall), s.gets[g]? = some x →
    ∀ o, x.pc = .receiving o → s.OnVM o x.vmID
  delivers : ∀ (d : ℕ) (x : DeliverCall), s.delivers[d]? = some x →
    ∀ o, x.pc = .finding o → s.OnVM o x.vmID ∧ x.found = none

end CoordState

/-- An agent state keeps its machine, and what was taken out of its channel. -/
structure AgentState.Later (obj obj' : AgentState) : Prop where
  vmID : obj'.vmID = obj.vmID
  handedOut : obj.handedOut ⊆ obj'.handedOut

theorem AgentState.Later.refl (obj : AgentState) : obj.Later obj :=
  ⟨rfl, List.Subset.refl _⟩

/-- A call of `SendCommand` keeps its arguments and what was recorded of it. -/
structure SendCall.Later (c c' : SendCall) : Prop where
  vmID : c'.vmID = c.vmID
  cmd : c'.cmd = c.cmd
  registeredAt : ∀ t, c.registeredAt = some t → c'.registeredAt = some t
  enqueuedOn : ∀ o, c.enqueuedOn = some o → c'.enqueuedOn = some o

theorem SendCall.Later.refl (c : SendCall) : c.Later c := ⟨rfl, rfl, fun _ h => h, fun _ h => h⟩

/-- A call of `DeliverResult` keeps its arguments and what was recorded of it. -/
structure DeliverCall.Later (x x' : DeliverCall) : Prop where
  vmID : x'.vmID = x.vmID
  result : x'.result = x.result
  found : ∀ it, x.found = some it → x'.found = some it

theorem DeliverCall.Later.refl (x : DeliverCall) : x.Later x := ⟨rfl, rfl, fun _ h => h⟩

/-- A call of `GetNextCommand` does not change any more once it has returned. -/
def GetCall.Later (x x' : GetCall) : Prop := ∀ out t, x.pc = .returned out t → x' = x

theorem GetCall.Later.refl (x : GetCall) : x.Later x := fun _ _ _ => rfl

namespace CoordState

variable {s s' : CoordState}

/-- What is known of an agent state or of a call in `s` is known of it in `s'`. -/
structure Extends (s s' : CoordState) : Prop where
  objects : Machine.Grows AgentState.Later s.objects s'.objects
  sends : Machine.Grows SendCall.Later s.sends s'.sends
  delivers : Machine.Grows DeliverCall.Later s.delivers s'.delivers
  gets : Machine.Grows GetCall.Later s.gets s'.gets

theorem OnVM.mono {o : ℕ} {vmID : String} (h : s.OnVM o vmID) (hs : s.Extends s') :
    s'.OnVM o vmID := by
  obtain ⟨obj, ho, rfl⟩ := h
  obtain ⟨obj', ho', hl⟩ := hs.objects o obj ho
  exact ⟨obj', ho', hl.vmID⟩

end CoordState

theorem SendCall.Wf.mono {s s' : CoordState} {c : SendCall} (h : c.Wf s) (hs : s.Extends s') :
    c.Wf s' :=
  ⟨fun o ho => (h.onVM o ho).mono hs, h.early, h.fresh⟩

namespace CoordState

variable {s s' : CoordState}

/-- **What is known stays known.** -/
theorem Extends.of_step (hw : s.Wf) {a : CoordAct} (h : s.step a = some s') : s.Extends s' := by
  obtain ⟨-, s₁, hact, rfl⟩ := exists_act h
  -- one object and one call at most are replaced; the others are as before
  have hobj : ∀ {o : ℕ} {obj obj' : AgentState}, s.objects[o]? = some obj → obj.Later obj' →
      Machine.Grows AgentState.Later s.objects (s.objects.set o obj') :=
    fun ho hl => .set .refl ho hl
  have hobj₀ : Machine.Grows AgentState.Later s.objects s.objects := .refl .refl _
  have hsend₀ : Machine.Grows SendCall.Later s.sends s.sends := .refl .refl _
  have hdel₀ : Machine.Grows DeliverCall.Later s.delivers s.delivers := .refl .refl _
  have hget₀ : Machine.Grows GetCall.Later s.gets s.gets := .refl .refl _
  cases a with
  | registerVM vmID =>
      cases hact
      exact ⟨.concat .refl _ _, hsend₀, hdel₀, hget₀⟩
  | unregisterVM vmID =>
      obtain ⟨-, rfl⟩ | ⟨o, obj, -, ho, ⟨-, rfl⟩ | ⟨-, rfl⟩⟩ := exists_of_unregisterVM hact
      · exact ⟨hobj₀, hsend₀, hdel₀, hget₀⟩
      · exact ⟨hobj₀, hsend₀, hdel₀, hget₀⟩
      · exact ⟨hobj ho ⟨rfl, .refl _⟩, hsend₀, hdel₀, hget₀⟩
  | notifyAgentReady vmID agentID =>
      dsimp only [act] at hact
      split at hact <;> cases hact <;> exact ⟨hobj₀, hsend₀, hdel₀, hget₀⟩
  | closeReady k =>
      obtain ⟨agentID, o, obj, -, ho, hcase, hs₁⟩ := exists_of_closeReady hact
      rw [hs₁]
      obtain ⟨-, -, -, hobjs⟩ | ⟨-, -, hobjs⟩ := hcase
      · exact ⟨hobjs ▸ hobj₀, hsend₀, hdel₀, hget₀⟩
      · exact ⟨hobjs ▸ hobj ho ⟨rfl, .refl _⟩, hsend₀, hdel₀, hget₀⟩
  | sendCommand vmID cmd =>
      dsimp only [act] at hact
      split at hact <;> cases hact <;> exact ⟨hobj₀, .concat .refl _ _, hdel₀, hget₀⟩
  | registerWaiter i =>
      obtain ⟨c, o, obj, hc, hpc, ho, rfl⟩ := exists_of_registerWaiter hact
      refine ⟨hobj ho ⟨rfl, .refl _⟩,
        .set .refl hc ⟨rfl, rfl, fun t ht => ?_, fun _ h => h⟩, hdel₀, hget₀⟩
      rw [(hw.sends i c hc).early o hpc] at ht
      cases ht
  | enqueue i =>
      obtain ⟨c, o, obj, hc, hpc, ho, ⟨-, rfl⟩ | ⟨-, rfl⟩⟩ := exists_of_enqueue hact
      · exact ⟨hobj₀, hsend₀, hdel₀, hget₀⟩
      · refine ⟨hobj ho ⟨rfl, .refl _⟩,
          .set .refl hc ⟨rfl, rfl, fun _ h => h, fun o' ho' => ?_⟩, hdel₀, hget₀⟩
        rw [(hw.sends i c hc).fresh o (Or.inr hpc)] at ho'
        cases ho'
  | receiveResult i =>
      obtain ⟨c, o, d, r, hc, -, -, rfl⟩ := exists_of_receiveResult hact
      exact ⟨hobj₀, .set .refl hc ⟨rfl, rfl, fun _ h => h, fun _ h => h⟩, hdel₀, hget₀⟩
  | abandon i e =>
      obtain ⟨c, o, hc, -, rfl⟩ := exists_of_abandon hact
      exact ⟨hobj₀, .set .refl hc ⟨rfl, rfl, fun _ h => h, fun _ h => h⟩, hdel₀, hget₀⟩
  | removeWaiter i =>
      obtain ⟨c, o, out, obj, hc, -, ho, rfl⟩ := exists_of_removeWaiter hact
      exact ⟨hobj ho ⟨rfl, .refl _⟩,
        .set .refl hc ⟨rfl, rfl, fun _ h => h, fun _ h => h⟩, hdel₀, hget₀⟩
  | getNextCommand vmID =>
      dsimp only [act] at hact
      split at hact <;> cases hact <;> exact ⟨hobj₀, hsend₀, hdel₀, .concat .refl _ _⟩
  | receiveCommand g =>
      obtain ⟨vmID, o, obj, hg, ho, ⟨i, cmd, rest, -, rfl⟩ | ⟨-, msg, rfl⟩⟩ :=
        exists_of_receiveCommand hact
      · exact ⟨hobj ho ⟨rfl, List.subset_append_left _ _⟩, hsend₀, hdel₀,
          .set .refl hg fun _ _ h => by cases h⟩
      · exact ⟨hobj₀, hsend₀, hdel₀, .set .refl hg fun _ _ h => by cases h⟩
  | abandonGet g e =>
      obtain ⟨vmID, o, hg, rfl⟩ := exists_of_abandonGet hact
      exact ⟨hobj₀, hsend₀, hdel₀, .set .refl hg fun _ _ h => by cases h⟩
  | deliverResult vmID r =>
      dsimp only [act] at hact
      split at hact <;> cases hact <;> exact ⟨hobj₀, hsend₀, .concat .refl _ _, hget₀⟩
  | findWaiter d =>
      obtain ⟨x, o, obj, hx, hpc, -, hcase⟩ := exists_of_findWaiter hact
      have hnone := (hw.delivers d x hx o hpc).2
      have hfound : ∀ {y : Option (ℕ × ℕ)} it, x.found = some it → y = some it := by
        intro y it hit
        rw [hnone] at hit
        cases hit
      obtain ⟨i, -, rfl⟩ | ⟨msg, rfl⟩ := hcase
      · exact ⟨hobj₀, hsend₀, .set .refl hx ⟨rfl, rfl, hfound⟩, hget₀⟩
      · exact ⟨hobj₀, hsend₀, .set .refl hx ⟨rfl, rfl, fun _ h => h⟩, hget₀⟩
  | sendResult d =>
      obtain ⟨x, i, c, hx, -, hc, rfl⟩ := exists_of_sendResult hact
      exact ⟨hobj₀, .set .refl hc ⟨rfl, rfl, fun _ h => h, fun _ h => h⟩,
        .set .refl hx ⟨rfl, rfl, fun _ h => h⟩, hget₀⟩
  | timeoutDeliver d =>
      obtain ⟨x, i, msg, hx, -, rfl⟩ := exists_of_timeoutDeliver hact
      exact ⟨hobj₀, hsend₀, .set .refl hx ⟨rfl, rfl, fun _ h => h⟩, hget₀⟩

theorem Wf.start : CoordState.start.Wf where
  agents _ _ h := by cases h
  sends _ _ h := by cases h
  gets _ _ h := by cases h
  delivers _ _ h := by cases h

/-- **The calls go on holding what belongs to their machines.** -/
theorem Wf.step (hw : s.Wf) {a : CoordAct} (h : s.step a = some s') : s'.Wf := by
  have hext := Extends.of_step hw h
  have heff := Effect.of_step h
  refine ⟨fun vmID o hl' => ?_, fun i c hc' => ?_, fun g x hx' o hpc => ?_,
    fun d x hx' o hpc => ?_⟩
  · cases heff.agents vmID o hl' with
    | same _ hl => exact (hw.agents vmID o hl).mono hext
    | panicked _ _ _ hl => exact (hw.agents vmID o hl).mono hext
    | registered =>
        obtain ⟨-, s₁, hact, rfl⟩ := exists_act h
        cases hact
        exact ⟨_, List.getElem?_concat_length, rfl⟩
  · cases heff.sends i c hc' with
    | same hc => exact (hw.sends i c hc).mono hext
    | called hl =>
        refine ⟨fun o ho => ?_, fun _ _ => rfl, fun _ _ => rfl⟩
        cases ho
        exact (hw.agents _ _ hl).mono hext
    | refused => exact ⟨by simp [SendPC.agent], fun _ _ => rfl, fun _ _ => rfl⟩
    | registered hc hpc =>
        refine ⟨fun o ho => ?_, by simp, fun _ _ => (hw.sends i _ hc).fresh _ (Or.inl hpc)⟩
        cases ho
        exact ((hw.sends i _ hc).onVM _ (by rw [hpc]; rfl)).mono hext
    | put hc hpc =>
        exact ((hw.sends i _ hc).mono hext).late (by rw [hpc]; exact fun _ h => h)
          (by simp [SendPC.Before])
    | received hc hpc _ =>
        exact ((hw.sends i _ hc).mono hext).late (by rw [hpc]; exact fun _ h => h)
          (by simp [SendPC.Before])
    | abandoned hc hpc =>
        refine ((hw.sends i _ hc).mono hext).late ?_ (by simp [SendPC.Before])
        rcases hpc with hpc | hpc <;> rw [hpc] <;> exact fun _ h => h
    | returned hc _ =>
        exact ((hw.sends i _ hc).mono hext).late (by simp [SendPC.agent]) (by simp [SendPC.Before])
    | filled hc _ _ =>
        have hcw := (hw.sends i _ hc).mono hext
        exact ⟨hcw.onVM, hcw.early, hcw.fresh⟩
  · cases heff.gets g x hx' with
    | same hg => exact (hw.gets g x hg o hpc).mono hext
    | called hl =>
        cases hpc
        exact (hw.agents _ o hl).mono hext
    | took => cases hpc
    | failed => cases hpc
  · cases heff.delivers d x hx' with
    | same hx => exact ⟨(hw.delivers d x hx o hpc).1.mono hext, (hw.delivers d x hx o hpc).2⟩
    | called hl =>
        cases hpc
        exact ⟨(hw.agents _ o hl).mono hext, rfl⟩
    | found => cases hpc
    | returned => cases hpc

end CoordState

end Dvf
