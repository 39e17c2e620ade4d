/-
**The QMP client** (`internal/vm/qmp_client.go`): matching answers to commands.

`Execute` takes a lock, writes its command to the socket and waits for an answer, for the end of the
connection or for the end of its context.  A reader goroutine takes the messages of QEMU from the
socket, puts answers into a channel with room for one and events into a channel with room for 64,
and drops what does not fit.  Commands and answers carry no number, so `Execute` takes whatever
answer the channel holds.  The numbers in this model, of the command that a message answers, are
only recorded; no action depends on them.

The answers that are *pending* are those in the channel, those on the socket and those that QEMU has
still to give, in this order.  While an `Execute` waits, the first pending answer stays the first;
so it is the one that the call returns.

Main definitions:

* `Dvf.QmpState`, `Dvf.QmpAct`, `Dvf.QmpState.step` — the machine;
* `Dvf.QmpState.pending` — the pending answers.

Main results:

* `Dvf.QmpState.step_pending` — what a step does to the pending answers;
* `Dvf.execute_own_answer_iff` — **a call returns the answer to its own command exactly when nothing
  was pending when it wrote the command.**
-/

import Dvf.Machine
import Dvf.Store

set_option autoImplicit false

namespace Dvf

open Go

/-! ### Messages -/

/-- A command; its arguments are JSON text. -/
structure QMPCommand where
  execute : String
  arguments : Option String := none
  deriving DecidableEq, Repr

/-- The error object of an error response. -/
structure QMPError where
  cls : String
  desc : String
  deriving DecidableEq, Repr

/-- A response: a payload in JSON text, or an error. -/
structure QMPResponse where
  ret : Option String
  error : Option QMPError
  deriving DecidableEq, Repr

/-- An asynchronous event. -/
structure QMPEvent where
  event : String
  data : Option String := none
  seconds : ℤ := 0
  microseconds : ℤ := 0
  deriving DecidableEq, Repr

/-- A message as the reader decodes it. -/
structure QMPMessage where
  ret : Option String := none
  error : Option QMPError := none
  event : String := ""
  data : Option String := none
  timestamp : Option (ℤ × ℤ) := none
  deriving DecidableEq, Repr

namespace QMPMessage

/-- `isResponse`. -/
def isResponse (m : QMPMessage) : Bool := m.ret.isSome || m.error.isSome

/-- `isEvent`. -/
def isEvent (m : QMPMessage) : Bool := m.event ≠ ""

/-- The response that the reader makes of a message. -/
def toResponse (m : QMPMessage) : QMPResponse := ⟨m.ret, m.error⟩

/-- The event that the reader makes of a message. -/
def toEvent (m : QMPMessage) : QMPEvent :=
  match m.timestamp with
  | some ts => ⟨m.event, m.data, ts.1, ts.2⟩
  | none => ⟨m.event, m.data, 0, 0⟩

end QMPMessage

/-- What QEMU answers to a command. -/
inductive QemuAnswer
  | ret (payload : String)
  | error (e : QMPError)
  deriving DecidableEq, Repr

def QemuAnswer.toMessage : QemuAnswer → QMPMessage
  | ret payload => { ret := some payload }
  | error e => { error := some e }

/-- What QEMU has put on the socket: the answer to the command with some number, or an event. -/
inductive Sent
  | answer (n : ℕ) (a : QemuAnswer)
  | event (name : String) (data : Option String) (timestamp : Option (ℤ × ℤ))
  deriving DecidableEq, Repr

namespace Sent

def toMessage : Sent → QMPMessage
  | answer _ a => a.toMessage
  | event name data timestamp => { event := name, data := data, timestamp := timestamp }

/-- The number of the command that a message answers. -/
def origin : Sent → Option ℕ
  | answer n _ => some n
  | event .. => none

/-- The answer that a message carries, with its number. -/
def response (m : Sent) : Option (ℕ × QMPResponse) :=
  m.origin.map fun n => (n, m.toMessage.toResponse)

theorem isResponse_toMessage (m : Sent) : m.toMessage.isResponse = m.origin.isSome := by
  cases m with
  | answer n a => cases a <;> rfl
  | event name data timestamp => rfl

end Sent

/-! ### The machine -/

/-- What `Execute` returns. -/
inductive ExecResult
  | payload (raw : Option String)
  | qmpError (e : QMPError)
  | closed
  | sendError (msg : String)
  | connectionClosed
  | ctxErr (e : CtxErr)
  deriving DecidableEq, Repr

/-- What `Execute` makes of a response. -/
def QMPResponse.result (r : QMPResponse) : ExecResult :=
  match r.error with
  | some e => .qmpError e
  | none => .payload r.ret

/-- Where the call that holds the lock is: about to write its command, or waiting after having
written it as the command number `n`. -/
inductive ExecPC
  | writing (cmd : QMPCommand)
  | waiting (n : ℕ) (cmd : QMPCommand)
  deriving DecidableEq, Repr

/-- A call that has returned: its command, the number of the command if it was written, the result,
and the number of the command that the result answers, if it is an answer. -/
structure ExecReturn where
  cmd : QMPCommand
  number : Option ℕ := none
  result : ExecResult
  origin : Option ℕ := none
  deriving DecidableEq, Repr

/-- The state of a connected client and of QEMU: whether the client was closed and whether the
reader has exited; the calls that wait for the lock and the one that holds it; the commands that
QEMU has not answered, what is on the socket, and the two channels.  The last two fields record the
commands that were written and the calls that have returned. -/
structure QmpState where
  closed : Bool := false
  done : Bool := false
  callers : List QMPCommand := []
  current : Option ExecPC := none
  commands : List (ℕ × QMPCommand) := []
  socket : List Sent := []
  responseCh : Option (ℕ × QMPResponse) := none
  eventsCh : List QMPEvent := []
  history : List QMPCommand := []
  returned : List ExecReturn := []

/-- The actions: a call of `Execute` starts, gets the lock, writes its command or fails to; QEMU
answers a command or sends an event; the reader takes a message or exits; the three cases of the
`select`; a consumer takes an event; the client is closed. -/
inductive QmpAct
  | execute (cmd : QMPCommand)
  | lock (i : ℕ)
  | write (err : Option String)
  | answer
  | event (name : String) (data : Option String) (timestamp : Option (ℤ × ℤ))
  | read
  | readerExit
  | receive
  | connectionClosed
  | abandon (e : CtxErr)
  | consume
  | close
  deriving DecidableEq, Repr

namespace QmpState

/-- The reader's treatment of a message. -/
def route (s : QmpState) (m : Sent) : QmpState :=
  if m.toMessage.isResponse then
    match s.responseCh with
    | none => { s with responseCh := m.response }
    | some _ => s
  else if m.toMessage.isEvent then
    if s.eventsCh.length < 64 then { s with eventsCh := s.eventsCh ++ [m.toMessage.toEvent] }
    else s
  else s

/-- The call that holds the lock returns. -/
def ret (s : QmpState) (r : ExecReturn) : QmpState :=
  { s with current := none, returned := s.returned ++ [r] }

/-- **One action of the machine**; `qemu` says how QEMU answers the command with a number. -/
def step (qemu : ℕ → QMPCommand → QemuAnswer) (s : QmpState) : QmpAct → Option QmpState
  | .execute cmd =>
      if s.closed = true then
        some { s with returned := s.returned ++ [{ cmd := cmd, result := .closed }] }
      else some { s with callers := s.callers ++ [cmd] }
  | .lock i =>
      match s.current, s.callers[i]? with
      | none, some cmd =>
          some { s with callers := s.callers.eraseIdx i, current := some (.writing cmd) }
      | _, _ => none
  | .write err =>
      match s.current, err with
      | some (.writing cmd), some err =>
          let msg := "sending command " ++ quote cmd.execute ++ ": " ++ err
          some (s.ret { cmd := cmd, result := .sendError msg })
      | some (.writing cmd), none =>
          some { s with
            current := some (.waiting s.history.length cmd)
            commands := s.commands ++ [(s.history.length, cmd)]
            history := s.history ++ [cmd] }
      | _, _ => none
  | .answer =>
      match s.commands with
      | (n, cmd) :: rest =>
          some { s with commands := rest, socket := s.socket ++ [.answer n (qemu n cmd)] }
      | [] => none
  | .event name data timestamp =>
      some { s with socket := s.socket ++ [.event name data timestamp] }
  | .read =>
      match s.done, s.socket with
      | false, m :: rest => some ({ s with socket := rest }.route m)
      | _, _ => none
  | .readerExit => if s.done = true then none else some { s with done := true }
  | .receive =>
      match s.current, s.responseCh with
      | some (.waiting n cmd), some (o, r) =>
          some ({ s with responseCh := none }.ret
            { cmd := cmd, number := some n, result := r.result, origin := some o })
      | _, _ => none
  | .connectionClosed =>
      match s.current, s.done with
      | some (.waiting n cmd), true =>
          some (s.ret { cmd := cmd, number := some n, result := .connectionClosed })
      | _, _ => none
  | .abandon e =>
      match s.current with
      | some (.waiting n cmd) =>
          some (s.ret { cmd := cmd, number := some n, result := .ctxErr e })
      | _ => none
  | .consume =>
      match s.eventsCh with
      | _ :: rest => some { s with eventsCh := rest }
      | [] => none
  | .close => some { s with closed := true }

/-! ### Pending answers -/

/-- **The pending answers**, each with the number of its command: the one in the channel, those on
the socket, and those that QEMU has still to give. -/
def pending (qemu : ℕ → QMPCommand → QemuAnswer) (s : QmpState) : List (ℕ × QMPResponse) :=
  s.responseCh.toList ++ s.socket.filterMap Sent.response ++
    s.commands.map fun c => (c.1, (qemu c.1 c.2).toMessage.toResponse)

variable {qemu : ℕ → QMPCommand → QemuAnswer} {s s' t : QmpState}

/-- With a message the pending answers stay, or its own is dropped at a full channel. -/
theorem pending_route (qemu : ℕ → QMPCommand → QemuAnswer) (m : Sent) (rest : List Sent)
    (hs : s.socket = m :: rest) :
    (({ s with socket := rest }.route m).pending qemu).Sublist (s.pending qemu) ∧
      (({ s with socket := rest }.route m).pending qemu).head? = (s.pending qemu).head? := by
  have hold : s.pending qemu = s.responseCh.toList ++ m.response.toList ++
      rest.filterMap Sent.response ++
      s.commands.map fun c => (c.1, (qemu c.1 c.2).toMessage.toResponse) := by
    rw [pending, hs, List.filterMap_cons]
    cases m.response <;> simp
  rw [hold]
  cases m with
  | answer n a =>
      have hresp : (Sent.answer n a).toMessage.isResponse = true := Sent.isResponse_toMessage _
      simp only [route, hresp, if_true]
      cases s.responseCh with
      | none => simp [pending, Sent.response, Sent.origin]
      | some p => simp [pending]
  | event name data timestamp =>
      have hresp : (Sent.event name data timestamp).toMessage.isResponse = false :=
        Sent.isResponse_toMessage _
      have hsame : (({ s with socket := rest }.route (.event name data timestamp)).pending qemu) =
          s.responseCh.toList ++ rest.filterMap Sent.response ++
            s.commands.map fun c => (c.1, (qemu c.1 c.2).toMessage.toResponse) := by
        simp only [route, hresp]
        split
        · contradiction
        · split
          · split
            · rfl
            · rfl
          · rfl
      rw [hsame]
      simp [Sent.response, Sent.origin]

theorem current_route (m : Sent) : (s.route m).current = s.current ∧
    (s.route m).history = s.history := by
  unfold route
  split
  · split
    · exact ⟨rfl, rfl⟩
    · exact ⟨rfl, rfl⟩
  · split
    · split
      · exact ⟨rfl, rfl⟩
      · exact ⟨rfl, rfl⟩
    · exact ⟨rfl, rfl⟩

def Waiting (s : QmpState) : Prop := ∃ n cmd, s.current = some (.waiting n cmd)

/-- **A quiet step**: it may drop pending answers, but not the first one, and no call starts to
wait. -/
structure Quiet (qemu : ℕ → QMPCommand → QemuAnswer) (s s' : QmpState) : Prop where
  history : s'.history = s.history
  sublist : (s'.pending qemu).Sublist (s.pending qemu)
  head : (s'.pending qemu).head? = (s.pending qemu).head?
  waiting : s'.Waiting → s'.current = s.current

theorem Quiet.of_eq (hhistory : s'.history = s.history) (hch : s'.responseCh = s.responseCh)
    (hsocket : s'.socket = s.socket) (hcommands : s'.commands = s.commands)
    (hwaiting : s'.Waiting → s'.current = s.current) : Quiet qemu s s' := by
  have heq : s'.pending qemu = s.pending qemu := by
    simp only [pending, hch, hsocket, hcommands]
  exact ⟨hhistory, heq ▸ List.Sublist.refl _, by rw [heq], hwaiting⟩

theorem not_waiting_ret (s : QmpState) (r : ExecReturn) : ¬ (s.ret r).Waiting := by
  rintro ⟨n, cmd, h⟩
  cases h

theorem step_write (h : s.step qemu (.write none) = some s') :
    ∃ cmd, s.current = some (.writing cmd) ∧
      s'.current = some (.waiting s.history.length cmd) ∧ s'.history = s.history ++ [cmd] ∧
      s'.pending qemu = s.pending qemu ++
        [(s.history.length, (qemu s.history.length cmd).toMessage.toResponse)] := by
  simp only [step] at h
  split at h
  · next heq => cases heq
  · next cmd hcurrent _ =>
      cases h
      exact ⟨cmd, hcurrent, rfl, rfl, by simp [pending]⟩
  · cases h

theorem step_receive (h : s.step qemu .receive = some s') :
    ∃ n cmd p, s.current = some (.waiting n cmd) ∧ s.pending qemu = p :: s'.pending qemu ∧
      s'.current = none ∧ s'.history = s.history ∧
      s'.returned = s.returned ++
        [{ cmd := cmd, number := some n, result := p.2.result, origin := some p.1 }] := by
  simp only [step] at h
  split at h
  · next n cmd o r hcurrent hch =>
      cases h
      exact ⟨n, cmd, (o, r), hcurrent, by simp [pending, ret, hch], rfl, rfl, rfl⟩
  · cases h

/-- **What a step does to the pending answers**: a write adds one at the end, a receive takes the
first, and all other steps are quiet. -/
theorem step_pending {a : QmpAct} (h : s.step qemu a = some s') :
    a = .write none ∨ a = .receive ∨ Quiet qemu s s' := by
  cases a with
  | execute cmd =>
      simp only [step] at h
      split at h
      · cases h
        exact Or.inr (Or.inr (Quiet.of_eq rfl rfl rfl rfl fun _ => rfl))
      · cases h
        exact Or.inr (Or.inr (Quiet.of_eq rfl rfl rfl rfl fun _ => rfl))
  | lock i =>
      simp only [step] at h
      split at h
      · cases h
        refine Or.inr (Or.inr (Quiet.of_eq rfl rfl rfl rfl ?_))
        rintro ⟨n, cmd, hn⟩
        cases hn
      · cases h
  | write err =>
      cases err with
      | none => exact Or.inl rfl
      | some err =>
          simp only [step] at h
          split at h
          · cases h
            exact Or.inr (Or.inr (Quiet.of_eq rfl rfl rfl rfl
              fun hw => absurd hw (not_waiting_ret _ _)))
          · next heq => cases heq
          · cases h
  | answer =>
      simp only [step] at h
      split at h
      · next n cmd rest hcommands =>
          cases h
          -- the answer moves from the commands to the socket, in the same place
          have heq : ({ s with commands := rest, socket := s.socket ++ [.answer n (qemu n cmd)] } :
              QmpState).pending qemu = s.pending qemu := by
            simp [pending, hcommands, Sent.response, Sent.origin, Sent.toMessage]
          exact Or.inr (Or.inr ⟨rfl, heq ▸ List.Sublist.refl _, by rw [heq], fun _ => rfl⟩)
      · cases h
  | event name data timestamp =>
      cases h
      have heq : ({ s with socket := s.socket ++ [.event name data timestamp] } :
          QmpState).pending qemu = s.pending qemu := by
        simp [pending, Sent.response, Sent.origin]
      exact Or.inr (Or.inr ⟨rfl, heq ▸ List.Sublist.refl _, by rw [heq], fun _ => rfl⟩)
  | read =>
      simp only [step] at h
      split at h
      · next m rest _ hsocket =>
          cases h
          obtain ⟨hsub, hhead⟩ := pending_route qemu m rest hsocket
          obtain ⟨hcurrent, hhistory⟩ := current_route (s := { s with socket := rest }) m
          exact Or.inr (Or.inr ⟨hhistory, hsub, hhead, fun _ => hcurrent⟩)
      · cases h
  | readerExit =>
      simp only [step] at h
      split at h
      · cases h
      · cases h
        exact Or.inr (Or.inr (Quiet.of_eq rfl rfl rfl rfl fun _ => rfl))
  | receive => exact Or.inr (Or.inl rfl)
  | connectionClosed =>
      simp only [step] at h
      split at h
      · cases h
        exact Or.inr (Or.inr (Quiet.of_eq rfl rfl rfl rfl
          fun hw => absurd hw (not_waiting_ret _ _)))
      · cases h
  | abandon e =>
      simp only [step] at h
      split at h
      · cases h
        exact Or.inr (Or.inr (Quiet.of_eq rfl rfl rfl rfl
          fun hw => absurd hw (not_waiting_ret _ _)))
      · cases h
  | consume =>
      simp only [step] at h
      split at h
      · cases h
        exact Or.inr (Or.inr (Quiet.of_eq rfl rfl rfl rfl fun _ => rfl))
      · cases h
  | close =>
      cases h
      exact Or.inr (Or.inr (Quiet.of_eq rfl rfl rfl rfl fun _ => rfl))

/-! ### Whose answer a call returns -/

/-- Every pending answer is QEMU's answer to a command that was written. -/
def Genuine (qemu : ℕ → QMPCommand → QemuAnswer) (s : QmpState) : Prop :=
  ∀ p ∈ s.pending qemu, ∃ cmd, s.history[p.1]? = some cmd ∧
    p.2 = (qemu p.1 cmd).toMessage.toResponse

theorem Genuine.step {a : QmpAct} (h : Genuine qemu s) (hs : s.step qemu a = some s') :
    Genuine qemu s' := by
  rcases step_pending hs with rfl | rfl | hq
  · obtain ⟨cmd, _, _, hhistory, hpending⟩ := step_write hs
    intro p hp
    rw [hpending, List.mem_append, List.mem_singleton] at hp
    rw [hhistory]
    rcases hp with hp | rfl
    · obtain ⟨c, hc, hans⟩ := h p hp
      exact ⟨c, by rw [List.getElem?_append_left (List.getElem?_eq_some_iff.1 hc).1, hc], hans⟩
    · exact ⟨cmd, by simp, rfl⟩
  · obtain ⟨n, cmd, q, _, hpending, _, hhistory, _⟩ := step_receive hs
    intro p hp
    rw [hhistory]
    exact h p (by rw [hpending]; exact List.mem_cons_of_mem q hp)
  · intro p hp
    rw [hq.history]
    exact h p (hq.sublist.subset hp)

/-- The first state of a connected client. -/
def start : QmpState := {}

theorem Genuine.of_reachable (h : Machine.Reachable (QmpState.step qemu) start s) :
    Genuine qemu s := by
  refine h.invariant (I := Genuine qemu) ?_ fun s a s' hI hs => hI.step hs
  intro p hp
  cases hp

/-- While the call with number `n` waits, the first pending answer stays the first; and once it has
returned, no call with this number waits again. -/
def Tracks (qemu : ℕ → QMPCommand → QemuAnswer) (n : ℕ) (cmd : QMPCommand) (p : ℕ × QMPResponse)
    (t : QmpState) : Prop :=
  n < t.history.length ∧
    ((t.current = some (.waiting n cmd) ∧ (t.pending qemu).head? = some p) ∨
      ∀ cmd', t.current ≠ some (.waiting n cmd'))

theorem Tracks.step {n : ℕ} {cmd : QMPCommand} {p : ℕ × QMPResponse} {a : QmpAct}
    (h : Tracks qemu n cmd p s) (hs : s.step qemu a = some s') : Tracks qemu n cmd p s' := by
  obtain ⟨hlt, htrack⟩ := h
  rcases step_pending hs with rfl | rfl | hq
  · -- a new call gets a new number
    obtain ⟨c, _, hcurrent, hhistory, _⟩ := step_write hs
    refine ⟨by rw [hhistory, List.length_append]; omega, Or.inr fun cmd' heq => ?_⟩
    rw [hcurrent] at heq
    cases heq
    exact lt_irrefl _ hlt
  · obtain ⟨_, _, _, _, _, hcurrent, hhistory, _⟩ := step_receive hs
    exact ⟨by rw [hhistory]; exact hlt, Or.inr fun cmd' heq => by rw [hcurrent] at heq; cases heq⟩
  · refine ⟨by rw [hq.history]; exact hlt, ?_⟩
    by_cases hw : s'.Waiting
    · have hsame := hq.waiting hw
      rcases htrack with ⟨hcurrent, hhead⟩ | hother
      · exact Or.inl ⟨hsame.trans hcurrent, hq.head.trans hhead⟩
      · exact Or.inr fun cmd' heq => hother cmd' (hsame ▸ heq)
    · exact Or.inr fun cmd' heq => hw ⟨n, cmd', heq⟩

end QmpState

/-- **Whose answer a call returns.**  Take any run of a connected client, up to a state `s` in which
a call writes its command, on to a state `t` in which this call still waits, and then let it receive
an answer.  It returns what QEMU answered to some command that was written; and that command is its
own if and only if nothing was pending in `s`: no answer in the channel, none on the socket, and no
command that QEMU had still to answer. -/
theorem execute_own_answer_iff {qemu : ℕ → QMPCommand → QemuAnswer} {as bs : List QmpAct}
    {s s₁ t u : QmpState} {cmd : QMPCommand}
    (h₁ : Machine.run (QmpState.step qemu) QmpState.start as = some s)
    (hwrite : s.step qemu (.write none) = some s₁)
    (h₂ : Machine.run (QmpState.step qemu) s₁ bs = some t)
    (hwait : t.current = some (.waiting s.history.length cmd))
    (hreceive : t.step qemu .receive = some u) :
    ∃ o c, t.history[o]? = some c ∧
      u.returned = t.returned ++ [{
        cmd := cmd
        number := some s.history.length
        result := (qemu o c).toMessage.toResponse.result
        origin := some o }] ∧
      (o = s.history.length ↔ s.pending qemu = []) := by
  obtain ⟨cmd₀, _, hcurrent₁, hhistory₁, hpending₁⟩ := QmpState.step_write hwrite
  have hgen : s.Genuine qemu := QmpState.Genuine.of_reachable ⟨as, h₁⟩
  have hgen' : t.Genuine qemu := QmpState.Genuine.of_reachable
    ⟨as ++ .write none :: bs, Machine.run_append_eq_some h₁
      (Machine.run_cons_eq_some.2 ⟨s₁, hwrite, h₂⟩)⟩
  obtain ⟨p, hp⟩ : ∃ p, (s₁.pending qemu).head? = some p := by
    rw [hpending₁]
    cases s.pending qemu <;> simp
  have htrack : t.Tracks qemu s.history.length cmd₀ p :=
    Machine.Reachable.invariant ⟨bs, h₂⟩ ⟨by rw [hhistory₁]; simp, Or.inl ⟨hcurrent₁, hp⟩⟩
      fun _ _ _ hI hs => hI.step hs
  -- the call is still the same, so it takes the answer that was first when it wrote
  obtain ⟨n, c, q, hcurrent, hpending, _, _, hreturned⟩ := QmpState.step_receive hreceive
  rw [hwait] at hcurrent
  cases hcurrent
  have hq : q = p := by
    rcases htrack.2 with ⟨_, hhead⟩ | hother
    · rw [hpending] at hhead
      exact Option.some.inj hhead
    · exact absurd hwait (hother cmd)
  subst hq
  obtain ⟨c, hc, hans⟩ := hgen' q (by rw [hpending]; exact List.mem_cons_self)
  refine ⟨q.1, c, hc, by rw [hreturned, hans], ?_⟩
  rw [hpending₁] at hp
  cases hs : s.pending qemu with
  | nil =>
      rw [hs] at hp
      cases hp
      simp
  | cons p' l =>
      rw [hs] at hp
      cases hp
      -- an answer that was pending belongs to an earlier command
      obtain ⟨c', hc', _⟩ := hgen q (by rw [hs]; exact List.mem_cons_self)
      have hlt := (List.getElem?_eq_some_iff.1 hc').1
      simp only [reduceCtorEq, iff_false]
      omega

/-- QEMU answers each command with its number. -/
def numberAnswers (n : ℕ) (_ : QMPCommand) : QemuAnswer := .ret (toString n)

/-- An event in between does no harm: the only call returns the answer to its command. -/
theorem execute_own_answer_first :
    ∃ s s₁ t u, Machine.run (QmpState.step numberAnswers) QmpState.start
        [.execute ⟨"query-status", none⟩, .lock 0] = some s ∧
      s.step numberAnswers (.write none) = some s₁ ∧
      Machine.run (QmpState.step numberAnswers) s₁
        [.event "RTC_CHANGE" none none, .read, .answer, .read] = some t ∧
      t.step numberAnswers .receive = some u ∧
      ∃ r, u.returned = t.returned ++ [r] ∧ r.origin = r.number := by
  have hrun : ((Machine.run (QmpState.step numberAnswers) QmpState.start
      [.execute ⟨"query-status", none⟩, .lock 0]).bind fun s =>
        (s.step numberAnswers (.write none)).bind fun s₁ =>
          (Machine.run (QmpState.step numberAnswers) s₁
            [.event "RTC_CHANGE" none none, .read, .answer, .read]).bind fun t =>
              (t.step numberAnswers .receive).map fun _ =>
                (t.current = some (.waiting s.history.length ⟨"query-status", none⟩) ∧
                  s.pending numberAnswers = [] : Bool)) = some true := by decide
  obtain ⟨s, h₁, hrun⟩ := Option.bind_eq_some_iff.1 hrun
  obtain ⟨s₁, hwrite, hrun⟩ := Option.bind_eq_some_iff.1 hrun
  obtain ⟨t, h₂, hrun⟩ := Option.bind_eq_some_iff.1 hrun
  obtain ⟨u, hreceive, hrun⟩ := Option.map_eq_some_iff.1 hrun
  obtain ⟨hwait, hnil⟩ := of_decide_eq_true hrun
  obtain ⟨o, c, _, hreturned, hown⟩ := execute_own_answer_iff h₁ hwrite h₂ hwait hreceive
  exact ⟨s, s₁, t, u, h₁, hwrite, h₂, hreceive, _, hreturned, congrArg some (hown.2 hnil)⟩

/-- **A late answer is taken for the next one**: the first call gives up after it wrote its command,
and the second call returns the answer to the first command. -/
theorem execute_returns_earlier_answer :
    ((Machine.run (QmpState.step numberAnswers) QmpState.start
      [.execute ⟨"query-block", none⟩, .lock 0, .write none, .abandon .deadlineExceeded,
        .execute ⟨"query-status", none⟩, .lock 0, .write none, .answer, .read, .receive]).map
      fun s => s.returned.drop 1) =
        some [⟨⟨"query-status", none⟩, some 1, .payload (some "0"), some 0⟩] := by
  decide

end Dvf
