/-
**The registration handshake** (`internal/vm/virtio_serial.go`, `serveVM` and `commandPump`;
`python-agent/agent/__main__.py`, `register` and `command_loop`).

The agent sends `register` and takes the next message from the host for the answer, whatever it is.
The hub answers a `register` in three steps: it tells the coordinator that the agent is ready,
writes the ack, and starts one more pump that forwards commands.  Pumps are not stopped.  The
service manager restarts an agent that failed, on the same connection, and the new agent registers
again.

On the first registration no pump runs before the ack is written, and all is well.  From the second
one on the pumps of the earlier registrations are running, and two things can put a command in the
place of the ack: a pump writes one while the agent waits for its answer and nothing is in the
stream, or the agent is started when the stream does not begin with an ack.  `Dvf.handshake_exact`
says that these, together with an agent that dies in the middle of a command line, are the only ways
to lose a command, and that each of them can.

Main definitions:

* `Dvf.HandshakeState`, `Dvf.HandshakeAct`, `Dvf.HandshakeState.step` — hub, pumps and agent, with
  the commands that were written and seen and the messages that were taken for the ack;
* `Dvf.HandshakeState.Misread` — a message that is no ack was taken for one, or a written command is
  neither in the stream nor seen by the command loop;
* `Dvf.HandshakeState.Quiet` — the condition on the steps.

Main results:

* `Dvf.handshake_exact` — **the condition is exact**.
-/

import Dvf.Machine
import Dvf.Types

set_option autoImplicit false

namespace Dvf

/-! ### Hub, pumps and agent -/

/-- A line in the stream from the host to the agent.  Of a line that a dead agent had begun to read
only the rest is left, which is not JSON. -/
inductive HostMessage
  | ack (agentID : String)
  | command (cmd : AgentCommand)
  | broken
  deriving DecidableEq, Repr

def HostMessage.isAck : HostMessage → Bool
  | .ack _ => true
  | _ => false

def HostMessage.command? : HostMessage → Option AgentCommand
  | .command cmd => some cmd
  | _ => none

/-- Where `serveVM` is in the handling of a `register`. -/
inductive HubPhase
  | scanning
  | notified
  | acked
  deriving DecidableEq, Repr

/-- Where the agent is: failed or not yet started, in `register` waiting for the answer, in the
command loop, or stopped for good. -/
inductive AgentPhase
  | down
  | waiting
  | up (agentID : String)
  | stopped
  deriving DecidableEq, Repr

/-- The two ends of the connection of one virtual machine. -/
structure HandshakeState where
  /-- `register` messages that the hub has not read yet. -/
  registers : ℕ := 0
  hub : HubPhase := .scanning
  /-- `NotifyAgentReady` was called. -/
  ready : Bool := false
  /-- The command channel of the coordinator. -/
  queue : List AgentCommand := []
  /-- The pumps, each with the command it holds. -/
  pumps : List (Option AgentCommand) := []
  /-- What the agent has not read yet. -/
  toGuest : List HostMessage := []
  agent : AgentPhase := .down
  /-- The messages that `register` took for its answer. -/
  answers : List HostMessage := []
  /-- The commands that the pumps have written. -/
  written : List AgentCommand := []
  /-- The commands that the command loop has got. -/
  seen : List AgentCommand := []
  deriving DecidableEq, Repr

inductive HandshakeAct
  /-- The agent is started, or started again, and sends `register`. -/
  | register
  /-- `register` reads one message. -/
  | readAnswer
  /-- The command loop reads one message. -/
  | readCommand
  /-- The agent fails, possibly in the middle of a line. -/
  | fail (midLine : Bool)
  /-- `serveVM` reads a `register` and calls `NotifyAgentReady`. -/
  | notifyReady
  /-- `serveVM` writes the ack. -/
  | writeAck
  /-- `serveVM` starts a command pump. -/
  | startPump
  /-- `SendCommand` puts a command into the channel. -/
  | sendCommand (cmd : AgentCommand)
  /-- The pump takes the next command. -/
  | getNextCommand (i : ℕ)
  /-- The pump writes its command. -/
  | writeCommand (i : ℕ)
  deriving DecidableEq, Repr

namespace HandshakeState

variable {vmID : String} {s s' : HandshakeState}

/-- `register` after it has read a message: the agent goes on under the id from the ack, or under
the id the ack would have had. -/
def answered (vmID : String) : HostMessage → AgentPhase
  | .ack agentID => .up agentID
  | _ => .up ("agent-" ++ vmID)

/-- The command loop after it has read a message: the command `shutdown` ends it, other commands are
executed, and what is no command is passed over. -/
def looped (agentID : String) : HostMessage → AgentPhase
  | .command cmd => if cmd.type = "shutdown" then .stopped else .up agentID
  | _ => .up agentID

/-- A line whose beginning was read is broken. -/
def breakLine : List HostMessage → List HostMessage
  | [] => []
  | _ :: rest => .broken :: rest

def step (vmID : String) (s : HandshakeState) : HandshakeAct → Option HandshakeState
  | .register =>
      if s.agent = .down then some { s with registers := s.registers + 1, agent := .waiting }
      else none
  | .readAnswer =>
      match s.agent, s.toGuest with
      | .waiting, m :: rest =>
          some { s with
            toGuest := rest
            agent := answered vmID m
            answers := s.answers ++ [m] }
      | _, _ => none
  | .readCommand =>
      match s.agent, s.toGuest with
      | .up agentID, m :: rest =>
          some { s with
            toGuest := rest
            agent := looped agentID m
            seen := s.seen ++ m.command?.toList }
      | _, _ => none
  | .fail midLine =>
      if s.agent = .down ∨ s.agent = .stopped then none
      else some { s with
        agent := .down
        toGuest := if midLine then breakLine s.toGuest else s.toGuest }
  | .notifyReady =>
      if s.hub = .scanning ∧ 0 < s.registers then
        some { s with registers := s.registers - 1, hub := .notified, ready := true }
      else none
  | .writeAck =>
      if s.hub = .notified then
        some { s with toGuest := s.toGuest ++ [.ack ("agent-" ++ vmID)], hub := .acked }
      else none
  | .startPump =>
      if s.hub = .acked then some { s with pumps := s.pumps ++ [none], hub := .scanning } else none
  | .sendCommand cmd => some { s with queue := s.queue ++ [cmd] }
  | .getNextCommand i =>
      match s.pumps[i]?, s.queue with
      | some none, cmd :: rest => some { s with queue := rest, pumps := s.pumps.set i (some cmd) }
      | _, _ => none
  | .writeCommand i =>
      match s.pumps[i]? with
      | some (some cmd) =>
          some { s with
            toGuest := s.toGuest ++ [.command cmd]
            pumps := s.pumps.set i none
            written := s.written ++ [cmd] }
      | _ => none

def inStream (s : HandshakeState) : List AgentCommand := s.toGuest.filterMap HostMessage.command?

/-- Something went wrong: a message that is no ack was taken for one, or a command that was written
is neither seen nor still to be read. -/
def Misread (s : HandshakeState) : Prop :=
  (∃ m ∈ s.answers, m.isAck = false) ∨ s.written ≠ s.seen ++ s.inStream

instance : DecidablePred Misread := fun _ => inferInstanceAs (Decidable (_ ∨ _))

/-- The stream is empty or begins with an ack. -/
def AckFirst (s : HandshakeState) : Prop := ∀ m, s.toGuest.head? = some m → m.isAck = true

/-- **The condition**: the agent is started when the stream is empty or begins with an ack; no pump
writes into the empty stream of an agent that waits; and the agent does not fail in the middle of a
command. -/
def Quiet (s : HandshakeState) : HandshakeAct → Prop
  | .register => s.AckFirst
  | .writeCommand _ => ¬ (s.agent = .waiting ∧ s.toGuest = [])
  | .fail midLine => midLine = true → ∀ m, s.toGuest.head? = some m → m.command? = none
  | _ => True

/-! ### What the steps do -/

/-- Nothing went wrong, and a waiting agent will find an ack. -/
structure Inv (s : HandshakeState) : Prop where
  answers : ∀ m ∈ s.answers, m.isAck = true
  written : s.written = s.seen ++ s.inStream
  waiting : s.agent = .waiting → s.AckFirst

theorem Inv.not_misread (hI : s.Inv) : ¬ s.Misread := by
  rintro (⟨m, hm, hack⟩ | hne)
  · rw [hI.answers m hm] at hack
    cases hack
  · exact hne hI.written

theorem command?_of_isAck {m : HostMessage} (h : m.isAck = true) : m.command? = none := by
  cases m with
  | ack agentID => rfl
  | command cmd => cases h
  | broken => cases h

theorem AckFirst.append {l : List HostMessage} {m : HostMessage}
    (h : ∀ m, l.head? = some m → m.isAck = true) (hm : l = [] → m.isAck = true) :
    ∀ m', (l ++ [m]).head? = some m' → m'.isAck = true := by
  cases l with
  | nil =>
      rintro m' hm'
      cases hm'
      exact hm rfl
  | cons a l => exact h

theorem filterMap_breakLine {l : List HostMessage}
    (h : ∀ m, l.head? = some m → m.command? = none) :
    (breakLine l).filterMap HostMessage.command? = l.filterMap HostMessage.command? := by
  cases l with
  | nil => rfl
  | cons m l =>
      rw [breakLine, List.filterMap_cons_none (h m rfl)]
      rfl

theorem readAnswer_cases (h : s.step vmID .readAnswer = some s') :
    ∃ m rest, s.agent = .waiting ∧ s.toGuest = m :: rest ∧
      s' = { s with toGuest := rest, agent := answered vmID m, answers := s.answers ++ [m] } := by
  simp only [step] at h
  split at h
  · next m rest hagent hguest => exact ⟨m, rest, hagent, hguest, (Option.some.inj h).symm⟩
  · cases h

theorem readCommand_cases (h : s.step vmID .readCommand = some s') :
    ∃ agentID m rest, s.agent = .up agentID ∧ s.toGuest = m :: rest ∧
      s' = { s with
        toGuest := rest, agent := looped agentID m, seen := s.seen ++ m.command?.toList } := by
  simp only [step] at h
  split at h
  · next agentID m rest hagent hguest =>
      exact ⟨agentID, m, rest, hagent, hguest, (Option.some.inj h).symm⟩
  · cases h

theorem writeCommand_cases {i : ℕ} (h : s.step vmID (.writeCommand i) = some s') :
    ∃ cmd, s' = { s with
      toGuest := s.toGuest ++ [.command cmd]
      pumps := s.pumps.set i none
      written := s.written ++ [cmd] } := by
  simp only [step] at h
  split at h
  · next cmd _ => exact ⟨cmd, (Option.some.inj h).symm⟩
  · cases h

theorem getNextCommand_cases {i : ℕ} (h : s.step vmID (.getNextCommand i) = some s') :
    ∃ queue pumps, s' = { s with queue := queue, pumps := pumps } := by
  simp only [step] at h
  split at h
  · next cmd rest _ _ => exact ⟨rest, s.pumps.set i (some cmd), (Option.some.inj h).symm⟩
  · cases h

theorem answered_ne_waiting (vmID : String) (m : HostMessage) : answered vmID m ≠ .waiting := by
  cases m <;> simp [answered]

theorem looped_ne_waiting (agentID : String) (m : HostMessage) : looped agentID m ≠ .waiting := by
  cases m with
  | ack agentID => simp [looped]
  | command cmd =>
      rw [looped]
      split <;> simp
  | broken => simp [looped]

/-- **Every quiet step keeps the invariant.** -/
theorem Inv.step {a : HandshakeAct} (hI : s.Inv) (hq : s.Quiet a)
    (h : s.step vmID a = some s') : s'.Inv := by
  cases a with
  | register =>
      obtain ⟨-, ⟨⟩⟩ := Option.ite_none_right_eq_some.1 h
      exact ⟨hI.answers, hI.written, fun _ => hq⟩
  | readAnswer =>
      obtain ⟨m, rest, hagent, hguest, rfl⟩ := readAnswer_cases h
      have hack : m.isAck = true := hI.waiting hagent m (by rw [hguest]; rfl)
      refine ⟨?_, ?_, fun hw => absurd hw (answered_ne_waiting vmID m)⟩
      · rintro m' hm'
        obtain hm' | hm' := List.mem_append.1 hm'
        · exact hI.answers m' hm'
        · rw [List.mem_singleton.1 hm']
          exact hack
      · have hwritten := hI.written
        rwa [inStream, hguest, List.filterMap_cons_none (command?_of_isAck hack)] at hwritten
  | readCommand =>
      obtain ⟨agentID, m, rest, -, hguest, rfl⟩ := readCommand_cases h
      refine ⟨hI.answers, ?_, fun hw => absurd hw (looped_ne_waiting agentID m)⟩
      have hwritten := hI.written
      rw [inStream, hguest] at hwritten
      change s.written = (s.seen ++ m.command?.toList) ++ rest.filterMap HostMessage.command?
      rw [hwritten]
      cases hm : m.command? with
      | none => simp [hm]
      | some cmd => simp [hm]
  | fail midLine =>
      obtain ⟨-, ⟨⟩⟩ := Option.ite_none_left_eq_some.1 h
      refine ⟨hI.answers, ?_, fun hw => by cases hw⟩
      cases midLine with
      | false => exact hI.written
      | true =>
          change s.written = s.seen ++ (breakLine s.toGuest).filterMap HostMessage.command?
          rw [filterMap_breakLine (hq rfl)]
          exact hI.written
  | notifyReady =>
      obtain ⟨-, ⟨⟩⟩ := Option.ite_none_right_eq_some.1 h
      exact ⟨hI.answers, hI.written, hI.waiting⟩
  | writeAck =>
      obtain ⟨-, ⟨⟩⟩ := Option.ite_none_right_eq_some.1 h
      refine ⟨hI.answers, ?_, fun hw => AckFirst.append (hI.waiting hw) fun _ => rfl⟩
      change s.written = s.seen ++ (s.toGuest ++ [_]).filterMap HostMessage.command?
      rw [List.filterMap_append, List.filterMap_cons_none rfl, List.filterMap_nil, List.append_nil]
      exact hI.written
  | startPump =>
      obtain ⟨-, ⟨⟩⟩ := Option.ite_none_right_eq_some.1 h
      exact ⟨hI.answers, hI.written, hI.waiting⟩
  | sendCommand cmd =>
      cases h
      exact ⟨hI.answers, hI.written, hI.waiting⟩
  | getNextCommand i =>
      obtain ⟨queue, pumps, rfl⟩ := getNextCommand_cases h
      exact ⟨hI.answers, hI.written, hI.waiting⟩
  | writeCommand i =>
      obtain ⟨cmd, rfl⟩ := writeCommand_cases h
      refine ⟨hI.answers, ?_, fun hw => AckFirst.append (hI.waiting hw) fun hnil =>
        absurd ⟨hw, hnil⟩ hq⟩
      change s.written ++ [cmd] = s.seen ++ (s.toGuest ++ [_]).filterMap HostMessage.command?
      rw [List.filterMap_append, hI.written, List.append_assoc, inStream]
      rfl

theorem exists_misread_of_waiting (hw : s.agent = .waiting) {m : HostMessage}
    {rest : List HostMessage} (hguest : s.toGuest = m :: rest) (hm : m.isAck = false) :
    ∃ t, Machine.ReachableBy (step vmID) Quiet s t ∧ t.Misread := by
  have hread : s.step vmID .readAnswer = some { s with
      toGuest := rest, agent := answered vmID m, answers := s.answers ++ [m] } := by
    rw [step, hw, hguest]
  refine ⟨_, .single hread trivial, .inl ⟨m, ?_, hm⟩⟩
  exact List.mem_append_right _ List.mem_cons_self

/-- **A step that is not quiet can lose a command.** -/
theorem exists_misread_of_not_quiet {a : HandshakeAct} (hs : ¬ s.Misread)
    (h : s.step vmID a = some s') (hq : ¬ s.Quiet a) :
    ∃ t, Machine.ReachableBy (step vmID) Quiet s' t ∧ t.Misread := by
  cases a with
  | register =>
      obtain ⟨m, hm, hack⟩ : ∃ m, s.toGuest.head? = some m ∧ m.isAck = false := by
        simpa [Quiet, AckFirst] using hq
      obtain ⟨-, ⟨⟩⟩ := Option.ite_none_right_eq_some.1 h
      obtain ⟨rest, hguest⟩ := List.head?_eq_some_iff.1 hm
      exact exists_misread_of_waiting rfl hguest hack
  | writeCommand i =>
      obtain ⟨hw, hnil⟩ := not_not.1 hq
      obtain ⟨cmd, rfl⟩ := writeCommand_cases h
      exact exists_misread_of_waiting hw (by rw [hnil]; rfl) rfl
  | fail midLine =>
      obtain ⟨rfl, m, hm, hcmd⟩ : midLine = true ∧ ∃ m, s.toGuest.head? = some m ∧
          m.command? ≠ none := by
        simpa [Quiet] using hq
      obtain ⟨-, ⟨⟩⟩ := Option.ite_none_left_eq_some.1 h
      obtain ⟨rest, hguest⟩ := List.head?_eq_some_iff.1 hm
      obtain ⟨cmd, hcmd⟩ := Option.ne_none_iff_exists'.1 hcmd
      refine ⟨_, .refl _, .inr fun hlost => hs (.inr fun hwritten => ?_)⟩
      -- the same commands would be written with and without the broken one in the stream
      have hbroken : HostMessage.broken.command? = none := rfl
      have hlength := congrArg List.length (hlost.symm.trans hwritten)
      simp only [inStream, if_true, hguest, breakLine, List.length_append, Nat.add_left_cancel_iff,
        List.filterMap_cons_some hcmd, List.filterMap_cons_none hbroken,
        List.length_cons] at hlength
      omega
  | readAnswer => exact absurd trivial hq
  | readCommand => exact absurd trivial hq
  | notifyReady => exact absurd trivial hq
  | writeAck => exact absurd trivial hq
  | startPump => exact absurd trivial hq
  | sendCommand cmd => exact absurd trivial hq
  | getNextCommand i => exact absurd trivial hq

end HandshakeState

/-- **As long as the steps are quiet, every answer is an ack and no command is lost, and a step that
is not quiet can lose one.** -/
theorem handshake_exact (vmID : String) :
    Machine.ExactFor (HandshakeState.step vmID) {} HandshakeState.Quiet
      HandshakeState.Misread := by
  refine ⟨fun hobeys hrun => ?_, fun _ hs hstep hq =>
    HandshakeState.exists_misread_of_not_quiet hs hstep hq⟩
  have hinit : HandshakeState.Inv {} :=
    ⟨fun _ hm => absurd hm List.not_mem_nil, rfl, fun hw => by cases hw⟩
  exact (Machine.run_invariant (fun s a s' hI hq hstep => HandshakeState.Inv.step hI hq hstep)
    hinit hobeys hrun).not_misread

/-- The agent registers, fails, and a command is sent while it is down: the pump of the first
registration writes it, and the agent that is started again takes it for the ack.  Then the ack
comes, and the command loop passes over it. -/
theorem command_taken_for_ack : ∃ s,
    Machine.run (HandshakeState.step "vm-1") {}
      [.register, .notifyReady, .writeAck, .startPump, .readAnswer, .fail false,
        .sendCommand { id := "c1", type := "start_test" }, .getNextCommand 0, .writeCommand 0,
        .register, .readAnswer, .notifyReady, .writeAck, .startPump, .readCommand] = some s ∧
    s.Misread ∧ s.answers = [.ack "agent-vm-1", .command { id := "c1", type := "start_test" }] ∧
      s.seen = [] ∧ s.toGuest = [] := by
  refine ⟨_, rfl, ?_⟩
  decide

end Dvf
