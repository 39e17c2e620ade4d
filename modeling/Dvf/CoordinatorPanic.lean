/-
**Panics of the agent coordinator** (`internal/core/agent_state.go`).

`SendCommand` looks its agent state up under the lock and uses the command channel afterwards;
`UnregisterVM` closes that channel under the lock.  A send on a closed channel panics, also as one
case of a `select`, and nothing in the orchestrator recovers from it.  So a machine must not be
unregistered while a command for it is between the lookup and the channel, and the coordinator
itself does nothing to prevent that: the steps of a workflow may still be sending when the run that
started them returns and unregisters its machine.  No channel is ever closed twice.

Main definitions:

* `Dvf.CoordState.Careful` — no machine is unregistered while a command for it is on its way.

Main results:

* `Dvf.CoordState.Unclosed.step` — the channels in the map are open, in every run;
* `Dvf.CoordState.Guarded.step` — with care, so are the channels that a command is on its way to;
* `Dvf.coordinator_panic_exact` — **the coordinator panics just when a machine is unregistered while
  a command for it is on its way**.
-/

import Dvf.CoordinatorSteps

set_option autoImplicit false

namespace Dvf

open Go

namespace CoordState

variable {s s' : CoordState} {a : CoordAct}

/-! ### Channels that are open -/

/-- The command channel of agent state `o` is closed. -/
def Closed (s : CoordState) (o : ℕ) : Prop := ∃ obj, s.objects[o]? = some obj ∧ obj.closed = true

theorem closed_of_step (h : s.step a = some s') {o : ℕ} (hcl : s'.Closed o) :
    s.Closed o ∨ ∃ vmID, a = .unregisterVM vmID ∧ s.agents.lookup vmID = some o := by
  obtain ⟨obj', ho', hobj'⟩ := hcl
  cases (Effect.of_step h).objects o obj' ho' with
  | same ho => exact Or.inl ⟨_, ho, hobj'⟩
  | registered => cases hobj'
  | closed hl ho => exact Or.inr ⟨_, rfl, hl⟩
  | ready ho => exact Or.inl ⟨_, ho, hobj'⟩
  | waiter _ _ ho => exact Or.inl ⟨_, ho, hobj'⟩
  | put _ _ ho => exact Or.inl ⟨_, ho, hobj'⟩
  | removed ho => exact Or.inl ⟨_, ho, hobj'⟩
  | taken _ ho _ => exact Or.inl ⟨_, ho, hobj'⟩

theorem Closed.lt_length {o : ℕ} (h : s.Closed o) : o < s.objects.length := by
  obtain ⟨obj, ho, -⟩ := h
  exact (List.getElem?_eq_some_iff.1 ho).1

theorem OnVM.unique {o : ℕ} {vmID vmID' : String} (h : s.OnVM o vmID) (h' : s.OnVM o vmID') :
    vmID = vmID' := by
  obtain ⟨obj, ho, rfl⟩ := h
  obtain ⟨obj', ho', rfl⟩ := h'
  rw [ho] at ho'
  cases ho'
  rfl

/-- **The channels in the map are open**, and `ready` is closed once. -/
structure Unclosed (s : CoordState) : Prop where
  wf : s.Wf
  registered : ∀ vmID o, s.agents.lookup vmID = some o → ¬ s.Closed o
  once : ∀ (o : ℕ) (obj : AgentState), s.objects[o]? = some obj → obj.ready = obj.readyOnce

theorem Unclosed.start : CoordState.start.Unclosed where
  wf := .start
  registered _ _ h := by cases h
  once _ _ h := by cases h

theorem Unclosed.step (hu : s.Unclosed) (h : s.step a = some s') : s'.Unclosed := by
  have heff := Effect.of_step h
  refine ⟨hu.wf.step h, fun vmID o hl hcl => ?_, fun o obj' ho' => ?_⟩
  · cases heff.agents vmID o hl with
    | same ha hl =>
        -- the channel has just been closed, but then under another machine's name
        obtain hcl | ⟨vmID', rfl, hl'⟩ := closed_of_step h hcl
        · exact hu.registered vmID o hl hcl
        · have hvm := (hu.wf.agents vmID o hl).unique (hu.wf.agents vmID' o hl')
          exact ha (hvm ▸ rfl)
    | registered =>
        obtain hcl | ⟨_, ha, _⟩ := closed_of_step h hcl
        · exact absurd hcl.lt_length (Nat.lt_irrefl _)
        · cases ha
    | panicked hl ho hc _ => exact hu.registered _ _ hl ⟨_, ho, hc⟩
  · cases heff.objects o obj' ho' with
    | same ho => exact (hu.once o _ ho :)
    | registered => rfl
    | closed _ ho => exact (hu.once o _ ho :)
    | ready ho =>
        change (_ || !_) = true
        rw [hu.once o _ ho, Bool.or_not_self]
    | waiter _ _ ho => exact (hu.once o _ ho :)
    | put _ _ ho => exact (hu.once o _ ho :)
    | removed ho => exact (hu.once o _ ho :)
    | taken _ ho _ => exact (hu.once o _ ho :)

theorem Unclosed.not_closeOfClosed (hu : s.Unclosed) (h : s.step a = some s') :
    s'.panicked ≠ some .closeOfClosed := by
  intro hp
  cases (Effect.of_step h).panicked _ hp with
  | close hl ho hcl => exact hu.registered _ _ hl ⟨_, ho, hcl⟩
  | ready ho hr => exact hr (hu.once _ _ ho)

/-! ### Unregistering with care -/

/-- **The condition on the actions**: a machine is not unregistered while a call of `SendCommand` is
between the lookup of its agent state and the command channel. -/
def Careful (s : CoordState) : CoordAct → Prop
  | .unregisterVM vmID => ∀ o ∈ s.agents.lookup vmID, ∀ c ∈ s.sends, ¬ c.pc.Before o
  | _ => True

instance (s : CoordState) : ∀ a, Decidable (s.Careful a)
  | .unregisterVM vmID =>
      inferInstanceAs (Decidable (∀ o ∈ s.agents.lookup vmID, ∀ c ∈ s.sends, ¬ c.pc.Before o))
  | .registerVM _ | .notifyAgentReady _ _ | .closeReady _ | .sendCommand _ _ | .registerWaiter _
  | .enqueue _ | .receiveResult _ | .abandon _ _ | .removeWaiter _ | .getNextCommand _
  | .receiveCommand _ | .abandonGet _ _ | .deliverResult _ _ | .findWaiter _ | .sendResult _
  | .timeoutDeliver _ => isTrue trivial

/-- The channels that commands are on their way to are open, and nothing has panicked. -/
structure Guarded (s : CoordState) : Prop extends s.Unclosed where
  senders : ∀ (i : ℕ) (c : SendCall) (o : ℕ), s.sends[i]? = some c → c.pc.Before o → ¬ s.Closed o
  running : s.panicked = none

theorem Guarded.start : CoordState.start.Guarded where
  toUnclosed := .start
  senders _ _ _ h := by cases h
  running := rfl

/-- **With care, the channels that commands are on their way to stay open.** -/
theorem Guarded.step (hg : s.Guarded) (hc : s.Careful a) (h : s.step a = some s') :
    s'.Guarded := by
  have heff := Effect.of_step h
  -- a call that was on its way before the action
  have hold : ∀ (i : ℕ) (c : SendCall) (o : ℕ), s.sends[i]? = some c → c.pc.Before o →
      ¬ s'.Closed o := by
    intro i c o hci hb hcl
    obtain hcl | ⟨vmID, rfl, hl⟩ := closed_of_step h hcl
    · exact hg.senders i c o hci hb hcl
    · exact hc o hl c (List.mem_of_getElem? hci) hb
  refine ⟨hg.toUnclosed.step h, fun i c o hci' hb => ?_, ?_⟩
  · cases heff.sends i c hci' with
    | same hci => exact hold i c o hci hb
    | called hl =>
        intro hcl
        obtain rfl : _ = o := by simpa [SendPC.Before] using hb
        obtain hcl | ⟨_, ha, _⟩ := closed_of_step h hcl
        · exact hg.registered _ _ hl hcl
        · cases ha
    | registered hci hpc =>
        obtain rfl : _ = o := by simpa [SendPC.Before] using hb
        exact hold i _ _ hci (Or.inl hpc)
    | filled hci _ _ => exact hold i _ o hci hb
    | refused | put | received | abandoned | returned => simp [SendPC.Before] at hb
  · by_contra hp
    obtain ⟨p, hp⟩ := Option.ne_none_iff_exists'.1 hp
    cases heff.panicked p hp with
    | send hci hpc ho hcl => exact hg.senders _ _ _ hci (Or.inr hpc) ⟨_, ho, hcl⟩
    | close => exact hg.toUnclosed.not_closeOfClosed h hp
    | ready => exact hg.toUnclosed.not_closeOfClosed h hp

theorem exists_panic_of_enqueuing (hp : s.panicked = none) {i o : ℕ} {c : SendCall}
    (hc : s.sends[i]? = some c) (hpc : c.pc = .enqueuing o) (hcl : s.Closed o) :
    ∃ t, Machine.ReachableBy step Careful s t ∧ t.panicked ≠ none := by
  obtain ⟨obj, ho, hobj⟩ := hcl
  have hstep : s.step (.enqueue i) = some (tick { s with panicked := some .sendOnClosed }) := by
    simp [step, hp, act, enqueue, hc, hpc, ho, hobj]
  refine ⟨_, .single hstep trivial, ?_⟩
  simp [tick]

/-- A command on its way to a closed channel makes the program panic. -/
theorem exists_panic (hp : s.panicked = none) {i o : ℕ} {c : SendCall}
    (hc : s.sends[i]? = some c) (hb : c.pc.Before o) (hcl : s.Closed o) :
    ∃ t, Machine.ReachableBy step Careful s t ∧ t.panicked ≠ none := by
  obtain hpc | hpc := hb
  · -- the call still enters its channel into the table
    obtain ⟨obj, ho, hobj⟩ := hcl
    have hstep : s.step (.registerWaiter i) = some (tick { s with
        objects := s.objects.set o { obj with resultWaiters := obj.resultWaiters.insert c.cmd.id i }
        sends := s.sends.set i { c with pc := .enqueuing o, registeredAt := some s.time } }) := by
      simp [step, hp, act, registerWaiter, hc, hpc, ho]
    obtain ⟨s₁, hs₁, hp₁, ⟨c₁, hc₁, hpc₁⟩, hcl₁⟩ : ∃ s₁, s.step (.registerWaiter i) = some s₁ ∧
        s₁.panicked = none ∧ (∃ c₁, s₁.sends[i]? = some c₁ ∧ c₁.pc = .enqueuing o) ∧ s₁.Closed o :=
      ⟨_, hstep, hp, ⟨_, Machine.getElem?_set_self_of hc _, rfl⟩,
        ⟨_, Machine.getElem?_set_self_of ho _, hobj⟩⟩
    obtain ⟨t, hreach, ht⟩ := exists_panic_of_enqueuing hp₁ hc₁ hpc₁ hcl₁
    exact ⟨t, .head hs₁ trivial hreach, ht⟩
  · exact exists_panic_of_enqueuing hp hc hpc hcl

end CoordState

open CoordState

/-- **The coordinator panics just when a machine is unregistered while a command for it is on its
way.**  As long as `UnregisterVM` runs only while no call of `SendCommand` is between the lookup and
the command channel of that machine's agent state, nothing panics, under any interleaving; once it
runs there, the program can panic without a further step of that kind.  No channel is closed twice
in any run at all. -/
theorem coordinator_panic_exact {as : List CoordAct} {s : CoordState}
    (hrun : Machine.run step start as = some s) :
    (Machine.Obeys step Careful start as → s.panicked = none) ∧
      (s.panicked = none → ∀ (a : CoordAct) (s' : CoordState), s.step a = some s' →
        ¬ Careful s a →
          ∃ t, Machine.ReachableBy step Careful s' t ∧ t.panicked ≠ none) ∧
      s.panicked ≠ some .closeOfClosed := by
  refine ⟨fun hobeys => ?_, fun hp a s' h hcare => ?_, ?_⟩
  · have hg : Guarded s :=
      Machine.run_invariant (fun _ _ _ hg hc h => hg.step hc h) .start hobeys hrun
    exact hg.running
  · cases a with
    | unregisterVM vmID =>
        simp only [Careful, not_forall, not_not] at hcare
        obtain ⟨o, hl, c, hc, hb⟩ := hcare
        obtain ⟨i, hi⟩ := List.getElem?_of_mem hc
        obtain ⟨-, s₁, hact, rfl⟩ := exists_act h
        obtain ⟨hn, -⟩ | ⟨o', obj, hl', ho, ⟨-, rfl⟩ | ⟨-, rfl⟩⟩ := exists_of_unregisterVM hact
        · exact absurd (hn.symm.trans hl) (by simp)
        · exact ⟨_, .refl _, by simp [tick]⟩
        · cases hl'.symm.trans hl
          exact exists_panic (s := tick _) hp hi hb ⟨_, Machine.getElem?_set_self_of ho _, rfl⟩
    | _ => exact absurd trivial hcare
  · have hu : s.Unclosed ∧ s.panicked ≠ some .closeOfClosed :=
      Machine.Reachable.invariant (I := fun s => s.Unclosed ∧ s.panicked ≠ some .closeOfClosed)
        ⟨as, hrun⟩ ⟨.start, by simp [CoordState.start]⟩
        fun _ _ _ hu h => ⟨hu.1.step h, hu.1.not_closeOfClosed h⟩
    exact hu.2

/-- A run that unregisters its machine after its command has been put into the channel. -/
theorem coordinator_panic_exact_late :
    ∃ s, Machine.run step start [.registerVM "vm-1",
        .sendCommand "vm-1" ⟨"cmd-1", "start_test", []⟩, .registerWaiter 0, .enqueue 0,
        .unregisterVM "vm-1"] = some s ∧ s.panicked = none := by
  have hrun : (Machine.run step start [.registerVM "vm-1",
      .sendCommand "vm-1" ⟨"cmd-1", "start_test", []⟩, .registerWaiter 0, .enqueue 0,
      .unregisterVM "vm-1"]).isSome = true := by decide
  obtain ⟨s, hs⟩ := Option.isSome_iff_exists.1 hrun
  exact ⟨s, hs, (coordinator_panic_exact hs).1 (by decide)⟩

/-- **A step of a workflow panics after its run has returned**: the step has looked the agent state
up and entered its channel, the run unregisters the machine, and the step sends its command. -/
theorem sendCommand_panics_after_unregister :
    ((Machine.run step start [.registerVM "vm-1", .sendCommand "vm-1" ⟨"cmd-1", "start_test", []⟩,
      .registerWaiter 0, .unregisterVM "vm-1", .enqueue 0]).map panicked) =
        some (some .sendOnClosed) := by
  decide

end Dvf
