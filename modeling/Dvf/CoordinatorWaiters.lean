/-
**When the table of waiters keeps every call** (`internal/core/agent_state.go`).

The table of an agent state has one entry for each command id.  A call of `SendCommand` enters its
channel under the id of its command and removes the entry of this id when it returns, without a look
at what is there.  So two calls with the same id on one agent state take the entry from each other:
the second overwrites the entry of the first, and the first to return removes it for both.

This happens exactly when a call is entered while another one with the same id is in the table.  As
long as ids are fresh in this sense a call stays in the table until it leaves, in every
interleaving, so that `DeliverResult` finds it.

Main definitions:

* `Dvf.CoordState.Lost` — a call has lost its entry;
* `Dvf.CoordState.FreshID` — a call is entered under an id that no call in the table has.

Main results:

* `Dvf.CoordState.Kept.step` — what one action preserves;
* `Dvf.waiters_kept_exact` — **a call loses its entry just when an id is used twice at a time**.
-/

import Dvf.CoordinatorRouting

set_option autoImplicit false

namespace Dvf

open Go

/-- The agent state in whose table the call has been entered. -/
def SendPC.enteredOn : SendPC → Option ℕ
  | .enqueuing o => some o
  | .waiting o => some o
  | .returning o _ => some o
  | _ => none

namespace CoordState

variable {s s' : CoordState} {a : CoordAct}

/-- Call `i` has been entered into the table of agent state `o` under `id`, and has not left it. -/
def Entered (s : CoordState) (i o : ℕ) (id : String) : Prop :=
  ∃ c, s.sends[i]? = some c ∧ c.pc.enteredOn = some o ∧ c.cmd.id = id

/-- The entry of `id` in the table of agent state `o` is the one of call `i`. -/
def InTable (s : CoordState) (i o : ℕ) (id : String) : Prop :=
  ∃ obj, s.objects[o]? = some obj ∧ obj.resultWaiters.lookup id = some i

/-- **A call has lost its entry**: the table has another one under its id, or none. -/
def Lost (s : CoordState) : Prop := ∃ i o id, s.Entered i o id ∧ ¬ s.InTable i o id

/-- **A call is entered under a fresh id**: none that is in the table has it. -/
def FreshID (s : CoordState) : CoordAct → Prop
  | .registerWaiter i => ∀ c ∈ s.sends[i]?, ∀ o, c.pc = .registering o →
      ∀ j, ¬ s.Entered j o c.cmd.id
  | _ => True

/-- Every call that was entered is in the table. -/
structure Kept (s : CoordState) : Prop where
  wf : s.Wf
  kept : ∀ i o id, s.Entered i o id → s.InTable i o id

theorem Kept.start : CoordState.start.Kept where
  wf := .start
  kept _ _ _ h := by
    obtain ⟨c, hc, -⟩ := h
    cases hc

theorem Kept.not_lost (h : s.Kept) : ¬ s.Lost := by
  rintro ⟨i, o, id, hentered, hnot⟩
  exact hnot (h.kept i o id hentered)

/-- A call that is in the table after an action was there before, or was entered by it. -/
theorem entered_of_step (h : s.step a = some s') {i o : ℕ} {id : String}
    (hi : s'.Entered i o id) :
    s.Entered i o id ∨ a = .registerWaiter i ∧
      ∃ c, s.sends[i]? = some c ∧ c.pc = .registering o ∧ c.cmd.id = id := by
  obtain ⟨c', hc', hpc', rfl⟩ := hi
  cases (Effect.of_step h).sends i c' hc' with
  | same hc => exact Or.inl ⟨c', hc, hpc', rfl⟩
  | called | refused | returned => cases hpc'
  | registered hc hpc =>
      cases hpc'
      exact Or.inr ⟨rfl, _, hc, hpc, rfl⟩
  | put hc hpc | received hc hpc =>
      cases hpc'
      exact Or.inl ⟨_, hc, by rw [hpc]; rfl, rfl⟩
  | abandoned hc hpc =>
      cases hpc'
      refine Or.inl ⟨_, hc, ?_, rfl⟩
      rcases hpc with hpc | hpc
      · rw [hpc]
        rfl
      · rw [hpc]
        rfl
  | filled hc => exact Or.inl ⟨_, hc, hpc', rfl⟩

theorem InTable.of_step (hwf : s.Wf) (h : s.step a = some s') (hreg : ∀ k, a ≠ .registerWaiter k)
    (hrem : ∀ k, a ≠ .removeWaiter k) {i o : ℕ} {id : String} (hi : s.InTable i o id) :
    s'.InTable i o id := by
  obtain ⟨obj, ho, hl⟩ := hi
  obtain ⟨obj', ho', -⟩ := (Extends.of_step hwf h).objects o obj ho
  refine ⟨obj', ho', ?_⟩
  cases (Effect.of_step h).objects o obj' ho' with
  | same ho₁ | closed _ ho₁ | ready ho₁ | put _ _ ho₁ | taken _ ho₁ =>
      cases ho.symm.trans ho₁
      exact hl
  | registered => simp at ho
  | waiter => exact absurd rfl (hreg _)
  | removed => exact absurd rfl (hrem _)

theorem inTable_set {o : ℕ} {obj obj' : AgentState} (ho : s.objects[o]? = some obj)
    (hs : s'.objects = s.objects.set o obj') {i o' : ℕ} {id : String} (hi : s.InTable i o' id)
    (hlookup : o' = o → obj.resultWaiters.lookup id = some i →
      obj'.resultWaiters.lookup id = some i) : s'.InTable i o' id := by
  obtain ⟨obj₀, hobj₀, hl⟩ := hi
  unfold InTable
  rw [hs, Machine.getElem?_set_of ho]
  by_cases heq : o = o'
  · subst heq
    cases ho.symm.trans hobj₀
    exact ⟨obj', if_pos rfl, hlookup rfl hl⟩
  · exact ⟨obj₀, by rw [if_neg heq, hobj₀], hl⟩

/-- **What one action preserves.** -/
theorem Kept.step (hk : s.Kept) (hf : s.FreshID a) (h : s.step a = some s') : s'.Kept := by
  refine ⟨hk.wf.step h, fun i o id hi => ?_⟩
  have hbefore := entered_of_step h hi
  by_cases hreg : ∃ k, a = .registerWaiter k
  · obtain ⟨k, rfl⟩ := hreg
    obtain ⟨-, s₁, hact, rfl⟩ := exists_act h
    obtain ⟨c, o₁, obj, hc, hpc, ho, rfl⟩ := exists_of_registerWaiter hact
    rcases hbefore with hold | ⟨hnew, c', hc', hpc', rfl⟩
    · -- another call has another id
      refine inTable_set ho rfl (hk.kept i o id hold) fun heq hl => ?_
      subst heq
      have hne : id ≠ c.cmd.id := by
        rintro rfl
        exact hf c hc o hpc i hold
      exact (AList.lookup_insert_ne hne).trans hl
    · cases hnew
      cases hc.symm.trans hc'
      cases hpc.symm.trans hpc'
      exact ⟨_, Machine.getElem?_set_self_of ho _, AList.lookup_insert _⟩
  · have hold : s.Entered i o id := hbefore.resolve_right fun h => hreg ⟨i, h.1⟩
    by_cases hrem : ∃ k, a = .removeWaiter k
    · obtain ⟨k, rfl⟩ := hrem
      obtain ⟨-, s₁, hact, rfl⟩ := exists_act h
      obtain ⟨c, o₁, out, obj, hc, hpc, ho, rfl⟩ := exists_of_removeWaiter hact
      refine inTable_set ho rfl (hk.kept i o id hold) fun heq hl => ?_
      subst heq
      -- the entry of the call that leaves is its own
      have hne : id ≠ c.cmd.id := by
        rintro rfl
        obtain ⟨obj', ho', hl'⟩ := hk.kept k o _ ⟨c, hc, by rw [hpc]; rfl, rfl⟩
        cases ho.symm.trans ho'
        cases hl.symm.trans hl'
        obtain ⟨c', hc', hpc', -⟩ := hi
        cases (Machine.getElem?_set_self_of hc _).symm.trans hc'
        cases hpc'
      exact (AList.lookup_erase_ne hne).trans hl
    · exact (hk.kept i o id hold).of_step hk.wf h (fun k hk => hreg ⟨k, hk⟩)
        fun k hk => hrem ⟨k, hk⟩

/-- **A call that is entered under an id in use takes the entry of the other one.** -/
theorem Entered.overwritten {j k o : ℕ} {c : SendCall} (hj : s.Entered j o c.cmd.id)
    (hc : s.sends[k]? = some c) (hpc : c.pc = .registering o)
    (h : s.step (.registerWaiter k) = some s') :
    j ≠ k ∧ s'.InTable k o c.cmd.id ∧ s'.Entered j o c.cmd.id ∧ ¬ s'.InTable j o c.cmd.id := by
  obtain ⟨-, s₁, hact, rfl⟩ := exists_act h
  obtain ⟨c₁, o₁, obj, hc₁, hpc₁, ho, rfl⟩ := exists_of_registerWaiter hact
  cases hc.symm.trans hc₁
  cases hpc.symm.trans hpc₁
  obtain ⟨c', hc', hpc', hid⟩ := hj
  have hjk : k ≠ j := by
    rintro rfl
    cases hc.symm.trans hc'
    rw [hpc] at hpc'
    cases hpc'
  refine ⟨hjk.symm, ⟨_, Machine.getElem?_set_self_of ho _, AList.lookup_insert _⟩,
    ⟨c', (List.getElem?_set_ne hjk).trans hc', hpc', hid⟩, ?_⟩
  rintro ⟨obj', ho', hl⟩
  cases (Machine.getElem?_set_self_of ho _).symm.trans ho'
  exact hjk (Option.some.inj ((AList.lookup_insert _).symm.trans hl))

theorem lost_of_not_freshID (hf : ¬ s.FreshID a) (h : s.step a = some s') : s'.Lost := by
  cases a with
  | registerWaiter k =>
      simp only [FreshID] at hf
      push Not at hf
      obtain ⟨c, hc, o, hpc, j, hj⟩ := hf
      exact ⟨j, o, c.cmd.id, (hj.overwritten hc hpc h).2.2⟩
  | _ => exact absurd trivial hf

theorem InTable.findWaiter (hp : s.panicked = none) {i o d : ℕ} {x : DeliverCall}
    (hi : s.InTable i o x.result.commandID) (hx : s.delivers[d]? = some x)
    (hpc : x.pc = .finding o) :
    ∃ s', s.step (.findWaiter d) = some s' ∧
      s'.delivers[d]? = some { x with pc := .sending i, found := some (i, s.time) } := by
  obtain ⟨obj, ho, hl⟩ := hi
  have hstep : s.step (.findWaiter d) = some (tick { s with
      delivers := s.delivers.set d { x with pc := .sending i, found := some (i, s.time) } }) := by
    simp [CoordState.step, hp, act, CoordState.findWaiter, hx, hpc, ho, hl]
  exact ⟨_, hstep, Machine.getElem?_set_self_of hx _⟩

end CoordState

open CoordState

/-- **A call loses its entry just when an id is used twice at a time.**  In every interleaving in
which calls are entered under fresh ids, every call that was entered stays in the table until it
leaves, and a result with its id is handed to it.  And an action that enters a call `k` while
another call `j` is in the table under the same id gives the entry to `k` at once: `j` has not left,
and has none. -/
theorem waiters_kept_exact :
    Machine.ExactFor step start FreshID Lost ∧
    (∀ (as : List CoordAct) (s : CoordState), Machine.Obeys step FreshID start as →
      Machine.run step start as = some s → s.panicked = none →
      ∀ (i o d : ℕ) (x : DeliverCall), s.Entered i o x.result.commandID →
        s.delivers[d]? = some x → x.pc = .finding o →
        ∃ s', s.step (.findWaiter d) = some s' ∧
          s'.delivers[d]? = some { x with pc := .sending i, found := some (i, s.time) }) ∧
    ∀ (s s' : CoordState) (j k o : ℕ) (c : SendCall), s.sends[k]? = some c →
      c.pc = .registering o → s.Entered j o c.cmd.id → s.step (.registerWaiter k) = some s' →
      j ≠ k ∧ s'.InTable k o c.cmd.id ∧ s'.Entered j o c.cmd.id ∧ ¬ s'.InTable j o c.cmd.id := by
  have hkept {as : List CoordAct} {s : CoordState} (hobeys : Machine.Obeys step FreshID start as)
      (hrun : Machine.run step start as = some s) : s.Kept :=
    Machine.run_invariant (fun _ _ _ hk hf h => hk.step hf h) Kept.start hobeys hrun
  refine ⟨⟨fun hobeys hrun => (hkept hobeys hrun).not_lost, fun {_ _ s' _} _ _ h hf => ?_⟩,
    fun as s hobeys hrun hp i o d x hi hx hpc => ?_,
    fun s s' j k o c hc hpc hj h => hj.overwritten hc hpc h⟩
  · exact ⟨s', .refl s', lost_of_not_freshID hf h⟩
  · exact ((hkept hobeys hrun).kept i o _ hi).findWaiter hp hx hpc

/-- A first call is entered as `"step-a"`, and a second one has looked its agent state up. -/
def firstEntered (id : String) : List CoordAct :=
  [.registerVM "vm-1", .sendCommand "vm-1" ⟨"step-a", "start_test", []⟩, .registerWaiter 0,
    .sendCommand "vm-1" ⟨id, "start_test", []⟩]

/-- With another id, the second call is entered beside the first, and a result for the first one is
handed to it.  With the same id, the first call has lost its entry to the second. -/
theorem waiters_kept_two :
    (∃ s s', Machine.run step start (firstEntered "step-b" ++
          [.registerWaiter 1, .deliverResult "vm-1" ⟨"step-a", "completed", "", ""⟩]) = some s ∧
        s.step (.findWaiter 0) = some s' ∧
        (s'.delivers[0]?).map DeliverCall.pc = some (.sending 0)) ∧
      ∃ s s', Machine.run step start (firstEntered "step-a") = some s ∧
        s.step (.registerWaiter 1) = some s' ∧ s'.InTable 1 0 "step-a" ∧
        s'.Entered 0 0 "step-a" ∧ ¬ s'.InTable 0 0 "step-a" := by
  constructor
  · have hobeys : Machine.Obeys step FreshID start (firstEntered "step-b" ++
        [.registerWaiter 1, .deliverResult "vm-1" ⟨"step-a", "completed", "", ""⟩]) := by
      refine ⟨trivial, fun s₁ h₁ => ⟨trivial, fun s₂ h₂ => ⟨?_, fun s₃ h₃ => ⟨trivial, fun s₄ h₄ =>
        ⟨?_, fun _ _ => ⟨trivial, fun _ _ => trivial⟩⟩⟩⟩⟩⟩ <;> cases h₁ <;> cases h₂
      · rintro c - o - j ⟨c', hc', hpc', -⟩
        cases List.mem_singleton.1 (List.mem_of_getElem? hc')
        cases hpc'
      · cases h₃
        cases h₄
        rintro c hc o - j ⟨c', hc', hpc', hid⟩
        cases hc
        obtain rfl | hc' := List.mem_cons.1 (List.mem_of_getElem? hc')
        · exact absurd hid (by decide)
        · cases List.mem_singleton.1 hc'
          cases hpc'
    have hrun : (Machine.run step start (firstEntered "step-b" ++
        [.registerWaiter 1, .deliverResult "vm-1" ⟨"step-a", "completed", "", ""⟩])).map
        (fun s => (s.panicked, s.sends[0]?, s.delivers[0]?)) =
        some (none, some ⟨"vm-1", ⟨"step-a", "start_test", []⟩, .enqueuing 0, none, some 2, none⟩,
          some ⟨"vm-1", ⟨"step-a", "completed", "", ""⟩, .finding 0, none⟩) := by
      decide
    obtain ⟨s, hs, heq⟩ := Option.map_eq_some_iff.1 hrun
    simp only [Prod.mk.injEq] at heq
    obtain ⟨hp, hsend, hdeliver⟩ := heq
    obtain ⟨s', hs', hd⟩ := waiters_kept_exact.2.1 _ s hobeys hs hp 0 0 0 _ ⟨_, hsend, rfl, rfl⟩
      hdeliver rfl
    exact ⟨s, s', hs, hs', by rw [hd]; rfl⟩
  · have hrun : (Machine.run step start (firstEntered "step-a")).map
        (fun s => (s.sends, (s.step (.registerWaiter 1)).isSome)) =
        some ([⟨"vm-1", ⟨"step-a", "start_test", []⟩, .enqueuing 0, none, some 2, none⟩,
          ⟨"vm-1", ⟨"step-a", "start_test", []⟩, .registering 0, none, none, none⟩], true) := by
      decide
    obtain ⟨s, hs, heq⟩ := Option.map_eq_some_iff.1 hrun
    simp only [Prod.mk.injEq] at heq
    obtain ⟨hsends, hstep⟩ := heq
    obtain ⟨s', hs'⟩ := Option.isSome_iff_exists.1 hstep
    have hfirst : s.Entered 0 0 "step-a" := by
      unfold Entered
      rw [hsends]
      exact ⟨_, rfl, rfl, rfl⟩
    exact ⟨s, s', hs, hs',
      (waiters_kept_exact.2.2 s s' 0 1 0 _ (by rw [hsends]; rfl) rfl hfirst hs').2⟩

end Dvf
