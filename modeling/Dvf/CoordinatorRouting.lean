/-
**Where results and commands go** (`internal/core/agent_state.go`).

A result finds its way back through the table of waiters: `SendCommand` enters a channel of its own
under the id of its command, and `DeliverResult` takes whatever channel the table has for the id of
the result.  Entering, finding, sending and removing are separate steps, other calls come in
between, and a table entry may be overwritten or removed by another call with the same id.  Still a
result reaches only a call that sent a command with its id on its machine and was entered before the
result was looked up, because a channel is named by the call that made it.

A call of `DeliverResult` counts from the moment when it looks into the table, and a call of
`GetNextCommand` from the moment when it takes its command.

Main definitions:

* `Dvf.CoordState.Routed` — a result has been brought to a call that waits for it;
* `Dvf.CoordState.sentTo`, `Dvf.CoordState.handedOutTo` — the commands for a machine.

Main results:

* `Dvf.CoordState.Routing.step` — what is on its way to a call belongs to it;
* `Dvf.CoordState.Queued.step` — what is taken out of a channel was put into it, in that order;
* `Dvf.result_routing` — **results go to the calls that wait for them, commands to their machines**.
-/

import Dvf.CoordinatorSteps

set_option autoImplicit false

namespace Dvf

open Go

/-- What a call of `SendCommand` returns, once that is settled. -/
def SendPC.out : SendPC → Option SendOut
  | .returning _ out => some out
  | .returned out _ => some out
  | _ => none

namespace CoordState

variable {s s' : CoordState} {a : CoordAct}

/-! ### Results -/

/-- Call `i` of `SendCommand` is for the machine `vmID`, its command has the id `id`, and it has
been entered into the table. -/
def Waits (s : CoordState) (i : ℕ) (vmID id : String) : Prop :=
  ∃ c t, s.sends[i]? = some c ∧ c.vmID = vmID ∧ c.cmd.id = id ∧ c.registeredAt = some t

/-- **Delivery `d` brings `r` to call `i`**: it was made for the machine of the call, with the id of
its command, and it found the channel of the call after that had been entered into the table. -/
def Routed (s : CoordState) (i d : ℕ) (r : AgentResult) : Prop :=
  ∃ c x t₀ t₁, s.sends[i]? = some c ∧ s.delivers[d]? = some x ∧ x.vmID = c.vmID ∧ x.result = r ∧
    r.commandID = c.cmd.id ∧ c.registeredAt = some t₀ ∧ x.found = some (i, t₁) ∧ t₀ < t₁

theorem Waits.mono {i : ℕ} {vmID id : String} (h : s.Waits i vmID id) (hs : s.Extends s') :
    s'.Waits i vmID id := by
  obtain ⟨c, t, hc, rfl, rfl, ht⟩ := h
  obtain ⟨c', hc', hl⟩ := hs.sends i c hc
  exact ⟨c', t, hc', hl.vmID, by rw [hl.cmd], hl.registeredAt t ht⟩

theorem Routed.mono {i d : ℕ} {r : AgentResult} (h : s.Routed i d r) (hs : s.Extends s') :
    s'.Routed i d r := by
  obtain ⟨c, x, t₀, t₁, hc, hx, hvm, hr, hid, ht₀, ht₁, hlt⟩ := h
  obtain ⟨c', hc', hl⟩ := hs.sends i c hc
  obtain ⟨x', hx', hlx⟩ := hs.delivers d x hx
  exact ⟨c', x', t₀, t₁, hc', hx', by rw [hlx.vmID, hl.vmID, hvm], by rw [hlx.result, hr],
    by rw [hl.cmd, hid], hl.registeredAt t₀ ht₀, hlx.found _ ht₁, hlt⟩

/-- **What is on its way to a call belongs to it**: in the table, in the hands of a delivery, in the
channel of the call, and in what the call returns. -/
structure Routing (s : CoordState) : Prop where
  wf : s.Wf
  clock : ∀ (i : ℕ) (c : SendCall) (t : ℕ), s.sends[i]? = some c → c.registeredAt = some t →
    t < s.time
  waiters : ∀ (o : ℕ) (obj : AgentState) (id : String) (i : ℕ), s.objects[o]? = some obj →
    obj.resultWaiters.lookup id = some i → s.Waits i obj.vmID id
  sending : ∀ (d : ℕ) (x : DeliverCall) (i : ℕ), s.delivers[d]? = some x → x.pc = .sending i →
    s.Routed i d x.result
  channel : ∀ (i : ℕ) (c : SendCall) (d : ℕ) (r : AgentResult), s.sends[i]? = some c →
    c.resultCh = some (d, r) → s.Routed i d r
  result : ∀ (i : ℕ) (c : SendCall) (d : ℕ) (r : AgentResult), s.sends[i]? = some c →
    c.pc.out = some (.result d r) → s.Routed i d r

theorem Routing.start : CoordState.start.Routing where
  wf := .start
  clock _ _ _ h := by cases h
  waiters _ _ _ _ h := by cases h
  sending _ _ _ h := by cases h
  channel _ _ _ _ h := by cases h
  result _ _ _ _ h := by cases h

theorem waits_of_registerWaiter {i : ℕ} {c : SendCall} (h : s.step (.registerWaiter i) = some s')
    (hc : s.sends[i]? = some c) : s'.Waits i c.vmID c.cmd.id := by
  obtain ⟨-, s₁, hact, rfl⟩ := exists_act h
  obtain ⟨c', o, obj, hc', -, -, rfl⟩ := exists_of_registerWaiter hact
  cases hc.symm.trans hc'
  exact ⟨_, s.time, Machine.getElem?_set_self_of hc _, rfl, rfl, rfl⟩

theorem Routing.step (hr : s.Routing) (h : s.step a = some s') : s'.Routing := by
  have hext := Extends.of_step hr.wf h
  have heff := Effect.of_step h
  refine ⟨hr.wf.step h, fun i c' t hc' ht => ?_, fun o obj' id i ho' hl => ?_,
    fun d x' i hx' hpc' => ?_, fun i c' d r hc' hch => ?_, fun i c' d r hc' hout => ?_⟩
  · rw [heff.time]
    refine Nat.lt_succ_of_le ?_
    cases heff.sends i c' hc' with
    | same hc => exact Nat.le_of_lt (hr.clock i c' t hc ht)
    | called | refused => cases ht
    | registered =>
        cases ht
        exact Nat.le_refl _
    | put hc | received hc | abandoned hc | returned hc | filled hc =>
        exact Nat.le_of_lt (hr.clock i _ t hc ht)
  · cases heff.objects o obj' ho' with
    | same ho => exact (hr.waiters o obj' id i ho hl).mono hext
    | registered => cases hl
    | waiter hc hpc ho =>
        -- the new entry is the call's own
        obtain ⟨rfl, rfl⟩ | ⟨-, hl⟩ := lookup_of_insert hl
        · have hw := waits_of_registerWaiter h hc
          obtain ⟨obj, ho', hvm⟩ := (hr.wf.sends i _ hc).onVM o (by rw [hpc]; rfl)
          cases ho.symm.trans ho'
          exact hvm ▸ hw
        · exact ((hr.waiters o _ id i ho hl).mono hext :)
    | removed ho => exact ((hr.waiters o _ id i ho (lookup_of_erase hl).2).mono hext :)
    | closed _ ho => exact ((hr.waiters o _ id i ho hl).mono hext :)
    | ready ho => exact ((hr.waiters o _ id i ho hl).mono hext :)
    | put _ _ ho => exact ((hr.waiters o _ id i ho hl).mono hext :)
    | taken _ ho => exact ((hr.waiters o _ id i ho hl).mono hext :)
  · cases heff.delivers d x' hx' with
    | same hx => exact (hr.sending d x' i hx hpc').mono hext
    | called | returned => cases hpc'
    | found hx hpc ho hw =>
        cases hpc'
        -- the channel found belongs to a call that was entered earlier
        obtain ⟨obj, ho', hvm⟩ := (hr.wf.delivers d _ hx _ hpc).1
        cases ho.symm.trans ho'
        obtain ⟨c, t, hc, hcvm, hid, ht⟩ := hr.waiters _ _ _ _ ho hw
        obtain ⟨c', hc', hl⟩ := hext.sends i c hc
        exact ⟨c', _, t, s.time, hc', hx', by rw [hl.vmID, hcvm, hvm], rfl, by rw [hl.cmd, hid],
          hl.registeredAt t ht, rfl, hr.clock i c t hc ht⟩
  · cases heff.sends i c' hc' with
    | same hc => exact (hr.channel i c' d r hc hch).mono hext
    | called | refused | received => cases hch
    | registered hc | put hc | abandoned hc | returned hc =>
        exact (hr.channel i _ d r hc hch).mono hext
    | filled hc hx hpc =>
        cases hch
        exact (hr.sending d _ i hx hpc).mono hext
  · cases heff.sends i c' hc' with
    | same hc => exact (hr.result i c' d r hc hout).mono hext
    | called | refused | registered | put | abandoned => cases hout
    | received hc _ hch =>
        cases hout
        exact (hr.channel i _ d r hc hch).mono hext
    | returned hc hpc => exact (hr.result i _ d r hc (by rw [hpc]; exact hout)).mono hext
    | filled hc => exact (hr.result i _ d r hc hout).mono hext

/-! ### Commands -/

/-- **The record of an agent state is that of the returns**: what was taken out of its channel was
returned by calls of `GetNextCommand` for its machine, one after the other in this order. -/
def RecordsReturns (s : CoordState) (obj : AgentState) : Prop :=
  ∃ ts : List ℕ, ts.Pairwise (· < ·) ∧ (∀ t ∈ ts, t < s.time) ∧
    List.Forall₂ (fun (e : ℕ × ℕ × AgentCommand) t =>
      s.gets[e.1]? = some ⟨obj.vmID, .returned (.command e.2.1 e.2.2) t⟩) obj.handedOut ts

/-- **What is taken out of a channel was put into it, in that order**: a channel holds what was put
in and not yet taken out, every entry is a command of a call for the machine of the channel, no call
has two entries, and a command that was returned has been taken out by the call that returned it. -/
structure Queued (s : CoordState) : Prop where
  wf : s.Wf
  fifo : ∀ (o : ℕ) (obj : AgentState), s.objects[o]? = some obj →
    obj.handedOut.map Prod.snd ++ obj.commands = obj.sent
  origin : ∀ (o : ℕ) (obj : AgentState) (i : ℕ) (cmd : AgentCommand), s.objects[o]? = some obj →
    (i, cmd) ∈ obj.sent → ∃ c, s.sends[i]? = some c ∧ c.vmID = obj.vmID ∧ c.cmd = cmd ∧
      c.enqueuedOn = some o
  nodup : ∀ (o : ℕ) (obj : AgentState), s.objects[o]? = some obj → (obj.sent.map Prod.fst).Nodup
  gets : ∀ (g : ℕ) (x : GetCall) (i : ℕ) (cmd : AgentCommand) (t : ℕ), s.gets[g]? = some x →
    x.pc = .returned (.command i cmd) t →
    ∃ (o : ℕ) (obj : AgentState), s.objects[o]? = some obj ∧ obj.vmID = x.vmID ∧
      (g, i, cmd) ∈ obj.handedOut
  returns : ∀ (o : ℕ) (obj : AgentState), s.objects[o]? = some obj → s.RecordsReturns obj

theorem Queued.start : CoordState.start.Queued where
  wf := .start
  fifo _ _ h := by cases h
  origin _ _ _ _ h := by cases h
  nodup _ _ h := by cases h
  gets _ _ _ _ _ h := by cases h
  returns _ _ h := by cases h

theorem Queued.not_mem_sent (hq : s.Queued) {i o : ℕ} {c : SendCall} {obj : AgentState}
    (hc : s.sends[i]? = some c) (hpc : c.pc = .enqueuing o) (ho : s.objects[o]? = some obj) :
    i ∉ obj.sent.map Prod.fst := by
  intro hi
  obtain ⟨⟨j, cmd⟩, hmem, rfl⟩ := List.mem_map.1 hi
  obtain ⟨c', hc', -, -, hon⟩ := hq.origin o obj j cmd ho hmem
  cases hc.symm.trans hc'
  rw [(hq.wf.sends j c hc).fresh o (Or.inr hpc)] at hon
  cases hon

theorem enqueuedOn_of_enqueue {i o : ℕ} {c : SendCall} {obj obj' : AgentState}
    (h : s.step (.enqueue i) = some s') (hc : s.sends[i]? = some c) (hpc : c.pc = .enqueuing o)
    (ho : s.objects[o]? = some obj) (ho' : s'.objects[o]? = some obj')
    (hne : obj'.sent ≠ obj.sent) :
    s'.sends[i]? = some { c with pc := .waiting o, enqueuedOn := some o } := by
  obtain ⟨-, s₁, hact, rfl⟩ := exists_act h
  obtain ⟨c', o', obj'', hc', hpc', -, ⟨-, rfl⟩ | ⟨-, rfl⟩⟩ := exists_of_enqueue hact
  · cases ho.symm.trans ho'
    exact absurd rfl hne
  · cases hc.symm.trans hc'
    cases hpc.symm.trans hpc'
    exact Machine.getElem?_set_self_of hc _

theorem handedOut_of_receiveCommand {g o i : ℕ} {vmID : String} {cmd : AgentCommand}
    {rest : List (ℕ × AgentCommand)} {obj : AgentState} (h : s.step (.receiveCommand g) = some s')
    (hg : s.gets[g]? = some ⟨vmID, .receiving o⟩) (ho : s.objects[o]? = some obj)
    (hq : obj.commands = (i, cmd) :: rest) :
    (∃ obj', s'.objects[o]? = some obj' ∧ obj'.vmID = obj.vmID ∧ (g, i, cmd) ∈ obj'.handedOut) ∧
      s'.gets[g]? = some ⟨vmID, .returned (.command i cmd) s.time⟩ := by
  obtain ⟨-, s₁, hact, rfl⟩ := exists_act h
  obtain ⟨vmID', o', obj', hg', ho', hcase⟩ := exists_of_receiveCommand hact
  cases hg.symm.trans hg'
  cases ho.symm.trans ho'
  obtain ⟨i', cmd', rest', hq', rfl⟩ | ⟨hq', -⟩ := hcase
  · cases hq.symm.trans hq'
    exact ⟨⟨_, Machine.getElem?_set_self_of ho _, rfl, by simp⟩, Machine.getElem?_set_self_of hg _⟩
  · cases hq.symm.trans hq'

/-- A command that is returned is recorded behind those that were returned before. -/
theorem Queued.returns_step (hq : s.Queued) (h : s.step a = some s') {o : ℕ} {obj' : AgentState}
    (ho' : s'.objects[o]? = some obj') : s'.RecordsReturns obj' := by
  have hext := Extends.of_step hq.wf h
  have heff := Effect.of_step h
  -- a call that has returned does not change
  have hkeep : ∀ {vmID : String} {l : List (ℕ × ℕ × AgentCommand)} {ts : List ℕ},
      List.Forall₂ (fun e t => s.gets[e.1]? = some ⟨vmID, .returned (.command e.2.1 e.2.2) t⟩)
        l ts →
      List.Forall₂ (fun e t => s'.gets[e.1]? = some ⟨vmID, .returned (.command e.2.1 e.2.2) t⟩)
        l ts := by
    intro vmID l ts hall
    refine hall.imp fun e t hg => ?_
    obtain ⟨x, hx, hl⟩ := hext.gets _ _ hg
    rw [hx, hl _ _ rfl]
  have hsame : ∀ {obj : AgentState}, s.objects[o]? = some obj → obj'.vmID = obj.vmID →
      obj'.handedOut = obj.handedOut → s'.RecordsReturns obj' := by
    intro obj ho hvm hhanded
    obtain ⟨ts, hsorted, hlt, hall⟩ := hq.returns o obj ho
    refine ⟨ts, hsorted, fun t ht => ?_, ?_⟩
    · rw [heff.time]
      exact Nat.lt_succ_of_lt (hlt t ht)
    · rw [hvm, hhanded]
      exact hkeep hall
  cases heff.objects o obj' ho' with
  | registered => exact ⟨[], .nil, fun _ h => (by cases h), .nil⟩
  | same ho | closed _ ho | ready ho | waiter _ _ ho | put _ _ ho | removed ho =>
      exact hsame ho rfl rfl
  | taken hg ho hcmds =>
      obtain ⟨ts, hsorted, hlt, hall⟩ := hq.returns o _ ho
      obtain ⟨obj, ho₁, rfl⟩ := hq.wf.gets _ _ hg o rfl
      cases ho.symm.trans ho₁
      have hreturned := (handedOut_of_receiveCommand h hg ho hcmds).2
      refine ⟨ts ++ [s.time], ?_, ?_, List.rel_append (hkeep hall) (.cons hreturned .nil)⟩
      · exact List.pairwise_append.2 ⟨hsorted, List.pairwise_singleton _ _,
          fun t ht t' ht' => List.mem_singleton.1 ht' ▸ hlt t ht⟩
      · rw [heff.time, List.forall_mem_append, List.forall_mem_singleton]
        exact ⟨fun t ht => Nat.lt_succ_of_lt (hlt t ht), Nat.lt_succ_self _⟩

theorem Queued.step (hq : s.Queued) (h : s.step a = some s') : s'.Queued := by
  have hext := Extends.of_step hq.wf h
  have heff := Effect.of_step h
  -- the origin of an entry that was there before
  have hold : ∀ {o : ℕ} {obj : AgentState} {i : ℕ} {cmd : AgentCommand}, s.objects[o]? = some obj →
      (i, cmd) ∈ obj.sent → ∃ c, s'.sends[i]? = some c ∧ c.vmID = obj.vmID ∧ c.cmd = cmd ∧
        c.enqueuedOn = some o := by
    intro o obj i cmd ho hmem
    obtain ⟨c, hc, hvm, hcmd, hon⟩ := hq.origin o obj i cmd ho hmem
    obtain ⟨c', hc', hl⟩ := hext.sends i c hc
    exact ⟨c', hc', hl.vmID.trans hvm, hl.cmd.trans hcmd, hl.enqueuedOn o hon⟩
  refine ⟨hq.wf.step h, fun o obj' ho' => ?_, fun o obj' i cmd ho' hmem => ?_,
    fun o obj' ho' => ?_, fun g x' i cmd t hx' hpc' => ?_, fun _ _ ho' => hq.returns_step h ho'⟩
  · cases (heff.objects o obj' ho').channel with
    | fresh hsent hcommands hhanded => rw [hsent, hcommands, hhanded, List.map_nil, List.nil_append]
    | kept ho _ hsent _ hall => rw [hall, hsent, hq.fifo o _ ho]
    | put _ _ _ ho _ hsent hcommands hhanded =>
        rw [hsent, hcommands, hhanded, ← List.append_assoc, hq.fifo o _ ho]
  · cases (heff.objects o obj' ho').channel with
    | fresh hsent =>
        rw [hsent] at hmem
        cases hmem
    | kept ho hvm hsent =>
        rw [hsent] at hmem
        rw [hvm]
        exact hold ho hmem
    | put ha hc hpc ho hvm hsent =>
        subst ha
        rw [hsent] at hmem
        rw [hvm]
        obtain hmem | hmem := List.mem_append.1 hmem
        · exact hold ho hmem
        · cases List.mem_singleton.1 hmem
          obtain ⟨obj, ho₁, hcvm⟩ := (hq.wf.sends i _ hc).onVM o (by rw [hpc]; rfl)
          cases ho.symm.trans ho₁
          exact ⟨_, enqueuedOn_of_enqueue h hc hpc ho ho' (by simp [hsent]), hcvm.symm, rfl, rfl⟩
  · cases (heff.objects o obj' ho').channel with
    | fresh hsent =>
        rw [hsent]
        exact List.nodup_nil
    | kept ho _ hsent =>
        rw [hsent]
        exact hq.nodup o _ ho
    | put _ hc hpc ho _ hsent =>
        rw [hsent, List.map_append, List.nodup_append]
        refine ⟨hq.nodup o _ ho, List.nodup_singleton _, fun k hk l hl hkl => ?_⟩
        rw [List.mem_singleton.1 hl] at hkl
        rw [hkl] at hk
        exact hq.not_mem_sent hc hpc ho hk
  · cases heff.gets g x' hx' with
    | same hx =>
        obtain ⟨o, obj, ho, hvm, hmem⟩ := hq.gets g x' i cmd t hx hpc'
        obtain ⟨obj', ho', hl⟩ := hext.objects o obj ho
        exact ⟨o, obj', ho', hl.vmID.trans hvm, hl.handedOut hmem⟩
    | called => cases hpc'
    | took hg ho hcmds =>
        cases hpc'
        obtain ⟨⟨obj', ho', hvm', hmem⟩, -⟩ := handedOut_of_receiveCommand h hg ho hcmds
        obtain ⟨obj, ho₁, hvm⟩ := hq.wf.gets g _ hg _ rfl
        cases ho.symm.trans ho₁
        exact ⟨_, obj', ho', hvm'.trans hvm, hmem⟩
    | failed hout =>
        cases hpc'
        exact absurd rfl (hout i cmd)

theorem Queued.mem_sent (hq : s.Queued) {o g i : ℕ} {obj : AgentState} {cmd : AgentCommand}
    (ho : s.objects[o]? = some obj) (hmem : (g, i, cmd) ∈ obj.handedOut) : (i, cmd) ∈ obj.sent := by
  rw [← hq.fifo o obj ho]
  exact List.mem_append_left _ (List.mem_map.2 ⟨_, hmem, rfl⟩)

/-- No command is returned twice. -/
theorem Queued.get_unique (hq : s.Queued) {g g' i : ℕ} {x x' : GetCall} {cmd cmd' : AgentCommand}
    {t t' : ℕ} (hg : s.gets[g]? = some x) (hpc : x.pc = .returned (.command i cmd) t)
    (hg' : s.gets[g']? = some x') (hpc' : x'.pc = .returned (.command i cmd') t') : g = g' := by
  obtain ⟨o, obj, ho, -, hmem⟩ := hq.gets g x i cmd t hg hpc
  obtain ⟨o', obj', ho', -, hmem'⟩ := hq.gets g' x' i cmd' t' hg' hpc'
  -- both entries are in the one channel that the call has used
  obtain ⟨c, hc, -, -, hon⟩ := hq.origin o obj i cmd ho (hq.mem_sent ho hmem)
  obtain ⟨c', hc', -, -, hon'⟩ := hq.origin o' obj' i cmd' ho' (hq.mem_sent ho' hmem')
  cases hc.symm.trans hc'
  cases hon.symm.trans hon'
  cases ho.symm.trans ho'
  have hnodup : (obj.handedOut.map fun e => e.2.1).Nodup := by
    have h := hq.nodup o obj ho
    rw [← hq.fifo o obj ho, List.map_append, List.map_map] at h
    exact h.of_append_left
  cases List.inj_on_of_nodup_map hnodup hmem hmem' rfl
  rfl

/-! ### The channels of one machine -/

/-- The commands that were put into the channels of a machine. -/
def sentTo (s : CoordState) (vmID : String) : List (ℕ × AgentCommand) :=
  (s.objects.filter (·.vmID = vmID)).flatMap (·.sent)

/-- The commands that were taken out of the channels of a machine. -/
def handedOutTo (s : CoordState) (vmID : String) : List (ℕ × AgentCommand) :=
  (s.objects.filter (·.vmID = vmID)).flatMap (·.handedOut.map Prod.snd)

theorem names_of_run {as : List CoordAct} (h : Machine.run CoordState.step s as = some s') :
    s'.objects.map (·.vmID) = s.objects.map (·.vmID) ++ as.flatMap CoordAct.registers := by
  induction as generalizing s with
  | nil =>
      cases h
      simp
  | cons a as ih =>
      obtain ⟨s₁, h₁, h₂⟩ := Machine.run_cons_eq_some.1 h
      rw [ih h₂, (Effect.of_step h₁).names, List.flatMap_cons, List.append_assoc]

theorem count_flatMap_registers (as : List CoordAct) (vmID : String) :
    (as.flatMap CoordAct.registers).count vmID = as.count (.registerVM vmID) := by
  induction as with
  | nil => rfl
  | cons a as ih =>
      rw [List.flatMap_cons, List.count_append, ih, List.count_cons, Nat.add_comm]
      congr 1
      cases a with
      | registerVM vm => by_cases hvm : vm = vmID <;> simp [CoordAct.registers, hvm]
      | _ => rfl

theorem Queued.handedOutTo_prefix (hq : s.Queued) {vmID : String}
    (h : (s.objects.map (·.vmID)).count vmID ≤ 1) : s.handedOutTo vmID <+: s.sentTo vmID := by
  have hlen : (s.objects.filter (·.vmID = vmID)).length ≤ 1 := by
    rw [List.count_eq_countP, List.countP_map, List.countP_eq_length_filter] at h
    exact h
  have hmem : ∀ obj ∈ s.objects.filter (·.vmID = vmID), obj ∈ s.objects :=
    fun obj h => (List.mem_filter.1 h).1
  rw [handedOutTo, sentTo]
  generalize s.objects.filter (·.vmID = vmID) = objs at hlen hmem
  obtain _ | ⟨obj, _ | ⟨obj', objs⟩⟩ := objs
  · exact List.prefix_rfl
  · obtain ⟨o, ho⟩ := List.getElem?_of_mem (hmem obj List.mem_cons_self)
    rw [List.flatMap_singleton, List.flatMap_singleton, ← hq.fifo o obj ho]
    exact List.prefix_append _ _
  · simp at hlen

end CoordState

open CoordState

/-- **Results go to the calls that wait for them, and commands to their machines.**  In every state
that an interleaving of the calls leads to:

* a result that `SendCommand` has returned has the id of its command and was brought by a call of
  `DeliverResult` for its machine, which looked for the waiter after the waiter had been entered;
* two calls of `SendCommand` have not returned the result of one delivery;
* a command that `GetNextCommand` has returned was put into a channel by a call of `SendCommand` for
  that machine, no other call of `GetNextCommand` has returned it, and it is in the record of an
  agent state of the machine;
* the record of an agent state lists the returns of `GetNextCommand` in the order in which they came
  about, and they came in the order in which the commands were put into the channel; the same order
  holds for all channels of a machine that was registered once. -/
theorem result_routing {as : List CoordAct} {s : CoordState}
    (h : Machine.run CoordState.step start as = some s) :
    (∀ (i : ℕ) (c : SendCall) (d : ℕ) (r : AgentResult) (t : ℕ), s.sends[i]? = some c →
      c.pc = .returned (.result d r) t → r.commandID = c.cmd.id ∧ s.Routed i d r) ∧
    (∀ (i j : ℕ) (c c' : SendCall) (d : ℕ) (r r' : AgentResult) (t t' : ℕ),
      s.sends[i]? = some c → c.pc = .returned (.result d r) t →
      s.sends[j]? = some c' → c'.pc = .returned (.result d r') t' → i = j) ∧
    (∀ (g : ℕ) (x : GetCall) (i : ℕ) (cmd : AgentCommand) (t : ℕ), s.gets[g]? = some x →
      x.pc = .returned (.command i cmd) t →
      (∃ c, s.sends[i]? = some c ∧ c.vmID = x.vmID ∧ c.cmd = cmd ∧ c.enqueuedOn ≠ none) ∧
      (∃ obj ∈ s.objects, obj.vmID = x.vmID ∧ (g, i, cmd) ∈ obj.handedOut) ∧
      ∀ (g' : ℕ) (x' : GetCall) (cmd' : AgentCommand) (t' : ℕ), s.gets[g']? = some x' →
        x'.pc = .returned (.command i cmd') t' → g = g') ∧
    (∀ obj ∈ s.objects, s.RecordsReturns obj ∧ obj.handedOut.map Prod.snd <+: obj.sent) ∧
    ∀ vmID, as.count (.registerVM vmID) ≤ 1 → s.handedOutTo vmID <+: s.sentTo vmID := by
  have hr : s.Routing :=
    Machine.Reachable.invariant ⟨as, h⟩ .start fun _ _ _ hr h => hr.step h
  have hq : s.Queued :=
    Machine.Reachable.invariant ⟨as, h⟩ .start fun _ _ _ hq h => hq.step h
  refine ⟨fun i c d r t hc hpc => ?_, fun i j c c' d r r' t t' hc hpc hc' hpc' => ?_,
    fun g x i cmd t hx hpc => ⟨?_, ?_, ?_⟩, fun obj hobj => ?_, fun vmID hvm => ?_⟩
  · have hrouted := hr.result i c d r hc (by rw [hpc]; rfl)
    refine ⟨?_, hrouted⟩
    obtain ⟨c', -, -, -, hc', -, -, -, hid, -⟩ := hrouted
    cases hc.symm.trans hc'
    exact hid
  · obtain ⟨-, x, -, t₁, -, hx, -, -, -, -, hf, -⟩ := hr.result i c d r hc (by rw [hpc]; rfl)
    obtain ⟨-, x', -, t₁', -, hx', -, -, -, -, hf', -⟩ :=
      hr.result j c' d r' hc' (by rw [hpc']; rfl)
    cases hx.symm.trans hx'
    cases hf.symm.trans hf'
    rfl
  · obtain ⟨o, obj, ho, hvm, hmem⟩ := hq.gets g x i cmd t hx hpc
    obtain ⟨c, hc, hcvm, hcmd, hon⟩ := hq.origin o obj i cmd ho (hq.mem_sent ho hmem)
    exact ⟨c, hc, hcvm.trans hvm, hcmd, by simp [hon]⟩
  · obtain ⟨o, obj, ho, hvm, hmem⟩ := hq.gets g x i cmd t hx hpc
    exact ⟨obj, List.mem_of_getElem? ho, hvm, hmem⟩
  · intro g' x' cmd' t' hx' hpc'
    exact hq.get_unique hx hpc hx' hpc'
  · obtain ⟨o, ho⟩ := List.getElem?_of_mem hobj
    refine ⟨hq.returns o obj ho, ?_⟩
    rw [← hq.fifo o obj ho]
    exact List.prefix_append _ _
  · refine hq.handedOutTo_prefix ?_
    rw [names_of_run h]
    exact Nat.le_trans (Nat.le_of_eq (count_flatMap_registers as vmID)) hvm

/-- Two steps of a workflow that run at the same time, and an agent that answers the second one
first. -/
def crossedAnswers : List CoordAct :=
  [.registerVM "vm-1",
    .sendCommand "vm-1" ⟨"step-a", "start_test", []⟩,
    .sendCommand "vm-1" ⟨"step-b", "start_test", []⟩,
    .registerWaiter 1, .registerWaiter 0, .enqueue 0, .enqueue 1,
    .getNextCommand "vm-1", .receiveCommand 0, .getNextCommand "vm-1", .receiveCommand 1,
    .deliverResult "vm-1" ⟨"step-b", "completed", "", ""⟩,
    .deliverResult "vm-1" ⟨"step-a", "failed", "", ""⟩,
    .findWaiter 0, .sendResult 0, .findWaiter 1, .sendResult 1,
    .receiveResult 0, .removeWaiter 0, .receiveResult 1, .removeWaiter 1]

/-- Each of the two steps gets the answer to its own command. -/
theorem result_routing_crossed :
    ∃ s c, Machine.run CoordState.step start crossedAnswers = some s ∧ s.sends[0]? = some c ∧
      c.pc = .returned (.result 1 ⟨"step-a", "failed", "", ""⟩) 18 ∧
      s.Routed 0 1 ⟨"step-a", "failed", "", ""⟩ ∧ s.handedOutTo "vm-1" <+: s.sentTo "vm-1" := by
  have hrun : (Machine.run CoordState.step start crossedAnswers).bind (fun s => s.sends[0]?) =
      some ⟨"vm-1", ⟨"step-a", "start_test", []⟩,
        .returned (.result 1 ⟨"step-a", "failed", "", ""⟩) 18, none, some 4, some 0⟩ := by
    decide
  obtain ⟨s, hs, hc⟩ := Option.bind_eq_some_iff.1 hrun
  obtain ⟨hresult, -, -, -, horder⟩ := result_routing hs
  exact ⟨s, _, hs, hc, rfl, (hresult 0 _ 1 _ 18 hc rfl).2, horder "vm-1" (by decide)⟩

/-- **A result can be passed to `DeliverResult` before the waiter is registered**: the result comes
while `SendCommand` has looked up the agent state and has not been entered yet; the lookup of the
waiter comes afterwards, and the call returns the result.  No other result is delivered. -/
theorem result_passed_before_registration :
    ∃ s, Machine.run CoordState.step start
        ([.registerVM "vm-1", .sendCommand "vm-1" ⟨"step-a", "start_test", []⟩,
            .deliverResult "vm-1" ⟨"step-a", "completed", "", ""⟩] ++
          .registerWaiter 0 ::
          [.findWaiter 0, .sendResult 0, .enqueue 0, .receiveResult 0, .removeWaiter 0]) = some s ∧
      (s.sends[0]?).map SendCall.pc =
        some (.returned (.result 0 ⟨"step-a", "completed", "", ""⟩) 8) ∧
      s.delivers.length = 1 :=
  ⟨_, rfl, by decide, by decide⟩

end Dvf
