/-
**The invariant of a workflow run.**

A step is marked in three places while it is being executed: in the `running` map of the loop, in
its status, and by the goroutine or the queued result that belongs to it.  The invariant says that
the three agree, that the goroutines and results are of distinct steps, and that what they report
is what the answers of the agent make of the step.  From it: the loop never gets stuck, each step
is dispatched at most once, and the result channel is never full.

Main definitions:

* `Dvf.GoPC.Ok` — a goroutine is where the answers to its attempts have led it;
* `Dvf.LoopState.Core` — the invariant, apart from where the loop is;
* `Dvf.LoopState.PcOk`, `Dvf.LoopState.Inv` — with the place of the loop.

Main results:

* `Dvf.GoPC.Ok.next` — the steps of a goroutine;
* `Dvf.LoopState.Core.dispatch_induction` — what the dispatch of a ready step preserves is
  preserved by the dispatch loop, after which nothing is ready;
* `Dvf.LoopState.Inv.step` — every action keeps the invariant;
* `Dvf.LoopState.Inv.exists_step` — some action other than the end of the context is enabled until
  the loop has returned;
* `Dvf.runWorkflow_never_stuck` — **no deadlock, single dispatch, no blocked send.**
-/

import Dvf.RunWorkflow

set_option autoImplicit false

namespace Dvf

variable {env : WorkflowEnv} {d : WorkflowStep}

/-! ### Goroutines -/

/-- **A goroutine is where the answers to its attempts have led it.** -/
def GoPC.Ok (env : WorkflowEnv) (d : WorkflowStep) : GoPC → Prop
  | .calling a => Attempted env d a
  | .saving a res n =>
      Attempted env d a ∧ env.answer d a = .ok res ∧ n ≤ (resultRows env.run d.id res).length
  | .sending r => r.stepID = d.id ∧ r.status = outcomeStatus (stepOutcome env d)

theorem attempted_zero (env : WorkflowEnv) (d : WorkflowStep) : Attempted env d 0 :=
  ⟨Nat.zero_le _, fun b hb => absurd hb (Nat.not_lt_zero b)⟩

theorem GoPC.Ok.retry {a : ℕ} (ha : Attempted env d a) (hp : passes env d a = false)
    (err : String) : GoPC.Ok env d (GoPC.retry d a err) := by
  have hall : ∀ b < a + 1, passes env d b = false := Nat.forall_lt_succ_right.2 ⟨ha.2, hp⟩
  unfold GoPC.retry
  split
  · next hlt => exact ⟨hlt, hall⟩
  · next hlt =>
      have hout : stepOutcome env d = false :=
        stepOutcome_eq_false_iff.2 fun b hb => hall b (by omega)
      exact ⟨rfl, by rw [hout]; rfl⟩

theorem GoPC.Ok.processed {a : ℕ} {res : AgentResult} (ha : Attempted env d a)
    (hans : env.answer d a = .ok res) : GoPC.Ok env d (GoPC.processed d a res) := by
  unfold GoPC.processed
  split
  · next hst =>
      have hout : stepOutcome env d = true :=
        stepOutcome_eq_true_iff.2 ⟨a, ha.1, by simp [passes, hans, hst]⟩
      exact ⟨rfl, by rw [hout]; rfl⟩
  · next hst => exact GoPC.Ok.retry ha (by simp [passes, hans, hst]) _

/-- **The steps of a goroutine** keep it where its answers lead. -/
theorem GoPC.Ok.next {pc pc' : GoPC} {row : Option TestResult} (h : GoPC.Ok env d pc)
    (hnx : pc.next env d = some (pc', row)) : GoPC.Ok env d pc' := by
  cases pc with
  | calling a =>
      simp only [GoPC.next] at hnx
      split at hnx
      · next err hans =>
          cases hnx
          exact GoPC.Ok.retry h (by simp [passes, hans]) _
      · next res hans =>
          cases hnx
          exact ⟨h, hans, Nat.zero_le _⟩
  | saving a res n =>
      obtain ⟨ha, hans, hn⟩ := h
      simp only [GoPC.next] at hnx
      split at hnx
      · next row hrow =>
          cases hnx
          exact ⟨ha, hans, (List.getElem?_eq_some_iff.1 hrow).1⟩
      · cases hnx
        exact GoPC.Ok.processed ha hans
  | sending r => cases hnx

theorem GoPC.exists_next (env : WorkflowEnv) (d : WorkflowStep) (pc : GoPC) :
    (∃ r, pc = .sending r) ∨ ∃ nx, pc.next env d = some nx := by
  cases pc with
  | calling a =>
      right
      simp only [GoPC.next]
      split <;> exact ⟨_, rfl⟩
  | saving a res n =>
      right
      simp only [GoPC.next]
      split <;> exact ⟨_, rfl⟩
  | sending r => exact Or.inl ⟨r, rfl⟩

namespace LoopState

/-! ### The invariant -/

/-- The steps with a goroutine or a queued result. -/
def liveIDs (s : LoopState) : List String :=
  s.gos.map (fun g => g.defn.id) ++ s.results.map StepResult.stepID

/-- **The invariant**, apart from where the loop is. -/
structure Core (env : WorkflowEnv) (s : LoopState) : Prop where
  winv : s.w.Inv env.suite.steps
  running_iff : ∀ sid, sid ∈ s.running ↔ s.w.stepStatus sid = some .running
  live_nodup : s.liveIDs.Nodup
  live_iff : ∀ sid, sid ∈ s.liveIDs ↔ s.w.stepStatus sid = some .running
  dispatched_nodup : s.dispatched.Nodup
  dispatched_iff : ∀ sid, sid ∈ s.dispatched ↔
    ∃ st, s.w.stepStatus sid = some st ∧ st.isStarted = true
  go_ok : ∀ g ∈ s.gos, g.defn ∈ env.suite.steps ∧ g.pc.Ok env g.defn
  result_ok : ∀ r ∈ s.results, ∃ d ∈ env.suite.steps, d.id = r.stepID ∧
    r.status = outcomeStatus (stepOutcome env d)
  outcome_ok : ∀ d ∈ env.suite.steps, ∀ b, s.w.stepStatus d.id = some (outcomeStatus b) →
    stepOutcome env d = b
  sent_length : s.sent.length + s.gos.length = s.dispatched.length
  results_le : s.results.length ≤ s.sent.length

variable {s s' : LoopState}

/-- A fresh workflow. -/
theorem Core.start {w : Workflow} (h : Fresh env.suite.steps w) (ctx : Option CtxErr)
    (store : Store) : Core env (start w ctx store) := by
  have hI : w.Inv env.suite.steps := Workflow.Inv.of_fresh h
  have hpend : ∀ sid st, w.stepStatus sid = some st → st.isStarted = false := by
    intro sid st hst
    rw [h.stepStatus_eq hst]
    rfl
  have hnone : ∀ sid st, st.isStarted = true → w.stepStatus sid ≠ some st := by
    intro sid st hst hσ
    rw [hpend sid st hσ] at hst
    cases hst
  refine ⟨hI, fun sid => ?_, List.nodup_nil, fun sid => ?_, List.nodup_nil, fun sid => ?_, ?_, ?_,
    ?_, rfl, le_refl _⟩
  · simpa [LoopState.start] using hnone sid .running rfl
  · simpa [LoopState.start, liveIDs] using hnone sid .running rfl
  · simp only [LoopState.start, List.not_mem_nil, false_iff, not_exists, not_and]
    intro st hσ hst
    exact hnone sid st hst hσ
  · intro g hg
    cases hg
  · intro r hr
    cases hr
  · intro d _ b hσ
    exact absurd hσ (hnone d.id _ (isStarted_outcomeStatus b))

theorem Core.frame (h : Core env s) (pc : LoopPC) (ctx : Option CtxErr) (store : Store) :
    Core env { s with pc := pc, ctx := ctx, store := store } :=
  ⟨h.winv, h.running_iff, h.live_nodup, h.live_iff, h.dispatched_nodup, h.dispatched_iff, h.go_ok,
    h.result_ok, h.outcome_ok, h.sent_length, h.results_le⟩

/-! ### Dispatching -/

theorem Core.dispatch_eq (h : Core env s) {sid : String} (hr : sid ∈ s.w.ready) :
    ∃ d ∈ env.suite.steps, d.id = sid ∧ s.dispatch sid =
      { s with
        w := s.w.started sid
        running := sid :: s.running
        gos := s.gos ++ [⟨d, .calling 0⟩]
        dispatched := s.dispatched ++ [sid] } := by
  obtain ⟨hord, hpend, _⟩ := Workflow.mem_ready_iff.1 hr
  obtain ⟨d, hd, rfl⟩ := List.mem_map.1 (h.winv.order_perm.mem_iff.1 hord)
  refine ⟨d, hd, rfl, ?_⟩
  have hnot : d.id ∉ s.running := by
    rw [h.running_iff, hpend]
    simp
  have hmark := Workflow.markRunning_eq (h.winv.mem_order_iff.1 hord)
  simp only [dispatch, if_neg hnot, hmark, h.winv.stepDef_eq d hd, Option.getD_some]

theorem Core.dispatch (h : Core env s) {sid : String} (hr : sid ∈ s.w.ready) :
    Core env (s.dispatch sid) := by
  obtain ⟨hord, hpend, _⟩ := Workflow.mem_ready_iff.1 hr
  have hkey : sid ∈ s.w.steps.keys := h.winv.mem_order_iff.1 hord
  have hσ := fun k => Workflow.stepStatus_started hkey k
  have hlive : sid ∉ s.liveIDs := by
    rw [h.live_iff, hpend]
    simp
  have hdisp : sid ∉ s.dispatched := by
    rw [h.dispatched_iff]
    rintro ⟨st, hst, hstarted⟩
    rw [hpend] at hst
    cases hst
    cases hstarted
  obtain ⟨d, hd, rfl, heq⟩ := h.dispatch_eq hr
  rw [heq]
  have hperm : (d.id :: s.liveIDs).Perm
      ((s.gos ++ [(⟨d, .calling 0⟩ : Goroutine)]).map (fun g => g.defn.id) ++
        s.results.map StepResult.stepID) := by
    rw [List.map_append, List.append_assoc]
    exact List.perm_middle.symm
  refine ⟨h.winv.start hr, fun k => ?_, ?_, fun k => ?_, ?_, fun k => ?_, ?_, h.result_ok, ?_, ?_,
    h.results_le⟩
  · simp only [List.mem_cons, hσ, h.running_iff]
    by_cases hk : k = d.id
    · simp [hk]
    · simp [hk]
  · exact hperm.nodup_iff.1 (List.nodup_cons.2 ⟨hlive, h.live_nodup⟩)
  · simp only [liveIDs]
    rw [← hperm.mem_iff, List.mem_cons, h.live_iff, hσ]
    by_cases hk : k = d.id
    · simp [hk]
    · simp [hk]
  · exact List.nodup_append.2 ⟨h.dispatched_nodup, List.nodup_singleton _, fun a ha b hb => by
      rw [List.mem_singleton.1 hb]
      rintro rfl
      exact hdisp ha⟩
  · simp only [List.mem_append, List.mem_singleton, h.dispatched_iff, hσ]
    by_cases hk : k = d.id
    · simp [hk, StepStatus.isStarted]
    · simp [hk]
  · intro g hg
    rcases List.mem_append.1 hg with hg | hg
    · exact h.go_ok g hg
    · rw [List.mem_singleton.1 hg]
      exact ⟨hd, attempted_zero env d⟩
  · intro d' hd' b hb
    simp only [hσ] at hb
    split at hb
    · exact absurd (Option.some_inj.1 hb).symm (outcomeStatus_ne_running b)
    · exact h.outcome_ok d' hd' b hb
  · simp only [List.length_append, List.length_singleton]
    have := h.sent_length
    omega

/-- **The dispatch loop**: what the dispatch of a ready step preserves holds after all of the ready
steps `l` were dispatched, and these are ready no more. -/
theorem Core.foldl_dispatch {P : LoopState → Prop}
    (hP : ∀ s sid, Core env s → sid ∈ s.w.ready → P s → P (s.dispatch sid)) (l : List String) :
    ∀ {s : LoopState}, Core env s → P s → l.Nodup → (∀ sid ∈ l, sid ∈ s.w.ready) →
      Core env (l.foldl LoopState.dispatch s) ∧ P (l.foldl LoopState.dispatch s) ∧
        ∀ sid, sid ∈ (l.foldl LoopState.dispatch s).w.ready ↔ sid ∈ s.w.ready ∧ sid ∉ l := by
  -- dispatching one ready step leaves the others ready, so the induction hypothesis applies
  induction l with
  | nil =>
      intro s h hs _ _
      exact ⟨h, hs, fun sid => by simp⟩
  | cons a l ih =>
      intro s h hs hnd hl
      obtain ⟨ha, hnd'⟩ := List.nodup_cons.1 hnd
      have har : a ∈ s.w.ready := hl a List.mem_cons_self
      have hready : ∀ sid, sid ∈ (s.dispatch a).w.ready ↔ sid ∈ s.w.ready ∧ sid ≠ a := by
        intro sid
        obtain ⟨d, _, _, heq⟩ := h.dispatch_eq har
        rw [heq]
        exact h.winv.mem_ready_started_iff har
      obtain ⟨h₁, h₂, h₃⟩ := ih (h.dispatch har) (hP s a h har hs) hnd' fun sid hsid =>
        (hready sid).2 ⟨hl sid (List.mem_cons_of_mem a hsid), by rintro rfl; exact ha hsid⟩
      refine ⟨h₁, h₂, fun sid => ?_⟩
      rw [List.foldl_cons, h₃, hready, List.mem_cons, not_or, and_assoc]

/-- **The dispatch of everything that is ready.** -/
theorem Core.dispatch_induction {P : LoopState → Prop}
    (hP : ∀ s sid, Core env s → sid ∈ s.w.ready → P s → P (s.dispatch sid)) (h : Core env s)
    (hs : P s) :
    Core env (s.w.ready.foldl LoopState.dispatch s) ∧
      P (s.w.ready.foldl LoopState.dispatch s) ∧
        (s.w.ready.foldl LoopState.dispatch s).w.ready = [] := by
  have hnd : s.w.ready.Nodup := h.winv.order_nodup.filter _
  obtain ⟨h₁, h₂, h₃⟩ := Core.foldl_dispatch hP s.w.ready h hs hnd fun _ hsid => hsid
  refine ⟨h₁, h₂, List.eq_nil_iff_forall_not_mem.2 fun sid hsid => ?_⟩
  obtain ⟨hin, hout⟩ := (h₃ sid).1 hsid
  exact hout hin

/-! ### Receiving a result -/

theorem Core.advance (h : Core env s) {r : StepResult} {rs : List StepResult}
    (hres : s.results = r :: rs) :
    ∃ d ∈ env.suite.steps, d.id = r.stepID ∧ ∃ w',
      s.w.advance r.stepID r.status = .ok w' ∧ w'.Inv env.suite.steps ∧
      (∀ k st, st.isStarted = true → (w'.stepStatus k = some st ↔
        if k = d.id then st = outcomeStatus (stepOutcome env d) else s.w.stepStatus k = some st)) ∧
      ∀ k, w'.stepStatus k = some .pending → s.w.stepStatus k = some .pending := by
  obtain ⟨d, hd, hid, hst⟩ := h.result_ok r (by simp [hres])
  have hrun : s.w.stepStatus r.stepID = some .running :=
    (h.live_iff r.stepID).1 (by simp [liveIDs, hres])
  obtain ⟨w', hw', hI, hσ, hp⟩ := h.winv.advance hrun (stepOutcome env d)
  refine ⟨d, hd, hid, w', by rw [hst]; exact hw', hI, fun k st hk => ?_, hp⟩
  rw [hσ k st hk, hid]

theorem Core.receive (h : Core env s) (hs : s.step env .receive = some s') : Core env s' := by
  obtain ⟨_, r, rs, hres, rfl⟩ := step_receive hs
  obtain ⟨d, hd, hid, w', hw', hI, hσ, _⟩ := h.advance hres
  simp only [hw']
  have hnd := h.live_nodup
  simp only [liveIDs, hres, List.map_cons] at hnd
  have hnd' := List.perm_middle.nodup_iff.1 hnd
  obtain ⟨hnot, hrest⟩ := List.nodup_cons.1 hnd'
  have hrun : ∀ k, w'.stepStatus k = some .running ↔
      k ≠ r.stepID ∧ s.w.stepStatus k = some .running := by
    intro k
    rw [hσ k .running rfl, ← hid]
    by_cases hk : k = d.id
    · simpa [hk] using (outcomeStatus_ne_running _).symm
    · simp [hk]
  refine ⟨hI, fun k => ?_, hrest, fun k => ?_, h.dispatched_nodup, fun k => ?_, h.go_ok, ?_, ?_,
    h.sent_length, ?_⟩
  · rw [hrun, List.mem_filter, h.running_iff]
    simp [and_comm]
  · rw [hrun, ← h.live_iff]
    simp only [liveIDs, hres, List.map_cons]
    rw [List.perm_middle.mem_iff, List.mem_cons]
    constructor
    · intro hk
      exact ⟨by rintro rfl; exact hnot hk, Or.inr hk⟩
    · rintro ⟨hne, hk | hk⟩
      · exact absurd hk hne
      · exact hk
  · rw [h.dispatched_iff]
    have hstarted : s.w.stepStatus d.id = some .running := by
      rw [hid]
      exact (h.live_iff r.stepID).1 (by simp [liveIDs, hres])
    by_cases hk : k = d.id
    · subst hk
      have hended := (hσ d.id _ (isStarted_outcomeStatus (stepOutcome env d))).2
        (by rw [if_pos rfl])
      exact ⟨fun _ => ⟨_, hended, isStarted_outcomeStatus _⟩, fun _ => ⟨_, hstarted, rfl⟩⟩
    · constructor
      · rintro ⟨st, hst, hs⟩
        exact ⟨st, (hσ k st hs).2 (by rwa [if_neg hk]), hs⟩
      · rintro ⟨st, hst, hs⟩
        have := (hσ k st hs).1 hst
        rw [if_neg hk] at this
        exact ⟨st, this, hs⟩
  · intro r' hr'
    exact h.result_ok r' (by simp [hres, hr'])
  · intro d' hd' b hb
    have hb' := (hσ d'.id _ (isStarted_outcomeStatus b)).1 hb
    split at hb'
    · next heq =>
        rw [h.winv.wf.eq_of_id_eq hd' hd heq]
        exact (outcomeStatus_injective hb').symm
    · exact h.outcome_ok d' hd' b hb'
  · have hle := h.results_le
    rw [hres, List.length_cons] at hle
    exact Nat.le_of_succ_le hle

/-! ### The goroutines and the context -/

theorem Core.go (h : Core env s) {i : ℕ} (hs : s.step env (.go i) = some s') : Core env s' := by
  obtain ⟨l₁, g, l₂, hgos, ⟨r, hpc, _, rfl⟩ | ⟨pc, row, hnx, rfl⟩⟩ := step_go hs
  · -- a send: the step moves from the goroutines to the results
    obtain ⟨hd, hok⟩ := h.go_ok g (by simp [hgos])
    rw [hpc] at hok
    obtain ⟨hid, hst⟩ := hok
    have hperm : s.liveIDs.Perm ((l₁ ++ l₂).map (fun g => g.defn.id) ++
        (s.results ++ [r]).map StepResult.stepID) := by
      simp only [liveIDs, hgos, List.map_append, List.map_cons, List.map_nil, hid,
        List.append_assoc]
      refine List.Perm.append_left _ ?_
      rw [List.cons_append, ← List.append_assoc]
      exact (List.perm_append_singleton _ _).symm
    refine ⟨h.winv, h.running_iff, hperm.nodup_iff.1 h.live_nodup, fun k => ?_, h.dispatched_nodup,
      h.dispatched_iff, ?_, ?_, h.outcome_ok, ?_, ?_⟩
    · rw [← h.live_iff, liveIDs, hperm.mem_iff]
    · intro g' hg'
      refine h.go_ok g' ?_
      rw [hgos]
      rcases List.mem_append.1 hg' with hg' | hg'
      · exact List.mem_append_left _ hg'
      · exact List.mem_append_right _ (List.mem_cons_of_mem g hg')
    · intro r' hr'
      rcases List.mem_append.1 hr' with hr' | hr'
      · exact h.result_ok r' hr'
      · rw [List.mem_singleton.1 hr']
        exact ⟨g.defn, hd, hid.symm, hst⟩
    · have hlen := h.sent_length
      rw [hgos] at hlen
      simp only [List.length_append, List.length_cons, List.length_nil] at hlen ⊢
      omega
    · simpa using h.results_le
  · have hids : (l₁ ++ (⟨g.defn, pc⟩ : Goroutine) :: l₂).map (fun g => g.defn.id) =
        s.gos.map (fun g => g.defn.id) := by
      simp [hgos]
    refine ⟨h.winv, h.running_iff, ?_, ?_, h.dispatched_nodup, h.dispatched_iff, ?_, h.result_ok,
      h.outcome_ok, ?_, h.results_le⟩
    · simp only [liveIDs, hids]
      exact h.live_nodup
    · simp only [liveIDs, hids]
      exact h.live_iff
    · intro g' hg'
      obtain ⟨hd, hok⟩ := h.go_ok g (by simp [hgos])
      rw [List.mem_append, List.mem_cons] at hg'
      rcases hg' with hg' | rfl | hg'
      · exact h.go_ok g' (by simp [hgos, hg'])
      · exact ⟨hd, hok.next hnx⟩
      · exact h.go_ok g' (by simp [hgos, hg'])
    · have hlen := h.sent_length
      rw [hgos] at hlen
      simpa using hlen

/-! ### With the place of the loop -/

/-- What is known where the loop is: at the `select` the workflow is not done and everything that
was ready has been dispatched. -/
def PcOk (s : LoopState) : Prop :=
  match s.pc with
  | .top => True
  | .select => s.w.isDone = false ∧ s.w.ready = []
  | .returned (.ctxErr e) => s.ctx = some e
  | .returned x => s.w.isDone = true ∧ x = s.w.exit

/-- **The invariant of the machine.** -/
structure Inv (env : WorkflowEnv) (s : LoopState) : Prop extends Core env s where
  pc_ok : s.PcOk

theorem Inv.start {w : Workflow} (h : Fresh env.suite.steps w) (ctx : Option CtxErr)
    (store : Store) : Inv env (start w ctx store) := ⟨Core.start h ctx store, trivial⟩

theorem exit_ne_ctxErr (w : Workflow) (e : CtxErr) : w.exit ≠ .ctxErr e := by
  unfold Workflow.exit
  split <;> simp

/-- The loop has returned because it noticed that the context is done. -/
def GaveUp (s : LoopState) : Prop := ∃ e, s.pc = .returned (.ctxErr e)

theorem gaveUp_step {a : LoopAct} (h : s.step env a = some s') :
    s'.GaveUp ↔ s.GaveUp ∨ a = .cancelled := by
  unfold GaveUp
  cases a with
  | loop =>
      obtain ⟨hpc, ⟨_, rfl⟩ | ⟨_, rfl⟩⟩ := step_loop h
      · simp [hpc, exit_ne_ctxErr]
      · simp [hpc]
  | receive =>
      obtain ⟨hpc, _, _, _, rfl⟩ := step_receive h
      simp [hpc]
  | cancelled =>
      obtain ⟨_, e, _, rfl⟩ := step_cancelled h
      simp
  | go i =>
      obtain ⟨_, _, _, _, ⟨_, _, _, rfl⟩ | ⟨_, _, _, rfl⟩⟩ := step_go h
      · simp
      · simp
  | expire e =>
      obtain ⟨_, rfl⟩ := step_expire h
      simp

theorem gaveUp_of_run {t : LoopState} {as : List LoopAct}
    (hrun : Machine.run (step env) s as = some t) :
    t.GaveUp ↔ s.GaveUp ∨ .cancelled ∈ as := by
  induction as generalizing s with
  | nil =>
      cases hrun
      simp
  | cons a as ih =>
      obtain ⟨s', h₁, h₂⟩ := Machine.run_cons_eq_some.1 hrun
      rw [ih h₂, gaveUp_step h₁, List.mem_cons, or_assoc, eq_comm]

/-- **Every action keeps the invariant.** -/
theorem Inv.step (h : Inv env s) {a : LoopAct} (hs : s.step env a = some s') : Inv env s' := by
  cases a with
  | loop =>
      obtain ⟨_, ⟨hd, rfl⟩ | ⟨hd, rfl⟩⟩ := step_loop hs
      · refine ⟨h.toCore.frame _ _ _, ?_⟩
        cases hx : s.w.exit with
        | ctxErr e => exact absurd hx (exit_ne_ctxErr s.w e)
        | ok => exact ⟨hd, hx.symm⟩
        | failed f sk => exact ⟨hd, hx.symm⟩
      · obtain ⟨h', hd', hr'⟩ := h.toCore.dispatch_induction (P := fun s => s.w.isDone = false)
          (fun s sid hc hr _ => by
            obtain ⟨hord, _⟩ := Workflow.mem_ready_iff.1 hr
            obtain ⟨d, _, _, heq⟩ := hc.dispatch_eq hr
            rw [heq]
            refine Workflow.not_isDone_of_running sid ?_
            rw [Workflow.stepStatus_started (hc.winv.mem_order_iff.1 hord), if_pos rfl]) hd
        exact ⟨h'.frame _ _ _, hd', hr'⟩
  | receive =>
      have hc := h.toCore.receive hs
      obtain ⟨_, r, rs, _, rfl⟩ := step_receive hs
      exact ⟨hc, trivial⟩
  | cancelled =>
      obtain ⟨_, e, he, rfl⟩ := step_cancelled hs
      exact ⟨h.toCore.frame _ _ _, he⟩
  | go i =>
      have hc := h.toCore.go hs
      refine ⟨hc, ?_⟩
      have hpc := h.pc_ok
      obtain ⟨_, _, _, _, ⟨r, _, _, rfl⟩ | ⟨pc, row, _, rfl⟩⟩ := step_go hs
      · exact hpc
      · exact hpc
  | expire e =>
      obtain ⟨hctx, rfl⟩ := step_expire hs
      refine ⟨h.toCore.frame _ _ _, ?_⟩
      have hpc := h.pc_ok
      unfold PcOk at hpc ⊢
      cases hcase : s.pc with
      | top => trivial
      | select =>
          rw [hcase] at hpc
          exact hpc
      | returned x =>
          rw [hcase] at hpc
          cases x with
          | ok => exact hpc
          | failed f sk => exact hpc
          | ctxErr e' =>
              rw [hctx] at hpc
              cases hpc

theorem Inv.of_reachable {w : Workflow} {ctx : Option CtxErr} {store : Store}
    (h : Fresh env.suite.steps w)
    (hr : Machine.Reachable (LoopState.step env) (LoopState.start w ctx store) s) : Inv env s :=
  hr.invariant (Inv.start h ctx store) fun _ _ _ hI hs => hI.step hs

/-! ### Progress -/

theorem Core.sent_add_gos_le (h : Core env s) :
    s.sent.length + s.gos.length ≤ env.suite.steps.length := by
  have hsub : ∀ sid ∈ s.dispatched, sid ∈ env.suite.steps.map WorkflowStep.id := by
    intro sid hsid
    obtain ⟨st, hst, _⟩ := (h.dispatched_iff sid).1 hsid
    exact h.winv.keys_perm.mem_iff.1 (Workflow.mem_keys_iff_stepStatus.2 ⟨st, hst⟩)
  have hle := (h.dispatched_nodup.subperm hsub).length_le
  rw [List.length_map] at hle
  rw [h.sent_length]
  exact hle

/-- **A goroutine is never blocked.** -/
theorem Core.exists_go (h : Core env s) {i : ℕ} {g : Goroutine} (hg : s.gos[i]? = some g) :
    ∃ s', s.step env (.go i) = some s' := by
  rcases GoPC.exists_next env g.defn g.pc with ⟨r, hr⟩ | ⟨nx, hnx⟩
  · -- a send finds room: this goroutine's own result is not in the channel
    have hpos : 0 < s.gos.length := Nat.zero_lt_of_lt (List.getElem?_eq_some_iff.1 hg).1
    have hlt : s.results.length < env.suite.steps.length := by
      have h₁ := h.sent_add_gos_le
      have h₂ := h.results_le
      omega
    simp only [LoopState.step, hg, hr, if_pos hlt]
    exact ⟨_, rfl⟩
  · cases hpc : g.pc with
    | sending r =>
        rw [hpc] at hnx
        cases hnx
    | calling a =>
        rw [hpc] at hnx
        simp only [LoopState.step, hg, hpc, hnx]
        exact ⟨_, rfl⟩
    | saving a res n =>
        rw [hpc] at hnx
        simp only [LoopState.step, hg, hpc, hnx]
        exact ⟨_, rfl⟩

theorem Core.live_of_running (h : Core env s) {sid : String}
    (hrun : s.w.stepStatus sid = some .running) :
    (∃ g ∈ s.gos, g.defn.id = sid) ∨ ∃ r ∈ s.results, r.stepID = sid := by
  have hlive := (h.live_iff sid).2 hrun
  simpa [liveIDs] using hlive

/-- **Progress**: until the loop has returned, it or a goroutine can take a step. -/
theorem Inv.exists_step (h : Inv env s) (hpc : ∀ x, s.pc ≠ .returned x) :
    ∃ a s', a.isExpire = false ∧ s.step env a = some s' := by
  have hok := h.pc_ok
  unfold PcOk at hok
  cases hcase : s.pc with
  | returned x => exact absurd hcase (hpc x)
  | top =>
      refine ⟨.loop, ?_⟩
      simp only [LoopState.step, hcase]
      split
      · exact ⟨_, rfl, rfl⟩
      · exact ⟨_, rfl, rfl⟩
  | select =>
      rw [hcase] at hok
      -- nothing is ready, so some step is running: its goroutine moves or its result is received
      rcases h.winv.exists_running_or_ready hok.1 with ⟨sid, hrun⟩ | hready
      · rcases h.toCore.live_of_running hrun with ⟨g, hg, _⟩ | ⟨r, hr, _⟩
        · obtain ⟨i, hi⟩ := List.mem_iff_getElem?.1 hg
          obtain ⟨s', hs'⟩ := h.toCore.exists_go hi
          exact ⟨.go i, s', rfl, hs'⟩
        · obtain ⟨r', rs, hres⟩ := List.exists_cons_of_ne_nil (List.ne_nil_of_mem hr)
          refine ⟨.receive, ?_⟩
          simp only [LoopState.step, hcase, hres]
          exact ⟨_, rfl, rfl⟩
      · exact absurd hok.2 hready

end LoopState

/-- **`runWorkflow` never gets stuck and dispatches each step at most once.**  In every state that
the loop, the goroutines and the context reach in any interleaving: while the workflow is not done,
some step is running with its result still to come, or some step is ready; no step was dispatched
twice, and only steps of the suite were; at most as many results were sent as the suite has steps;
and a goroutine before its send can send, also after the loop has returned. -/
theorem runWorkflow_never_stuck {env : WorkflowEnv} {o : NewWorkflowOrders} {w₀ : Workflow}
    (h₀ : newWorkflow o env.suite.id env.run.id env.suite.steps = .ok w₀) {ctx : Option CtxErr}
    {store : Store} {s : LoopState}
    (hr : Machine.Reachable (LoopState.step env) (LoopState.start w₀ ctx store) s) :
    (s.w.isDone = false →
      (∃ sid, s.w.stepStatus sid = some .running ∧
        ((∃ g ∈ s.gos, g.defn.id = sid) ∨ ∃ r ∈ s.results, r.stepID = sid)) ∨
      s.w.ready ≠ []) ∧
    s.dispatched.Nodup ∧ (∀ sid ∈ s.dispatched, sid ∈ env.suite.steps.map WorkflowStep.id) ∧
    s.sent.length ≤ env.suite.steps.length ∧
    ∀ i g r, s.gos[i]? = some g → g.pc = .sending r → ∃ s', s.step env (.go i) = some s' := by
  have hI : s.Inv env := LoopState.Inv.of_reachable (newWorkflow_fresh h₀) hr
  refine ⟨fun hd => ?_, hI.dispatched_nodup, fun sid hsid => ?_, ?_, fun i g r hg _ => ?_⟩
  · rcases hI.winv.exists_running_or_ready hd with ⟨sid, hrun⟩ | hready
    · exact Or.inl ⟨sid, hrun, hI.toCore.live_of_running hrun⟩
    · exact Or.inr hready
  · obtain ⟨st, hst, _⟩ := (hI.dispatched_iff sid).1 hsid
    exact hI.winv.keys_perm.mem_iff.1 (Workflow.mem_keys_iff_stepStatus.2 ⟨st, hst⟩)
  · exact Nat.le_of_add_right_le hI.toCore.sent_add_gos_le
  · exact hI.toCore.exists_go hg

/-- The two-step suite, run for an agent that does not answer the first step. -/
def chainEnv : WorkflowEnv where
  run := { id := "run", deviceID := "dev", testSuiteID := "suite", status := .running }
  device := { id := "dev" }
  suite := { id := "suite", steps := chainSteps }
  agent := fun sid _ _ => if sid = "a" then .error "no answer" else .ok { status := "passed" }
  honoursCtx := true

/-- The context ends while the first step is out: the loop returns, and the goroutine still gets
rid of its result. -/
theorem runWorkflow_never_stuck_chain :
    ∃ s, Machine.run (LoopState.step chainEnv) (LoopState.start chainWorkflow none newMemoryStore)
        [.loop, .expire .canceled, .cancelled, .go 0] = some s ∧
      s.pc = .returned (.ctxErr .canceled) ∧ s.dispatched.Nodup ∧
      ∃ s', s.step chainEnv (.go 0) = some s' := by
  have hrun : (Machine.run (LoopState.step chainEnv)
      (LoopState.start chainWorkflow none newMemoryStore)
      [.loop, .expire .canceled, .cancelled, .go 0]).map
        (fun s => (s.pc, s.gos.map Goroutine.pc)) =
      some (.returned (.ctxErr .canceled),
        [.sending ⟨"a", .failed, some "no answer"⟩]) := by decide
  obtain ⟨s, hs, heq⟩ := Option.map_eq_some_iff.1 hrun
  obtain ⟨hpc, hgos⟩ := Prod.mk.inj heq
  obtain ⟨_, hnd, _, _, hsend⟩ := runWorkflow_never_stuck newWorkflow_chain ⟨_, hs⟩
  obtain ⟨g, hg, hgpc⟩ := List.map_eq_singleton_iff.1 hgos
  exact ⟨s, hs, hpc, hnd, hsend 0 g _ (by rw [hg]; rfl) hgpc⟩

end Dvf
