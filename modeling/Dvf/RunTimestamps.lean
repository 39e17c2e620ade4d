/-
**The timestamps of a run and its status** (`UpdateTestRunStatus` of `internal/storage/memory.go`,
with the writers in `internal/api/grpc_server.go`, `internal/core/execution_engine.go` and
`internal/core/state_manager.go`).

A status write sets `StartedAt` or `CompletedAt` and never takes one back.  The lifecycle of a run
goes backwards, though: a run that was cancelled while it was queued is executed all the same, and a
run that a recovery has marked `ERRORED` is queued for another attempt.  Then the record of a run
that is going on says when the run was completed, before it was started.

The machine here is the one of `Dvf/Lifecycle.lean` with a clock, and with crashes: after a crash
nothing is left but the store, and `RecoverState` fills a new scheduler from it.

Main definitions:

* `Dvf.TestRun.TimesMatch`, `Dvf.Store.TimesMatch` — the timestamps match the status;
* `Dvf.LifeState.write` — the status write that an action makes;
* `Dvf.TimedState`, `Dvf.TimedAct`, `Dvf.TimedState.step` — the machine;
* `Dvf.TimedState.Settled` — an action does not open a completed run again.

Main results:

* `Dvf.TimedState.TimesOk.step`, `Dvf.TimedState.not_timesMatch_of_not_settled` — the actions that
  keep the timestamps right, and the others;
* `Dvf.timestamps_match_iff` — **the timestamps match in every state along a run just when no action
  opens a completed run again**.
-/

import Dvf.Lifecycle
import Dvf.Recovery
import Dvf.StoreAgreement

set_option autoImplicit false

namespace Dvf

open Go

/-! ### Records -/

/-- **The timestamps of a record match its status**: the run has a time of completion just when its
status says that it is over, which is not before its start, and the duration is between the two, in
milliseconds. -/
structure TestRun.TimesMatch (run : TestRun) : Prop where
  completed : run.completedAt.isSome = run.status.completes
  order : ∀ t ∈ run.startedAt, ∀ u ∈ run.completedAt,
    t ≤ u ∧ run.durationMs = (u - t).tdiv 1000000

/-- The timestamps of all records match. -/
def Store.TimesMatch (s : Store) : Prop :=
  ∀ id run, s.testRuns.lookup id = some run → run.TimesMatch

section Records

variable {now c : ℤ} {st : TestRunStatus} {msg : String} {run : TestRun}

theorem startedAt_completing (hst : st.completes = true) :
    (Store.withStatus now st msg run).startedAt = run.startedAt := by
  have hne : st ≠ .running := by
    rintro rfl
    cases hst
  rw [Store.withStatus_eq]
  exact if_neg hne

theorem TestRun.timesMatch_completing (hst : st.completes = true)
    (hstarted : ∀ t ∈ run.startedAt, t ≤ now) : (Store.withStatus now st msg run).TimesMatch := by
  constructor
  · rw [Store.withStatus_eq]
    simp [hst]
  · intro t ht u hu
    rw [startedAt_completing hst] at ht
    rw [Store.withStatus_eq] at hu ⊢
    simp only [if_pos hst, Option.mem_def, Option.some.injEq] at ht hu ⊢
    subst hu
    rw [ht]
    exact ⟨hstarted t ht, rfl⟩

theorem TestRun.timesMatch_open (hst : st.completes = false) (hrun : run.completedAt = none) :
    (Store.withStatus now st msg run).TimesMatch := by
  rw [Store.withStatus_eq]
  constructor
  · simp [hst, hrun]
  · intro t _ u hu
    simp [hst, hrun] at hu

theorem TestRun.not_timesMatch_reopened (hst : st.completes = false)
    (hrun : run.completedAt ≠ none) : ¬ (Store.withStatus now st msg run).TimesMatch := by
  intro h
  have hcompleted := h.completed
  rw [Store.withStatus_eq] at hcompleted
  simp only [hst, Bool.false_eq_true, if_false] at hcompleted
  exact hrun (Option.not_isSome_iff_eq_none.1 (by rw [hcompleted]; exact Bool.false_ne_true))

theorem startedAt_withStatus_le (hc : c ≤ now) (hstarted : ∀ t ∈ run.startedAt, t ≤ c) :
    ∀ t ∈ (Store.withStatus now st msg run).startedAt, t ≤ now := by
  intro t ht
  rw [Store.withStatus_eq] at ht
  simp only [Option.mem_def] at ht
  split at ht
  · exact le_of_eq (Option.some.inj ht).symm
  · exact (hstarted t ht).trans hc

end Records

/-! ### Writes -/

/-- The status write that an execution is about to make. -/
def Thread.write : Thread → Option (String × TestRunStatus × String)
  | ⟨_, .call (.updateTestRunStatus id st msg) _, _⟩ => some (id, st, msg)
  | _ => none

/-- The time at which an action calls the store. -/
def LifeAct.time : LifeAct → Option ℤ
  | .create _ now _ => some now
  | .exec _ now _ _ => some now
  | .cancelWrite _ now _ => some now
  | .submit _ | .next | .finish _ | .resubmit _ | .cancelRead _ => none

/-- A store that honours contexts refuses a call whose context is done. -/
def refuses (honoursCtx : Bool) (ctx : Option CtxErr) : Bool := honoursCtx && ctx.isSome

namespace LifeState

/-- **The status write that an action makes**: to which run, and what. -/
def write (env : LifeEnv) (s : LifeState) : LifeAct → Option (String × StatusWrite)
  | .exec i now ctx _ =>
      if refuses env.honoursCtx ctx then none
      else (s.threads[i]?).bind fun t => t.write.map fun w => (w.1, ⟨now, w.2.1, w.2.2⟩)
  | .cancelWrite i now ctx =>
      if refuses env.honoursCtx ctx then none
      else (s.cancels[i]?).map fun id => (id, ⟨now, .cancelled, "cancelled by user"⟩)
  | .create .. | .submit _ | .next | .finish _ | .resubmit _ | .cancelRead _ => none

end LifeState

/-- The records after a status write, if the run is known. -/
structure Store.Written (s s' : Store) (id : String) (w : StatusWrite) (run : TestRun) : Prop where
  known : s.testRuns.lookup id = some run
  testRuns : s'.testRuns =
    s.testRuns.insert id (Store.withStatus w.time w.status w.errMsg run)

theorem Store.written_of_update {s s' : Store} {now : ℤ} {id msg : String} {st : TestRunStatus}
    (h : s.updateTestRunStatus now id st msg = .ok s') :
    ∃ run, s.Written s' id ⟨now, st, msg⟩ run := by
  unfold updateTestRunStatus at h
  split at h
  · next run hrun =>
      cases h
      exact ⟨run, hrun, rfl⟩
  · cases h

/-- A status write with a context, by what the store answers. -/
theorem Store.withCtx_update (s : Store) (honoursCtx : Bool) (ctx : Option CtxErr) (now : ℤ)
    (id : String) (st : TestRunStatus) (msg : String) :
    (refuses honoursCtx ctx = false ∧ ∃ s' run,
        withCtx honoursCtx ctx (s.updateTestRunStatus now id st msg) = .ok s' ∧
          s.Written s' id ⟨now, st, msg⟩ run) ∨
      (refuses honoursCtx ctx = false → s.testRuns.lookup id = none) ∧
        ∃ err, withCtx honoursCtx ctx (s.updateTestRunStatus now id st msg) = .error err := by
  cases hrefuses : refuses honoursCtx ctx with
  | true =>
      obtain ⟨rfl, hsome⟩ := Bool.and_eq_true_iff.1 hrefuses
      obtain ⟨e, rfl⟩ := Option.isSome_iff_exists.1 hsome
      exact Or.inr ⟨fun h => absurd h.symm Bool.false_ne_true, e.error, rfl⟩
  | false =>
      have hop : withCtx honoursCtx ctx (s.updateTestRunStatus now id st msg) =
          s.updateTestRunStatus now id st msg := by
        cases ctx with
        | none => rfl
        | some e =>
            cases honoursCtx with
            | false => rfl
            | true => cases hrefuses
      rw [hop]
      cases hupdate : s.updateTestRunStatus now id st msg with
      | ok s' =>
          obtain ⟨run, hwritten⟩ := written_of_update hupdate
          exact Or.inl ⟨rfl, s', run, rfl, hwritten⟩
      | error err =>
          refine Or.inr ⟨fun _ => ?_, err, rfl⟩
          by_contra hknown
          obtain ⟨run, hrun⟩ := Option.ne_none_iff_exists'.1 hknown
          obtain ⟨s', hs', _⟩ := exists_update_of_lookup hrun now st msg
          rw [hupdate] at hs'
          cases hs'

namespace LifeState

variable {env : LifeEnv} {s s' : LifeState}

/-- What an action does to the records: a new one, a status write, or nothing. -/
inductive Recorded (env : LifeEnv) (s s' : LifeState) (a : LifeAct) : Prop
  | created (id : String) (run : TestRun) (hstarted : run.startedAt = none)
      (hcompleted : run.completedAt = none) (hstatus : run.status.completes = false)
      (hruns : s'.store.testRuns = s.store.testRuns.insert id run)
      (hwrite : s.write env a = none)
  | written (id : String) (w : StatusWrite) (run : TestRun) (hwrite : s.write env a = some (id, w))
      (htime : a.time = some w.time) (hruns : s.store.Written s'.store id w run)
  | same (hruns : s'.store.testRuns = s.store.testRuns)
      (hwrite : ∀ x ∈ s.write env a, s.store.testRuns.lookup x.1 = none)

/-- An action that makes a status write, by what the store answers to it. -/
theorem Recorded.of_update {a : LifeAct} {ctx : Option CtxErr} {now : ℤ} {id msg : String}
    {st : TestRunStatus}
    (hwrite : s.write env a =
      if refuses env.honoursCtx ctx then none else some (id, ⟨now, st, msg⟩))
    (htime : a.time = some now)
    (hok : ∀ store, Store.withCtx env.honoursCtx ctx (s.store.updateTestRunStatus now id st msg) =
      .ok store → s'.store.testRuns = store.testRuns)
    (herr : ∀ err, Store.withCtx env.honoursCtx ctx (s.store.updateTestRunStatus now id st msg) =
      .error err → s'.store.testRuns = s.store.testRuns) : s.Recorded env s' a := by
  rcases s.store.withCtx_update env.honoursCtx ctx now id st msg with
    ⟨hrefuses, store, run, hstore, hwritten⟩ | ⟨hnone, err, hstore⟩
  · refine .written id ⟨now, st, msg⟩ run ?_ htime ⟨hwritten.known, ?_⟩
    · rw [hwrite, hrefuses]
      rfl
    · rw [hok store hstore, hwritten.testRuns]
  · refine .same (herr err hstore) fun x hx => ?_
    rw [hwrite] at hx
    split at hx
    · cases hx
    · next hrefuses =>
        cases hx
        exact hnone (Bool.eq_false_iff.2 hrefuses)

/-- **What an action does to the records.** -/
theorem testRuns_of_step {a : LifeAct} (h : s.step env a = some s') : s.Recorded env s' a := by
  cases a with
  | create id now req =>
      simp only [step] at h
      split at h
      · cases h
        exact .created id _ rfl rfl rfl rfl rfl
      · cases h
  | submit i =>
      obtain ⟨l₁, run, l₂, _, rfl⟩ := step_submit h
      exact .same rfl (by simp [write])
  | next =>
      obtain ⟨run, scheduler, _, rfl⟩ := step_next h
      exact .same rfl (by simp [write])
  | finish i =>
      obtain ⟨l₁, t, l₂, _, rfl⟩ := step_finish h
      exact .same rfl (by simp [write])
  | resubmit i =>
      obtain ⟨l₁, run, l₂, _, rfl⟩ := step_resubmit h
      exact .same rfl (by simp [write])
  | cancelRead id =>
      obtain ⟨ans, _, rfl⟩ | rfl := step_cancelRead h
      · exact .same rfl (by simp [write])
      · exact .same rfl (by simp [write])
  | exec i now ctx ans =>
      simp only [step] at h
      split at h
      · next run c k released ht =>
          cases h
          have hwrite : s.write env (.exec i now ctx ans) =
              if refuses env.honoursCtx ctx then none
              else (Thread.write ⟨run, .call c k, released⟩).map fun w =>
                (w.1, ⟨now, w.2.1, w.2.2⟩) := by
            rw [write, ht]
            rfl
          cases c with
          | updateTestRunStatus id st msg =>
              refine .of_update hwrite rfl (fun store hstore => ?_) fun err herr => ?_
              · simp only [perform, hstore]
              · simp only [perform, herr]
          | _ => exact .same rfl (by simp [hwrite, Thread.write])
      · cases h
  | cancelWrite i now ctx =>
      simp only [step] at h
      split at h
      · next id hid =>
          have hwrite : s.write env (.cancelWrite i now ctx) =
              if refuses env.honoursCtx ctx then none
              else some (id, ⟨now, .cancelled, "cancelled by user"⟩) := by
            rw [write, hid]
            rfl
          refine .of_update hwrite rfl (fun store hstore => ?_) fun err herr => ?_
          · rw [hstore] at h
            cases h
            rfl
          · rw [herr] at h
            cases h
            rfl
      · cases h

end LifeState

/-! ### The machine with a clock -/

structure TimedState where
  life : LifeState
  clock : ℤ

/-- An action of the machine, or a crash with the recovery after it, which is over at the time
`now`. -/
inductive TimedAct
  | act (a : LifeAct)
  | restart (maxConcurrent : ℤ) (recover : RecoverEnv) (now : ℤ)

namespace TimedState

/-- **One action with the clock**: time does not go backwards, and a crash leaves the store. -/
def step (env : LifeEnv) (s : TimedState) : TimedAct → Option TimedState
  | .act a =>
      if ∀ now ∈ a.time, s.clock ≤ now then
        (s.life.step env a).map fun life => ⟨life, a.time.getD s.clock⟩
      else none
  | .restart maxConcurrent recover now =>
      if s.clock ≤ now ∧ ∀ id ∈ s.life.store.testRuns.keys,
          s.clock ≤ recover.clock id ∧ recover.clock id ≤ now then
        let r := Dvf.restart maxConcurrent ⟨s.life.store, s.life.scheduler, []⟩ recover
        some ⟨{ store := r.store, scheduler := r.scheduler }, now⟩
      else none

def start (maxConcurrent clock : ℤ) : TimedState :=
  ⟨LifeState.start newMemoryStore maxConcurrent, clock⟩

/-- **No completed run is opened again**: a status that does not end a run is not written where
there is a time of completion. -/
def Settled (env : LifeEnv) (s : TimedState) : TimedAct → Prop
  | .act a => ∀ x ∈ s.life.write env a, x.2.status.completes = true ∨
      ∀ run ∈ s.life.store.testRuns.lookup x.1, run.completedAt = none
  | .restart .. => True

instance (env : LifeEnv) (s : TimedState) : (a : TimedAct) → Decidable (s.Settled env a)
  | .act a => inferInstanceAs (Decidable (∀ x ∈ s.life.write env a, x.2.status.completes = true ∨
      ∀ run ∈ s.life.store.testRuns.lookup x.1, run.completedAt = none))
  | .restart .. => isTrue trivial

end TimedState

/-! ### Timestamps along runs -/

/-- The timestamps of all records match, and no run was started after the time `c`. -/
def Store.TimesOk (c : ℤ) (s : Store) : Prop :=
  ∀ id run, s.testRuns.lookup id = some run → run.TimesMatch ∧ ∀ t ∈ run.startedAt, t ≤ c

namespace Store

variable {s s' : Store} {c c' : ℤ} {id : String} {run : TestRun}

theorem TimesOk.mono (h : s.TimesOk c) (hc : c ≤ c') : s.TimesOk c' :=
  fun id run hrun => ⟨(h id run hrun).1, fun t ht => ((h id run hrun).2 t ht).trans hc⟩

theorem TimesOk.of_testRuns (h : s.TimesOk c) (hruns : s'.testRuns = s.testRuns) :
    s'.TimesOk c := by
  intro id run hrun
  rw [hruns] at hrun
  exact h id run hrun

theorem TimesOk.insert (h : s.TimesOk c) (hruns : s'.testRuns = s.testRuns.insert id run)
    (hmatch : run.TimesMatch) (hstarted : ∀ t ∈ run.startedAt, t ≤ c) : s'.TimesOk c := by
  intro id' run' hrun'
  rw [hruns] at hrun'
  rcases lookup_of_insert hrun' with ⟨_, rfl⟩ | ⟨_, hold⟩
  · exact ⟨hmatch, hstarted⟩
  · exact h id' run' hold

theorem TimesOk.completing {w : StatusWrite} (h : s.TimesOk c) (hc : c ≤ w.time)
    (hw : s.Written s' id w run) (hst : w.status.completes = true) : s'.TimesOk c := by
  obtain ⟨_, hstarted⟩ := h id run hw.known
  refine h.insert hw.testRuns ?_ ?_
  · exact TestRun.timesMatch_completing hst fun t ht => (hstarted t ht).trans hc
  · rw [startedAt_completing hst]
    exact hstarted

/-- **A status write that opens no completed run.** -/
theorem TimesOk.written {w : StatusWrite} (h : s.TimesOk c) (hc : c ≤ w.time)
    (hw : s.Written s' id w run) (hsettled : w.status.completes = true ∨ run.completedAt = none) :
    s'.TimesOk w.time := by
  cases hst : w.status.completes with
  | true => exact (h.completing hc hw hst).mono hc
  | false =>
      rw [hst] at hsettled
      refine (h.mono hc).insert hw.testRuns ?_ ?_
      · exact TestRun.timesMatch_open hst (hsettled.resolve_left Bool.false_ne_true)
      · exact startedAt_withStatus_le hc (h id run hw.known).2

end Store

/-! ### Recovery -/

section Recovery

variable {env : RecoverEnv} {c : ℤ} {r : Recovery}

/-- The store during a recovery: no run was started after the crash, and the recovery is later. -/
structure RecoverOk (env : RecoverEnv) (c : ℤ) (s : Store) : Prop where
  times : s.TimesOk c
  later : ∀ id run, s.testRuns.lookup id = some run → c ≤ env.clock id

theorem RecoverOk.markInterrupted {s s' : Store} {run : TestRun} (h : RecoverOk env c s)
    (hmark : Dvf.markInterrupted env s run = .ok s') : RecoverOk env c s' := by
  obtain ⟨run', hw⟩ := Store.written_of_update (ok_of_tryStore hmark)
  refine ⟨h.times.completing (h.later _ _ hw.known) hw rfl, fun id run'' hrun'' => ?_⟩
  rw [hw.testRuns] at hrun''
  rcases lookup_of_insert hrun'' with ⟨rfl, _⟩ | ⟨_, hold⟩
  · exact h.later _ _ hw.known
  · exact h.later _ _ hold

theorem RecoverOk.recoverRun (h : RecoverOk env c r.store) (run : TestRun) :
    RecoverOk env c (Dvf.recoverRun env r run).store := by
  unfold Dvf.recoverRun
  split
  · split
    · exact h
    · next hmark => exact h.markInterrupted hmark
  · split
    · exact h
    · next hmark => exact h.markInterrupted hmark
  · exact h
  · exact h

theorem RecoverOk.foldl (runs : List TestRun) : ∀ r : Recovery, RecoverOk env c r.store →
    RecoverOk env c (runs.foldl (Dvf.recoverRun env) r).store := by
  induction runs with
  | nil => exact fun _ h => h
  | cons run runs ih => exact fun r h => ih (Dvf.recoverRun env r run) (h.recoverRun run)

/-- **A recovery keeps the timestamps right**: it only completes runs. -/
theorem timesOk_restart {n : ℤ} (h : RecoverOk env c r.store) :
    (restart n r env).store.TimesOk c := by
  unfold restart recoverState
  split
  · exact h.times
  · have hruns := RecoverOk.foldl (r.store.listRunningTestRuns env.runOrder)
      ⟨r.store, newScheduler n, []⟩ h
    dsimp only
    split
    · exact hruns.times
    · exact hruns.times.of_testRuns (foldl_recoverVM_frame env _ _).1

end Recovery

/-! ### The result -/

namespace TimedState

variable {env : LifeEnv} {s s' : TimedState} {a : TimedAct}

/-- No run was started after the present time, and all timestamps match. -/
def TimesOk (s : TimedState) : Prop := s.life.store.TimesOk s.clock

/-- **An action that opens no completed run** keeps the timestamps right. -/
theorem TimesOk.step (h : s.TimesOk) (hsettled : s.Settled env a) (hs : s.step env a = some s') :
    s'.TimesOk := by
  cases a with
  | act a =>
      simp only [TimedState.step] at hs
      split at hs
      · next hclock =>
          obtain ⟨life, hlife, rfl⟩ := Option.map_eq_some_iff.1 hs
          have hle : s.clock ≤ a.time.getD s.clock := by
            cases htime : a.time with
            | none => exact le_rfl
            | some now => exact hclock now htime
          cases LifeState.testRuns_of_step hlife with
          | created id run hstarted hcompleted hstatus hruns _ =>
              refine (Store.TimesOk.mono h hle).insert hruns ⟨?_, ?_⟩ ?_
              · rw [hcompleted, hstatus]
                rfl
              · simp [hstarted]
              · simp [hstarted]
          | written id w run hwrite htime hw =>
              have hnow : a.time.getD s.clock = w.time := by rw [htime, Option.getD_some]
              have hcond : w.status.completes = true ∨ run.completedAt = none :=
                (hsettled _ hwrite).imp_right fun hnone => hnone run hw.known
              rw [TimesOk, hnow]
              exact Store.TimesOk.written h (hnow ▸ hle) hw hcond
          | same hruns _ => exact (Store.TimesOk.mono h hle).of_testRuns hruns
      · cases hs
  | restart n renv now =>
      simp only [TimedState.step] at hs
      split at hs
      · next hclock =>
          cases hs
          have hstore : RecoverOk renv s.clock s.life.store := by
            refine ⟨h, fun id run hrun => (hclock.2 id ?_).1⟩
            rw [← AList.mem_keys, ← AList.lookup_isSome, hrun]
            rfl
          exact Store.TimesOk.mono (timesOk_restart hstore) hclock.1
      · cases hs

/-- **An action that opens a completed run again** leaves a record whose timestamps do not match. -/
theorem not_timesMatch_of_not_settled (hs : s.step env a = some s') (hsettled : ¬ s.Settled env a) :
    ¬ s'.life.store.TimesMatch := by
  cases a with
  | act a =>
      simp only [TimedState.step] at hs
      split at hs
      · obtain ⟨life, hlife, rfl⟩ := Option.map_eq_some_iff.1 hs
        simp only [Settled, not_forall, not_or, Bool.not_eq_true] at hsettled
        obtain ⟨x, hx, hst, run, hrun, hcompleted⟩ := hsettled
        intro hmatch
        cases LifeState.testRuns_of_step hlife with
        | created id run _ _ _ _ hwrite =>
            rw [hwrite] at hx
            cases hx
        | written id w run' hwrite _ hw =>
            rw [hwrite] at hx
            cases hx
            have heq : run' = run := Option.some.inj (hw.known.symm.trans hrun)
            subst heq
            have hlookup : life.store.testRuns.lookup id =
                some (Store.withStatus w.time w.status w.errMsg run') := by
              rw [hw.testRuns]
              exact AList.lookup_insert _
            exact TestRun.not_timesMatch_reopened hst hcompleted (hmatch id _ hlookup)
        | same _ hwrite =>
            rw [Option.mem_def, hwrite x hx] at hrun
            cases hrun
      · cases hs
  | restart n renv now => exact absurd trivial hsettled

end TimedState

/-- **The timestamps of a run and its status**: from an empty store, along any sequence of requests,
executions, deferrals, cancellations, crashes and recoveries in which time does not go backwards,
the timestamps of all runs match their statuses in every state just when no action writes a status
that does not end a run where there is a time of completion. -/
theorem timestamps_match_iff (env : LifeEnv) (maxConcurrent clock : ℤ) {as : List TimedAct}
    {t : TimedState}
    (h : Machine.run (TimedState.step env) (TimedState.start maxConcurrent clock) as = some t) :
    (∀ bs u, bs <+: as →
        Machine.run (TimedState.step env) (TimedState.start maxConcurrent clock) bs = some u →
          u.life.store.TimesMatch) ↔
      Machine.Obeys (TimedState.step env) (TimedState.Settled env)
        (TimedState.start maxConcurrent clock) as := by
  refine Machine.forall_reached_iff_obeys (I := TimedState.TimesOk)
    (P := fun u => u.life.store.TimesMatch) (fun s hs id run hrun => (hs id run hrun).1)
    (fun s a s' hs hc h => hs.step hc h)
    (fun s a s' _ h hc => TimedState.not_timesMatch_of_not_settled h hc) ?_ h
  intro id run hrun
  cases hrun

/-- A run is submitted and executed, with a millisecond from call to call. -/
def executedActs : List TimedAct :=
  [.act (.create "run" 0 ⟨"dev", "suite", 0, [], ""⟩), .act (.submit 0), .act .next] ++
    (List.range 7).map fun k => .act (.exec 0 (k * 1000000) none goodAnswers)

/-- The timestamps of a run that is executed and passes match in every state. -/
theorem timestamps_match_executed :
    ∃ t, Machine.run (TimedState.step plainEnv) (TimedState.start 1 0) executedActs = some t ∧
      t.life.store.status "run" = some .passed ∧
      ∀ bs u, bs <+: executedActs →
        Machine.run (TimedState.step plainEnv) (TimedState.start 1 0) bs = some u →
          u.life.store.TimesMatch := by
  have hrun : ((Machine.run (TimedState.step plainEnv) (TimedState.start 1 0) executedActs).map
      fun t => t.life.store.status "run") = some (some .passed) := by decide +kernel
  obtain ⟨t, ht, hpassed⟩ := Option.map_eq_some_iff.1 hrun
  exact ⟨t, ht, hpassed, (timestamps_match_iff plainEnv 1 0 ht).2 (by decide +kernel)⟩

/-- The status, the start, the completion and the duration of a run. -/
def TimedState.times (s : TimedState) (id : String) :
    Option (TestRunStatus × Option ℤ × Option ℤ × ℤ) :=
  (s.life.store.testRuns.lookup id).map fun run =>
    (run.status, run.startedAt, run.completedAt, run.durationMs)

/-- **A run that is completed before it starts**: a run is cancelled while it is queued, and
executed all the same; or it is running when the process crashes, marked by the recovery, and
executed again.  In both cases it is running, and was completed before it was started. -/
theorem completed_before_started :
    ((Machine.run (TimedState.step plainEnv) (TimedState.start 1 0)
        [.act (.create "run" 0 ⟨"dev", "suite", 0, [], ""⟩), .act (.submit 0),
          .act (.cancelRead "run"), .act (.cancelWrite 0 1000000 none), .act .next,
          .act (.exec 0 2000000 none goodAnswers)]).bind fun s => s.times "run") =
        some (.running, some 2000000, some 1000000, 0) ∧
      ((Machine.run (TimedState.step plainEnv) (TimedState.start 1 0)
        [.act (.create "run" 0 ⟨"dev", "suite", 0, [], ""⟩), .act (.submit 0), .act .next,
          .act (.exec 0 1000000 none goodAnswers),
          .restart 1 ⟨.stored String, .stored String, fun _ => 3000000, none, fun _ => none, none,
            fun _ => none⟩ 3000000,
          .act .next, .act (.exec 0 4000000 none goodAnswers)]).bind fun s => s.times "run") =
        some (.running, some 4000000, some 3000000, 2) := by
  constructor
  · decide +kernel
  · decide +kernel

end Dvf
