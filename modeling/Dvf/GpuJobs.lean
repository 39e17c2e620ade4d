/-
**Jobs and their completion** (`GP_GPU_IOCTL_SUBMIT`, `GP_GPU_IOCTL_WAIT`, `gp_gpu_msix_handler`).

`SUBMIT` takes the next job id, puts an entry on `job_list`, writes the id to a register of the
device and starts it.  When the device is done it sends an interrupt, which does not say for which
job; the handler reads the id from the register and marks the first entry with that id.  Calls are
not locked against each other nor against the handler, so that a later `SUBMIT` may have written
another id in the meantime.

Here a call of `SUBMIT` is cut into its accesses to what is shared, and an interrupt is a message in
flight.  A `WAIT` takes an entry from the list, when it is done and also when a signal comes.

Main definitions:

* `Dvf.Gpu.JobState`, `Dvf.Gpu.JobState.step` — the calls, the device, the interrupts and the
  handler;
* `Dvf.Gpu.JobState.Lost` — every interrupt was handled, but a job that finished is not marked;
* `Dvf.Gpu.JobState.Orderly` — the condition on the calls.

Main results:

* `Dvf.Gpu.completions_exact` — **no completion is lost as long as the calls are orderly, and one
  that is not can lose one**;
* `Dvf.Gpu.completion_lost` — two jobs, one after the other, of which the first is never marked.
-/

import Dvf.Machine
import Mathlib.Data.UInt

set_option autoImplicit false

namespace Dvf

namespace Gpu

/-! ### The source -/

/-- How far a call of `SUBMIT` and its job are: the call has begun, `next_job_id` was read, it was
written back, the entry is on the list, the id is in the register, the device was started, and the
job was executed. -/
inductive JobStage
  | begun
  | read
  | counted
  | listed
  | selected
  | started
  | finished
  deriving DecidableEq, Repr

/-- A call of `SUBMIT` with the job id it has read. -/
structure SubmitCall where
  stage : JobStage := .begun
  jobID : UInt32 := 0
  deriving DecidableEq, Repr

/-- `struct gp_gpu_job_entry`, and the call it belongs to. -/
structure JobEntry where
  call : ℕ
  jobID : UInt32
  done : Bool := false
  deriving DecidableEq, Repr

/-- What the calls, the device and the handler share; the calls themselves; the number of interrupts
in flight; and the job id that a running handler has read. -/
structure JobState where
  nextJobID : UInt32 := 1
  regJobID : UInt32 := 0
  jobList : List JobEntry := []
  calls : List SubmitCall := []
  inFlight : ℕ := 0
  handler : Option UInt32 := none
  deriving DecidableEq, Repr

/-- The steps: of a call, of the device that executes its job, of an interrupt and the handler it
starts, and of a `WAIT` that ends. -/
inductive JobAct
  | submit
  | readNext (call : ℕ)
  | storeNext (call : ℕ)
  | listAdd (call : ℕ)
  | writeJobID (call : ℕ)
  | writeStart (call : ℕ)
  | execute (call : ℕ)
  | deliver
  | mark
  | wait (jobID : UInt32)
  deriving DecidableEq, Repr

/-- The loop of the handler: the first entry with the id is marked. -/
def markDone (jobID : UInt32) : List JobEntry → List JobEntry
  | [] => []
  | e :: es => if e.jobID = jobID then { e with done := true } :: es else e :: markDone jobID es

namespace JobState

def callAt (s : JobState) (t : ℕ) (stage : JobStage) : Option SubmitCall :=
  s.calls[t]?.filter fun c => c.stage = stage

def setCall (s : JobState) (t : ℕ) (c : SubmitCall) (stage : JobStage) : JobState :=
  { s with calls := s.calls.set t { c with stage := stage } }

/-- One step. -/
def step (s : JobState) : JobAct → Option JobState
  | .submit => some { s with calls := s.calls ++ [{}] }
  | .readNext t =>
      (s.callAt t .begun).map fun _ => s.setCall t { jobID := s.nextJobID } .read
  | .storeNext t =>
      (s.callAt t .read).map fun c => { s.setCall t c .counted with nextJobID := c.jobID + 1 }
  | .listAdd t =>
      (s.callAt t .counted).map fun c =>
        { s.setCall t c .listed with jobList := s.jobList ++ [{ call := t, jobID := c.jobID }] }
  | .writeJobID t =>
      (s.callAt t .listed).map fun c => { s.setCall t c .selected with regJobID := c.jobID }
  | .writeStart t => (s.callAt t .selected).map fun c => s.setCall t c .started
  | .execute t =>
      (s.callAt t .started).map fun c =>
        { s.setCall t c .finished with inFlight := s.inFlight + 1 }
  | .deliver =>
      if 0 < s.inFlight ∧ s.handler = none then
        some { s with inFlight := s.inFlight - 1, handler := some s.regJobID }
      else none
  | .mark =>
      s.handler.map fun jobID => { s with jobList := markDone jobID s.jobList, handler := none }
  | .wait jobID =>
      if s.jobList.any (fun e => e.jobID = jobID) then
        some { s with jobList := s.jobList.eraseP fun e => e.jobID = jobID }
      else none

/-! ### The property and the condition -/

def stageOf (s : JobState) (e : JobEntry) : Option JobStage := s.calls[e.call]?.map SubmitCall.stage

/-- Every interrupt was handled, but a job on the list that was executed is not marked. -/
def Lost (s : JobState) : Prop :=
  s.inFlight = 0 ∧ s.handler = none ∧
    ∃ e ∈ s.jobList, s.stageOf e = some .finished ∧ e.done = false

instance (s : JobState) : Decidable s.Lost := inferInstanceAs (Decidable (_ ∧ _ ∧ _))

/-- The entry waits for its interrupt: the id was written to the register and the entry is not
marked. -/
def Waiting (s : JobState) (e : JobEntry) : Prop :=
  e.done = false ∧
    (s.stageOf e = some .selected ∨ s.stageOf e = some .started ∨ s.stageOf e = some .finished)

instance (s : JobState) (e : JobEntry) : Decidable (s.Waiting e) :=
  inferInstanceAs (Decidable (_ ∧ _))

/-- Orderly calls: an entry is put on the list only when no other one has its id, and another id is
written to the register only when no entry waits for its interrupt, except for one whose id a
running handler has already read. -/
def Orderly (s : JobState) : JobAct → Prop
  | .listAdd t => ∀ c ∈ s.calls[t]?, ∀ e ∈ s.jobList, e.jobID ≠ c.jobID
  | .writeJobID t => ∀ c ∈ s.calls[t]?, ∀ e ∈ s.jobList, s.Waiting e →
      e.jobID = c.jobID ∨ s.handler = some e.jobID
  | _ => True

instance (s : JobState) : ∀ a, Decidable (s.Orderly a)
  | .submit => inferInstanceAs (Decidable True)
  | .readNext _ => inferInstanceAs (Decidable True)
  | .storeNext _ => inferInstanceAs (Decidable True)
  | .listAdd t => inferInstanceAs (Decidable (∀ c ∈ s.calls[t]?, _))
  | .writeJobID t => inferInstanceAs (Decidable (∀ c ∈ s.calls[t]?, _))
  | .writeStart _ => inferInstanceAs (Decidable True)
  | .execute _ => inferInstanceAs (Decidable True)
  | .deliver => inferInstanceAs (Decidable True)
  | .mark => inferInstanceAs (Decidable True)
  | .wait _ => inferInstanceAs (Decidable True)

/-! ### Calls and entries -/

variable {s s' : JobState} {t : ℕ} {c : SubmitCall} {e : JobEntry} {stage : JobStage}

theorem callAt_eq_some_iff :
    s.callAt t stage = some c ↔ s.calls[t]? = some c ∧ c.stage = stage := by
  rw [callAt, Option.filter_eq_some_iff, decide_eq_true_eq]

theorem stageOf_eq_some_iff :
    s.stageOf e = some stage ↔ ∃ c, s.calls[e.call]? = some c ∧ c.stage = stage :=
  Option.map_eq_some_iff

theorem calls_setCall (h : s.calls[t]? = some c) (c' : SubmitCall) (stage : JobStage) (j : ℕ) :
    (s.setCall t c' stage).calls[j]? =
      if t = j then some { c' with stage := stage } else s.calls[j]? :=
  Machine.getElem?_set_of h _ j

theorem stageOf_setCall (h : s.calls[t]? = some c) (c' : SubmitCall) (stage : JobStage)
    (e : JobEntry) :
    (s.setCall t c' stage).stageOf e = if t = e.call then some stage else s.stageOf e := by
  rw [stageOf, calls_setCall h]
  split
  · rfl
  · rfl

theorem mem_markDone {jobID : UInt32} {l : List JobEntry} (h : e ∈ markDone jobID l) :
    ∃ e' ∈ l, e.call = e'.call ∧ e.jobID = e'.jobID ∧ (e.done = false → e = e') := by
  induction l with
  | nil => cases h
  | cons a l ih =>
      rw [markDone] at h
      split at h
      · obtain rfl | h := List.mem_cons.1 h
        · exact ⟨a, List.mem_cons_self, rfl, rfl, fun hd => by cases hd⟩
        · exact ⟨e, List.mem_cons_of_mem _ h, rfl, rfl, fun _ => rfl⟩
      · obtain rfl | h := List.mem_cons.1 h
        · exact ⟨e, List.mem_cons_self, rfl, rfl, fun _ => rfl⟩
        · obtain ⟨e', he', hrest⟩ := ih h
          exact ⟨e', List.mem_cons_of_mem _ he', hrest⟩

theorem map_jobID_markDone (jobID : UInt32) (l : List JobEntry) :
    (markDone jobID l).map JobEntry.jobID = l.map JobEntry.jobID := by
  induction l with
  | nil => rfl
  | cons a l ih =>
      rw [markDone]
      split
      · rfl
      · rw [List.map_cons, ih, List.map_cons]

/-- An entry that is not marked by the loop has another id, when the ids are distinct. -/
theorem jobID_ne_of_mem_markDone {jobID : UInt32} {l : List JobEntry}
    (hids : (l.map JobEntry.jobID).Nodup) (h : e ∈ markDone jobID l) (hd : e.done = false) :
    e.jobID ≠ jobID := by
  induction l with
  | nil => cases h
  | cons a l ih =>
      rw [List.map_cons, List.nodup_cons] at hids
      rw [markDone] at h
      split at h
      · next ha =>
          obtain rfl | h := List.mem_cons.1 h
          · cases hd
          · rintro rfl
            exact hids.1 (ha ▸ List.mem_map_of_mem h)
      · next ha =>
          obtain rfl | h := List.mem_cons.1 h
          · exact ha
          · exact ih hids.2 h

/-! ### Orderly calls lose nothing -/

/-- A call whose entry is on the list or was there. -/
def Listed (stage : JobStage) : Prop :=
  stage = .listed ∨ stage = .selected ∨ stage = .started ∨ stage = .finished

/-- **The invariant of orderly calls**: for an entry that waits, its id is in the register, or a
running handler has read it; and once its job was executed, an interrupt is in flight or that
handler runs. -/
structure Inv (s : JobState) : Prop where
  entry : ∀ e ∈ s.jobList, ∃ c, s.calls[e.call]? = some c ∧ c.jobID = e.jobID ∧ Listed c.stage
  ids : (s.jobList.map JobEntry.jobID).Nodup
  reg : ∀ e ∈ s.jobList, s.Waiting e → s.regJobID = e.jobID ∨ s.handler = some e.jobID
  pending : ∀ e ∈ s.jobList, e.done = false → s.stageOf e = some .finished →
    0 < s.inFlight ∨ s.handler = some e.jobID

theorem Inv.call_ne (hI : s.Inv) (he : e ∈ s.jobList) (ht : s.calls[t]? = some c)
    (hstage : ¬ Listed c.stage) : t ≠ e.call := by
  rintro rfl
  obtain ⟨c', hc', _, hlisted⟩ := hI.entry e he
  obtain rfl := Option.some.inj (ht.symm.trans hc')
  exact hstage hlisted

theorem Inv.jobID_eq (hI : s.Inv) (he : e ∈ s.jobList) (hc : s.calls[e.call]? = some c) :
    c.jobID = e.jobID := by
  obtain ⟨c', hc', hid, _⟩ := hI.entry e he
  obtain rfl := Option.some.inj (hc.symm.trans hc')
  exact hid

theorem Inv.setCall_unlisted (hI : s.Inv) (ht : s.calls[t]? = some c) (hstage : ¬ Listed c.stage)
    (c' : SubmitCall) (stage : JobStage) : (s.setCall t c' stage).Inv := by
  have hsame : ∀ e ∈ s.jobList, (s.setCall t c' stage).calls[e.call]? = s.calls[e.call]? :=
    fun e he => by rw [calls_setCall ht, if_neg (hI.call_ne he ht hstage)]
  have hstageOf : ∀ e ∈ s.jobList, (s.setCall t c' stage).stageOf e = s.stageOf e :=
    fun e he => by rw [stageOf, hsame e he, stageOf]
  refine ⟨fun e he => ?_, hI.ids, fun e he hw => ?_, fun e he hd hf => ?_⟩
  · rw [hsame e he]
    exact hI.entry e he
  · rw [Waiting, hstageOf e he] at hw
    exact hI.reg e he hw
  · rw [hstageOf e he] at hf
    exact hI.pending e he hd hf

theorem Inv.entry_setCall (hI : s.Inv) (ht : s.calls[t]? = some c) (hstage : Listed stage) :
    ∀ e ∈ s.jobList, ∃ c', (s.setCall t c stage).calls[e.call]? = some c' ∧ c'.jobID = e.jobID ∧
      Listed c'.stage := by
  intro e he
  rw [calls_setCall ht]
  split
  · next heq =>
      subst heq
      have hid := hI.jobID_eq he ht
      exact ⟨_, rfl, hid, hstage⟩
  · exact hI.entry e he

theorem waiting_of_setCall (ht : s.calls[t]? = some c)
    (hold : c.stage = .selected ∨ c.stage = .started) (stage : JobStage)
    (hw : (s.setCall t c stage).Waiting e) : s.Waiting e := by
  refine ⟨hw.1, ?_⟩
  have hstage := hw.2
  rw [stageOf_setCall ht] at hstage
  split at hstage
  · next heq =>
      subst heq
      rw [stageOf, ht, Option.map_some]
      obtain h | h := hold
      · exact .inl (congrArg some h)
      · exact .inr (.inl (congrArg some h))
  · exact hstage

/-- A new call has no entry. -/
theorem Inv.submit (hI : s.Inv) : ({ s with calls := s.calls ++ [{}] } : JobState).Inv := by
  have hsame : ∀ e ∈ s.jobList, (s.calls ++ [({} : SubmitCall)])[e.call]? = s.calls[e.call]? := by
    intro e he
    obtain ⟨c, hc, _⟩ := hI.entry e he
    have hlt := (List.getElem?_eq_some_iff.1 hc).1
    rw [List.getElem?_append_left hlt]
  have hstageOf : ∀ e ∈ s.jobList,
      ({ s with calls := s.calls ++ [{}] } : JobState).stageOf e = s.stageOf e :=
    fun e he => congrArg (Option.map SubmitCall.stage) (hsame e he)
  refine ⟨fun e he => ?_, hI.ids, fun e he hw => ?_, fun e he hd hf => ?_⟩
  · obtain ⟨c, hc, hrest⟩ := hI.entry e he
    exact ⟨c, (hsame e he).trans hc, hrest⟩
  · rw [Waiting, hstageOf e he] at hw
    exact hI.reg e he hw
  · rw [hstageOf e he] at hf
    exact hI.pending e he hd hf

/-- A call puts its entry on the list, with an id that no entry has. -/
theorem Inv.listAdd (hI : s.Inv) (ht : s.calls[t]? = some c) (hstage : c.stage = .counted)
    (hnew : ∀ e ∈ s.jobList, e.jobID ≠ c.jobID) :
    ({ s.setCall t c .listed with
      jobList := s.jobList ++ [{ call := t, jobID := c.jobID }] } : JobState).Inv := by
  have hI' := hI.setCall_unlisted ht (by simp [Listed, hstage]) c .listed
  have hself : (s.setCall t c .listed).calls[t]? = some { c with stage := .listed } := by
    rw [calls_setCall ht, if_pos rfl]
  have hlisted : (s.setCall t c .listed).stageOf { call := t, jobID := c.jobID } = some .listed :=
    stageOf_eq_some_iff.2 ⟨_, hself, rfl⟩
  refine ⟨List.forall_mem_append.2 ⟨hI'.entry, ?_⟩, ?_,
    List.forall_mem_append.2 ⟨hI'.reg, ?_⟩, List.forall_mem_append.2 ⟨hI'.pending, ?_⟩⟩
  · rw [List.forall_mem_singleton]
    exact ⟨_, hself, rfl, .inl rfl⟩
  · rw [List.map_append, List.nodup_append]
    refine ⟨hI.ids, List.nodup_singleton _, ?_⟩
    rintro a ha b hb rfl
    obtain ⟨e, he, rfl⟩ := List.mem_map.1 ha
    exact hnew e he (List.mem_singleton.1 hb)
  · rw [List.forall_mem_singleton]
    intro hw
    obtain h | h | h := hw.2 <;> cases hlisted.symm.trans h
  · rw [List.forall_mem_singleton]
    intro _ hf
    cases hlisted.symm.trans hf

/-- A call writes its id to the register, where no other id is waited for. -/
theorem Inv.writeJobID (hI : s.Inv) (ht : s.calls[t]? = some c)
    (hreg : ∀ e ∈ s.jobList, s.Waiting e → e.jobID = c.jobID ∨ s.handler = some e.jobID) :
    ({ s.setCall t c .selected with regJobID := c.jobID } : JobState).Inv := by
  refine ⟨hI.entry_setCall ht (.inr (.inl rfl)), hI.ids, fun e he hw => ?_, fun e he hd hf => ?_⟩
  · by_cases heq : t = e.call
    · subst heq
      exact .inl (hI.jobID_eq he ht)
    · have hw' : s.Waiting e := by
        have hold := stageOf_setCall ht c .selected e
        rw [if_neg heq] at hold
        exact ⟨hw.1, hold ▸ hw.2⟩
      obtain hid | hrun := hreg e he hw'
      · exact .inl hid.symm
      · exact .inr hrun
  · have hf' : (s.setCall t c .selected).stageOf e = some .finished := hf
    rw [stageOf_setCall ht] at hf'
    split at hf'
    · cases hf'
    · exact hI.pending e he hd hf'

/-- The handler has marked the entry with the id it has read, so no other entry needs it. -/
theorem Inv.mark (hI : s.Inv) {jobID : UInt32} (hrun : s.handler = some jobID) :
    ({ s with jobList := markDone jobID s.jobList, handler := none } : JobState).Inv := by
  have hids : ((markDone jobID s.jobList).map JobEntry.jobID).Nodup := by
    rw [map_jobID_markDone]
    exact hI.ids
  -- an entry that is still not marked was there before, and has another id
  have hold : ∀ e ∈ markDone jobID s.jobList, e.done = false →
      e ∈ s.jobList ∧ s.handler ≠ some e.jobID := by
    intro e he hd
    obtain ⟨e', he', _, _, heq⟩ := mem_markDone he
    have hne := jobID_ne_of_mem_markDone hI.ids he hd
    obtain rfl := heq hd
    exact ⟨he', fun hrun' => hne (Option.some.inj (hrun'.symm.trans hrun))⟩
  refine ⟨fun e he => ?_, hids, fun e he hw => ?_, fun e he hd hf => ?_⟩
  · obtain ⟨e', he', hcall, hid, _⟩ := mem_markDone he
    rw [hcall, hid]
    exact hI.entry e' he'
  · obtain ⟨hmem, hne⟩ := hold e he hw.1
    exact .inl ((hI.reg e hmem hw).resolve_right hne)
  · obtain ⟨hmem, hne⟩ := hold e he hd
    exact .inl ((hI.pending e hmem hd hf).resolve_right hne)

/-- **An orderly step keeps the invariant.** -/
theorem Inv.step (hI : s.Inv) {a : JobAct} (horder : s.Orderly a) (h : s.step a = some s') :
    s'.Inv := by
  cases a with
  | submit =>
      cases h
      exact hI.submit
  | readNext t =>
      obtain ⟨c, hc, rfl⟩ := Option.map_eq_some_iff.1 h
      obtain ⟨ht, hstage⟩ := callAt_eq_some_iff.1 hc
      exact hI.setCall_unlisted ht (by simp [Listed, hstage]) _ _
  | storeNext t =>
      obtain ⟨c, hc, rfl⟩ := Option.map_eq_some_iff.1 h
      obtain ⟨ht, hstage⟩ := callAt_eq_some_iff.1 hc
      have hI' := hI.setCall_unlisted ht (by simp [Listed, hstage]) c .counted
      exact ⟨hI'.entry, hI'.ids, hI'.reg, hI'.pending⟩
  | listAdd t =>
      obtain ⟨c, hc, rfl⟩ := Option.map_eq_some_iff.1 h
      obtain ⟨ht, hstage⟩ := callAt_eq_some_iff.1 hc
      exact hI.listAdd ht hstage (horder c ht)
  | writeJobID t =>
      obtain ⟨c, hc, rfl⟩ := Option.map_eq_some_iff.1 h
      obtain ⟨ht, hstage⟩ := callAt_eq_some_iff.1 hc
      exact hI.writeJobID ht (horder c ht)
  | writeStart t =>
      obtain ⟨c, hc, rfl⟩ := Option.map_eq_some_iff.1 h
      obtain ⟨ht, hstage⟩ := callAt_eq_some_iff.1 hc
      refine ⟨hI.entry_setCall ht (.inr (.inr (.inl rfl))), hI.ids,
        fun e he hw => hI.reg e he (waiting_of_setCall ht (.inl hstage) _ hw), fun e he hd hf => ?_⟩
      rw [stageOf_setCall ht] at hf
      split at hf
      · cases hf
      · exact hI.pending e he hd hf
  | execute t =>
      obtain ⟨c, hc, rfl⟩ := Option.map_eq_some_iff.1 h
      obtain ⟨ht, hstage⟩ := callAt_eq_some_iff.1 hc
      exact ⟨hI.entry_setCall ht (.inr (.inr (.inr rfl))), hI.ids,
        fun e he hw => hI.reg e he (waiting_of_setCall ht (.inr hstage) .finished hw),
        fun _ _ _ _ => .inl (Nat.succ_pos _)⟩
  | deliver =>
      simp only [JobState.step] at h
      split at h
      · next hguard =>
          cases h
          -- the handler reads the id for which an entry waits
          have hread : ∀ e ∈ s.jobList, s.Waiting e → some s.regJobID = some e.jobID := by
            intro e he hw
            obtain hreg | hrun := hI.reg e he hw
            · exact congrArg some hreg
            · cases hguard.2.symm.trans hrun
          exact ⟨hI.entry, hI.ids, fun e he hw => .inr (hread e he hw),
            fun e he hd hf => .inr (hread e he ⟨hd, .inr (.inr hf)⟩)⟩
      · cases h
  | mark =>
      obtain ⟨jobID, hrun, rfl⟩ := Option.map_eq_some_iff.1 h
      exact hI.mark hrun
  | wait jobID =>
      simp only [JobState.step] at h
      split at h
      · cases h
        have hmem : ∀ e ∈ s.jobList.eraseP fun e => e.jobID = jobID, e ∈ s.jobList :=
          fun e he => List.mem_of_mem_eraseP he
        refine ⟨fun e he => hI.entry e (hmem e he), ?_, fun e he hw => hI.reg e (hmem e he) hw,
          fun e he hd hf => hI.pending e (hmem e he) hd hf⟩
        exact hI.ids.sublist (List.Sublist.map _ List.eraseP_sublist)
      · cases h

/-! ### What is not orderly can lose a completion -/

/-- An earlier entry has the id of this one. -/
def Behind (s : JobState) (e : JobEntry) : Prop :=
  ∃ l₁ l₂, s.jobList = l₁ ++ e :: l₂ ∧ ∃ e' ∈ l₁, e'.jobID = e.jobID

/-- No handler will mark the entry any more: an earlier entry has its id, or another id is in the
register. -/
def Doomed (s : JobState) (e : JobEntry) : Prop :=
  s.Behind e ∨ e ∈ s.jobList ∧ s.regJobID ≠ e.jobID ∧ s.handler ≠ some e.jobID

theorem Doomed.mem (h : s.Doomed e) : e ∈ s.jobList := by
  obtain ⟨l₁, l₂, hlist, _⟩ | ⟨he, _⟩ := h
  · rw [hlist]
    exact List.mem_append_right _ List.mem_cons_self
  · exact he

/-- Marking an earlier entry or one with another id. -/
theorem markDone_append (jobID : UInt32) {l₁ : List JobEntry} (l₂ : List JobEntry)
    (h : (∃ e' ∈ l₁, e'.jobID = e.jobID) ∨ jobID ≠ e.jobID) : ∃ l₁' l₂',
      markDone jobID (l₁ ++ e :: l₂) = l₁' ++ e :: l₂' ∧
        l₁'.map JobEntry.jobID = l₁.map JobEntry.jobID := by
  induction l₁ with
  | nil =>
      obtain ⟨e', he', _⟩ | h := h
      · cases he'
      · refine ⟨[], markDone jobID l₂, ?_, rfl⟩
        rw [List.nil_append, markDone, if_neg (Ne.symm h)]
        rfl
  | cons a l₁ ih =>
      rw [List.cons_append, markDone]
      split
      · exact ⟨_ :: l₁, l₂, rfl, rfl⟩
      · next ha =>
          have h' : (∃ e' ∈ l₁, e'.jobID = e.jobID) ∨ jobID ≠ e.jobID := by
            obtain ⟨e', he', hid⟩ | h := h
            · obtain rfl | he' := List.mem_cons.1 he'
              · exact .inr fun heq => ha (hid.trans heq.symm)
              · exact .inl ⟨e', he', hid⟩
            · exact .inr h
          obtain ⟨l₁', l₂', heq, hids⟩ := ih h'
          exact ⟨a :: l₁', l₂', by rw [heq, List.cons_append],
            by rw [List.map_cons, hids, List.map_cons]⟩

theorem Behind.mark (h : s.Behind e) (jobID : UInt32) :
    ({ s with jobList := markDone jobID s.jobList, handler := none } : JobState).Behind e := by
  obtain ⟨l₁, l₂, hlist, e', he', hid⟩ := h
  obtain ⟨l₁', l₂', hmark, hids⟩ := markDone_append jobID l₂ (.inl ⟨e', he', hid⟩)
  have hmem : e.jobID ∈ l₁'.map JobEntry.jobID := by
    rw [hids, ← hid]
    exact List.mem_map_of_mem he'
  obtain ⟨e'', he'', hid''⟩ := List.mem_map.1 hmem
  refine ⟨l₁', l₂', ?_, e'', he'', hid''⟩
  change markDone jobID s.jobList = _
  rw [hlist, hmark]

theorem Doomed.mark (h : s.Doomed e) {jobID : UInt32} (hrun : s.handler = some jobID) :
    ({ s with jobList := markDone jobID s.jobList, handler := none } : JobState).Doomed e := by
  obtain h | ⟨he, hreg, hne⟩ := h
  · exact .inl (h.mark jobID)
  · obtain ⟨l₁, l₂, hlist⟩ := List.append_of_mem he
    obtain ⟨l₁', l₂', hmark, _⟩ : ∃ l₁' l₂', markDone jobID (l₁ ++ e :: l₂) = l₁' ++ e :: l₂' ∧
        l₁'.map JobEntry.jobID = l₁.map JobEntry.jobID :=
      markDone_append jobID l₂ (.inr fun heq => hne (heq ▸ hrun))
    refine .inr ⟨?_, hreg, fun h => by cases h⟩
    change e ∈ markDone jobID s.jobList
    rw [hlist, hmark]
    exact List.mem_append_right _ List.mem_cons_self

theorem Doomed.deliver (h : s.Doomed e) :
    ({ s with inFlight := s.inFlight - 1, handler := some s.regJobID } : JobState).Doomed e := by
  obtain h | ⟨he, hreg, _⟩ := h
  · exact .inl h
  · exact .inr ⟨he, hreg, fun h => hreg (Option.some.inj h)⟩

/-- **All interrupts can be handled**, and what the handlers keep holds afterwards.  The induction
is on the interrupts in flight, with the running handler out of the way. -/
theorem exists_idle {P : JobState → Prop}
    (hdeliver : ∀ s : JobState, P s →
      P { s with inFlight := s.inFlight - 1, handler := some s.regJobID })
    (hmark : ∀ (s : JobState) (jobID : UInt32), P s → s.handler = some jobID →
      P { s with jobList := markDone jobID s.jobList, handler := none }) (h : P s) :
    ∃ t, Machine.ReachableBy step Orderly s t ∧ t.inFlight = 0 ∧ t.handler = none ∧
      t.calls = s.calls ∧ P t := by
  have hidle : ∀ (n : ℕ) (s : JobState), s.inFlight = n → s.handler = none → P s →
      ∃ t, Machine.ReachableBy step Orderly s t ∧ t.inFlight = 0 ∧ t.handler = none ∧
        t.calls = s.calls ∧ P t := by
    intro n
    induction n with
    | zero =>
        intro s hn hrun h
        exact ⟨s, .refl s, hn, hrun, rfl, h⟩
    | succ n ih =>
        intro s hn hrun h
        obtain ⟨t, ht, hrest⟩ := ih _ (by change s.inFlight - 1 = n; omega) rfl
          (hmark _ s.regJobID (hdeliver s h) rfl)
        have hstep : s.step .deliver =
            some { s with inFlight := s.inFlight - 1, handler := some s.regJobID } := by
          rw [step, if_pos ⟨by omega, hrun⟩]
        exact ⟨t, .head hstep trivial (.head (a := .mark) rfl trivial ht), hrest⟩
  cases hrun : s.handler with
  | none => exact hidle _ s rfl hrun h
  | some jobID =>
      obtain ⟨t, ht, hrest⟩ := hidle _ _ rfl rfl (hmark s jobID h hrun)
      have hstep : s.step .mark =
          some { s with jobList := markDone jobID s.jobList, handler := none } := by
        rw [step, hrun]
        rfl
      exact ⟨t, .head hstep trivial ht, hrest⟩

/-- The stage of a job that the device was told about, when it was executed. -/
def executed : JobStage → JobStage
  | .selected | .started => .finished
  | stage => stage

/-- One job can be executed. -/
theorem exists_executed_call (h : s.calls[t]? = some c) :
    ∃ n, Machine.ReachableBy step Orderly s { s with
      calls := s.calls.set t { c with stage := executed c.stage }, inFlight := n } := by
  have hsame : s.calls.set t c = s.calls := by
    obtain ⟨ht, rfl⟩ := List.getElem?_eq_some_iff.1 h
    exact List.set_getElem_self ht
  cases hstage : c.stage with
  | selected =>
      have hstart : s.step (.writeStart t) = some (s.setCall t c .started) := by
        rw [step, callAt_eq_some_iff.2 ⟨h, hstage⟩, Option.map_some]
      have hexec : (s.setCall t c .started).step (.execute t) = some { s with
          calls := s.calls.set t { c with stage := .finished }, inFlight := s.inFlight + 1 } := by
        have hc : (s.setCall t c .started).calls[t]? = some { c with stage := .started } := by
          rw [calls_setCall h, if_pos rfl]
        rw [step, callAt_eq_some_iff.2 ⟨hc, rfl⟩, Option.map_some]
        simp only [setCall, List.set_set]
      exact ⟨_, .head hstart trivial (.single hexec trivial)⟩
  | started =>
      have hexec : s.step (.execute t) = some { s with
          calls := s.calls.set t { c with stage := .finished }, inFlight := s.inFlight + 1 } := by
        rw [step, callAt_eq_some_iff.2 ⟨h, hstage⟩, Option.map_some]
        rfl
      exact ⟨_, .single hexec trivial⟩
  | begun | read | counted | listed | finished =>
      refine ⟨s.inFlight, ?_⟩
      rw [executed, ← hstage, hsame]
      · exact .refl s
      all_goals exact fun h => by cases h

/-- **All jobs that the device was told about can be executed.** -/
theorem exists_executed (s : JobState) :
    ∃ n, Machine.ReachableBy step Orderly s { s with
      calls := s.calls.map fun c => { c with stage := executed c.stage }, inFlight := n } := by
  -- one call after the other, those before it being through
  have hfrom : ∀ (l₂ l₁ : List SubmitCall) (s : JobState), s.calls = l₁ ++ l₂ →
      ∃ n, Machine.ReachableBy step Orderly s { s with
        calls := l₁ ++ l₂.map fun c => { c with stage := executed c.stage }, inFlight := n } := by
    intro l₂
    induction l₂ with
    | nil =>
        intro l₁ s h
        refine ⟨s.inFlight, ?_⟩
        rw [List.map_nil, ← h]
        exact .refl s
    | cons c l₂ ih =>
        intro l₁ s h
        have hc : s.calls[l₁.length]? = some c := by
          rw [h, List.getElem?_append_right (Nat.le_refl _), Nat.sub_self]
          rfl
        obtain ⟨n, hn⟩ := exists_executed_call hc
        have hset : s.calls.set l₁.length { c with stage := executed c.stage } =
            (l₁ ++ [{ c with stage := executed c.stage }]) ++ l₂ := by
          rw [h, List.set_append_right _ _ (Nat.le_refl _), Nat.sub_self, List.append_assoc]
          rfl
        obtain ⟨m, hm⟩ := ih _ { s with
          calls := s.calls.set l₁.length { c with stage := executed c.stage }, inFlight := n } hset
        refine ⟨m, hn.trans ?_⟩
        rw [List.append_assoc] at hm
        exact hm
  exact hfrom s.calls [] s rfl

theorem Doomed.exists_lost (h : s.Doomed e) (hw : s.Waiting e) :
    ∃ t, Machine.ReachableBy step Orderly s t ∧ t.Lost := by
  obtain ⟨n, hn⟩ := exists_executed s
  obtain ⟨t, ht, hzero, hnone, hcalls, hdoomed⟩ := exists_idle (P := fun u => u.Doomed e)
    (fun _ h => h.deliver) (fun _ _ h hrun => h.mark hrun) (s := { s with
      calls := s.calls.map fun c => { c with stage := executed c.stage }, inFlight := n }) h
  refine ⟨t, hn.trans ht, hzero, hnone, e, hdoomed.mem, ?_, hw.1⟩
  have hstage : t.stageOf e = (s.stageOf e).map executed := by
    simp [stageOf, hcalls, Function.comp_def]
  obtain h | h | h := hw.2 <;> rw [hstage, h] <;> rfl

/-- An entry behind another one with its id loses its completion: the handler marks the other one.
All other jobs are executed and their interrupts handled first, so that its id can be written
orderly. -/
theorem Behind.exists_lost (h : s.Behind e) (hd : e.done = false) (hc : s.calls[e.call]? = some c)
    (hstage : c.stage = .listed) : ∃ t, Machine.ReachableBy step Orderly s t ∧ t.Lost := by
  obtain ⟨n, hn⟩ := exists_executed s
  obtain ⟨u, hu, hzero, hnone, hcalls, hbehind⟩ := exists_idle (P := fun u => u.Behind e)
    (fun _ h => h) (fun _ jobID h _ => h.mark jobID) (s := { s with
      calls := s.calls.map fun c => { c with stage := executed c.stage }, inFlight := n }) h
  by_cases hlost : u.Lost
  · exact ⟨u, hn.trans hu, hlost⟩
  -- nothing waits: what was started is finished, and no completion is lost
  have hquiet : ∀ e' ∈ u.jobList, ¬ u.Waiting e' := by
    rintro e' he' ⟨hd', hwait⟩
    have hfin : ∀ stage, executed stage ≠ .selected ∧ executed stage ≠ .started := by
      intro stage
      cases stage <;> decide
    have hmap : u.stageOf e' = (s.stageOf e').map executed := by
      simp [stageOf, hcalls, Function.comp_def]
    rw [hmap] at hwait
    obtain h | h | h := hwait
    · obtain ⟨stage, _, hsel⟩ := Option.map_eq_some_iff.1 h
      exact (hfin stage).1 hsel
    · obtain ⟨stage, _, hsta⟩ := Option.map_eq_some_iff.1 h
      exact (hfin stage).2 hsta
    · exact hlost ⟨hzero, hnone, e', he', hmap.trans h, hd'⟩
  have hcu : u.calls[e.call]? = some c := by
    rw [hcalls, List.getElem?_map, hc, Option.map_some, hstage]
    obtain ⟨jobID, stage⟩ := c
    cases hstage
    rfl
  have hwrite : u.step (.writeJobID e.call) =
      some { u.setCall e.call c .selected with regJobID := c.jobID } := by
    rw [step, callAt_eq_some_iff.2 ⟨hcu, hstage⟩, Option.map_some]
  have hselected : (u.setCall e.call c .selected).stageOf e = some .selected :=
    (stageOf_setCall hcu _ _ _).trans (if_pos rfl)
  have hdoomed : Doomed { u.setCall e.call c .selected with regJobID := c.jobID } e := .inl hbehind
  obtain ⟨t, ht, hlost⟩ := hdoomed.exists_lost ⟨hd, .inl hselected⟩
  have horderly : u.Orderly (.writeJobID e.call) :=
    fun _ _ e' he' hw => absurd hw (hquiet e' he')
  exact ⟨t, (hn.trans hu).trans (.head hwrite horderly ht), hlost⟩

/-- **A step that is not orderly can lose a completion.** -/
theorem exists_lost_of_not_orderly {a : JobAct} (h : s.step a = some s') (horder : ¬ s.Orderly a) :
    ∃ t, Machine.ReachableBy step Orderly s' t ∧ t.Lost := by
  cases a with
  | listAdd t =>
      obtain ⟨c, hc, rfl⟩ := Option.map_eq_some_iff.1 h
      obtain ⟨ht, hstage⟩ := callAt_eq_some_iff.1 hc
      simp only [Orderly, not_forall, not_not] at horder
      obtain ⟨c', hc', e, he, hid⟩ := horder
      obtain rfl := Option.some.inj (ht.symm.trans hc')
      have hself : (s.setCall t c .listed).calls[t]? = some { c with stage := .listed } := by
        rw [calls_setCall ht, if_pos rfl]
      have hbehind : Behind { s.setCall t c .listed with
          jobList := s.jobList ++ [{ call := t, jobID := c.jobID }] }
          { call := t, jobID := c.jobID } := ⟨s.jobList, [], rfl, e, he, hid⟩
      exact hbehind.exists_lost rfl hself rfl
  | writeJobID t =>
      obtain ⟨c, hc, rfl⟩ := Option.map_eq_some_iff.1 h
      obtain ⟨ht, hstage⟩ := callAt_eq_some_iff.1 hc
      simp only [Orderly, not_forall, not_or] at horder
      obtain ⟨c', hc', e, he, hw, hid, hrun⟩ := horder
      obtain rfl := Option.some.inj (ht.symm.trans hc')
      have hne : t ≠ e.call := by
        rintro rfl
        have hlisted : s.stageOf e = some .listed := stageOf_eq_some_iff.2 ⟨c, ht, hstage⟩
        obtain h | h | h := hw.2 <;> cases hlisted.symm.trans h
      have hw' : (s.setCall t c .selected).Waiting e := by
        rw [Waiting, stageOf_setCall ht, if_neg hne]
        exact hw
      have hdoomed : Doomed { s.setCall t c .selected with regJobID := c.jobID } e :=
        .inr ⟨he, Ne.symm hid, hrun⟩
      exact hdoomed.exists_lost hw'
  | submit => exact absurd trivial horder
  | readNext t => exact absurd trivial horder
  | storeNext t => exact absurd trivial horder
  | writeStart t => exact absurd trivial horder
  | execute t => exact absurd trivial horder
  | deliver => exact absurd trivial horder
  | mark => exact absurd trivial horder
  | wait jobID => exact absurd trivial horder

end JobState

/-- **No completion is lost as long as the calls are orderly, and a step that is not can lose one**,
whatever the register of the device holds at first. -/
theorem completions_exact (reg : UInt32) :
    Machine.ExactFor JobState.step { regJobID := reg } JobState.Orderly JobState.Lost := by
  refine ⟨fun hobeys hrun hlost => ?_, fun _ _ hstep horder =>
    JobState.exists_lost_of_not_orderly hstep horder⟩
  have hinit : JobState.Inv { regJobID := reg } :=
    ⟨fun _ he => absurd he List.not_mem_nil, List.nodup_nil, fun _ he => absurd he List.not_mem_nil,
      fun _ he => absurd he List.not_mem_nil⟩
  have hI := Machine.run_invariant (fun s a s' hI horder hstep => JobState.Inv.step hI horder hstep)
    hinit hobeys hrun
  obtain ⟨hzero, hnone, e, he, hf, hd⟩ := hlost
  obtain hpos | hsome := hI.pending e he hd hf
  · omega
  · cases hnone.symm.trans hsome

/-- The second `SUBMIT` writes its id before the handler of the first interrupt runs. -/
theorem completion_lost : ∃ s,
    Machine.run JobState.step {}
      [.submit, .readNext 0, .storeNext 0, .listAdd 0, .writeJobID 0, .writeStart 0, .execute 0,
        .submit, .readNext 1, .storeNext 1, .listAdd 1, .writeJobID 1, .writeStart 1, .execute 1,
        .deliver, .mark, .deliver, .mark] = some s ∧
    s.Lost ∧ s.jobList = [{ call := 0, jobID := 1 }, { call := 1, jobID := 2, done := true }] := by
  refine ⟨_, rfl, ?_⟩
  decide

end Gpu

end Dvf
