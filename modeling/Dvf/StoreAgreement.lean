/-
**The two stores side by side** (`internal/storage/memory.go`, `internal/storage/postgres.go`).

Test runs are created in both stores and get the same status writes at the same times; the runs
correspond by the order of their creation.  The stores make different things of a call:

* the database refuses values that its columns do not take, such as a message with a zero byte, and
  the in-memory store takes them all;
* the in-memory store keeps an old message when it is given an empty one, the database drops it;
* the in-memory store keeps the times and the duration that a run is created with, the database
  starts without them;
* the database keeps what its column types can hold of the instants;
* the in-memory store truncates durations and measures only runs that were started, the database
  rounds and otherwise measures from the creation of the run.

Each of them is a condition on the call and on the record that it meets (`Dvf.StorePair.Kept`), and
a call against one of the conditions makes the stores disagree about its run at once.

Main definitions:

* `Dvf.StorePair`, `Dvf.StoreAct`, `Dvf.StorePair.step` — calls to both stores;
* `Dvf.TestRun.SameLifecycle`, `Dvf.StorePair.Agree` — two records agree, and the stores do;
* `Dvf.TestRun.WriteKept`, `Dvf.StorePair.Kept` — the condition on a call.

Main results:

* `Dvf.Matches.update_iff` — a status write, on one run;
* `Dvf.StorePair.Paired.step`, `Dvf.StorePair.Paired.not_agree` — a call that meets the condition,
  and one that does not;
* `Dvf.stores_agree_iff` — **the stores agree after every call if and only if every call meets the
  condition**.
-/

import Dvf.Machine
import Dvf.Postgres

set_option autoImplicit false

namespace Dvf

/-- A status write. -/
structure StatusWrite where
  time : ℤ
  status : TestRunStatus
  errMsg : String
  deriving DecidableEq, Repr

/-- The statuses with which a store notes that a run is over. -/
def TestRunStatus.completes : TestRunStatus → Bool
  | passed | failed | errored | cancelled | timeout => true
  | pending | queued | running => false

/-! ### One run -/

namespace Store

variable {now : ℤ} {st : TestRunStatus} {errMsg : String} {run : TestRun}

theorem withStatus_eq : withStatus now st errMsg run =
    { run with
      status := st
      errorMessage := if errMsg = "" then run.errorMessage else errMsg
      startedAt := if st = .running then some now else run.startedAt
      completedAt := if st.completes = true then some now else run.completedAt
      durationMs :=
        if st.completes = true then
          (run.startedAt.map fun t => (now - t).tdiv 1000000).getD run.durationMs
        else run.durationMs } := by
  unfold withStatus
  by_cases h : errMsg = ""
  · cases st <;> cases run.startedAt <;> simp [h, TestRunStatus.completes]
  · cases st <;> cases run.startedAt <;> simp [h, TestRunStatus.completes]

end Store

namespace PgTestRun

variable {ty : PgTypes} {now : ℤ} {st : TestRunStatus} {errMsg : String} {row : PgTestRun}

theorem withStatus_eq : withStatus ty now st errMsg row =
    { row with
      status := st
      errorMessage := nullif errMsg ""
      startedAt := if st = .running then some (ty.timestamptz now) else row.startedAt
      completedAt := if st.completes = true then some (ty.timestamptz now) else row.completedAt
      durationMs :=
        if st.completes = true then
          ty.millis (ty.timestamptz now - row.startedAt.getD row.createdAt)
        else row.durationMs } := by
  cases st <;> rfl

end PgTestRun

/-- **Two records agree** about the lifecycle of a run. -/
structure TestRun.SameLifecycle (r r' : TestRun) : Prop where
  status : r.status = r'.status
  errorMessage : r.errorMessage = r'.errorMessage
  startedAt : r.startedAt = r'.startedAt
  completedAt : r.completedAt = r'.completedAt
  durationMs : r.durationMs = r'.durationMs

theorem getD_nullif (m : String) : (nullif m "").getD "" = m := by
  unfold nullif
  split
  · next h => exact h.symm
  · rfl

/-- **The condition on a status write** to a run with this record: the database takes the message;
an empty one finds no old one; the database can hold the time that is noted; and the duration up to
an end is the same truncated and as the database converts it, where the in-memory store does not
measure a run that was not started and the database measures it from its creation. -/
structure TestRun.WriteKept (ty : PgColumns) (r : TestRun) (now : ℤ) (st : TestRunStatus)
    (errMsg : String) : Prop where
  text : (nullif errMsg "").all ty.text = true
  message : errMsg = "" → r.errorMessage = ""
  time : st = .running ∨ st.completes = true → ty.timestamptz now = now
  duration : st.completes = true → match r.startedAt with
    | some t₀ => (now - t₀).tdiv 1000000 = ty.millis (ty.timestamptz now - t₀)
    | none => r.durationMs = ty.millis (ty.timestamptz now - ty.timestamptz r.createdAt)

/-- A record and a row that agree, with the same time of creation and a message that the column can
hold. -/
structure Matches (ty : PgColumns) (r : TestRun) (row : PgTestRun) : Prop where
  same : r.SameLifecycle row.toTestRun
  created : row.createdAt = ty.timestamptz r.createdAt
  text : row.errorMessage.all ty.text = true

variable {ty : PgColumns} {r : TestRun} {row : PgTestRun} {now : ℤ} {st : TestRunStatus}
  {errMsg : String}

/-- A message that the column does not take is in the in-memory store, and not in the database. -/
theorem Matches.rejected (h : Matches ty r row) (hmsg : ¬ (nullif errMsg "").all ty.text = true) :
    ¬ (Store.withStatus now st errMsg r).SameLifecycle row.toTestRun := by
  intro hsame
  have hne : errMsg ≠ "" := by
    rintro rfl
    exact hmsg rfl
  have heq : errMsg = row.errorMessage.getD "" := by
    have hmessage := hsame.errorMessage
    rw [Store.withStatus_eq] at hmessage
    dsimp only at hmessage
    rwa [if_neg hne] at hmessage
  have htext := h.text
  cases hrow : row.errorMessage with
  | none =>
      rw [hrow] at heq
      exact hne heq
  | some m =>
      rw [hrow] at heq htext
      rw [nullif, if_neg hne, heq] at hmsg
      exact hmsg htext

/-- **A status write that both stores take** leaves them in agreement just when it meets the
condition. -/
theorem Matches.update_iff (h : Matches ty r row) (hmsg : (nullif errMsg "").all ty.text = true) :
    (Store.withStatus now st errMsg r).SameLifecycle
        (row.withStatus ty.toPgTypes now st errMsg).toTestRun ↔ r.WriteKept ty now st errMsg := by
  have hstarted : r.startedAt = row.startedAt := h.same.startedAt
  have hcompleted : r.completedAt = row.completedAt := h.same.completedAt
  have hduration : r.durationMs = row.durationMs := h.same.durationMs
  rw [Store.withStatus_eq, PgTestRun.withStatus_eq]
  constructor
  · rintro ⟨-, hmessage, hstart, hend, hdur⟩
    simp only [PgTestRun.toTestRun, getD_nullif] at hmessage hstart hend hdur
    refine ⟨hmsg, fun hempty => ?_, ?_, fun hst => ?_⟩
    · rwa [if_pos hempty, hempty] at hmessage
    · rintro (hst | hst)
      · rw [if_pos hst, if_pos hst] at hstart
        exact (Option.some.inj hstart).symm
      · rw [if_pos hst, if_pos hst] at hend
        exact (Option.some.inj hend).symm
    · rw [if_pos hst, if_pos hst, ← hstarted, h.created] at hdur
      cases hs : r.startedAt with
      | some t₀ =>
          rw [hs] at hdur
          exact hdur
      | none =>
          rw [hs] at hdur
          exact hdur
  · rintro ⟨-, hmessage, htime, hdur⟩
    refine ⟨rfl, ?_, ?_, ?_, ?_⟩ <;> simp only [PgTestRun.toTestRun, getD_nullif]
    · split
      · next hempty => rw [hmessage hempty, hempty]
      · rfl
    · split
      · next hst => rw [htime (.inl hst)]
      · exact hstarted
    · split
      · next hst => rw [htime (.inr hst)]
      · exact hcompleted
    · split
      · next hst =>
          have hdur := hdur hst
          rw [← hstarted, h.created]
          cases hs : r.startedAt with
          | some t₀ =>
              rw [hs] at hdur
              exact hdur
          | none =>
              rw [hs] at hdur
              exact hdur
      · exact hduration

theorem Matches.update (h : Matches ty r row) (hkept : r.WriteKept ty now st errMsg) :
    Matches ty (Store.withStatus now st errMsg r) (row.withStatus ty.toPgTypes now st errMsg) := by
  refine ⟨(h.update_iff hkept.text).2 hkept, ?_, ?_⟩
  · rw [Store.withStatus_eq, PgTestRun.withStatus_eq]
    exact h.created
  · rw [PgTestRun.withStatus_eq]
    exact hkept.text

/-- The condition on a new run: the database takes its values, and no times and no duration are
given. -/
structure TestRun.NewKept (ty : PgColumns) (now : ℤ) (run : TestRun) : Prop where
  accepted : (PgTestRun.insert ty.toPgTypes "" now run).accepted ty = true
  startedAt : run.startedAt = none
  completedAt : run.completedAt = none
  durationMs : run.durationMs = 0

/-! ### Both stores -/

/-- Both stores, and the ids of the runs in them in the order of their creation. -/
structure StorePair (ty : PgColumns) where
  mem : Store
  pg : PgStore ty
  runs : List (String × String)

/-- A call that is made to both stores: a run is created, and gets an id in each, or the status of
the `k`-th run is written. -/
inductive StoreAct
  | create (memID pgID : String) (now : ℤ) (run : TestRun)
  | update (k : ℕ) (now : ℤ) (status : TestRunStatus) (errMsg : String)

namespace StorePair

/-- **One call**, to both stores.  The ids that they hand out are new, and that of the database is a
text of its column; a call that fails leaves its store as it is. -/
def step (s : StorePair ty) : StoreAct → Option (StorePair ty)
  | .create memID pgID now run =>
      if memID ∈ s.mem.testRuns ∨ pgID ∈ s.pg.testRuns ∨ ty.text pgID = false then none
      else some {
        mem := (s.mem.createTestRun memID now run).2
        pg := ((s.pg.createTestRun pgID now run).toOption.map Prod.snd).getD s.pg
        runs := s.runs ++ [(memID, pgID)] }
  | .update k now status errMsg =>
      match s.runs[k]? with
      | some (memID, pgID) => some {
          mem := (s.mem.updateTestRunStatus now memID status errMsg).toOption.getD s.mem
          pg := (s.pg.updateTestRunStatus now pgID status errMsg).toOption.getD s.pg
          runs := s.runs }
      | none => some s

/-- Two new stores. -/
def start (ty : PgColumns) : StorePair ty where
  mem := newMemoryStore
  pg := newPostgresStore ty
  runs := []

/-- **The stores agree** about every run: both have it, with the same lifecycle. -/
def Agree (s : StorePair ty) : Prop :=
  ∀ p ∈ s.runs, ∃ r r', s.mem.getTestRun p.1 = .ok r ∧ s.pg.getTestRun p.2 = .ok r' ∧
    r.SameLifecycle r'

/-- **The condition on a call.** -/
def Kept (s : StorePair ty) : StoreAct → Prop
  | .create _ _ now run => run.NewKept ty now
  | .update k now status errMsg => ∀ p ∈ s.runs[k]?, ∀ r ∈ s.mem.testRuns.lookup p.1,
      r.WriteKept ty now status errMsg

/-- Every run is in both stores, with matching records, and no two runs share an id. -/
structure Paired (s : StorePair ty) : Prop where
  run : ∀ p ∈ s.runs, ∃ r row, s.mem.testRuns.lookup p.1 = some r ∧
    s.pg.testRuns.lookup p.2 = some row ∧ Matches ty r row
  memIDs : (s.runs.map Prod.fst).Nodup
  pgIDs : (s.runs.map Prod.snd).Nodup

variable {s s' : StorePair ty}

theorem Paired.start : (start ty).Paired where
  run _ h := by cases h
  memIDs := .nil
  pgIDs := .nil

theorem Paired.agree (h : s.Paired) : s.Agree := by
  intro p hp
  obtain ⟨r, row, hr, hrow, hmatch⟩ := h.run p hp
  refine ⟨r, row.toTestRun, ?_, PgStore.getTestRun_eq_ok_iff.2 ⟨row, hrow, rfl⟩, hmatch.same⟩
  rw [Store.getTestRun, hr]

/-- A new run in both stores, or only in the one that takes it. -/
theorem create_cases {memID pgID : String} {now : ℤ} {run : TestRun}
    (h : s.step (.create memID pgID now run) = some s') :
    memID ∉ s.mem.testRuns ∧ pgID ∉ s.pg.testRuns ∧ s'.runs = s.runs ++ [(memID, pgID)] ∧
      s'.mem.testRuns = s.mem.testRuns.insert memID { run with id := memID, createdAt := now } ∧
      ((PgTestRun.insert ty.toPgTypes pgID now run).accepted ty = true ∧
          s'.pg.testRuns = s.pg.testRuns.insert pgID (.insert ty.toPgTypes pgID now run) ∨
        ¬ (PgTestRun.insert ty.toPgTypes pgID now run).accepted ty = true ∧ s'.pg = s.pg) := by
  rw [step] at h
  split at h
  · cases h
  · next hnew =>
      cases h
      simp only [not_or, Bool.not_eq_false] at hnew
      refine ⟨hnew.1, hnew.2.1, rfl, rfl, ?_⟩
      by_cases hacc : (PgTestRun.insert ty.toPgTypes pgID now run).accepted ty = true
      · refine .inl ⟨hacc, ?_⟩
        simp only [PgStore.createTestRun, dif_pos (And.intro hnew.2.2 hacc)]
        rfl
      · refine .inr ⟨hacc, ?_⟩
        simp only [PgStore.createTestRun, dif_neg fun h : _ ∧ _ => hacc h.2]
        rfl

theorem sameLifecycle_insert_iff (memID pgID : String) (now : ℤ) (run : TestRun) :
    TestRun.SameLifecycle { run with id := memID, createdAt := now }
        (PgTestRun.insert ty.toPgTypes pgID now run).toTestRun ↔
      run.startedAt = none ∧ run.completedAt = none ∧ run.durationMs = 0 :=
  ⟨fun h => ⟨h.startedAt, h.completedAt, h.durationMs⟩,
    fun h => ⟨rfl, (getD_nullif run.errorMessage).symm, h.1, h.2.1, h.2.2⟩⟩

theorem Paired.create (hs : s.Paired) {memID pgID : String} {now : ℤ} {run : TestRun}
    (h : s.step (.create memID pgID now run) = some s') (hkept : run.NewKept ty now) :
    s'.Paired := by
  obtain ⟨hmem, hpg, hruns, hmemRuns, ⟨hacc, hpgRuns⟩ | ⟨hacc, -⟩⟩ := create_cases h
  · -- the ids of the old runs are in the stores, so that they are none of the new ones
    have hold : ∀ p ∈ s.runs, p.1 ≠ memID ∧ p.2 ≠ pgID := by
      intro p hp
      obtain ⟨r, row, hr, hrow, -⟩ := hs.run p hp
      refine ⟨fun heq => hmem ?_, fun heq => hpg ?_⟩
      · rw [← heq, ← AList.lookup_isSome, hr]
        rfl
      · rw [← heq, ← AList.lookup_isSome, hrow]
        rfl
    refine ⟨?_, ?_, ?_⟩
    · rw [hruns, hmemRuns, hpgRuns, List.forall_mem_append, List.forall_mem_singleton]
      refine ⟨fun p hp => ?_, _, _, AList.lookup_insert _, AList.lookup_insert _, ?_⟩
      · obtain ⟨r, row, hr, hrow, hmatch⟩ := hs.run p hp
        refine ⟨r, row, ?_, ?_, hmatch⟩
        · rw [AList.lookup_insert_ne (hold p hp).1, hr]
        · rw [AList.lookup_insert_ne (hold p hp).2, hrow]
      · refine ⟨(sameLifecycle_insert_iff memID pgID now run).2
          ⟨hkept.startedAt, hkept.completedAt, hkept.durationMs⟩, rfl, ?_⟩
        rw [PgTestRun.accepted, Bool.and_eq_true] at hacc
        exact hacc.2
    · rw [hruns, List.map_append]
      refine List.nodup_append.2 ⟨hs.memIDs, List.nodup_singleton _, ?_⟩
      rintro a ha b hb rfl
      obtain ⟨p, hp, rfl⟩ := List.mem_map.1 ha
      exact (hold p hp).1 (List.mem_singleton.1 hb)
    · rw [hruns, List.map_append]
      refine List.nodup_append.2 ⟨hs.pgIDs, List.nodup_singleton _, ?_⟩
      rintro a ha b hb rfl
      obtain ⟨p, hp, rfl⟩ := List.mem_map.1 ha
      exact (hold p hp).2 (List.mem_singleton.1 hb)
  · exact absurd hkept.accepted hacc

/-- A status write to a run, in both stores or only in the one that takes its message. -/
theorem Paired.update_cases (hs : s.Paired) {k : ℕ} {now : ℤ} {st : TestRunStatus}
    {errMsg : String} {p : String × String} (hp : s.runs[k]? = some p)
    (h : s.step (.update k now st errMsg) = some s') :
    ∃ r row, s.mem.testRuns.lookup p.1 = some r ∧ s.pg.testRuns.lookup p.2 = some row ∧
      Matches ty r row ∧ s'.runs = s.runs ∧
      s'.mem.testRuns = s.mem.testRuns.insert p.1 (Store.withStatus now st errMsg r) ∧
      ((nullif errMsg "").all ty.text = true ∧ s'.pg.testRuns =
          s.pg.testRuns.insert p.2 (row.withStatus ty.toPgTypes now st errMsg) ∨
        ¬ (nullif errMsg "").all ty.text = true ∧ s'.pg = s.pg) := by
  obtain ⟨r, row, hr, hrow, hmatch⟩ := hs.run p (List.mem_of_getElem? hp)
  rw [step, hp] at h
  cases h
  obtain ⟨mem, hupd, hruns⟩ := Store.exists_update_of_lookup hr now st errMsg
  refine ⟨r, row, hr, hrow, hmatch, rfl, ?_, ?_⟩
  · rw [hupd]
    exact hruns
  · by_cases hmsg : (nullif errMsg "").all ty.text = true
    · obtain ⟨pg, hupd', hrows⟩ := PgStore.exists_update hrow now st hmsg
      refine .inl ⟨hmsg, ?_⟩
      rw [hupd']
      exact hrows
    · refine .inr ⟨hmsg, ?_⟩
      rw [PgStore.update_rejected _ _ _ _ hmsg]
      rfl

theorem Paired.update (hs : s.Paired) {k : ℕ} {now : ℤ} {st : TestRunStatus} {errMsg : String}
    (h : s.step (.update k now st errMsg) = some s') (hkept : s.Kept (.update k now st errMsg)) :
    s'.Paired := by
  cases hp : s.runs[k]? with
  | none =>
      rw [step, hp] at h
      cases h
      exact hs
  | some p =>
      obtain ⟨r, row, hr, hrow, hmatch, hruns, hmem, ⟨hmsg, hpg⟩ | ⟨hmsg, -⟩⟩ :=
        hs.update_cases hp h
      · refine ⟨fun q hq => ?_, hruns ▸ hs.memIDs, hruns ▸ hs.pgIDs⟩
        rw [hruns] at hq
        rw [hmem, hpg]
        by_cases heq : q = p
        · rw [heq]
          exact ⟨_, _, AList.lookup_insert _, AList.lookup_insert _,
            hmatch.update (hkept p hp r hr)⟩
        · -- another run has other ids
          have hpr := List.mem_of_getElem? hp
          have hne : q.1 ≠ p.1 := fun h => heq (List.inj_on_of_nodup_map hs.memIDs hq hpr h)
          have hne' : q.2 ≠ p.2 := fun h => heq (List.inj_on_of_nodup_map hs.pgIDs hq hpr h)
          rw [AList.lookup_insert_ne hne, AList.lookup_insert_ne hne']
          exact hs.run q hq
      · exact absurd (hkept p hp r hr).text hmsg

/-- **A call that meets the condition** keeps the records together. -/
theorem Paired.step (hs : s.Paired) {a : StoreAct} (hkept : s.Kept a)
    (h : s.step a = some s') : s'.Paired := by
  cases a with
  | create memID pgID now run => exact hs.create h hkept
  | update k now status errMsg => exact hs.update h hkept

/-- **A call that does not meet the condition** makes the stores disagree about its run. -/
theorem Paired.not_agree (hs : s.Paired) {a : StoreAct} (hkept : ¬ s.Kept a)
    (h : s.step a = some s') : ¬ s'.Agree := by
  intro hagree
  cases a with
  | create memID pgID now run =>
      obtain ⟨-, hpg, hruns, hmemRuns, hcase⟩ := create_cases h
      obtain ⟨r, r', hr, hr', hsame⟩ := hagree (memID, pgID) (by rw [hruns]; simp)
      rw [Store.getTestRun, hmemRuns, AList.lookup_insert] at hr
      cases hr
      obtain ⟨row, hrow, rfl⟩ := PgStore.getTestRun_eq_ok_iff.1 hr'
      obtain ⟨hacc, hpgRuns⟩ | ⟨-, heq⟩ := hcase
      · rw [hpgRuns, AList.lookup_insert] at hrow
        cases hrow
        obtain ⟨hstart, hend, hdur⟩ := (sameLifecycle_insert_iff memID pgID now run).1 hsame
        exact hkept ⟨hacc, hstart, hend, hdur⟩
      · rw [heq] at hrow
        exact hpg (AList.lookup_isSome.1 (by rw [hrow]; rfl))
  | update k now st errMsg =>
      simp only [Kept, not_forall] at hkept
      obtain ⟨p, hp, r₀, hr₀, hnot⟩ := hkept
      obtain ⟨r₁, row, hr₁, hrow, hmatch, hruns, hmem, hcase⟩ := hs.update_cases hp h
      cases hr₁.symm.trans hr₀
      obtain ⟨r, r', hr, hr', hsame⟩ := hagree p (by rw [hruns]; exact List.mem_of_getElem? hp)
      rw [Store.getTestRun, hmem, AList.lookup_insert] at hr
      cases hr
      obtain ⟨row', hrow', rfl⟩ := PgStore.getTestRun_eq_ok_iff.1 hr'
      obtain ⟨hmsg, hpg⟩ | ⟨hmsg, heq⟩ := hcase
      · rw [hpg, AList.lookup_insert] at hrow'
        cases hrow'
        exact hnot ((hmatch.update_iff hmsg).1 hsame)
      · rw [heq] at hrow'
        cases hrow.symm.trans hrow'
        exact hmatch.rejected hmsg hsame

end StorePair

/-- **The stores agree after every call if and only if every call meets the condition**, whatever
the columns can hold. -/
theorem stores_agree_iff {ty : PgColumns} {as : List StoreAct} {s : StorePair ty}
    (hs : Machine.run StorePair.step (StorePair.start ty) as = some s) :
    (∀ bs t, bs <+: as → Machine.run StorePair.step (StorePair.start ty) bs = some t → t.Agree) ↔
      Machine.Obeys StorePair.step StorePair.Kept (StorePair.start ty) as :=
  Machine.forall_reached_iff_obeys (fun _ h => StorePair.Paired.agree h)
    (fun _ _ _ hs hkept h => hs.step hkept h) (fun _ _ _ hs h hkept => hs.not_agree hkept h)
    StorePair.Paired.start hs

/-- A run that is started and passes after two milliseconds. -/
def passedRun : List StoreAct :=
  [.create "tr-1" "9f2c" 0
      { id := "", deviceID := "dev", testSuiteID := "suite", status := .pending },
    .update 0 1000000 .running "", .update 0 3000000 .passed ""]

/-- Such a run is the same in both stores after every call. -/
theorem stores_agree_iff_passed : ∃ s,
    Machine.run StorePair.step (StorePair.start postgres16Columns) passedRun = some s ∧
      s.runs = [("tr-1", "9f2c")] ∧ s.Agree := by
  have hrun : (Machine.run StorePair.step (StorePair.start postgres16Columns) passedRun).map
      StorePair.runs = some [("tr-1", "9f2c")] := by decide
  obtain ⟨s, hs, hruns⟩ := Option.map_eq_some_iff.1 hrun
  refine ⟨s, hs, hruns, (stores_agree_iff hs).2 ?_ passedRun s List.prefix_rfl hs⟩
  refine ⟨⟨by decide, rfl, rfl, rfl⟩, fun s₁ h₁ => ⟨?_, fun s₂ h₂ => ⟨?_, fun _ _ => trivial⟩⟩⟩
  · cases h₁
    rintro p ⟨⟩ r ⟨⟩
    refine ⟨rfl, fun _ => rfl, fun _ => ?_, fun h => by cases h⟩
    exact (timestamptz_eq_self_iff _).2 (by decide)
  · cases h₁
    cases h₂
    rintro p ⟨⟩ r ⟨⟩
    refine ⟨rfl, fun _ => rfl, fun _ => ?_, fun _ => ?_⟩
    · exact (timestamptz_eq_self_iff _).2 (by decide)
    · exact ((millis_eq_tdiv_iff (by decide)).2 (by decide)).symm

/-- A run is deferred, started, and passes after 1.6 milliseconds.  The in-memory store has kept the
message of the deferral and truncates the duration, the database has dropped the message and rounds
the duration. -/
theorem stores_disagree_after_deferral : ∃ s r r',
    Machine.run StorePair.step (StorePair.start postgres16Columns)
        [.create "tr-1" "9f2c" 0
            { id := "", deviceID := "dev", testSuiteID := "suite", status := .pending },
          .update 0 1000000 .pending "waiting for resources", .update 0 2000000 .running "",
          .update 0 3600000 .passed ""] = some s ∧
      s.mem.getTestRun "tr-1" = .ok r ∧ s.pg.getTestRun "9f2c" = .ok r' ∧
      (r.errorMessage = "waiting for resources" ∧ r'.errorMessage = "") ∧
      (r.durationMs = 1 ∧ r'.durationMs = 2) := by
  refine ⟨_, _, _, rfl, rfl, rfl, ?_, ?_⟩
  · decide
  · decide

end Dvf
