/-
**The CI run of the impact analyzer** (`scripts/ci_impact_analyzer.py`, `main`).

The analyzer goes through its plan in order.  A test is skipped if a dependency of it, on the same
device, has failed or was skipped; else it is submitted and its status is polled until it is final.
A run that was cancelled counts as skipped, and the script exits with 1 if a test has failed.

What happens to a test could depend on where it stands.  It does not, as long as dependencies stand
before what depends on them: what is submitted, skipped and failed, and the exit status, are the
same for every such order of the same tests.

What the orchestrator answers is given for each test; a plan has every test once.  The loop that
polls ends with the first final status, and does not end if there is none.

Main definitions:

* `Dvf.Reply`, `Dvf.runTest` — the answers for one test, and what becomes of it;
* `Dvf.runPlan`, `Dvf.CIState.exitStatus` — the loop over the plan, and the exit status;
* `Dvf.DepsFirst` — an order with dependencies first.

Main results:

* `Dvf.Settled.of_runPlan` — what a run settles for each test;
* `Dvf.runPlan_perm` — **the order of the plan does not matter**;
* `Dvf.runPlan_submitted_iff` — **what is submitted, and when the script fails**.
-/

import Dvf.ImpactAnalyzer
import Dvf.Machine

set_option autoImplicit false

namespace Dvf

/-! ### One test -/

def finalStatuses : List String :=
  ["TEST_RUN_STATUS_PASSED", "TEST_RUN_STATUS_FAILED", "TEST_RUN_STATUS_ERRORED",
    "TEST_RUN_STATUS_CANCELLED", "TEST_RUN_STATUS_TIMEOUT"]

/-- What the orchestrator answers for a test: the id of the run, and the statuses that are polled.
An answer without a status is `none`, and one that cannot be read is `"UNKNOWN"`. -/
structure Reply where
  runID : Option String
  statuses : List (Option String)

/-- The loop that polls, up to the first final status. -/
def pollStatus : List (Option String) → Option String
  | [] => none
  | some status :: rest => if status ∈ finalStatuses then some status else pollStatus rest
  | none :: rest => pollStatus rest

inductive CIVerdict
  | passed
  | failed
  | skipped
  deriving DecidableEq, Repr

def statusVerdict (status : String) : CIVerdict :=
  if status = "TEST_RUN_STATUS_CANCELLED" then .skipped
  else if status ≠ "TEST_RUN_STATUS_PASSED" then .failed
  else .passed

/-- A test that is submitted; there is no verdict while the status is not final. -/
def runTest (reply : Reply) : Option CIVerdict :=
  match reply.runID with
  | none => some .failed
  | some runID =>
      if runID = "" then some .failed else (pollStatus reply.statuses).map statusVerdict

/-! ### The plan -/

/-- `failed_tests` and `skipped_tests`, and what was submitted. -/
structure CIState where
  failed : List PlannedTest := []
  skipped : List PlannedTest := []
  submitted : List PlannedTest := []
  deriving DecidableEq

/-- What is said of one test. -/
structure Mark where
  failed : Bool := false
  skipped : Bool := false
  submitted : Bool := false

def CIState.look (st : CIState) (node : PlannedTest) : Mark :=
  ⟨st.failed.contains node, st.skipped.contains node, st.submitted.contains node⟩

def addIf (b : Bool) (node : PlannedTest) (l : List PlannedTest) : List PlannedTest :=
  if b = true then node :: l else l

def CIState.add (st : CIState) (node : PlannedTest) (m : Mark) : CIState :=
  ⟨addIf m.failed node st.failed, addIf m.skipped node st.skipped,
    addIf m.submitted node st.submitted⟩

/-- The dependencies that are looked at before a test is submitted: all that its sidecar lists. -/
def Sidecars.guards (sidecars : Sidecars) (node : PlannedTest) : List PlannedTest :=
  ((sidecars node.test).elim [] Sidecar.dependencies).map (PlannedTest.mk node.dev)

/-- `has_failed_dep`. -/
def CIState.blocks (st : CIState) (sidecars : Sidecars) (node : PlannedTest) : Bool :=
  (sidecars.guards node).any fun dep => st.failed.contains dep || st.skipped.contains dep

/-- What becomes of a test. -/
def testMark (replies : PlannedTest → Reply) (node : PlannedTest) (hasFailedDep : Bool) :
    Option Mark :=
  if hasFailedDep = true then some { skipped := true }
  else (runTest (replies node)).map fun v => ⟨v = .failed, v = .skipped, true⟩

/-- One round of the loop over the plan. -/
def runNode (sidecars : Sidecars) (replies : PlannedTest → Reply) (st : CIState)
    (node : PlannedTest) : Option CIState :=
  (testMark replies node (st.blocks sidecars node)).map (st.add node)

/-- **The loop over the plan.** -/
def runPlan (sidecars : Sidecars) (replies : PlannedTest → Reply) (plan : List PlannedTest) :
    Option CIState := Machine.run (runNode sidecars replies) {} plan

def CIState.exitStatus (st : CIState) : ℕ := if st.failed = [] then 0 else 1

/-- **An order with dependencies first**: no test depends on itself or on one that comes later. -/
structure DepsFirst (sidecars : Sidecars) (plan : List PlannedTest) : Prop where
  irrefl : ∀ p ∈ plan, p ∉ sidecars.guards p
  pairwise : plan.Pairwise fun p q => q ∉ sidecars.guards p

variable {sidecars : Sidecars} {replies : PlannedTest → Reply} {st st' : CIState}
  {plan plan' done : List PlannedTest} {node n : PlannedTest} {m : Mark}

/-! ### What a run settles -/

theorem mem_addIf {b : Bool} {l : List PlannedTest} :
    n ∈ addIf b node l ↔ b = true ∧ n = node ∨ n ∈ l := by
  cases b <;> simp [addIf]

theorem look_add (h : st.look node = {}) (n : PlannedTest) :
    (st.add node m).look n = if n = node then m else st.look n := by
  simp only [CIState.look, Mark.mk.injEq, List.contains_eq_mem, decide_eq_false_iff_not] at h
  split
  · next heq =>
      subst heq
      simp [CIState.look, CIState.add, mem_addIf, h]
  · next hne => simp [CIState.look, CIState.add, mem_addIf, hne]

theorem blocks_congr (h : ∀ dep ∈ sidecars.guards node, st'.look dep = st.look dep) :
    st'.blocks sidecars node = st.blocks sidecars node := by
  rw [Bool.eq_iff_iff, CIState.blocks, CIState.blocks, List.any_eq_true, List.any_eq_true]
  refine exists_congr fun dep => and_congr_right fun hdep => iff_of_eq ?_
  exact congrArg (fun m : Mark => (m.failed || m.skipped) = true) (h dep hdep)

/-- **A run over the tests of `l`** has marked them, according to whether a dependency has failed or
was skipped in the end. -/
structure Settled (sidecars : Sidecars) (replies : PlannedTest → Reply) (l : List PlannedTest)
    (st : CIState) : Prop where
  outside : ∀ n ∉ l, st.look n = {}
  inside : ∀ n ∈ l, testMark replies n (st.blocks sidecars n) = some (st.look n)

/-- What is settled stays so: nothing that was done depends on a later test. -/
theorem Settled.step (h : Settled sidecars replies done st) (hnd : (done ++ [node]).Nodup)
    (hfirst : DepsFirst sidecars (done ++ [node]))
    (hstep : runNode sidecars replies st node = some st') :
    Settled sidecars replies (done ++ [node]) st' := by
  have hnode : node ∉ done := fun hn => List.disjoint_of_nodup_append hnd hn List.mem_cons_self
  obtain ⟨m, hm, rfl⟩ := Option.map_eq_some_iff.1 hstep
  have hlook := look_add (m := m) (h.outside node hnode)
  have hblocks : ∀ n, node ∉ sidecars.guards n →
      (st.add node m).blocks sidecars n = st.blocks sidecars n := fun n hn =>
    blocks_congr fun dep hdep => (hlook dep).trans (if_neg fun heq : dep = node => hn (heq ▸ hdep))
  refine ⟨fun n hn => ?_, List.forall_mem_append.2
    ⟨fun n hn => ?_, List.forall_mem_singleton.2 ?_⟩⟩
  · simp only [List.mem_append, List.mem_singleton, not_or] at hn
    rw [hlook, if_neg hn.2, h.outside n hn.1]
  · have hlater := (List.pairwise_append.1 hfirst.pairwise).2.2 n hn node List.mem_cons_self
    rw [hblocks n hlater, hlook, if_neg fun heq : n = node => hnode (heq ▸ hn)]
    exact h.inside n hn
  · rw [hblocks node (hfirst.irrefl node (List.mem_append_right _ List.mem_cons_self)), hlook,
      if_pos rfl]
    exact hm

theorem Settled.of_runPlan (hrun : runPlan sidecars replies plan = some st) (hnd : plan.Nodup)
    (hfirst : DepsFirst sidecars plan) : Settled sidecars replies plan st := by
  have hstep : ∀ done st node st', ((done.Nodup → DepsFirst sidecars done →
      Settled sidecars replies done st) → runNode sidecars replies st node = some st' →
      (done ++ [node]).Nodup → DepsFirst sidecars (done ++ [node]) →
      Settled sidecars replies (done ++ [node]) st') := by
    intro done st node st' ih hstep hnd hfirst
    refine (ih (List.Nodup.of_append_left hnd) ⟨fun p hp => ?_, ?_⟩).step hnd hfirst hstep
    · exact hfirst.irrefl p (List.mem_append_left _ hp)
    · exact (List.pairwise_append.1 hfirst.pairwise).1
  have hnil : Settled sidecars replies [] {} := ⟨fun _ _ => rfl, by simp⟩
  have hall : ([] ++ plan).Nodup → DepsFirst sidecars ([] ++ plan) →
      Settled sidecars replies ([] ++ plan) st :=
    Machine.run_history hstep (fun _ _ => hnil) hrun
  exact hall hnd hfirst

/-! ### The order of the plan -/

theorem exitStatus_le_one (st : CIState) : st.exitStatus ≤ 1 := by
  rw [CIState.exitStatus]
  split <;> decide

theorem exitStatus_eq_one_iff : st.exitStatus = 1 ↔ ∃ n, (st.look n).failed = true := by
  simp only [CIState.exitStatus, CIState.look, List.contains_iff_mem]
  cases st.failed <;> simp

/-- **The order of the plan does not matter**: if a run over a plan comes to an end, then so does
one over the same tests in another order with dependencies first, and they agree on what is
submitted, skipped and failed, and on the exit status. -/
theorem runPlan_perm (hperm : plan.Perm plan') (hnd : plan.Nodup) (hfirst : DepsFirst sidecars plan)
    (hfirst' : DepsFirst sidecars plan') (hrun : runPlan sidecars replies plan = some st) :
    ∃ st', runPlan sidecars replies plan' = some st' ∧ (∀ n, st'.look n = st.look n) ∧
      st'.exitStatus = st.exitStatus := by
  have h := Settled.of_runPlan hrun hnd hfirst
  -- the runs agree on each part of the other plan
  have hpart : ∀ l₁ l₂, plan' = l₁ ++ l₂ → ∃ st', runPlan sidecars replies l₁ = some st' ∧
      ∀ n, st'.look n = if n ∈ l₁ then st.look n else {} := by
    intro l₁
    induction l₁ using List.reverseRecOn with
    | nil => exact fun _ _ => ⟨{}, rfl, fun _ => rfl⟩
    | append_singleton l₁ node ih =>
        intro l₂ heq
        rw [List.append_assoc] at heq
        obtain ⟨st', hrun', hlook'⟩ := ih _ heq
        have hnot : node ∉ l₁ := fun h =>
          List.disjoint_of_nodup_append (heq ▸ hperm.nodup_iff.1 hnd) h List.mem_cons_self
        have hblocks : st'.blocks sidecars node = st.blocks sidecars node := by
          refine blocks_congr fun dep hdep => ?_
          rw [hlook']
          split
          · rfl
          · next hl =>
              -- a dependency that was not run is not in the plan
              refine (h.outside dep fun hp => ?_).symm
              have hp' := hperm.mem_iff.1 hp
              rw [heq] at hp' hfirst'
              rcases List.mem_cons.1 ((List.mem_append.1 hp').resolve_left hl) with rfl | hl₂
              · exact hfirst'.irrefl _ (by simp) hdep
              · have hcons := (List.pairwise_append.1 hfirst'.pairwise).2.1
                exact List.rel_of_pairwise_cons hcons hl₂ hdep
        have hmark := h.inside node (hperm.mem_iff.2 (by simp [heq]))
        rw [← hblocks] at hmark
        refine ⟨st'.add node (st.look node), Machine.run_append_eq_some hrun'
          (Machine.run_cons_eq_some.2 ⟨_, Option.map_eq_some_iff.2 ⟨_, hmark, rfl⟩, rfl⟩),
          fun n => ?_⟩
        rw [look_add ((hlook' node).trans (if_neg hnot)), hlook']
        by_cases hn : n = node
        · simp [hn]
        · simp [hn]
  obtain ⟨st', hrun', hlook'⟩ := hpart plan' [] (List.append_nil _).symm
  have hall : ∀ n, st'.look n = st.look n := fun n => by
    rw [hlook', ite_eq_left_iff]
    exact fun hn => (h.outside n (mt hperm.mem_iff.1 hn)).symm
  have hexit : st'.exitStatus = 1 ↔ st.exitStatus = 1 := by simp only [exitStatus_eq_one_iff, hall]
  have hle := exitStatus_le_one st
  have hle' := exitStatus_le_one st'
  exact ⟨st', hrun', hall, by omega⟩

def registersOn (dev : String) : PlannedTest := ⟨dev, "read_write/test_register_rw"⟩

def patternsOn (dev : String) : PlannedTest := ⟨dev, "data_integrity/test_patterns"⟩

/-- The registers fail on the GPU. -/
def chainReplies (node : PlannedTest) : Reply :=
  if node = registersOn "gpgpu" then
    ⟨some "run-1", [some "TEST_RUN_STATUS_RUNNING", some "TEST_RUN_STATUS_FAILED"]⟩
  else ⟨some "run-2", [none, some "TEST_RUN_STATUS_PASSED"]⟩

theorem runPlan_perm_chain :
    ∃ st, runPlan chainSidecars chainReplies
      [registersOn "fpga", registersOn "gpgpu", patternsOn "gpgpu"] = some st ∧
        st.exitStatus = 1 := by
  have hrun : runPlan chainSidecars chainReplies
      [registersOn "gpgpu", patternsOn "gpgpu", registersOn "fpga"] =
        some ⟨[registersOn "gpgpu"], [patternsOn "gpgpu"],
          [registersOn "fpga", registersOn "gpgpu"]⟩ := by
    decide +kernel
  have hperm : [registersOn "gpgpu", patternsOn "gpgpu", registersOn "fpga"].Perm
      [registersOn "fpga", registersOn "gpgpu", patternsOn "gpgpu"] := by decide +kernel
  obtain ⟨st, hst, -, hexit⟩ := runPlan_perm hperm (by decide +kernel)
    ⟨by decide +kernel, by decide +kernel⟩ ⟨by decide +kernel, by decide +kernel⟩ hrun
  exact ⟨st, hst, hexit⟩

/-! ### What is submitted -/

/-- A test needs its dependencies and what they need. -/
def Sidecars.Needs (sidecars : Sidecars) : PlannedTest → PlannedTest → Prop :=
  Relation.TransGen fun n dep => dep ∈ sidecars.nodes n

theorem mem_nodes {dep : PlannedTest} :
    dep ∈ sidecars.nodes n ↔ dep ∈ sidecars.guards n ∧ nonBlank dep.test = true := by
  simp only [Sidecars.nodes, Sidecars.guards, Sidecars.dependencies, List.mem_map]
  cases sidecars n.test <;> grind

theorem ValidPlan.depsFirst {affected : List PlannedTest} (h : ValidPlan affected sidecars plan)
    (hblank : ∀ n ∈ plan, nonBlank n.test = true) : DepsFirst sidecars plan := by
  have hlt : ∀ p ∈ plan, ∀ q ∈ plan, q ∈ sidecars.guards p → plan.idxOf q < plan.idxOf p :=
    fun p hp q hq hqp => (h.dependencies p hp q (mem_nodes.2 ⟨hqp, hblank q hq⟩)).2
  refine ⟨fun p hp hpp => lt_irrefl _ (hlt p hp p hp hpp), List.pairwise_iff_getElem.2 ?_⟩
  intro i j hi hj hij hmem
  have hji := hlt _ (List.getElem_mem hi) _ (List.getElem_mem hj) hmem
  rw [h.nodup.idxOf_getElem, h.nodup.idxOf_getElem] at hji
  omega

theorem testMark_iff {b : Bool} (h : testMark replies node b = some m) :
    (m.submitted = true ↔ b = false) ∧
      (m.failed = true ↔ b = false ∧ runTest (replies node) = some .failed) ∧
      ((m.failed || m.skipped) = false ↔ b = false ∧ runTest (replies node) = some .passed) := by
  cases b with
  | true =>
      cases h
      simp
  | false =>
      obtain ⟨v, hv, rfl⟩ := Option.map_eq_some_iff.1 h
      cases v <;> simp [hv]

theorem Settled.blocks_eq_false_iff {affected : List PlannedTest}
    (h : Settled sidecars replies plan st) (hvalid : ValidPlan affected sidecars plan)
    (hblank : ∀ n ∈ plan, nonBlank n.test = true) (hn : n ∈ plan) :
    st.blocks sidecars n = false ↔ ∀ dep ∈ sidecars.nodes n,
      st.blocks sidecars dep = false ∧ runTest (replies dep) = some .passed := by
  have hdep : ∀ dep ∈ plan, (st.failed.contains dep || st.skipped.contains dep) = false ↔
      st.blocks sidecars dep = false ∧ runTest (replies dep) = some .passed :=
    fun dep hmem => (testMark_iff (h.inside dep hmem)).2.2
  rw [CIState.blocks, List.any_eq_false]
  simp only [Bool.not_eq_true]
  refine ⟨fun hall dep hmem => ?_, fun hall dep hmem => ?_⟩
  · exact (hdep dep (hvalid.dependencies n hn dep hmem).1).1 (hall dep (mem_nodes.1 hmem).1)
  · by_cases hplan : dep ∈ plan
    · exact (hdep dep hplan).2 (hall dep (mem_nodes.2 ⟨hmem, hblank dep hplan⟩))
    · exact congrArg (fun m : Mark => m.failed || m.skipped) (h.outside dep hplan)

/-- **What is submitted, and when the script fails**, if it comes to an end: in a valid plan a test
is submitted if and only if all that it needs passes, and the script exits with 1 if and only if
such a test fails. -/
theorem runPlan_submitted_iff {affected : List PlannedTest}
    (hvalid : ValidPlan affected sidecars plan) (hblank : ∀ n ∈ plan, nonBlank n.test = true)
    (hrun : runPlan sidecars replies plan = some st) :
    (∀ n ∈ plan, n ∈ st.submitted ↔
      ∀ m, sidecars.Needs n m → runTest (replies m) = some .passed) ∧
    (st.exitStatus = 1 ↔ ∃ n ∈ plan, runTest (replies n) = some .failed ∧
      ∀ m, sidecars.Needs n m → runTest (replies m) = some .passed) := by
  have h := Settled.of_runPlan hrun hvalid.nodup (hvalid.depsFirst hblank)
  have hfree : ∀ n ∈ plan, st.blocks sidecars n = false ↔
      ∀ m, sidecars.Needs n m → runTest (replies m) = some .passed := by
    intro n
    -- by induction on the place in the plan
    induction hk : plan.idxOf n using Nat.strong_induction_on generalizing n with
    | _ k ih =>
        intro hn
        have hdep : ∀ dep ∈ sidecars.nodes n, st.blocks sidecars dep = false ↔
            ∀ m, sidecars.Needs dep m → runTest (replies m) = some .passed := fun dep hdep => by
          obtain ⟨hmem, hlt⟩ := hvalid.dependencies n hn dep hdep
          exact ih _ (hk ▸ hlt) dep rfl hmem
        rw [h.blocks_eq_false_iff hvalid hblank hn]
        refine ⟨fun hall m hm => ?_, fun hall dep hd => ?_⟩
        · obtain ⟨dep, hd, hm⟩ := Relation.TransGen.head'_iff.1 hm
          obtain ⟨hs, hpass⟩ := hall dep hd
          rcases Relation.reflTransGen_iff_eq_or_transGen.1 hm with rfl | hm
          · exact hpass
          · exact (hdep dep hd).1 hs m hm
        · exact ⟨(hdep dep hd).2 fun m hm => hall m (.head hd hm), hall dep (.single hd)⟩
  refine ⟨fun n hn => ?_, exitStatus_eq_one_iff.trans ⟨?_, ?_⟩⟩
  · rw [← hfree n hn, ← (testMark_iff (h.inside n hn)).1, CIState.look, List.contains_iff_mem]
  · rintro ⟨n, hfail⟩
    have hmem : n ∈ plan := by
      by_contra hn
      rw [h.outside n hn] at hfail
      cases hfail
    obtain ⟨hb, hreply⟩ := (testMark_iff (h.inside n hmem)).2.1.1 hfail
    exact ⟨n, hmem, hreply, (hfree n hmem).1 hb⟩
  · rintro ⟨n, hn, hreply, hneeds⟩
    exact ⟨n, (testMark_iff (h.inside n hn)).2.1.2 ⟨(hfree n hn).2 hneeds, hreply⟩⟩

theorem runPlan_submitted_chain :
    ∃ st, runPlan chainSidecars chainReplies [registersOn "gpgpu", patternsOn "gpgpu"] = some st ∧
      (patternsOn "gpgpu" ∈ st.submitted ↔ ∀ m, chainSidecars.Needs (patternsOn "gpgpu") m →
        runTest (chainReplies m) = some .passed) := by
  have hvalid : ValidPlan [patternsOn "gpgpu"] chainSidecars
      [registersOn "gpgpu", patternsOn "gpgpu"] :=
    ⟨by decide +kernel, by decide +kernel, by decide +kernel⟩
  have hrun : runPlan chainSidecars chainReplies [registersOn "gpgpu", patternsOn "gpgpu"] =
      some ⟨[registersOn "gpgpu"], [patternsOn "gpgpu"], [registersOn "gpgpu"]⟩ := by
    decide +kernel
  exact ⟨_, hrun, (runPlan_submitted_iff hvalid (by decide +kernel) hrun).1 _ (by simp)⟩

end Dvf
