/-
**`NewWorkflow` accepts exactly the well-formed graphs.**

The constructor makes four passes over the step list: it indexes the steps, validates the
dependency references, counts in-degrees and collects dependents, and runs Kahn's algorithm.  Each
pass gets one specification here; the last one is an instance of `Kahn.loop_spec`, applied to the
maps the third pass builds, whatever the orders of the map loops.

Main definitions:

* `Dvf.DependsOn` — the dependency relation of a step list;
* `Dvf.WellFormed` — a non-empty list of steps with distinct non-empty ids, known dependencies and
  no cycle;
* `Dvf.Fresh` — what is known of a workflow that the constructor returned.

Main results:

* `Dvf.indexSteps_ok`, `Dvf.exists_indexSteps` — the index pass;
* `Dvf.validateDeps_eq_ok_iff` — the validation pass;
* `Dvf.DepGraph.build_inDegree`, `Dvf.DepGraph.count_build_adj` — the in-degrees count dependencies,
  and dependents are listed once per edge;
* `Dvf.newWorkflow_fresh` — a returned workflow is fresh;
* `Dvf.newWorkflow_accepts_iff` — **the constructor accepts exactly the well-formed lists**, and
  then the order is a topological permutation of the step ids.
-/

import Dvf.Workflow

set_option autoImplicit false

namespace Dvf

open Go

/-! ### Well-formed step lists -/

/-- The step `b` of the list depends directly on `a`. -/
def DependsOn (defs : List WorkflowStep) (a b : String) : Prop :=
  ∃ d ∈ defs, d.id = b ∧ a ∈ d.dependsOn

/-- A step list that describes a graph the engine can execute. -/
structure WellFormed (defs : List WorkflowStep) : Prop where
  nonempty : defs ≠ []
  ids_ne : ∀ d ∈ defs, d.id ≠ ""
  distinct : (defs.map WorkflowStep.id).Nodup
  closed : ∀ d ∈ defs, ∀ dep ∈ d.dependsOn, dep ∈ defs.map WorkflowStep.id
  acyclic : ∀ a, ¬ Relation.TransGen (DependsOn defs) a a

theorem WellFormed.eq_of_id_eq {defs : List WorkflowStep} (h : WellFormed defs)
    {d d' : WorkflowStep} (hd : d ∈ defs) (hd' : d' ∈ defs) (hid : d.id = d'.id) : d = d' :=
  List.inj_on_of_nodup_map h.distinct hd hd' hid

theorem WellFormed.mem_ids_of_transGen {defs : List WorkflowStep} (h : WellFormed defs)
    {a b : String} (hab : Relation.TransGen (DependsOn defs) a b) :
    a ∈ defs.map WorkflowStep.id := by
  obtain ⟨c, ⟨d, hd, _, ha⟩, _⟩ := Relation.TransGen.head'_iff.1 hab
  exact h.closed d hd a ha

/-- The step list indexed by id, every step pending. -/
structure Indexed (defs : List WorkflowStep) (steps : GoMap String Step) : Prop where
  keys_perm : steps.keys.Perm (defs.map WorkflowStep.id)
  lookup_eq : ∀ d ∈ defs, steps.lookup d.id = some ⟨d, .pending, 0⟩

theorem Indexed.mem_keys {defs : List WorkflowStep} {steps : GoMap String Step}
    (h : Indexed defs steps) {k : String} : k ∈ steps.keys ↔ k ∈ defs.map WorkflowStep.id :=
  h.keys_perm.mem_iff

theorem Indexed.depsOf_eq {defs : List WorkflowStep} {steps : GoMap String Step}
    (h : Indexed defs steps) {d : WorkflowStep} (hd : d ∈ defs) :
    depsOf steps d.id = d.dependsOn := by
  simp [depsOf, h.lookup_eq d hd]

theorem depsOf_of_notMem {steps : GoMap String Step} {k : String} (h : k ∉ steps.keys) :
    depsOf steps k = [] := by
  have hk : steps.lookup k = none := AList.lookup_eq_none.2 h
  simp [depsOf, hk]

theorem Indexed.mem_depsOf_iff {defs : List WorkflowStep} {steps : GoMap String Step}
    (h : Indexed defs steps) {a b : String} : a ∈ depsOf steps b ↔ DependsOn defs a b := by
  constructor
  · intro ha
    have hb : b ∈ steps.keys := by
      by_contra hb
      rw [depsOf_of_notMem hb] at ha
      exact List.not_mem_nil ha
    obtain ⟨d, hd, rfl⟩ := List.mem_map.1 (h.mem_keys.1 hb)
    exact ⟨d, hd, rfl, by rwa [h.depsOf_eq hd] at ha⟩
  · rintro ⟨d, hd, rfl, ha⟩
    rwa [h.depsOf_eq hd]

theorem Indexed.below_iff {defs : List WorkflowStep} {steps : GoMap String Step}
    (h : Indexed defs steps) {a b : String} :
    Dag.Below (depsOf steps) a b ↔ Relation.TransGen (DependsOn defs) a b := by
  have : Dag.Dep (depsOf steps) = DependsOn defs := by
    funext a b
    exact propext h.mem_depsOf_iff
  rw [Dag.Below, this]

/-! ### The index pass -/

/-- What the index pass has checked and built when it succeeds. -/
theorem indexSteps_ok {id : String} :
    ∀ {defs : List WorkflowStep} {i : ℕ} {steps steps' : GoMap String Step},
      indexSteps id i defs steps = .ok steps' →
        (∀ d ∈ defs, d.id ≠ "") ∧ (defs.map WorkflowStep.id).Nodup ∧
        (∀ d ∈ defs, steps'.lookup d.id = some ⟨d, .pending, 0⟩) ∧
        (∀ d ∈ defs, d.id ∉ steps.keys) ∧
        (∀ k, k ∉ defs.map WorkflowStep.id → steps'.lookup k = steps.lookup k) ∧
        steps'.keys.Perm (defs.map WorkflowStep.id ++ steps.keys) := by
  intro defs
  induction defs with
  | nil =>
      intro i steps steps' h
      cases h
      simp
  | cons d defs ih =>
      intro i steps steps' h
      rw [indexSteps] at h
      split at h
      · cases h
      · next hne =>
          split at h
          · cases h
          · next hdup =>
              have hd : d.id ∉ steps.keys := by
                rw [← AList.mem_keys, ← AList.lookup_isSome]
                exact hdup
              obtain ⟨hids, hnd, hlook, hfresh, hrest, hkeys⟩ := ih h
              have hkeys₁ : (steps.insert d.id ⟨d, .pending, 0⟩).keys = d.id :: steps.keys := by
                rw [AList.keys_insert, List.erase_of_not_mem hd]
              rw [hkeys₁] at hkeys hfresh
              -- the id of `d` does not occur again, so its entry survives
              have hdn : d.id ∉ defs.map WorkflowStep.id := by
                intro hmem
                obtain ⟨e, he, heq⟩ := List.mem_map.1 hmem
                exact hfresh e he (by rw [heq]; exact List.mem_cons_self)
              refine ⟨?_, ?_, ?_, ?_, ?_, ?_⟩
              · exact List.forall_mem_cons.2 ⟨hne, hids⟩
              · rw [List.map_cons, List.nodup_cons]
                exact ⟨hdn, hnd⟩
              · refine List.forall_mem_cons.2 ⟨?_, hlook⟩
                rw [hrest _ hdn, AList.lookup_insert]
              · refine List.forall_mem_cons.2 ⟨hd, fun e he hmem => ?_⟩
                exact hfresh e he (List.mem_cons_of_mem _ hmem)
              · intro k hk
                rw [List.map_cons, List.mem_cons, not_or] at hk
                rw [hrest k hk.2, AList.lookup_insert_ne hk.1]
              · refine hkeys.trans ?_
                rw [List.map_cons, List.cons_append]
                exact List.perm_middle

/-- The index pass succeeds on distinct non-empty ids that are not in the map yet. -/
theorem exists_indexSteps {id : String} :
    ∀ {defs : List WorkflowStep} (i : ℕ) {steps : GoMap String Step},
      (∀ d ∈ defs, d.id ≠ "") → (defs.map WorkflowStep.id).Nodup →
        (∀ d ∈ defs, d.id ∉ steps.keys) →
          ∃ steps', indexSteps id i defs steps = .ok steps' := by
  intro defs
  induction defs with
  | nil =>
      intro i steps _ _ _
      exact ⟨steps, rfl⟩
  | cons d defs ih =>
      intro i steps hids hnd hfresh
      rw [List.map_cons, List.nodup_cons] at hnd
      have hd : d.id ∉ steps.keys := hfresh d List.mem_cons_self
      have hnone : steps.lookup d.id = none := AList.lookup_eq_none.2 hd
      rw [indexSteps, if_neg (hids d List.mem_cons_self), hnone, if_neg (by simp)]
      refine ih (i + 1) (fun e he => hids e (List.mem_cons_of_mem _ he)) hnd.2 fun e he => ?_
      rw [AList.keys_insert, List.erase_of_not_mem hd, List.mem_cons, not_or]
      refine ⟨fun heq => hnd.1 ?_, hfresh e (List.mem_cons_of_mem _ he)⟩
      rw [← heq]
      exact List.mem_map_of_mem he

theorem indexed_of_indexSteps {id : String} {defs : List WorkflowStep} {steps : GoMap String Step}
    (h : indexSteps id 0 defs ∅ = .ok steps) : Indexed defs steps := by
  obtain ⟨_, _, hlook, _, _, hkeys⟩ := indexSteps_ok h
  exact ⟨by simpa using hkeys, hlook⟩

/-! ### The validation pass -/

/-- The validation pass succeeds when all references are known. -/
theorem validateDeps_eq_ok_iff {id : String} {steps : GoMap String Step} {sids : List String} :
    validateDeps id steps sids = .ok () ↔
      ∀ sid ∈ sids, ∀ dep ∈ depsOf steps sid, dep ∈ steps.keys := by
  induction sids with
  | nil => simp [validateDeps]
  | cons sid sids ih =>
      rw [validateDeps, List.forall_mem_cons]
      cases hfind : (depsOf steps sid).find? fun dep => (steps.lookup dep).isNone with
      | some dep =>
          have hmem : dep ∈ depsOf steps sid := List.mem_of_find?_eq_some hfind
          have hnone : (steps.lookup dep).isNone := by
            simpa using List.find?_some hfind
          have hdep : dep ∉ steps.keys := AList.lookup_eq_none.1 (Option.isNone_iff_eq_none.1 hnone)
          simp only [reduceCtorEq, false_iff, not_and]
          exact fun hall => absurd (hall dep hmem) hdep
      | none =>
          have hall : ∀ dep ∈ depsOf steps sid, dep ∈ steps.keys := by
            intro dep hdep
            have hsome := List.find?_eq_none.1 hfind dep hdep
            rw [← AList.mem_keys, ← AList.lookup_isSome]
            simpa [Option.isSome_iff_ne_none] using hsome
          rw [ih]
          exact ⟨fun h => ⟨hall, h⟩, fun h => h.2⟩

/-! ### The maps of the sort -/

/-- The in-degree of a step grows by the number of its dependencies, which list it. -/
theorem DepGraph.foldl_addEdge (sid : String) (ds : List String) (g : DepGraph) :
    (ds.foldl (DepGraph.addEdge sid) g).inDegree =
        Function.update g.inDegree sid (g.inDegree sid + ds.length) ∧
      ∀ u v, ((ds.foldl (DepGraph.addEdge sid) g).adj u).count v =
        (g.adj u).count v + if v = sid then ds.count u else 0 := by
  induction ds generalizing g with
  | nil => simp
  | cons dep ds ih =>
      obtain ⟨ih₁, ih₂⟩ := ih (DepGraph.addEdge sid g dep)
      refine ⟨?_, fun u v => ?_⟩
      · rw [List.foldl_cons, ih₁]
        funext k
        by_cases hk : k = sid
        · subst hk
          simp only [DepGraph.addEdge, Function.update_self, List.length_cons]
          omega
        · simp [DepGraph.addEdge, hk]
      · rw [List.foldl_cons, ih₂]
        by_cases hu : u = dep
        · subst hu
          by_cases hv : v = sid
          · subst hv
            simp [DepGraph.addEdge]
            omega
          · simp [DepGraph.addEdge, hv, Ne.symm hv]
        · simp [DepGraph.addEdge, hu, Ne.symm hu]

/-- The two maps after a loop over the steps `sids`, from any maps. -/
theorem DepGraph.foldl_steps (steps : GoMap String Step) (sids : List String) (hnd : sids.Nodup)
    (g : DepGraph) :
    let g' := sids.foldl (fun g sid => (depsOf steps sid).foldl (DepGraph.addEdge sid) g) g
    (∀ v, g'.inDegree v = g.inDegree v + if v ∈ sids then ((depsOf steps v).length : ℤ) else 0) ∧
      ∀ u v, (g'.adj u).count v =
        (g.adj u).count v + if v ∈ sids then (depsOf steps v).count u else 0 := by
  induction sids generalizing g with
  | nil => simp
  | cons sid sids ih =>
      obtain ⟨hsid, hnd⟩ := List.nodup_cons.1 hnd
      obtain ⟨h₁, h₂⟩ := DepGraph.foldl_addEdge sid (depsOf steps sid) g
      obtain ⟨ih₁, ih₂⟩ := ih hnd ((depsOf steps sid).foldl (DepGraph.addEdge sid) g)
      refine ⟨fun v => ?_, fun u v => ?_⟩
      · rw [List.foldl_cons, ih₁, h₁]
        by_cases hv : v = sid
        · subst hv
          simp [hsid]
        · simp [hv]
      · rw [List.foldl_cons, ih₂, h₂]
        by_cases hv : v = sid
        · subst hv
          simp [hsid]
        · simp [hv]

/-- **The in-degree of a step is the number of its dependencies**, repetitions counted. -/
theorem DepGraph.build_inDegree {steps : GoMap String Step} {sids : List String}
    (hperm : sids.Perm steps.keys) :
    (DepGraph.build steps sids).inDegree = fun v => ((depsOf steps v).length : ℤ) := by
  funext v
  have h := (DepGraph.foldl_steps steps sids (hperm.nodup_iff.2 steps.keys_nodup)
    ⟨fun _ => 0, fun _ => []⟩).1 v
  rw [DepGraph.build, h]
  by_cases hv : v ∈ sids
  · simp [hv]
  · simp [hv, depsOf_of_notMem fun hk => hv (hperm.mem_iff.2 hk)]

/-- **A dependent is listed once per edge.** -/
theorem DepGraph.count_build_adj {steps : GoMap String Step} {sids : List String}
    (hperm : sids.Perm steps.keys) (u v : String) :
    ((DepGraph.build steps sids).adj u).count v = (depsOf steps v).count u := by
  have h := (DepGraph.foldl_steps steps sids (hperm.nodup_iff.2 steps.keys_nodup)
    ⟨fun _ => 0, fun _ => []⟩).2 u v
  rw [DepGraph.build, h]
  by_cases hv : v ∈ sids
  · simp [hv]
  · simp [hv, depsOf_of_notMem fun hk => hv (hperm.mem_iff.2 hk)]

theorem kahnGraph {steps : GoMap String Step} {sids : List String} (hperm : sids.Perm steps.keys)
    (hclosed : ∀ sid ∈ steps.keys, ∀ dep ∈ depsOf steps sid, dep ∈ steps.keys) :
    Kahn.Graph steps.keys (depsOf steps) (DepGraph.build steps sids).adj where
  nodup := steps.keys_nodup
  closed := hclosed
  support := fun _ h => depsOf_of_notMem h
  edges := DepGraph.count_build_adj hperm

theorem emitted_topoSort (o : NewWorkflowOrders) {steps : GoMap String Step}
    (hclosed : ∀ sid ∈ steps.keys, ∀ dep ∈ depsOf steps sid, dep ∈ steps.keys) :
    Kahn.Emitted steps.keys (depsOf steps) (topoSort o steps) := by
  have hseed := o.seed.perm steps.keys
  refine Kahn.loop_spec (kahnGraph (o.build.perm _) hclosed) _ _ _ _ ?_ (by simp)
  rw [DepGraph.build_inDegree (o.build.perm _)]
  refine Kahn.Inv.init ((hseed.nodup_iff.2 steps.keys_nodup).filter _) fun v => ?_
  simp [hseed.mem_iff]

/-! ### The constructor -/

/-- What is known of a workflow that the constructor returned for `defs`. -/
structure Fresh (defs : List WorkflowStep) (w : Workflow) : Prop where
  wf : WellFormed defs
  indexed : Indexed defs w.steps
  order_perm : w.order.Perm (defs.map WorkflowStep.id)
  topo : Dag.Topological w.deps w.order

/-- **A returned workflow is fresh**: the list was well-formed, every step is pending and the order
is topological. -/
theorem newWorkflow_fresh {o : NewWorkflowOrders} {id runID : String} {defs : List WorkflowStep}
    {w : Workflow} (h : newWorkflow o id runID defs = .ok w) : Fresh defs w := by
  have hne : defs ≠ [] := by
    rintro rfl
    simp [newWorkflow] at h
  have hlen₀ : defs.length ≠ 0 := fun h0 => hne (List.length_eq_zero_iff.1 h0)
  rw [newWorkflow, if_neg hlen₀] at h
  cases hidx : indexSteps id 0 defs ∅ with
  | error e => simp [hidx] at h
  | ok steps =>
      simp only [hidx] at h
      cases hval : validateDeps id steps (o.validate.order steps.keys) with
      | error e => simp [hval] at h
      | ok u =>
          simp only [hval] at h
          split at h
          · cases h
          · next hlen =>
              cases h
              rw [not_not] at hlen
              obtain ⟨hids, hnd, _⟩ := indexSteps_ok hidx
              have hI : Indexed defs steps := indexed_of_indexSteps hidx
              have hclosed : ∀ sid ∈ steps.keys, ∀ dep ∈ depsOf steps sid, dep ∈ steps.keys := by
                intro sid hsid
                exact validateDeps_eq_ok_iff.1 hval sid ((o.validate.perm _).mem_iff.2 hsid)
              have hE := emitted_topoSort o hclosed
              have hac : Dag.Acyclic (depsOf steps) :=
                (hE.length_eq_iff (kahnGraph (o.build.perm _) hclosed)).1 hlen
              refine ⟨⟨hne, hids, hnd, ?_, ?_⟩, hI, (hE.perm hlen).trans hI.keys_perm, hE.topo⟩
              · intro d hd dep hdep
                rw [← hI.depsOf_eq hd] at hdep
                exact hI.mem_keys.1
                  (hclosed d.id (hI.mem_keys.2 (List.mem_map_of_mem hd)) dep hdep)
              · exact fun a ha => hac a (hI.below_iff.2 ha)

theorem Fresh.stepStatus_eq {defs : List WorkflowStep} {w : Workflow} (h : Fresh defs w)
    {sid : String} {st : StepStatus} (hst : w.stepStatus sid = some st) : st = .pending := by
  have hsid : sid ∈ w.steps.keys := Workflow.mem_keys_iff_stepStatus.2 ⟨st, hst⟩
  obtain ⟨d, hd, rfl⟩ := List.mem_map.1 (h.indexed.mem_keys.1 hsid)
  simpa [Workflow.stepStatus, h.indexed.lookup_eq d hd] using hst.symm

/-- A well-formed list is accepted, whatever the orders of the map loops. -/
theorem exists_newWorkflow (o : NewWorkflowOrders) (id runID : String) {defs : List WorkflowStep}
    (hwf : WellFormed defs) : ∃ w, newWorkflow o id runID defs = .ok w := by
  have hex : ∃ steps, indexSteps id 0 defs ∅ = .ok steps :=
    exists_indexSteps 0 hwf.ids_ne hwf.distinct (by simp)
  obtain ⟨steps, hidx⟩ := hex
  have hI : Indexed defs steps := indexed_of_indexSteps hidx
  have hclosed : ∀ sid ∈ steps.keys, ∀ dep ∈ depsOf steps sid, dep ∈ steps.keys := by
    intro sid hsid dep hdep
    obtain ⟨d, hd, rfl⟩ := List.mem_map.1 (hI.mem_keys.1 hsid)
    rw [hI.depsOf_eq hd] at hdep
    exact hI.mem_keys.2 (hwf.closed d hd dep hdep)
  have hval : validateDeps id steps (o.validate.order steps.keys) = .ok () :=
    validateDeps_eq_ok_iff.2 fun sid hsid => hclosed sid ((o.validate.perm _).mem_iff.1 hsid)
  have hac : Dag.Acyclic (depsOf steps) := fun a ha => hwf.acyclic a (hI.below_iff.1 ha)
  have hlen := ((emitted_topoSort o hclosed).length_eq_iff
    (kahnGraph (o.build.perm _) hclosed)).2 hac
  have hlen₀ : defs.length ≠ 0 := fun h0 => hwf.nonempty (List.length_eq_zero_iff.1 h0)
  refine ⟨⟨id, runID, steps, topoSort o steps⟩, ?_⟩
  simp [newWorkflow, hlen₀, hidx, hval, hlen]

/-- **`NewWorkflow` accepts exactly the well-formed graphs**, for every order in which its map
loops visit the keys; on success the order is a permutation of the step ids in which every step
comes after its dependencies. -/
theorem newWorkflow_accepts_iff (o : NewWorkflowOrders) (id runID : String)
    (defs : List WorkflowStep) :
    ((∃ w, newWorkflow o id runID defs = .ok w) ↔ WellFormed defs) ∧
      ∀ w, newWorkflow o id runID defs = .ok w →
        w.order.Perm (defs.map WorkflowStep.id) ∧
          ∀ d ∈ defs, ∀ dep ∈ d.dependsOn, w.order.idxOf dep < w.order.idxOf d.id := by
  refine ⟨⟨?_, exists_newWorkflow o id runID⟩, ?_⟩
  · rintro ⟨w, h⟩
    exact (newWorkflow_fresh h).wf
  · intro w h
    have hF := newWorkflow_fresh h
    refine ⟨hF.order_perm, fun d hd dep hdep => ?_⟩
    have hmem : d.id ∈ w.order := hF.order_perm.mem_iff.2 (List.mem_map_of_mem hd)
    refine hF.topo.idxOf_lt (hF.order_perm.nodup_iff.2 hF.wf.distinct) hmem (Dag.Below.single ?_)
    rw [Workflow.deps, hF.indexed.depsOf_eq hd]
    exact hdep

/-- The map loops visit the keys in the order of the model's own list. -/
def storedOrders : NewWorkflowOrders := ⟨.stored _, .stored _, .stored _⟩

/-- Two steps, the second of which depends on the first. -/
def chainSteps : List WorkflowStep := [{ id := "a" }, { id := "b", dependsOn := ["a"] }]

/-- The workflow of the two steps. -/
def chainWorkflow : Workflow where
  id := "suite"
  runID := "run"
  steps := ((∅ : GoMap String Step).insert "a" ⟨{ id := "a" }, .pending, 0⟩).insert "b"
    ⟨{ id := "b", dependsOn := ["a"] }, .pending, 0⟩
  order := ["a", "b"]

theorem newWorkflow_chain :
    newWorkflow storedOrders "suite" "run" chainSteps = .ok chainWorkflow := rfl

/-- The two steps are accepted, the first one first. -/
theorem newWorkflow_accepts_chain :
    WellFormed chainSteps ∧ chainWorkflow.order.idxOf "a" < chainWorkflow.order.idxOf "b" := by
  obtain ⟨hiff, hord⟩ := newWorkflow_accepts_iff storedOrders "suite" "run" chainSteps
  refine ⟨hiff.1 ⟨chainWorkflow, newWorkflow_chain⟩, ?_⟩
  exact (hord chainWorkflow newWorkflow_chain).2 { id := "b", dependsOn := ["a"] } (by decide) "a"
    (by decide)

end Dvf
