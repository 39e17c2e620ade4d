/-
**The CI impact analyzer: which tests a change affects, and the plan to run them.**

The analyzer maps the changed files of a commit to pairs of a device and a test, pulls in the tests
they depend on, and runs the plan in an order that its topological sort computes.  Two sources say
which tests a device runs: the test suites that its registry entry lists, and the capabilities that
a test's sidecar file asks for.  A change to the infrastructure schedules the first kind only, and
the scan stops there; the graph of the plan has the edges of the affected tests only, so a test
that was pulled in is placed without regard to what it depends on itself.

Both steps are followed as the script performs them.  A Python set is a list in some order, with
membership as its meaning; the plan is shown not to depend on that order as far as validity goes.

Main definitions:

* `Dvf.CIDevice`, `Dvf.Sidecar`, `Dvf.PlannedTest` — registry entries, sidecar files and the pairs;
* `Dvf.getAffectedTests` — the scan of the changed files;
* `Dvf.buildDag` — the dependency graph and its topological sort;
* `Dvf.ValidPlan` — every dependency of a planned test is planned before it;
* `Dvf.PulledInSettled` — the dependencies of the tests that were only pulled in are planned too,
  and sort before them.

Main results:

* `Dvf.mem_getAffectedTests` — what the scan schedules, file by file;
* `Dvf.getAffectedTests_subset_iff` — **when more changed files schedule more tests**;
* `Dvf.PlanGraph.build_spec`, `Dvf.buildDag_spec` — the graph of the plan, and what the sort makes
  of it;
* `Dvf.validPlan_buildDag_iff` — **when the plan is valid**.
-/

import Dvf.KahnSorted
import Dvf.PyText
import Mathlib.Data.Prod.Lex
import Mathlib.Data.String.Basic

set_option autoImplicit false

namespace Dvf

open Dag Kahn

/-! ### The inputs -/

/-- The fields of a registry entry that the analyzer reads; missing lists are empty. -/
structure CIDevice where
  id : String
  driverModule : Option String
  targetModes : List String
  testSuites : List String
  capabilities : List String

/-- The fields of a test's sidecar file that the analyzer reads; missing lists are empty. -/
structure Sidecar where
  capabilities : List String
  dependencies : List String

def Sidecars := String → Option Sidecar

/-- A test on a device. -/
@[ext]
structure PlannedTest where
  dev : String
  test : String

/-- Pairs are compared as Python compares tuples of strings. -/
instance : LinearOrder PlannedTest :=
  LinearOrder.lift' (fun node => toLex (node.dev, node.test)) fun a b h => by
    have h' : (a.dev, a.test) = (b.dev, b.test) := toLex_inj.1 h
    exact PlannedTest.ext (congrArg Prod.fst h') (congrArg Prod.snd h')

/-! ### `get_affected_tests` -/

/-- The parts of a path that make it an infrastructure file. -/
def globalParts : List String :=
  ["go-orchestrator/", "runner/", "qemu-accelerator-models/", "guest-os/", ".gitlab-ci.yml"]

/-- An infrastructure file: one of the parts occurs anywhere in its path. -/
def isGlobal (file : String) : Bool :=
  globalParts.any fun p => PyText.contains p.toList file.toList

/-- `qemu_devices`: the devices with the mode `qemu`, or without any mode. -/
def qemuDevices (registry : List CIDevice) : List CIDevice :=
  registry.filter fun dev => dev.targetModes.isEmpty || dev.targetModes.contains "qemu"

def suitesOf (dev : CIDevice) : List PlannedTest := dev.testSuites.map (PlannedTest.mk dev.id)

/-- What a change under `driver-source/` schedules: the suites of the devices whose driver module
is the directory, or whose id occurs in its name. -/
def driverTests (registry : List CIDevice) (file : String) : List PlannedTest :=
  (file.toList.splitOn '/')[1]?.elim [] fun driverDir =>
    ((qemuDevices registry).filter fun dev =>
      dev.driverModule == some (String.ofList driverDir) ||
        PyText.contains dev.id.toList driverDir).flatMap suitesOf

/-- `os.path.splitext(name)[0]` of a name without `/`: the part before the last dot, unless only
dots come before it. -/
def splitextRoot (name : List Char) : List Char :=
  let root := (name.rdropWhile (· ≠ '.')).dropLast
  if root.any (· ≠ '.') then root else name

/-- The test key of a file under `c-test-binaries/`: its category and the name without extension. -/
def testKey (file : String) : Option String :=
  let parts := file.toList.splitOn '/'
  parts[1]?.bind fun category => parts[2]?.map fun testFile =>
    String.ofList (category ++ '/' :: splitextRoot testFile)

/-- What a change under `c-test-binaries/` schedules: the test, if it has a sidecar, on the devices
that have all its capabilities or list it. -/
def codeTests (registry : List CIDevice) (sidecars : Sidecars) (file : String) :
    List PlannedTest :=
  (testKey file).elim [] fun key => (sidecars key).elim [] fun sidecar =>
    ((qemuDevices registry).filter fun dev =>
      sidecar.capabilities.all dev.capabilities.contains || dev.testSuites.contains key).map
        fun dev => ⟨dev.id, key⟩

/-- What one changed file schedules, if it is not an infrastructure file. -/
def testsOf (registry : List CIDevice) (sidecars : Sidecars) (file : String) : List PlannedTest :=
  if "driver-source/".toList.isPrefixOf file.toList then driverTests registry file
  else if "c-test-binaries/".toList.isPrefixOf file.toList then codeTests registry sidecars file
  else []

/-- The loop over the changed files, on the tests scheduled so far; it stops at the first
infrastructure file, with `run_all` set. -/
def scanFiles (registry : List CIDevice) (sidecars : Sidecars) :
    List String → List PlannedTest → List PlannedTest × Bool
  | [], affected => (affected, false)
  | file :: files, affected =>
      if isGlobal file then (affected, true)
      else scanFiles registry sidecars files (affected ++ testsOf registry sidecars file)

/-- The tests that `run_all` adds: the suites of all devices. -/
def allTests (registry : List CIDevice) : List PlannedTest :=
  (qemuDevices registry).flatMap suitesOf

/-- `get_affected_tests`. -/
def getAffectedTests (registry : List CIDevice) (sidecars : Sidecars) (files : List String) :
    List PlannedTest :=
  let r := scanFiles registry sidecars files []
  if r.2 then r.1 ++ allTests registry else r.1

/-- The files that the loop looks at: those before the first infrastructure file. -/
def scanned (files : List String) : List String := files.takeWhile fun file => !isGlobal file

theorem scanFiles_eq (registry : List CIDevice) (sidecars : Sidecars) (files : List String)
    (affected : List PlannedTest) :
    scanFiles registry sidecars files affected =
      (affected ++ (scanned files).flatMap (testsOf registry sidecars), files.any isGlobal) := by
  induction files generalizing affected with
  | nil => simp [scanFiles, scanned]
  | cons file files ih =>
      cases hg : isGlobal file with
      | true => simp [scanFiles, scanned, hg]
      | false =>
          rw [scanFiles, hg, if_neg Bool.false_ne_true, ih]
          simp [scanned, hg]

/-- **What is scheduled, file by file**: the tests of the files before the first infrastructure
file, and the suites of all devices if there is one. -/
theorem mem_getAffectedTests {registry : List CIDevice} {sidecars : Sidecars} {files : List String}
    {t : PlannedTest} :
    t ∈ getAffectedTests registry sidecars files ↔
      (∃ file ∈ scanned files, t ∈ testsOf registry sidecars file) ∨
        files.any isGlobal = true ∧ t ∈ allTests registry := by
  rw [getAffectedTests, scanFiles_eq]
  cases files.any isGlobal <;> simp

theorem mem_allTests_of_driver {registry : List CIDevice} {file : String} {t : PlannedTest}
    (h : t ∈ driverTests registry file) : t ∈ allTests registry := by
  rw [driverTests] at h
  cases hd : (file.toList.splitOn '/')[1]? with
  | none => simp [hd] at h
  | some driverDir =>
      rw [hd, Option.elim_some] at h
      obtain ⟨dev, hdev, ht⟩ := List.mem_flatMap.1 h
      exact List.mem_flatMap.2 ⟨dev, (List.mem_filter.1 hdev).1, ht⟩

theorem mem_of_mem_scanned {files : List String} {file : String} (h : file ∈ scanned files) :
    file ∈ files :=
  (List.takeWhile_prefix _).subset h

theorem scanned_eq_self {files : List String} (h : files.any isGlobal = false) :
    scanned files = files := by
  refine List.takeWhile_eq_self_iff.2 fun file hfile => ?_
  simpa using List.any_eq_false.1 h file hfile

/-- No test is lost on the way from the changed files `F` to the changed files `G`: `G` has no
infrastructure file, or each test that `F` schedules for its test code, on a device that does not
list it, is scheduled as well by a file of `G` before its first infrastructure file. -/
def CapabilityKept (registry : List CIDevice) (sidecars : Sidecars) (F G : List String) : Prop :=
  G.any isGlobal = false ∨
    ∀ file ∈ scanned F, "c-test-binaries/".toList.isPrefixOf file.toList = true →
      ∀ t ∈ codeTests registry sidecars file, t ∉ allTests registry →
        ∃ file' ∈ scanned G, t ∈ testsOf registry sidecars file'

theorem codeTests_of_testsOf {registry : List CIDevice} {sidecars : Sidecars} {file : String}
    {t : PlannedTest} (h : t ∈ testsOf registry sidecars file) (hall : t ∉ allTests registry) :
    "c-test-binaries/".toList.isPrefixOf file.toList = true ∧
      t ∈ codeTests registry sidecars file := by
  rw [testsOf] at h
  split at h
  · exact absurd (mem_allTests_of_driver h) hall
  · split at h
    · next hcode => exact ⟨hcode, h⟩
    · exact absurd h List.not_mem_nil

theorem testsOf_of_codeTests {registry : List CIDevice} {sidecars : Sidecars} {file : String}
    (hcode : "c-test-binaries/".toList.isPrefixOf file.toList = true) :
    testsOf registry sidecars file = codeTests registry sidecars file := by
  have hdriver : ¬ "driver-source/".toList.isPrefixOf file.toList = true := by
    intro hdriver
    rw [List.isPrefixOf_iff_prefix] at hcode hdriver
    rcases List.prefix_or_prefix_of_prefix hcode hdriver with h | h <;> revert h <;> decide
  rw [testsOf, if_neg hdriver, if_pos hcode]

/-- **When more changed files schedule more tests.** -/
theorem getAffectedTests_subset_iff (registry : List CIDevice) (sidecars : Sidecars)
    {F G : List String} (hFG : ∀ file ∈ F, file ∈ G) :
    (∀ t ∈ getAffectedTests registry sidecars F, t ∈ getAffectedTests registry sidecars G) ↔
      CapabilityKept registry sidecars F G := by
  constructor
  · intro h
    cases hG : G.any isGlobal with
    | false => exact Or.inl hG
    | true =>
        refine Or.inr fun file hfile hcode t ht hall => ?_
        rw [← testsOf_of_codeTests hcode] at ht
        have htF := mem_getAffectedTests.2 (Or.inl ⟨file, hfile, ht⟩)
        rcases mem_getAffectedTests.1 (h t htF) with hscan | ⟨-, hlisted⟩
        · exact hscan
        · exact absurd hlisted hall
  · intro hkept t ht
    rw [mem_getAffectedTests] at ht ⊢
    rcases ht with ⟨file, hfile, ht⟩ | ⟨hF, hlisted⟩
    · cases hG : G.any isGlobal with
      | false =>
          -- all files of the longer list are looked at
          refine Or.inl ⟨file, ?_, ht⟩
          rw [scanned_eq_self hG]
          exact hFG file (mem_of_mem_scanned hfile)
      | true =>
          by_cases hall : t ∈ allTests registry
          · exact Or.inr ⟨rfl, hall⟩
          · obtain ⟨hcode, htcode⟩ := codeTests_of_testsOf ht hall
            rcases hkept with hnone | hkept
            · exact absurd (hG.symm.trans hnone) (by decide)
            · exact Or.inl (hkept file hfile hcode t htcode hall)
    · obtain ⟨file, hfile, hglobal⟩ := List.any_eq_true.1 hF
      exact Or.inr ⟨List.any_eq_true.2 ⟨file, hFG file hfile, hglobal⟩, hlisted⟩

/-- Three sidecars of the repository: persistence needs the patterns, and the patterns need the
registers. -/
def chainSidecars : Sidecars := fun key =>
  if key = "data_integrity/test_persistence" then
    some ⟨["mmio", "dma"], ["data_integrity/test_patterns"]⟩
  else if key = "data_integrity/test_patterns" then
    some ⟨["mmio", "dma"], ["read_write/test_register_rw"]⟩
  else if key = "read_write/test_register_rw" then some ⟨["mmio", "register_rw"], []⟩
  else none

/-- The entry of the GPU: it has the capabilities of the patterns test and does not list it. -/
def gpgpuEntry : CIDevice where
  id := "gpgpu"
  driverModule := some "gpgpu_pcie_ep_driver"
  targetModes := ["qemu"]
  testSuites := ["abctest/test", "smoke", "regression", "stress"]
  capabilities := ["mmio", "dma", "mmu", "msix"]

/-- The test is kept as long as no infrastructure file changes. -/
theorem patterns_kept_without_global :
    ["c-test-binaries/data_integrity/test_patterns.c"] ⊆
        ["README.md", "c-test-binaries/data_integrity/test_patterns.c"] ∧
      ∀ t ∈ getAffectedTests [gpgpuEntry] chainSidecars
          ["c-test-binaries/data_integrity/test_patterns.c"],
        t ∈ getAffectedTests [gpgpuEntry] chainSidecars
          ["README.md", "c-test-binaries/data_integrity/test_patterns.c"] :=
  ⟨by simp, (getAffectedTests_subset_iff _ _ (by simp)).2 (Or.inl (by decide +kernel))⟩

/-- **An infrastructure file hides a changed test**: the scan stops at `.gitlab-ci.yml`, and the
test that the next file schedules is in no list of suites. -/
theorem global_file_hides_test :
    (⟨"gpgpu", "data_integrity/test_patterns"⟩ : PlannedTest) ∈
        getAffectedTests [gpgpuEntry] chainSidecars
          ["c-test-binaries/data_integrity/test_patterns.c"] ∧
      (⟨"gpgpu", "data_integrity/test_patterns"⟩ : PlannedTest) ∉
        getAffectedTests [gpgpuEntry] chainSidecars
          [".gitlab-ci.yml", "c-test-binaries/data_integrity/test_patterns.c"] := by
  decide +kernel

/-! ### `build_dag` -/

/-- A dependency string that is not skipped. -/
def nonBlank (dep : String) : Bool := !(PyText.strip dep.toList).isEmpty

/-- The dependencies of a test, as its sidecar lists them. -/
def Sidecars.dependencies (sidecars : Sidecars) (test : String) : List String :=
  (sidecars test).elim [] fun sidecar => sidecar.dependencies.filter nonBlank

/-- The dependencies of a test on a device, on the same device. -/
def Sidecars.nodes (sidecars : Sidecars) (node : PlannedTest) : List PlannedTest :=
  (sidecars.dependencies node.test).map (PlannedTest.mk node.dev)

/-- The dictionaries `adj` and `in_degree`, which have the same keys, in the order of insertion.  A
key that is not there reads as the empty list and as zero, the values with which it is inserted. -/
structure PlanGraph where
  keys : List PlannedTest := []
  adj : PlannedTest → List PlannedTest := fun _ => []
  inDegree : PlannedTest → ℤ := fun _ => 0

def PlanGraph.insert (g : PlanGraph) (node : PlannedTest) : PlanGraph :=
  if node ∈ g.keys then g else { g with keys := g.keys ++ [node] }

/-- One dependency of `node`: it is added unless it is there, and gets the edge to `node`. -/
def PlanGraph.addEdge (node : PlannedTest) (g : PlanGraph) (depNode : PlannedTest) : PlanGraph where
  keys := (g.insert depNode).keys
  adj := Function.update g.adj depNode (g.adj depNode ++ [node])
  inDegree := Function.update g.inDegree node (g.inDegree node + 1)

def PlanGraph.addNode (sidecars : Sidecars) (g : PlanGraph) (node : PlannedTest) : PlanGraph :=
  (sidecars.nodes node).foldl (PlanGraph.addEdge node) g

/-- The graph of the plan: the affected tests, then the edges of the tests that are in the graph
when the second loop starts. -/
def PlanGraph.build (affected : List PlannedTest) (sidecars : Sidecars) : PlanGraph :=
  let g := affected.foldl PlanGraph.insert {}
  g.keys.foldl (PlanGraph.addNode sidecars) g

/-- `build_dag`. -/
def buildDag (affected : List PlannedTest) (sidecars : Sidecars) : List PlannedTest :=
  let g := PlanGraph.build affected sidecars
  let queue := g.keys.filter fun node => g.inDegree node = 0
  let sortedNodes := sortedLoop g.adj g.keys.length queue g.inDegree []
  if sortedNodes.length < g.keys.length then g.keys.insertionSort (· ≤ ·) else sortedNodes

/-! ### The graph of the plan -/

/-- A node of the plan: affected, or a dependency of an affected test. -/
def Planned (affected : List PlannedTest) (sidecars : Sidecars) (node : PlannedTest) : Prop :=
  node ∈ affected ∨ ∃ a ∈ affected, node ∈ sidecars.nodes a

/-- The dependencies that the plan has edges for: those of the affected tests. -/
def planDeps (affected : List PlannedTest) (sidecars : Sidecars) (node : PlannedTest) :
    List PlannedTest :=
  if node ∈ affected then sidecars.nodes node else []

theorem PlanGraph.insert_spec (g : PlanGraph) (node : PlannedTest) (hnd : g.keys.Nodup) :
    (g.insert node).keys.Nodup ∧ (∀ v, v ∈ (g.insert node).keys ↔ v ∈ g.keys ∨ v = node) ∧
      (g.insert node).adj = g.adj ∧ (g.insert node).inDegree = g.inDegree := by
  rw [PlanGraph.insert]
  split
  · next h =>
      refine ⟨hnd, fun v => ?_, rfl, rfl⟩
      constructor
      · exact Or.inl
      · rintro (hv | rfl)
        · exact hv
        · exact h
  · next h =>
      refine ⟨?_, fun v => by simp, rfl, rfl⟩
      simpa [List.nodup_append, hnd] using fun a ha => ne_of_mem_of_not_mem ha h

theorem PlanGraph.foldl_insert (affected : List PlannedTest) (g : PlanGraph) (hnd : g.keys.Nodup) :
    (affected.foldl PlanGraph.insert g).keys.Nodup ∧
      (∀ v, v ∈ (affected.foldl PlanGraph.insert g).keys ↔ v ∈ g.keys ∨ v ∈ affected) ∧
      (affected.foldl PlanGraph.insert g).adj = g.adj ∧
      (affected.foldl PlanGraph.insert g).inDegree = g.inDegree := by
  induction affected generalizing g with
  | nil => simp [hnd]
  | cons a affected ih =>
      obtain ⟨hnd₁, hmem₁, hadj₁, hdeg₁⟩ := g.insert_spec a hnd
      obtain ⟨hnd₂, hmem₂, hadj₂, hdeg₂⟩ := ih (g.insert a) hnd₁
      refine ⟨hnd₂, fun v => ?_, hadj₂.trans hadj₁, hdeg₂.trans hdeg₁⟩
      rw [List.foldl_cons, hmem₂ v, hmem₁ v, List.mem_cons, or_assoc]

/-- The dependencies of a test become keys that list it, and its in-degree grows. -/
theorem PlanGraph.foldl_addEdge (node : PlannedTest) (ds : List PlannedTest) (g : PlanGraph)
    (hnd : g.keys.Nodup) :
    (ds.foldl (PlanGraph.addEdge node) g).keys.Nodup ∧
      (∀ v, v ∈ (ds.foldl (PlanGraph.addEdge node) g).keys ↔ v ∈ g.keys ∨ v ∈ ds) ∧
      (∀ u v, ((ds.foldl (PlanGraph.addEdge node) g).adj u).count v =
        (g.adj u).count v + if v = node then ds.count u else 0) ∧
      ∀ v, (ds.foldl (PlanGraph.addEdge node) g).inDegree v =
        g.inDegree v + if v = node then (ds.length : ℤ) else 0 := by
  induction ds generalizing g with
  | nil => simp [hnd]
  | cons d ds ih =>
      obtain ⟨hnd₁, hmem₁, -, -⟩ := g.insert_spec d hnd
      obtain ⟨hnd₂, hmem₂, hadj₂, hdeg₂⟩ := ih (PlanGraph.addEdge node g d) hnd₁
      refine ⟨hnd₂, fun v => ?_, fun u v => ?_, fun v => ?_⟩
      · rw [List.foldl_cons, hmem₂ v, List.mem_cons, ← or_assoc]
        exact or_congr_left (hmem₁ v)
      · rw [List.foldl_cons, hadj₂ u v]
        by_cases hu : u = d
        · subst hu
          by_cases hv : v = node
          · subst hv
            simp [PlanGraph.addEdge]
            omega
          · simp [PlanGraph.addEdge, hv, Ne.symm hv]
        · simp [PlanGraph.addEdge, hu, Ne.symm hu]
      · rw [List.foldl_cons, hdeg₂ v]
        by_cases hv : v = node
        · subst hv
          simp only [PlanGraph.addEdge, Function.update_self, if_true, List.length_cons]
          omega
        · simp [PlanGraph.addEdge, hv]

/-- The graph while the second loop runs over the affected tests: `done` are the tests whose edges
are there. -/
structure PlanGraph.EdgesOf (affected : List PlannedTest) (sidecars : Sidecars)
    (done : List PlannedTest) (g : PlanGraph) : Prop where
  nodup : g.keys.Nodup
  mem_keys : ∀ v, v ∈ g.keys ↔ v ∈ affected ∨ ∃ a ∈ done, v ∈ sidecars.nodes a
  adj : ∀ u v, (g.adj u).count v = if v ∈ done then (sidecars.nodes v).count u else 0
  inDegree : ∀ v, g.inDegree v = if v ∈ done then ((sidecars.nodes v).length : ℤ) else 0

/-- One round of the second loop. -/
theorem PlanGraph.EdgesOf.addNode {affected : List PlannedTest} {sidecars : Sidecars}
    {done : List PlannedTest} {g : PlanGraph} (h : g.EdgesOf affected sidecars done)
    {node : PlannedTest} (hnew : node ∉ done) :
    (g.addNode sidecars node).EdgesOf affected sidecars (done ++ [node]) := by
  obtain ⟨hnd, hmem, hadj, hdeg⟩ := PlanGraph.foldl_addEdge node (sidecars.nodes node) g h.nodup
  refine ⟨hnd, fun v => ?_, fun u v => ?_, fun v => ?_⟩
  · rw [PlanGraph.addNode, hmem v, h.mem_keys v]
    simp only [List.mem_append, List.mem_singleton, or_assoc]
    refine or_congr_right ?_
    constructor
    · rintro (⟨a, ha, hv⟩ | hv)
      · exact ⟨a, Or.inl ha, hv⟩
      · exact ⟨node, Or.inr rfl, hv⟩
    · rintro ⟨a, ha | rfl, hv⟩
      · exact Or.inl ⟨a, ha, hv⟩
      · exact Or.inr hv
  · rw [PlanGraph.addNode, hadj u v, h.adj u v]
    by_cases hv : v = node
    · subst hv
      simp [hnew]
    · simp [hv]
  · rw [PlanGraph.addNode, hdeg v, h.inDegree v]
    by_cases hv : v = node
    · subst hv
      simp [hnew]
    · simp [hv]

/-- The second loop, from any graph it may have reached. -/
theorem PlanGraph.EdgesOf.foldl {affected : List PlannedTest} {sidecars : Sidecars} :
    ∀ {todo done : List PlannedTest} {g : PlanGraph}, g.EdgesOf affected sidecars done →
      (done ++ todo).Nodup →
        (todo.foldl (PlanGraph.addNode sidecars) g).EdgesOf affected sidecars (done ++ todo) := by
  intro todo
  induction todo with
  | nil =>
      intro done g h _
      simpa using h
  | cons node todo ih =>
      intro done g h hnd
      have hnew : node ∉ done := fun hmem =>
        (List.nodup_append.1 hnd).2.2 node hmem node List.mem_cons_self rfl
      have happ : done ++ node :: todo = (done ++ [node]) ++ todo := by simp
      rw [happ] at hnd ⊢
      exact ih (h.addNode hnew) hnd

/-- **The graph of the plan**: the planned tests, each once, with the edges of the affected ones. -/
theorem PlanGraph.build_spec (affected : List PlannedTest) (sidecars : Sidecars) :
    (PlanGraph.build affected sidecars).EdgesOf affected sidecars affected := by
  obtain ⟨hnd, hmem, hadj, hdeg⟩ := PlanGraph.foldl_insert affected {} List.nodup_nil
  have hmem' : ∀ v, v ∈ (affected.foldl PlanGraph.insert {}).keys ↔ v ∈ affected := fun v => by
    simpa using hmem v
  have hstart : (affected.foldl PlanGraph.insert {}).EdgesOf affected sidecars [] :=
    ⟨hnd, fun v => by simp [hmem'], fun u v => by simp [hadj], fun v => by simp [hdeg]⟩
  have h := hstart.foldl (by simpa using hnd)
  -- the snapshot that the loop runs over has the affected tests
  refine ⟨h.nodup, fun v => ?_, fun u v => ?_, fun v => ?_⟩
  · simpa [PlanGraph.build, hmem'] using h.mem_keys v
  · simpa [PlanGraph.build, hmem'] using h.adj u v
  · simpa [PlanGraph.build, hmem'] using h.inDegree v

theorem PlanGraph.mem_keys_build {affected : List PlannedTest} {sidecars : Sidecars}
    {v : PlannedTest} :
    v ∈ (PlanGraph.build affected sidecars).keys ↔ Planned affected sidecars v :=
  (PlanGraph.build_spec affected sidecars).mem_keys v

theorem planDeps_of_mem {affected : List PlannedTest} {sidecars : Sidecars} {v : PlannedTest}
    (h : v ∈ affected) : planDeps affected sidecars v = sidecars.nodes v := if_pos h

theorem planDeps_of_notMem {affected : List PlannedTest} {sidecars : Sidecars} {v : PlannedTest}
    (h : v ∉ affected) : planDeps affected sidecars v = [] := if_neg h

/-- The graph of the plan is an instance of Kahn's algorithm. -/
theorem planGraph_kahn (affected : List PlannedTest) (sidecars : Sidecars) :
    Graph (PlanGraph.build affected sidecars).keys (planDeps affected sidecars)
      (PlanGraph.build affected sidecars).adj where
  nodup := (PlanGraph.build_spec affected sidecars).nodup
  closed := by
    intro v _ d hd
    rw [planDeps] at hd
    split at hd
    · next hv => exact PlanGraph.mem_keys_build.2 (Or.inr ⟨v, hv, hd⟩)
    · exact absurd hd List.not_mem_nil
  support := fun v hv =>
    planDeps_of_notMem fun hmem => hv (PlanGraph.mem_keys_build.2 (Or.inl hmem))
  edges := by
    intro u v
    rw [(PlanGraph.build_spec affected sidecars).adj u v, planDeps]
    split <;> simp

theorem planGraph_inDegree (affected : List PlannedTest) (sidecars : Sidecars) :
    (PlanGraph.build affected sidecars).inDegree =
      fun v => ((planDeps affected sidecars v).length : ℤ) := by
  funext v
  rw [(PlanGraph.build_spec affected sidecars).inDegree v, planDeps]
  split <;> simp

theorem acyclic_planDeps {sidecars : Sidecars} (hac : Acyclic sidecars.dependencies)
    (affected : List PlannedTest) : Acyclic (planDeps affected sidecars) := by
  refine hac.of_map PlannedTest.test fun b a ha => ?_
  rw [planDeps] at ha
  split at ha
  · obtain ⟨dep, hdep, rfl⟩ := List.mem_map.1 ha
    exact hdep
  · exact absurd ha List.not_mem_nil

/-! ### The plan -/

/-- What the sort makes of the graph: every planned test once, in a topological order of the edges
of the affected tests, with the other tests where their names put them. -/
structure SortedPlan (affected : List PlannedTest) (sidecars : Sidecars)
    (plan : List PlannedTest) : Prop where
  nodup : plan.Nodup
  mem_iff : ∀ v, v ∈ plan ↔ Planned affected sidecars v
  topo : Topological (planDeps affected sidecars) plan
  placed : ∀ l₁ p l₂, plan = l₁ ++ p :: l₂ → p ∉ affected →
    ∀ q, Planned affected sidecars q → (q ∈ l₁ ↔ AheadOf (planDeps affected sidecars) p q)

/-- **What `build_dag` returns** when the dependencies are acyclic: the fallback is not taken. -/
theorem buildDag_spec {sidecars : Sidecars} (hac : Acyclic sidecars.dependencies)
    (affected : List PlannedTest) : SortedPlan affected sidecars (buildDag affected sidecars) := by
  have hG := planGraph_kahn affected sidecars
  have hacyclic := acyclic_planDeps hac affected
  have hnd := (PlanGraph.build_spec affected sidecars).nodup
  have hseed : Inv (PlanGraph.build affected sidecars).keys (planDeps affected sidecars)
      ((PlanGraph.build affected sidecars).keys.filter fun node =>
        (PlanGraph.build affected sidecars).inDegree node = 0)
      (PlanGraph.build affected sidecars).inDegree [] := by
    rw [planGraph_inDegree]
    exact Inv.init (hnd.filter _) fun v => by simp
  obtain ⟨hemit, hplaced⟩ := sortedLoop_spec hG hacyclic
    (PlanGraph.build affected sidecars).keys.length _ _ _ hseed (sourcesPlaced_nil _ _) (by simp)
  have hlen := (hemit.length_eq_iff hG).2 hacyclic
  have hplan : buildDag affected sidecars = sortedLoop (PlanGraph.build affected sidecars).adj
      (PlanGraph.build affected sidecars).keys.length
      ((PlanGraph.build affected sidecars).keys.filter fun node =>
        (PlanGraph.build affected sidecars).inDegree node = 0)
      (PlanGraph.build affected sidecars).inDegree [] := if_neg hlen.not_lt
  rw [hplan]
  refine ⟨hemit.nodup, fun v => ?_, hemit.topo, fun l₁ p l₂ heq hp q hq => ?_⟩
  · rw [(hemit.perm hlen).mem_iff, PlanGraph.mem_keys_build]
  · exact hplaced.before l₁ p l₂ heq (planDeps_of_notMem hp) q (PlanGraph.mem_keys_build.2 hq)

/-- A plan that can be run in order: no test twice, every affected test, and with each test all its
dependencies, which come before it. -/
structure ValidPlan (affected : List PlannedTest) (sidecars : Sidecars)
    (plan : List PlannedTest) : Prop where
  nodup : plan.Nodup
  affected : ∀ node ∈ affected, node ∈ plan
  dependencies : ∀ node ∈ plan, ∀ dep ∈ sidecars.nodes node,
    dep ∈ plan ∧ plan.idxOf dep < plan.idxOf node

/-- The dependencies of each test that the plan has only because another test depends on it: they
are planned as well, and together with all that they wait for they sort before it. -/
def PulledInSettled (affected : List PlannedTest) (sidecars : Sidecars) : Prop :=
  ∀ p, Planned affected sidecars p → p ∉ affected → ∀ q ∈ sidecars.nodes p,
    Planned affected sidecars q ∧ AheadOf (planDeps affected sidecars) p q

/-- **When the plan is valid.**  The edges of the affected tests are respected in any case; a test
that was pulled in has none and stands where its name puts it. -/
theorem validPlan_buildDag_iff {sidecars : Sidecars} (hac : Acyclic sidecars.dependencies)
    (affected : List PlannedTest) :
    ValidPlan affected sidecars (buildDag affected sidecars) ↔
      PulledInSettled affected sidecars := by
  have h := buildDag_spec hac affected
  constructor
  · intro hvalid p hp hnot q hq
    have htopo := (topological_iff_idxOf hvalid.nodup).2 hvalid.dependencies
    obtain ⟨l₁, l₂, heq⟩ := List.append_of_mem ((h.mem_iff p).2 hp)
    have hq₁ : q ∈ l₁ := htopo l₁ p l₂ heq q hq
    have hqp : Planned affected sidecars q := by
      rw [← h.mem_iff q, heq]
      exact List.mem_append_left _ hq₁
    exact ⟨hqp, (h.placed l₁ p l₂ heq hnot q hqp).1 hq₁⟩
  · intro hsettled
    refine ⟨h.nodup, fun node hnode => (h.mem_iff node).2 (Or.inl hnode), ?_⟩
    refine (topological_iff_idxOf h.nodup).1 fun l₁ p l₂ heq q hq => ?_
    by_cases hp : p ∈ affected
    · exact h.topo l₁ p l₂ heq q (by rwa [planDeps_of_mem hp])
    · have hplanned : Planned affected sidecars p := by
        rw [← h.mem_iff p, heq]
        simp
      obtain ⟨hqp, hahead⟩ := hsettled p hplanned hp q hq
      exact (h.placed l₁ p l₂ heq hp q hqp).2 hahead

theorem chainSidecars_acyclic : Acyclic chainSidecars.dependencies := by
  refine Topological.acyclic (l := ["read_write/test_register_rw", "data_integrity/test_patterns",
    "data_integrity/test_persistence"]) ?_ (by decide) fun key hkey => ?_
  · refine (topological_iff_idxOf (by decide)).2 ?_
    decide +kernel
  · simp only [List.mem_cons, List.not_mem_nil, or_false, not_or] at hkey
    simp [Sidecars.dependencies, chainSidecars, hkey]

/-- With the patterns affected the plan is valid: the registers are pulled in, and they depend on
nothing. -/
theorem validPlan_patterns :
    ValidPlan [⟨"gpgpu", "data_integrity/test_patterns"⟩] chainSidecars
      (buildDag [⟨"gpgpu", "data_integrity/test_patterns"⟩] chainSidecars) := by
  refine (validPlan_buildDag_iff chainSidecars_acyclic _).2 fun p hp hnot q hq => ?_
  obtain ⟨a, ha, hpa⟩ := hp.resolve_left hnot
  obtain rfl : a = ⟨"gpgpu", "data_integrity/test_patterns"⟩ := by simpa using ha
  have hnodes : chainSidecars.nodes ⟨"gpgpu", "data_integrity/test_patterns"⟩ =
      [⟨"gpgpu", "read_write/test_register_rw"⟩] := by decide +kernel
  obtain rfl : p = ⟨"gpgpu", "read_write/test_register_rw"⟩ := by simpa [hnodes] using hpa
  have hnone : chainSidecars.nodes ⟨"gpgpu", "read_write/test_register_rw"⟩ = [] := by
    decide +kernel
  rw [hnone] at hq
  exact absurd hq List.not_mem_nil

/-- **A chain of two dependencies is cut**: with only the persistence test affected, the patterns
are pulled in and the registers they need are missing from the plan. -/
theorem chain_is_cut :
    Acyclic chainSidecars.dependencies ∧
      buildDag [⟨"gpgpu", "data_integrity/test_persistence"⟩] chainSidecars =
        [⟨"gpgpu", "data_integrity/test_patterns"⟩, ⟨"gpgpu", "data_integrity/test_persistence"⟩] ∧
      ¬ ValidPlan [⟨"gpgpu", "data_integrity/test_persistence"⟩] chainSidecars
        (buildDag [⟨"gpgpu", "data_integrity/test_persistence"⟩] chainSidecars) := by
  have hplan : buildDag [⟨"gpgpu", "data_integrity/test_persistence"⟩] chainSidecars =
      [⟨"gpgpu", "data_integrity/test_patterns"⟩,
        ⟨"gpgpu", "data_integrity/test_persistence"⟩] := by decide +kernel
  refine ⟨chainSidecars_acyclic, hplan, fun hvalid => ?_⟩
  rw [hplan] at hvalid
  have hmem := (hvalid.dependencies ⟨"gpgpu", "data_integrity/test_patterns"⟩ (by simp)
    ⟨"gpgpu", "read_write/test_register_rw"⟩ (by decide +kernel)).1
  revert hmem
  decide

end Dvf
