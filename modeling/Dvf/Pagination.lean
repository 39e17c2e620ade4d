/-
**Listing test runs page by page** (`ListTestRuns` in `internal/storage/memory.go`,
`internal/storage/postgres.go` and `internal/api/grpc_server.go`).

A client asks for the runs that match a filter, `L` of them at a time, at the offsets `0, L, 2L, …`
until a page is empty.  The store in memory cuts the offset off only when it is less than the number
of matching runs; at every other offset it starts from the beginning again, so if there is a run at
all, no page is ever empty.  The loop over the map moreover visits the runs in an order of its own
for every page.  The database counts with `LIMIT` and `OFFSET`, and sorts by the time of creation,
which fixes the order where the times differ.

Main definitions:

* `Dvf.ListTestRunsRequest`, `Dvf.Store.listTestRuns` — the store in memory;
* `Dvf.RowOrder`, `Dvf.PgStore.listTestRuns` — the database;
* `Dvf.PagesCover` — the pages contain everything once, and end.

Main results:

* `Dvf.flatMap_pages` — consecutive pages make up the list;
* `Dvf.Store.listTestRuns_ne_nil` — a store in memory that has a matching run has no empty page;
* `Dvf.Store.pagesCover_iff` — **when the pages of a store in memory cover everything**;
* `Dvf.PgStore.pagesCover` — the pages of the database do.
-/

import Dvf.Postgres
import Mathlib.Data.List.Sort

set_option autoImplicit false

namespace Dvf

open Go

/-! ### The source -/

/-- `ListTestRunsRequest`; an empty text does not filter. -/
structure ListTestRunsRequest where
  deviceID : String := ""
  status : String := ""
  limit : ℤ := 0
  offset : ℤ := 0
  deriving DecidableEq, Repr

namespace ListTestRunsRequest

/-- A run with this device and this status passes the filter. -/
def passes (req : ListTestRunsRequest) (deviceID : String) (status : TestRunStatus) : Bool :=
  !(req.deviceID ≠ "" && deviceID ≠ req.deviceID) &&
    !(req.status ≠ "" && status.toString ≠ req.status)

/-- The same request for the page of `L` runs at an offset. -/
def page (req : ListTestRunsRequest) (L offset : ℕ) : ListTestRunsRequest :=
  { req with limit := L, offset := offset }

end ListTestRunsRequest

/-- The first guarded slice of the store in memory. -/
def sliceFrom (offset : ℤ) (results : List TestRun) : List TestRun :=
  if offset > 0 ∧ offset < results.length then results.drop offset.toNat else results

/-- The second guarded slice of the store in memory. -/
def sliceTo (limit : ℤ) (results : List TestRun) : List TestRun :=
  if limit > 0 ∧ limit < results.length then results.take limit.toNat else results

/-- The runs that pass the filter, in the order `o` of the map loop. -/
def Store.matching (s : Store) (o : RangeOrder String) (req : ListTestRunsRequest) :
    List TestRun :=
  ((o.order s.testRuns.keys).filterMap fun id => s.testRuns.lookup id).filter fun run =>
    req.passes run.deviceID run.status

/-- `MemoryStore.ListTestRuns`. -/
def Store.listTestRuns (s : Store) (o : RangeOrder String) (req : ListTestRunsRequest) :
    List TestRun :=
  sliceTo req.limit (sliceFrom req.offset (s.matching o req))

/-- An order in which the database may return rows for `ORDER BY created_at DESC`. -/
structure RowOrder where
  order : List PgTestRun → List PgTestRun
  perm : ∀ rows, (order rows).Perm rows
  sorted : ∀ rows, (order rows).Pairwise fun a b => b.createdAt ≤ a.createdAt

/-- The rows that pass the filter. -/
def PgStore.matching {ty : PgColumns} (s : PgStore ty) (req : ListTestRunsRequest) :
    List PgTestRun :=
  (s.testRuns.keys.filterMap fun id => s.testRuns.lookup id).filter fun row =>
    req.passes row.deviceID row.status

/-- `OFFSET`, which is left out of the query unless it is positive. -/
def offsetRows (offset : ℤ) (rows : List PgTestRun) : List PgTestRun :=
  if offset > 0 then rows.drop offset.toNat else rows

/-- `LIMIT`, which is left out of the query unless it is positive. -/
def limitRows (limit : ℤ) (rows : List PgTestRun) : List PgTestRun :=
  if limit > 0 then rows.take limit.toNat else rows

/-- `PostgresStore.ListTestRuns`, for a filter of texts that the columns take. -/
def PgStore.listTestRuns {ty : PgColumns} (s : PgStore ty) (o : RowOrder)
    (req : ListTestRunsRequest) : List TestRun :=
  (limitRows req.limit (offsetRows req.offset (o.order (s.matching req)))).map PgTestRun.toTestRun

/-! ### What pages are for -/

/-- **The pages cover everything**: those at the offsets `0, L, 2L, …` contain every run of the list
once, and those at or beyond the end of the list are empty. -/
structure PagesCover (runs : List TestRun) (L : ℕ) (page : ℕ → List TestRun) : Prop where
  once : ∀ n, runs.length ≤ n * L → ((List.range n).flatMap page).Perm runs
  ends : ∀ k, runs.length ≤ k * L → page k = []

theorem PagesCover.exists_nil {runs : List TestRun} {L : ℕ} {page : ℕ → List TestRun} (hL : 1 ≤ L)
    (h : PagesCover runs L page) : ∃ k, page k = [] :=
  ⟨runs.length, h.ends _ (Nat.le_mul_of_pos_right _ hL)⟩

/-- **Consecutive pages make up the list.** -/
theorem flatMap_pages {α : Type} (xs : List α) (L n : ℕ) :
    ((List.range n).flatMap fun k => (xs.drop (k * L)).take L) = xs.take (n * L) := by
  induction n with
  | zero => simp
  | succ n ih =>
      rw [List.range_succ, List.flatMap_append, ih, List.flatMap_singleton, Nat.succ_mul,
        List.take_add]

theorem pagesCover_of_slices {runs xs : List TestRun} {L : ℕ} (hperm : xs.Perm runs) :
    PagesCover runs L fun k => (xs.drop (k * L)).take L := by
  constructor
  · intro n hn
    rw [flatMap_pages, List.take_of_length_le (by rw [hperm.length_eq]; exact hn)]
    exact hperm
  · intro k hk
    rw [List.drop_of_length_le (by rw [hperm.length_eq]; exact hk), List.take_nil]

namespace Store

variable {s : Store} {req : ListTestRunsRequest}

/-! ### The store in memory -/

theorem matching_perm (s : Store) (o o' : RangeOrder String) (req : ListTestRunsRequest) :
    (s.matching o req).Perm (s.matching o' req) :=
  (((o.perm _).trans (o'.perm _).symm).filterMap _).filter _

theorem sliceFrom_ne_nil (offset : ℤ) {results : List TestRun} (h : results ≠ []) :
    sliceFrom offset results ≠ [] := by
  unfold sliceFrom
  split
  · next hoffset =>
      rw [← List.length_pos_iff, List.length_drop]
      omega
  · exact h

theorem sliceTo_ne_nil (limit : ℤ) {results : List TestRun} (h : results ≠ []) :
    sliceTo limit results ≠ [] := by
  unfold sliceTo
  split
  · next hlimit =>
      rw [← List.length_pos_iff, List.length_take]
      omega
  · exact h

/-- **No page is empty** if a run matches. -/
theorem listTestRuns_ne_nil {o : RangeOrder String} (L offset : ℕ) (h : s.matching o req ≠ []) :
    s.listTestRuns o (req.page L offset) ≠ [] :=
  sliceTo_ne_nil _ (sliceFrom_ne_nil _ h)

theorem listTestRuns_eq_nil {o : RangeOrder String} (L offset : ℕ) (h : s.matching o req = []) :
    s.listTestRuns o (req.page L offset) = [] := by
  have hmatching : s.matching o (req.page L offset) = [] := h
  rw [listTestRuns, hmatching]
  simp [sliceTo, sliceFrom]

theorem matching_eq_nil_iff {o : RangeOrder String} : s.matching o req = [] ↔
    ∀ id run, s.testRuns.lookup id = some run → req.passes run.deviceID run.status = false := by
  rw [matching, List.filter_eq_nil_iff]
  constructor
  · intro h id run hrun
    rw [← Bool.not_eq_true]
    refine h run (List.mem_filterMap.2 ⟨id, ?_, hrun⟩)
    rw [(o.perm _).mem_iff, ← AList.mem_keys, ← AList.lookup_isSome, hrun]
    rfl
  · intro h run hmem
    obtain ⟨id, _, hrun⟩ := List.mem_filterMap.1 hmem
    rw [h id run hrun]
    exact Bool.false_ne_true

/-- **When the pages of a store in memory cover everything**, for any page size and whatever order
the loop takes for each page: when no run matches. -/
theorem pagesCover_iff (s : Store) (req : ListTestRunsRequest) {L : ℕ} (hL : 1 ≤ L)
    (o : RangeOrder String) (orders : ℕ → RangeOrder String) :
    PagesCover (s.matching o req) L (fun k => s.listTestRuns (orders k) (req.page L (k * L))) ↔
      ∀ id run, s.testRuns.lookup id = some run → req.passes run.deviceID run.status = false := by
  rw [← matching_eq_nil_iff]
  constructor
  · intro h
    by_contra hne
    obtain ⟨k, hk⟩ := h.exists_nil hL
    refine listTestRuns_ne_nil L (k * L) ?_ hk
    intro hnil
    have hperm := s.matching_perm o (orders k) req
    rw [hnil] at hperm
    exact hne hperm.eq_nil
  · intro hnil
    have hpage : ∀ k, s.listTestRuns (orders k) (req.page L (k * L)) = [] := by
      intro k
      refine listTestRuns_eq_nil L (k * L) ?_
      have hperm := s.matching_perm (orders k) o req
      rw [hnil] at hperm
      exact hperm.eq_nil
    rw [hnil]
    refine ⟨fun n _ => ?_, fun k _ => hpage k⟩
    simp [hpage]

def oneRun : Store :=
  (newMemoryStore.createTestRun "run-1" 0
    { id := "", deviceID := "gpgpu", testSuiteID := "smoke", status := .pending }).2

/-- The pages for a filter that the only run does not pass. -/
theorem pagesCover_other_device :
    (1 : ℕ) ≤ 1 ∧
      PagesCover (oneRun.matching (.stored String) { deviceID := "fpga" }) 1 fun k =>
        oneRun.listTestRuns (.stored String)
          (ListTestRunsRequest.page { deviceID := "fpga" } 1 (k * 1)) := by
  refine ⟨le_rfl, (pagesCover_iff _ _ le_rfl _ _).2 ?_⟩
  intro id run h
  rcases lookup_of_insert h with ⟨_, rfl⟩ | ⟨_, hnone⟩
  · decide +kernel
  · rw [newMemoryStore, AList.lookup_empty] at hnone
    cases hnone

/-- **The only run over and over**: a client that lists the single run of a store one at a time gets
it on the first page, on the second page, and on every page after that. -/
theorem oneRun_on_every_page :
    (oneRun.listTestRuns (.stored String) (ListTestRunsRequest.page {} 1 0)).map TestRun.id =
        ["run-1"] ∧
      (oneRun.listTestRuns (.stored String) (ListTestRunsRequest.page {} 1 1)).map TestRun.id =
        ["run-1"] ∧
      ∀ (orders : ℕ → RangeOrder String) (k : ℕ),
        oneRun.listTestRuns (orders k) (ListTestRunsRequest.page {} 1 (k * 1)) ≠ [] := by
  refine ⟨by decide +kernel, by decide +kernel, fun orders k => listTestRuns_ne_nil _ _ ?_⟩
  rw [ne_eq, matching_eq_nil_iff]
  intro h
  have hrun := h "run-1" _ (AList.lookup_insert _)
  revert hrun
  decide +kernel

end Store

namespace PgStore

variable {ty : PgColumns} {s : PgStore ty} {req : ListTestRunsRequest}

/-! ### The database -/

/-- A page is cut out of the sorted rows. -/
theorem listTestRuns_page {L : ℕ} (hL : 1 ≤ L) (o : RowOrder) (offset : ℕ) :
    s.listTestRuns o (req.page L offset) =
      (((o.order (s.matching req)).map PgTestRun.toTestRun).drop offset).take L := by
  have hmatching : s.matching (req.page L offset) = s.matching req := rfl
  have hlimit : ∀ rows, limitRows L rows = rows.take L := by
    intro rows
    rw [limitRows, if_pos (by omega), Int.toNat_natCast]
  have hoffset : ∀ rows, offsetRows offset rows = rows.drop offset := by
    intro rows
    rw [offsetRows]
    split
    · rw [Int.toNat_natCast]
    · have hzero : offset = 0 := by omega
      rw [hzero, List.drop_zero]
  rw [listTestRuns, hmatching, ListTestRunsRequest.page, hlimit, hoffset, List.map_take,
    List.map_drop]

theorem order_unique {rows : List PgTestRun}
    (hdistinct : ∀ a ∈ rows, ∀ b ∈ rows, a.createdAt = b.createdAt → a = b) (o o' : RowOrder) :
    o.order rows = o'.order rows := by
  refine ((o.perm rows).trans (o'.perm rows).symm).eq_of_pairwise ?_ (o.sorted rows)
    (o'.sorted rows)
  intro a b ha hb hab hba
  exact hdistinct a ((o.perm rows).mem_iff.1 ha) b ((o'.perm rows).mem_iff.1 hb)
    (le_antisymm hba hab)

/-- **The pages of the database cover everything** and end, where no two of the rows were created at
the same time. -/
theorem pagesCover {L : ℕ} (hL : 1 ≤ L) (orders : ℕ → RowOrder)
    (hdistinct : ∀ a ∈ s.matching req, ∀ b ∈ s.matching req, a.createdAt = b.createdAt → a = b) :
    PagesCover ((s.matching req).map PgTestRun.toTestRun) L
      (fun k => s.listTestRuns (orders k) (req.page L (k * L))) := by
  have hpages : (fun k => s.listTestRuns (orders k) (req.page L (k * L))) = fun k =>
      ((((orders 0).order (s.matching req)).map PgTestRun.toTestRun).drop (k * L)).take L := by
    funext k
    rw [listTestRuns_page hL, order_unique hdistinct (orders k) (orders 0)]
  rw [hpages]
  exact pagesCover_of_slices (((orders 0).perm _).map _)

theorem listTestRuns_eq_nil {L : ℕ} (hL : 1 ≤ L) (o : RowOrder) {offset : ℕ}
    (h : (s.matching req).length ≤ offset) : s.listTestRuns o (req.page L offset) = [] := by
  rw [listTestRuns_page hL, List.drop_of_length_le, List.take_nil]
  rw [List.length_map, (o.perm _).length_eq]
  exact h

end PgStore

end Dvf
