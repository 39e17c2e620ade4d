/-
**The segments of a path** (`splitPath` in `internal/core/execution_engine.go`).

The loop of `splitPath` runs over the positions of the path and one position past its end, and moves
the start of the current segment behind every slash.  `Dvf/SuiteLoading.lean` follows it with its
bounds checked; here its result is compared with two descriptions of the segments that do not
mention the loop: splitting at the slashes and dropping the empty pieces, and the maximal parts of
the path without a slash, in their order.

Main definitions:

* `Segments.IsSegment` — a maximal part of a list without a separator, by its bounds;
* `Segments.spans` — the bounds of all of them, by one pass over the list.

Main results:

* `Segments.mem_spans`, `Segments.spans_pairwise` — the pass finds the segments, in their order;
* `Dvf.splitPathLoop_eq_spans`, `Dvf.splitPathLoop_eq_splitOn` — the loop does the same;
* `Dvf.splitPath_computes_segments` — **the result of `splitPath`**.
-/

import Dvf.GoPaths
import Dvf.SuiteLoading

set_option autoImplicit false

namespace Segments

variable {α : Type} {sep : α} {xs : List α}

/-! ### Maximal parts without a separator -/

/-- The part of `xs` between the bounds has an element and no separator, and cannot be made longer
on either side. -/
structure IsSegment (sep : α) (xs : List α) (b : ℕ × ℕ) : Prop where
  lt : b.1 < b.2
  le : b.2 ≤ xs.length
  free : ∀ k, b.1 ≤ k → k < b.2 → xs[k]? ≠ some sep
  left : b.1 = 0 ∨ xs[b.1 - 1]? = some sep
  right : b.2 = xs.length ∨ xs[b.2]? = some sep

/-- The part of `xs` between the bounds. -/
def slice (xs : List α) (b : ℕ × ℕ) : List α := (xs.take b.2).drop b.1

/-- The part that began at `start` and ends before the position `i`, if it is not empty. -/
def closed (start i : ℕ) : List (ℕ × ℕ) := if start < i then [(start, i)] else []

/-- The bounds of the segments, from the position `i` on and with the start of the current one. -/
def spans [DecidableEq α] (sep : α) : List α → ℕ → ℕ → List (ℕ × ℕ)
  | [], i, start => closed start i
  | c :: cs, i, start =>
      if c = sep then closed start i ++ spans sep cs (i + 1) (i + 1) else spans sep cs (i + 1) start

theorem mem_closed {start i : ℕ} {b : ℕ × ℕ} :
    b ∈ closed start i ↔ start < i ∧ b = (start, i) := by
  unfold closed
  split
  · next h => simp [h]
  · next h => simp [h]

/-- A pass over a list at the position `i`: no separator stands between the start of the current
segment and the position, and the start is where a segment may begin. -/
structure Scanning (sep : α) (xs : List α) (i start : ℕ) : Prop where
  le : i ≤ xs.length
  start_le : start ≤ i
  free : ∀ k, start ≤ k → k < i → xs[k]? ≠ some sep
  left : start = 0 ∨ xs[start - 1]? = some sep

theorem Scanning.zero : Scanning sep xs 0 0 :=
  ⟨Nat.zero_le _, le_rfl, fun _ _ hk => absurd hk (Nat.not_lt_zero _), Or.inl rfl⟩

theorem Scanning.next {i : ℕ} (hi : xs[i]? = some sep) : Scanning sep xs (i + 1) (i + 1) := by
  have hlt : i < xs.length := (List.getElem?_eq_some_iff.1 hi).1
  exact ⟨by omega, le_rfl, fun k hk hk' => by omega, Or.inr hi⟩

theorem Scanning.other {c : α} {i start : ℕ} (hi : xs[i]? = some c) (hc : c ≠ sep)
    (h : Scanning sep xs i start) : Scanning sep xs (i + 1) start := by
  have hlt : i < xs.length := (List.getElem?_eq_some_iff.1 hi).1
  refine ⟨by omega, Nat.le_succ_of_le h.start_le, fun k hk hk' => ?_, h.left⟩
  by_cases hki : k = i
  · rw [hki, hi]
    exact fun heq => hc (Option.some.inj heq)
  · exact h.free k hk (by omega)

/-- **Where a segment has to end**: at the end of the list or at a separator, the segment that
begins before the position is the current one. -/
theorem Scanning.isSegment_iff {i start : ℕ} (h : Scanning sep xs i start)
    (hend : i = xs.length ∨ xs[i]? = some sep) {b : ℕ × ℕ} :
    IsSegment sep xs b ∧ start ≤ b.1 ∧ b.1 ≤ i ↔ b ∈ closed start i := by
  rw [mem_closed]
  constructor
  · rintro ⟨hb, hstart, hi⟩
    have hle := hb.le
    have hlt := hb.lt
    -- the position itself is not in the segment
    have hright : b.2 ≤ i := by
      by_contra hgt
      rcases hend with rfl | hsep
      · omega
      · exact hb.free i hi (by omega) hsep
    have hb2 : b.2 = i := by
      by_contra hne
      rcases hb.right with heq | hsep
      · have := h.le
        omega
      · exact h.free b.2 (by omega) (by omega) hsep
    have hb1 : b.1 = start := by
      by_contra hne
      rcases hb.left with heq | hsep
      · omega
      · exact h.free (b.1 - 1) (by omega) (by omega) hsep
    exact ⟨by omega, Prod.ext hb1 hb2⟩
  · rintro ⟨hlt, rfl⟩
    exact ⟨⟨hlt, h.le, h.free, h.left, hend⟩, le_rfl, Nat.le_of_lt hlt⟩

theorem drop_cons {c : α} {cs : List α} {i : ℕ} (h : xs.drop i = c :: cs) :
    xs[i]? = some c ∧ xs.drop (i + 1) = cs := by
  constructor
  · have := congrArg List.head? h
    rwa [List.head?_drop, List.head?_cons] at this
  · rw [← List.drop_drop, h, List.drop_one, List.tail_cons]

theorem eq_length_of_drop {i : ℕ} (h : xs.drop i = []) (hi : i ≤ xs.length) : i = xs.length := by
  have := List.drop_eq_nil_iff.1 h
  omega

/-- **The pass finds the segments** that begin at the current start or later. -/
theorem mem_spans [DecidableEq α] {cs : List α} : ∀ {i start : ℕ}, xs.drop i = cs →
    Scanning sep xs i start → ∀ b, b ∈ spans sep cs i start ↔ IsSegment sep xs b ∧ start ≤ b.1 := by
  induction cs with
  | nil =>
      intro i start hcs h b
      have hend := eq_length_of_drop hcs h.le
      rw [spans, ← h.isSegment_iff (Or.inl hend)]
      constructor
      · rintro ⟨hb, hstart, _⟩
        exact ⟨hb, hstart⟩
      · rintro ⟨hb, hstart⟩
        have hlt := hb.lt
        have hle := hb.le
        exact ⟨hb, hstart, by omega⟩
  | cons c cs ih =>
      intro i start hcs h b
      obtain ⟨hi, hnext⟩ := drop_cons hcs
      have hstart_le := h.start_le
      rw [spans]
      by_cases hc : c = sep
      · subst hc
        rw [if_pos rfl, List.mem_append, ih hnext (Scanning.next hi), ← h.isSegment_iff (Or.inr hi)]
        constructor
        · rintro (⟨hb, hstart, _⟩ | ⟨hb, hlater⟩)
          · exact ⟨hb, hstart⟩
          · exact ⟨hb, by omega⟩
        · rintro ⟨hb, hstart⟩
          by_cases hle : b.1 ≤ i
          · exact Or.inl ⟨hb, hstart, hle⟩
          · exact Or.inr ⟨hb, by omega⟩
      · rw [if_neg hc, ih hnext (h.other hi hc)]

/-- **The segments come in their order**, with a separator between any two of them. -/
theorem spans_pairwise [DecidableEq α] {cs : List α} : ∀ {i start : ℕ}, xs.drop i = cs →
    Scanning sep xs i start → (spans sep cs i start).Pairwise fun a b => a.2 < b.1 := by
  have hclosed : ∀ start i : ℕ, (closed start i).Pairwise fun a b => a.2 < b.1 := by
    intro start i
    unfold closed
    split
    · exact List.pairwise_singleton _ _
    · exact List.Pairwise.nil
  induction cs with
  | nil => exact fun _ _ => hclosed _ _
  | cons c cs ih =>
      intro i start hcs h
      obtain ⟨hi, hnext⟩ := drop_cons hcs
      rw [spans]
      by_cases hc : c = sep
      · subst hc
        rw [if_pos rfl, List.pairwise_append]
        refine ⟨hclosed _ _, ih hnext (Scanning.next hi), ?_⟩
        intro a ha b hb
        rw [mem_closed] at ha
        rw [mem_spans hnext (Scanning.next hi)] at hb
        rw [ha.2]
        exact hb.2
      · rw [if_neg hc]
        exact ih hnext (h.other hi hc)

theorem IsSegment.slice_spec {b : ℕ × ℕ} (h : IsSegment sep xs b) :
    slice xs b ≠ [] ∧ sep ∉ slice xs b := by
  have hlt := h.lt
  have hle := h.le
  constructor
  · rw [← List.length_pos_iff, slice, List.length_drop, List.length_take]
    omega
  · intro hmem
    obtain ⟨k, hk⟩ := List.mem_iff_getElem?.1 hmem
    rw [slice, List.getElem?_drop, List.getElem?_take] at hk
    split at hk
    · next hbound => exact h.free (b.1 + k) (by omega) hbound hk
    · cases hk

end Segments

namespace Dvf

open Segments

/-! ### The loop of the source -/

/-- **The loop finds the segments by their bounds**: at the position `i`, with the characters `seg`
of the current segment read, the last one first. -/
theorem splitPathLoop_eq_spans (p cs : List Char) : ∀ (seg : List Char) (i start : ℕ),
    p.drop i = cs → i ≤ p.length → start ≤ i → slice p (start, i) = seg.reverse →
      splitPathLoop cs seg =
        (spans '/' cs i start).map fun b => String.ofList (slice p b) := by
  have hclosed : ∀ {seg : List Char} {i start : ℕ}, i ≤ p.length → start ≤ i →
      slice p (start, i) = seg.reverse →
      (if seg.isEmpty then [] else [String.ofList seg.reverse]) =
        (closed start i).map fun b => String.ofList (slice p b) := by
    intro seg i start hi hstart hseg
    have hlength := congrArg List.length hseg
    rw [slice, List.length_drop, List.length_take, List.length_reverse] at hlength
    unfold closed
    by_cases hlt : start < i
    · have hne : seg.isEmpty = false := by
        rw [List.isEmpty_eq_false_iff, ← List.length_pos_iff]
        omega
      rw [hne, if_pos hlt, List.map_singleton, hseg]
      rfl
    · have hnil : seg = [] := List.length_eq_zero_iff.1 (by omega)
      rw [if_neg hlt, hnil]
      rfl
  induction cs with
  | nil =>
      intro seg i start _ hi hstart hseg
      rw [splitPathLoop, spans]
      exact hclosed hi hstart hseg
  | cons c cs ih =>
      intro seg i start hcs hi hstart hseg
      obtain ⟨hget, hnext⟩ := drop_cons hcs
      have hlt : i < p.length := (List.getElem?_eq_some_iff.1 hget).1
      rw [splitPathLoop, spans]
      by_cases hc : c = '/'
      · rw [if_pos hc, if_pos hc, List.map_append, ← hclosed hi hstart hseg,
          ← ih [] (i + 1) (i + 1) hnext (by omega) le_rfl (by simp [slice])]
        cases seg with
        | nil => rfl
        | cons a seg => rfl
      · rw [if_neg hc, if_neg hc]
        refine ih (c :: seg) (i + 1) start hnext (by omega) (by omega) ?_
        rw [slice, List.take_add_one, hget, List.drop_append_of_le_length (by simp; omega),
          List.reverse_cons, ← hseg]
        rfl

theorem modifyHead_reverse_nil (pieces : List (List Char)) :
    pieces.modifyHead (([] : List Char).reverse ++ ·) = pieces :=
  congrFun List.modifyHead_id pieces

/-- **The loop splits at the slashes**: the pieces of the rest, the first one with what the current
segment already has, without the empty ones. -/
theorem splitPathLoop_eq_splitOn (cs : List Char) : ∀ seg : List Char,
    (splitPathLoop cs seg).map String.toList =
      ((cs.splitOn '/').modifyHead (seg.reverse ++ ·)).filter (· ≠ []) := by
  induction cs with
  | nil =>
      intro seg
      rw [splitPathLoop, List.splitOn_nil]
      cases seg with
      | nil => rfl
      | cons a seg => simp
  | cons c cs ih =>
      intro seg
      have hloop := ih []
      rw [modifyHead_reverse_nil] at hloop
      rw [splitPathLoop, Go.splitOn_cons]
      by_cases hc : c = '/'
      · rw [if_pos hc, if_pos hc, List.modifyHead_cons, List.append_nil]
        cases seg with
        | nil => simpa using hloop
        | cons a seg => simp [hloop]
      · rw [if_neg hc, if_neg hc, ih]
        congr 1
        rw [List.modifyHead_modifyHead]
        simp [Function.comp_def]

/-- **`splitPath` computes the segments of a path**: it stays within the path, and returns the
pieces between the slashes without the empty ones, which are the maximal parts without a slash, each
one once and in their order.  No segment is empty or has a slash, and there is none just when the
path is made of slashes. -/
theorem splitPath_computes_segments (p : List Char) :
    ∃ (parts : List String) (bounds : List (ℕ × ℕ)), splitPathChecked p = some parts ∧
      parts.map String.toList = (p.splitOn '/').filter (· ≠ []) ∧
      parts = bounds.map (fun b => String.ofList (slice p b)) ∧
      bounds.Pairwise (fun a b => a.2 < b.1) ∧
      (∀ b, b ∈ bounds ↔ IsSegment '/' p b) ∧
      (∀ part ∈ parts, part ≠ "" ∧ '/' ∉ part.toList) ∧
      (parts = [] ↔ ∀ c ∈ p, c = '/') := by
  have hdrop : p.drop 0 = p := rfl
  have hbounds : ∀ b, b ∈ spans '/' p 0 0 ↔ IsSegment '/' p b := by
    intro b
    rw [mem_spans hdrop Scanning.zero]
    exact and_iff_left (Nat.zero_le _)
  have hspans : splitPath (String.ofList p) =
      (spans '/' p 0 0).map fun b => String.ofList (slice p b) := by
    rw [splitPath, String.toList_ofList]
    exact splitPathLoop_eq_spans p p [] 0 0 rfl (Nat.zero_le _) le_rfl rfl
  refine ⟨_, spans '/' p 0 0, splitPathChecked_eq p, ?_, hspans,
    spans_pairwise hdrop Scanning.zero, hbounds, ?_, ?_⟩
  · rw [splitPath, String.toList_ofList, splitPathLoop_eq_splitOn, modifyHead_reverse_nil]
  · intro part hpart
    rw [hspans, List.mem_map] at hpart
    obtain ⟨b, hb, rfl⟩ := hpart
    obtain ⟨hne, hfree⟩ := ((hbounds b).1 hb).slice_spec
    exact ⟨by simpa using hne, by rwa [String.toList_ofList]⟩
  · rw [splitPath_eq_nil_iff, String.toList_ofList]

end Dvf
