/-
**Lexical paths** (package `path/filepath` of Go, with slashes).

`Clean` works on the elements of a path, between the slashes, with a stack: an element is pushed,
`.` and empty elements are dropped, `..` takes the element below it away.  Here paths are compared
by their *resolution*: the elements one arrives at by following a path from a working directory,
without looking at any file.  Cleaning a path does not change its resolution, and joining paths is
following one after the other.

Main definitions:

* `Go.elems` — the elements of a path;
* `Go.IsElem` — an element that names something;
* `Go.resolve` — following a path from a working directory;
* `Go.rootPath` — the clean path of a list of elements;
* `Go.relative` — how far a relative path goes up, and how it goes down from there.

Main results:

* `Go.resolve_pathClean`, `Go.resolve_pathJoin` — cleaning and joining;
* `Go.cleaned_elems_eq` — following a relative path, by `Go.relative`;
* `Go.pathDir_rootPath` — the parent directory.
-/

import Dvf.Go
import Mathlib.Data.List.Induction

set_option autoImplicit false

namespace Go

/-! ### Elements -/

/-- The elements of a path: what is between the slashes. -/
def elems (path : String) : List String := (path.toList.splitOn '/').map String.ofList

/-- An element that names something in a directory. -/
structure IsElem (e : String) : Prop where
  ne_empty : e ≠ ""
  ne_dot : e ≠ "."
  ne_dotdot : e ≠ ".."
  slash_free : '/' ∉ e.toList

theorem isElem_iff {e : String} : IsElem e ↔ e ≠ "" ∧ e ≠ "." ∧ e ≠ ".." ∧ '/' ∉ e.toList := by
  constructor
  · intro h
    exact ⟨h.ne_empty, h.ne_dot, h.ne_dotdot, h.slash_free⟩
  · rintro ⟨hempty, hdot, hdotdot, hslash⟩
    exact ⟨hempty, hdot, hdotdot, hslash⟩

instance (e : String) : Decidable (IsElem e) := decidable_of_iff _ isElem_iff.symm

section Split

variable {α : Type} [DecidableEq α]

theorem splitOn_cons (sep c : α) (cs : List α) :
    (c :: cs).splitOn sep =
      if c = sep then [] :: cs.splitOn sep else (cs.splitOn sep).modifyHead (c :: ·) := by
  rw [List.splitOn, List.splitOnP_cons_eq_if_modifyHead]
  simp only [beq_iff_eq]
  rfl

/-- The pieces have no separator. -/
theorem not_mem_of_mem_splitOn {sep : α} {xs : List α} : ∀ ys ∈ xs.splitOn sep, sep ∉ ys := by
  induction xs with
  | nil =>
      intro ys hys
      rw [List.splitOn_nil, List.mem_singleton] at hys
      simp [hys]
  | cons c cs ih =>
      intro ys hys
      rw [splitOn_cons] at hys
      split at hys
      · rcases List.mem_cons.1 hys with rfl | hys
        · simp
        · exact ih ys hys
      · next hc =>
          cases hpieces : cs.splitOn sep with
          | nil =>
              rw [hpieces] at hys
              cases hys
          | cons piece pieces =>
              rw [hpieces] at hys ih
              rcases List.mem_cons.1 hys with rfl | hys
              · have hpiece := ih piece List.mem_cons_self
                simp [hpiece, Ne.symm hc]
              · exact ih ys (List.mem_cons_of_mem _ hys)

end Split

theorem slash_free_of_mem_elems {path e : String} (h : e ∈ elems path) : '/' ∉ e.toList := by
  obtain ⟨cs, hcs, rfl⟩ := List.mem_map.1 h
  rw [String.toList_ofList]
  exact not_mem_of_mem_splitOn cs hcs

theorem elems_of_slash_free {e : String} (h : '/' ∉ e.toList) : elems e = [e] := by
  rw [elems, List.splitOn_eq_singleton h, List.map_singleton, String.ofList_toList]

theorem elems_slash (a b : String) : elems (a ++ "/" ++ b) = elems a ++ elems b := by
  have hlist : (a ++ "/" ++ b).toList = a.toList ++ '/' :: b.toList := by
    simp [String.toList_append]
  rw [elems, hlist, List.splitOn_append_cons_self, List.map_append]
  rfl

theorem elems_intercalate (s : String) (ss : List String) :
    elems ("/".intercalate (s :: ss)) = (s :: ss).flatMap elems := by
  induction ss generalizing s with
  | nil => simp [String.intercalate_singleton]
  | cons t ss ih =>
      have hcons : "/".intercalate (s :: t :: ss) = s ++ "/" ++ "/".intercalate (t :: ss) := by
        rw [← String.toList_inj]
        simp [String.toList_intercalate]
      rw [hcons, elems_slash, ih t, ← List.flatMap_cons]

theorem flatMap_elems {es : List String} (h : ∀ e ∈ es, '/' ∉ e.toList) :
    es.flatMap elems = es := by
  induction es with
  | nil => rfl
  | cons e es ih =>
      rw [List.forall_mem_cons] at h
      rw [List.flatMap_cons, elems_of_slash_free h.1, ih h.2, List.singleton_append]

theorem elems_intercalate_of_slash_free {es : List String} (hne : es ≠ [])
    (h : ∀ e ∈ es, '/' ∉ e.toList) : elems ("/".intercalate es) = es := by
  obtain ⟨e, es, rfl⟩ := List.exists_cons_of_ne_nil hne
  rw [elems_intercalate, flatMap_elems h]

/-! ### Cleaning -/

def rooted (path : String) : Bool := path.toList.head? = some '/'

/-- The clean path of a list of elements, from the root. -/
def rootPath (es : List String) : String := "/" ++ "/".intercalate es

/-- The stack of `Clean` after some elements, the last one first. -/
def cleaned (rooted : Bool) (st es : List String) : List String := es.foldl (cleanElem rooted) st

theorem pathClean_eq (path : String) : pathClean path =
    if rooted path then rootPath (cleaned true [] (elems path)).reverse
    else if (cleaned false [] (elems path)).reverse = [] then "."
    else "/".intercalate (cleaned false [] (elems path)).reverse := by
  unfold pathClean rooted cleaned elems rootPath
  by_cases h : path.toList.head? = some '/'
  · simp [h]
  · simp [h]

section Clean

variable {r : Bool} {st es : List String} {e : String}

theorem cleaned_append (es' : List String) :
    cleaned r st (es ++ es') = cleaned r (cleaned r st es) es' := List.foldl_append

theorem cleaned_concat : cleaned r st (es ++ [e]) = cleanElem r (cleaned r st es) e :=
  List.foldl_concat _ _ _ _

theorem cleanElem_skip (h : e = "" ∨ e = ".") : cleanElem r st e = st := if_pos h

theorem cleanElem_push (h : e ≠ "" ∧ e ≠ ".") (hup : e ≠ "..") : cleanElem r st e = e :: st := by
  simp [cleanElem, h, hup]

theorem cleanElem_up (h : ".." ∉ st) : cleanElem true st ".." = st.tail := by
  cases st with
  | nil => rfl
  | cons last rest =>
      have hne : last ≠ ".." := fun heq => h (heq ▸ List.mem_cons_self)
      simp [cleanElem, hne]

/-- What is on the stack after an element: the element, or what was there before. -/
theorem mem_cleanElem {x : String} (h : x ∈ cleanElem r st e) :
    x ∈ st ∨ x = e ∧ e ≠ "" ∧ e ≠ "." ∧ (r = true → e ≠ "..") := by
  by_cases hskip : e = "" ∨ e = "."
  · rw [cleanElem_skip hskip] at h
    exact Or.inl h
  · rw [not_or] at hskip
    by_cases hup : e = ".."
    · subst hup
      cases st with
      | nil =>
          cases r with
          | true => cases h
          | false => exact Or.inr ⟨List.mem_singleton.1 h, by decide, by decide, by simp⟩
      | cons last rest =>
          by_cases hlast : last = ".."
          · have hpush : cleanElem r (last :: rest) ".." = ".." :: last :: rest := by
              simp [cleanElem, hlast]
            rw [hpush, hlast] at h
            rcases List.mem_cons.1 h with rfl | h
            · exact Or.inl (hlast ▸ List.mem_cons_self)
            · exact Or.inl (hlast ▸ h)
          · have hpop : cleanElem r (last :: rest) ".." = rest := by
              simp [cleanElem, hlast]
            rw [hpop] at h
            exact Or.inl (List.mem_cons_of_mem _ h)
    · rw [cleanElem_push hskip hup] at h
      rcases List.mem_cons.1 h with rfl | h
      · exact Or.inr ⟨rfl, hskip.1, hskip.2, fun _ => hup⟩
      · exact Or.inl h

theorem mem_cleaned {x : String} (h : x ∈ cleaned r st es) :
    x ∈ st ∨ x ∈ es ∧ x ≠ "" ∧ x ≠ "." ∧ (r = true → x ≠ "..") := by
  induction es generalizing st with
  | nil => exact Or.inl h
  | cons e es ih =>
      rcases ih h with h | ⟨hmem, hne⟩
      · rcases mem_cleanElem h with h | ⟨rfl, hne⟩
        · exact Or.inl h
        · exact Or.inr ⟨List.mem_cons_self, hne⟩
      · exact Or.inr ⟨List.mem_cons_of_mem _ hmem, hne⟩

theorem cleaned_of_isElem (h : ∀ e ∈ es, IsElem e) : cleaned r st es = es.reverse ++ st := by
  induction es generalizing st with
  | nil => rfl
  | cons e es ih =>
      rw [List.forall_mem_cons] at h
      have hpush : cleanElem r st e = e :: st :=
        cleanElem_push ⟨h.1.ne_empty, h.1.ne_dot⟩ h.1.ne_dotdot
      have hrest : cleaned r st (e :: es) = cleaned r (e :: st) es := by
        rw [cleaned, List.foldl_cons, hpush]
        rfl
      rw [hrest, ih h.2, List.reverse_cons, List.append_assoc, List.singleton_append]

theorem isElem_of_mem_cleaned {path x : String} (h : x ∈ cleaned true [] (elems path)) :
    IsElem x := by
  rcases mem_cleaned h with h | ⟨hmem, hempty, hdot, hup⟩
  · cases h
  · exact ⟨hempty, hdot, hup rfl, slash_free_of_mem_elems hmem⟩

/-- **Cleaning a relative path does not change where it leads** from a directory. -/
theorem cleaned_cleaned (h : ".." ∉ st) :
    cleaned true st (cleaned false [] es).reverse = cleaned true st es := by
  -- the stack of a relative path may have two dots at its bottom
  induction es using List.reverseRecOn with
  | nil => rfl
  | append_singleton es e ih =>
      rw [cleaned_concat, cleaned_concat, ← ih]
      by_cases hskip : e = "" ∨ e = "."
      · rw [cleanElem_skip hskip, cleanElem_skip hskip]
      · rw [not_or] at hskip
        by_cases hup : e = ".."
        · subst hup
          cases hst : cleaned false [] es with
          | nil => rfl
          | cons last rest =>
              by_cases hlast : last = ".."
              · have hpush : cleanElem false (last :: rest) ".." = ".." :: last :: rest := by
                  simp [cleanElem, hlast]
                rw [hpush, List.reverse_cons, cleaned_concat]
              · have hpop : cleanElem false (last :: rest) ".." = rest := by
                  simp [cleanElem, hlast]
                have hnames : last ≠ "" ∧ last ≠ "." := by
                  rcases mem_cleaned (hst ▸ List.mem_cons_self : last ∈ cleaned false [] es) with
                    hmem | ⟨_, hempty, hdot, _⟩
                  · cases hmem
                  · exact ⟨hempty, hdot⟩
                have hfree : ".." ∉ cleaned true st rest.reverse := by
                  intro hmem
                  rcases mem_cleaned hmem with hmem | ⟨_, _, _, hne⟩
                  · exact h hmem
                  · exact hne rfl rfl
                rw [hpop, List.reverse_cons, cleaned_concat, cleanElem_push hnames hlast,
                  cleanElem_up (by simp [hfree, Ne.symm hlast]), List.tail_cons]
        · rw [cleanElem_push hskip hup, List.reverse_cons, cleaned_concat]

end Clean

/-! ### Following a path -/

/-- **Following a path** from a working directory: the elements that one arrives at. -/
def resolve (cwd : List String) (path : String) : List String :=
  (cleaned true (if rooted path then [] else cwd.reverse) (elems path)).reverse

theorem empty_mem_elems {path : String} (h : rooted path = true) : "" ∈ elems path := by
  have hhead : path.toList.head? = some '/' := by simpa [rooted] using h
  obtain ⟨cs, hcs⟩ := List.head?_eq_some_iff.1 hhead
  rw [elems, hcs, splitOn_cons, if_pos rfl, List.map_cons]
  exact List.mem_cons_self

theorem rooted_rootPath (es : List String) : rooted (rootPath es) = true := by
  simp [rooted, rootPath, String.toList_append]

theorem elems_empty : elems "" = [""] := elems_of_slash_free (by simp)

theorem elems_rootPath (es : List String) :
    elems (rootPath es) = [""] ++ elems ("/".intercalate es) := by
  have hslash : rootPath es = "" ++ "/" ++ "/".intercalate es := by
    rw [rootPath, String.empty_append]
  rw [hslash, elems_slash, elems_empty]

theorem cleaned_elems_rootPath {es st : List String} {r : Bool} (h : ∀ e ∈ es, IsElem e) :
    cleaned r st (elems (rootPath es)) = es.reverse ++ st := by
  have hskip : ∀ st, cleaned r st [""] = st := fun st => cleanElem_skip (r := r) (Or.inl rfl)
  rw [elems_rootPath, cleaned_append, hskip]
  by_cases hes : es = []
  · rw [hes, String.intercalate_nil, elems_empty, hskip]
    rfl
  · rw [elems_intercalate_of_slash_free hes fun e he => (h e he).slash_free, cleaned_of_isElem h]

theorem length_lt_elems_rootPath {es : List String} (h : ∀ e ∈ es, IsElem e) :
    es.length < (elems (rootPath es)).length := by
  rw [elems_rootPath]
  by_cases hes : es = []
  · simp [hes]
  · rw [elems_intercalate_of_slash_free hes fun e he => (h e he).slash_free]
    simp

theorem resolve_rootPath {es : List String} (h : ∀ e ∈ es, IsElem e) (cwd : List String) :
    resolve cwd (rootPath es) = es := by
  rw [resolve, rooted_rootPath, cleaned_elems_rootPath h]
  simp

/-- **Cleaning a path does not change where it leads.** -/
theorem resolve_pathClean {cwd : List String} (hcwd : ".." ∉ cwd) (path : String) :
    resolve cwd (pathClean path) = resolve cwd path := by
  rw [pathClean_eq]
  split
  · next hroot =>
      rw [resolve_rootPath fun e he => isElem_of_mem_cleaned (List.mem_reverse.1 he), resolve,
        hroot]
      rfl
  · next hroot =>
      have hcwd' : ".." ∉ cwd.reverse := by rwa [List.mem_reverse]
      have hclean : cleaned true cwd.reverse (cleaned false [] (elems path)).reverse =
          cleaned true cwd.reverse (elems path) := cleaned_cleaned hcwd'
      have hpath : resolve cwd path = (cleaned true cwd.reverse (elems path)).reverse := by
        rw [resolve, if_neg hroot]
      rw [hpath, ← hclean]
      split
      · next hnil =>
          rw [hnil]
          simp [resolve, rooted, elems_of_slash_free, cleaned, cleanElem]
      · next hne =>
          have hfree : ∀ e ∈ (cleaned false [] (elems path)).reverse, '/' ∉ e.toList ∧ e ≠ "" := by
            intro e he
            rcases mem_cleaned (List.mem_reverse.1 he) with h | ⟨hmem, hempty, _⟩
            · cases h
            · exact ⟨slash_free_of_mem_elems hmem, hempty⟩
          have helems := elems_intercalate_of_slash_free hne fun e he => (hfree e he).1
          have hroot' : ¬ rooted ("/".intercalate (cleaned false [] (elems path)).reverse) := by
            intro hroot'
            have hempty := empty_mem_elems hroot'
            rw [helems] at hempty
            exact (hfree "" hempty).2 rfl
          rw [resolve, if_neg hroot', helems]

/-- **Joining paths is following one after the other.** -/
theorem resolve_pathJoin {cwd : List String} (hcwd : ".." ∉ cwd) {p : String} (hp : p ≠ "")
    (ps : List String) :
    resolve cwd (pathJoin (p :: ps)) =
      (cleaned true (cleaned true (if rooted p then [] else cwd.reverse) (elems p))
        (ps.flatMap elems)).reverse := by
  have hjoin : pathJoin (p :: ps) = pathClean ("/".intercalate (p :: ps)) := by
    simp [pathJoin, hp]
  have hroot : rooted ("/".intercalate (p :: ps)) = rooted p := by
    have hne : p.toList ≠ [] := by simpa using hp
    have hhead : ("/".intercalate (p :: ps)).toList.head? = p.toList.head? := by
      cases ps with
      | nil => simp
      | cons q ps =>
          simp [String.toList_intercalate, List.head?_append_of_ne_nil _ hne]
    rw [rooted, rooted, hhead]
  rw [hjoin, resolve_pathClean hcwd, resolve, hroot, elems_intercalate, List.flatMap_cons,
    cleaned_append]

/-! ### Relative paths -/

/-- One more element of a relative path: how far it goes up, and the elements below, the last one
first. -/
def climb (kr : ℕ × List String) (e : String) : ℕ × List String :=
  if e = "" ∨ e = "." then kr
  else if e = ".." then (if kr.2 = [] then kr.1 + 1 else kr.1, kr.2.tail)
  else (kr.1, e :: kr.2)

/-- **How far a relative path goes up**, and how it goes down from there, the last element first. -/
def relative (path : String) : ℕ × List String := (elems path).foldl climb (0, [])

/-- Following a relative path from a directory, in the middle of it. -/
theorem foldl_climb {st es rest : List String} {k : ℕ} (hst : ".." ∉ st) (hrest : ".." ∉ rest) :
    cleaned true (rest ++ st.drop k) es =
      (es.foldl climb (k, rest)).2 ++ st.drop (es.foldl climb (k, rest)).1 := by
  induction es generalizing k rest with
  | nil => rfl
  | cons e es ih =>
      have hfree : ".." ∉ rest ++ st.drop k := by
        simp only [List.mem_append, not_or]
        exact ⟨hrest, fun h => hst (List.mem_of_mem_drop h)⟩
      have hstep : cleaned true (rest ++ st.drop k) (e :: es) =
          cleaned true (cleanElem true (rest ++ st.drop k) e) es := rfl
      rw [hstep, List.foldl_cons]
      by_cases hskip : e = "" ∨ e = "."
      · rw [cleanElem_skip hskip, climb, if_pos hskip]
        exact ih hrest
      · by_cases hup : e = ".."
        · rw [hup, cleanElem_up hfree, climb, if_neg (by decide), if_pos rfl]
          cases rest with
          | nil =>
              simp only [List.nil_append, if_true, List.tail_nil, List.tail_drop]
              exact ih hrest
          | cons last rest =>
              simp only [List.cons_append, List.tail_cons, reduceCtorEq, if_false]
              exact ih fun h => hrest (List.mem_cons_of_mem _ h)
        · rw [cleanElem_push (not_or.1 hskip) hup, climb, if_neg hskip, if_neg hup,
            ← List.cons_append]
          refine ih ?_
          simp [hrest, Ne.symm hup]

/-- **Following a relative path**: up from the directory, and down again. -/
theorem cleaned_elems_eq {st : List String} (hst : ".." ∉ st) (path : String) :
    cleaned true st (elems path) = (relative path).2 ++ st.drop (relative path).1 := by
  have h : cleaned true ([] ++ st.drop 0) (elems path) = _ := foldl_climb hst List.not_mem_nil
  rwa [List.drop_zero, List.nil_append] at h

/-! ### The parent directory -/

theorem pathDir_slash (q : String) {e : String} (he : '/' ∉ e.toList) :
    pathDir (q ++ "/" ++ e) = pathClean (q ++ "/") := by
  have hlist : (q ++ "/" ++ e).toList.reverse = e.toList.reverse ++ ('/' :: q.toList.reverse) := by
    simp [String.toList_append]
  have hdrop : (e.toList.reverse ++ ('/' :: q.toList.reverse)).dropWhile (· ≠ '/') =
      '/' :: q.toList.reverse := by
    rw [List.dropWhile_append_of_pos]
    · rfl
    · intro c hc
      have hne : c ≠ '/' := fun heq => he (heq ▸ List.mem_reverse.1 hc)
      simpa using hne
  have hkept : String.ofList ('/' :: q.toList.reverse).reverse = q ++ "/" := by
    rw [← String.toList_inj]
    simp [String.toList_append]
  rw [pathDir, hlist, hdrop, hkept]

/-- The last element of a path from the root, and what is before it. -/
theorem rootPath_concat (init : List String) (e : String) :
    rootPath (init ++ [e]) = (if init = [] then "" else rootPath init) ++ "/" ++ e := by
  have hjoin : ∀ (s : String) (ss : List String),
      "/".intercalate (s :: (ss ++ [e])) = "/".intercalate (s :: ss) ++ "/" ++ e := by
    intro s ss
    induction ss generalizing s with
    | nil =>
        rw [← String.toList_inj]
        simp
    | cons t ss ih =>
        have hcons : ∀ ts : List String,
            "/".intercalate (s :: t :: ts) = s ++ "/" ++ "/".intercalate (t :: ts) := by
          intro ts
          rw [← String.toList_inj]
          simp [String.toList_intercalate]
        rw [List.cons_append, hcons, hcons, ih t]
        simp only [String.append_assoc]
  cases init with
  | nil => simp [rootPath]
  | cons s ss => simp only [rootPath, List.cons_append, hjoin, reduceCtorEq, if_false,
      String.append_assoc]

/-- **The parent directory.** -/
theorem pathDir_rootPath {es : List String} (h : ∀ e ∈ es, IsElem e) :
    pathDir (rootPath es) = rootPath es.dropLast := by
  rcases List.eq_nil_or_concat es with rfl | ⟨init, e, rfl⟩
  · decide +kernel
  · rw [List.concat_eq_append, List.forall_mem_append, List.forall_mem_singleton] at h
    obtain ⟨hinit, he⟩ := h
    rw [List.concat_eq_append, List.dropLast_concat, rootPath_concat, pathDir_slash _ he.slash_free]
    -- what is before the last slash, cleaned
    split
    · next hnil =>
        rw [hnil]
        decide +kernel
    · have hroot : rooted (rootPath init ++ "/") = true := by
        simp [rooted, rootPath, String.toList_append]
      have hclean : cleaned true [] (elems (rootPath init ++ "/")) = init.reverse := by
        rw [← String.append_empty (s := rootPath init ++ "/"), elems_slash, elems_empty,
          cleaned_concat, cleaned_elems_rootPath hinit, cleanElem_skip (Or.inl rfl),
          List.append_nil]
      rw [pathClean_eq, hroot, hclean, if_pos rfl, List.reverse_reverse]

end Go
