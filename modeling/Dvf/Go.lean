/-
**What the model takes from the Go language.**

Go's `range` over a map visits the keys in an order that the language leaves open and that may
differ from one loop to the next; a loop of the source that does so is modelled with the order as
an argument.  Maps themselves are Mathlib's `AList`s: finite, each key once.  The `%q` verb of
package `fmt` quotes the names that appear in error texts.  An index out of range is a panic, here
`none`.

Main definitions:

* `Go.GoMap` — a Go map;
* `Go.RangeOrder` — an order in which a `range` loop may visit the keys of a map;
* `Go.index?`, `Go.slice?` — indexing and slicing with their bounds checked;
* `Go.quote` — the `%q` verb;
* `Go.pathClean`, `Go.pathJoin`, `Go.pathDir` — package `path/filepath`, with slashes.

Main results:

* `Go.dash_nat_inj`, `Go.dash_int_inj` — what `%s-%d` has joined can be read off again.
-/

import Mathlib.Data.List.AList

set_option autoImplicit false

namespace Go

/-- A Go map from `κ` to `ν`. -/
abbrev GoMap (κ ν : Type) : Type := AList fun _ : κ => ν

theorem lookup_of_insert {κ ν : Type} [DecidableEq κ] {m : GoMap κ ν} {k k' : κ} {v w : ν}
    (h : (m.insert k v).lookup k' = some w) :
    k' = k ∧ w = v ∨ k' ≠ k ∧ m.lookup k' = some w := by
  by_cases hk : k' = k
  · subst hk
    rw [AList.lookup_insert] at h
    cases h
    exact Or.inl ⟨rfl, rfl⟩
  · rw [AList.lookup_insert_ne hk] at h
    exact Or.inr ⟨hk, h⟩

theorem lookup_of_erase {κ ν : Type} [DecidableEq κ] {m : GoMap κ ν} {k k' : κ} {w : ν}
    (h : (m.erase k).lookup k' = some w) : k' ≠ k ∧ m.lookup k' = some w := by
  have hk : k' ≠ k := by
    rintro rfl
    rw [AList.lookup_erase] at h
    cases h
  rw [AList.lookup_erase_ne hk] at h
  exact ⟨hk, h⟩

/-- An order in which `range` may visit the keys of a map: some permutation of them. -/
structure RangeOrder (κ : Type) where
  /-- The keys in the order of the visit. -/
  order : List κ → List κ
  /-- Every key is visited once. -/
  perm : ∀ keys, (order keys).Perm keys

/-- The visit in the order in which the keys are stored. -/
def RangeOrder.stored (κ : Type) : RangeOrder κ := ⟨id, fun _ => List.Perm.refl _⟩

/-- The last two hexadecimal digits of `n`. -/
def hex2 (n : ℕ) : String :=
  String.ofList [Nat.digitChar (n / 16 % 16), Nat.digitChar (n % 16)]

/-- One character of a quoted string. -/
def quoteChar (c : Char) : String :=
  if c = '"' ∨ c = '\\' then String.ofList ['\\', c]
  else if c.toNat = 7 then "\\a"
  else if c.toNat = 8 then "\\b"
  else if c.toNat = 12 then "\\f"
  else if c = '\n' then "\\n"
  else if c = '\r' then "\\r"
  else if c = '\t' then "\\t"
  else if c.toNat = 11 then "\\v"
  else if c.toNat < 32 ∨ c.toNat = 127 then "\\x" ++ hex2 c.toNat
  else String.ofList [c]

/-- The `%q` verb: the string between double quotes, with the characters below 128 that do not
print escaped. -/
def quote (s : String) : String :=
  "\"" ++ String.join (s.toList.map quoteChar) ++ "\""

/-- One element of a path, after the elements before it, the last one first. -/
def cleanElem (rooted : Bool) (done : List String) (elem : String) : List String :=
  if elem = "" ∨ elem = "." then done
  else if elem = ".." then
    match done with
    | [] => if rooted = true then [] else [".."]
    | last :: rest => if last = ".." then ".." :: done else rest
  else elem :: done

/-- `filepath.Clean`. -/
def pathClean (path : String) : String :=
  let rooted := path.toList.head? = some '/'
  let elems := (path.toList.splitOn '/').map String.ofList
  let elems := (elems.foldl (cleanElem rooted) []).reverse
  if rooted then "/" ++ "/".intercalate elems
  else if elems = [] then "."
  else "/".intercalate elems

/-- `filepath.Join`. -/
def pathJoin (elems : List String) : String :=
  match elems.dropWhile (· = "") with
  | [] => ""
  | elems => pathClean ("/".intercalate elems)

/-- `filepath.Dir`. -/
def pathDir (path : String) : String :=
  pathClean (String.ofList (path.toList.reverse.dropWhile (· ≠ '/')).reverse)

/-! ### Indexing -/

section Indexing

variable {α : Type}

/-- `xs[i]`. -/
def index? (xs : List α) (i : ℤ) : Option α := if 0 ≤ i then xs[i.toNat]? else none

/-- `xs[lo:hi]`. -/
def slice? (xs : List α) (lo hi : ℕ) : Option (List α) :=
  if lo ≤ hi ∧ hi ≤ xs.length then some ((xs.take hi).drop lo) else none

theorem index?_natCast (xs : List α) (i : ℕ) : index? xs i = xs[i]? := by simp [index?]

theorem index?_length_sub_one (xs : List α) : index? xs ((xs.length : ℤ) - 1) = xs.getLast? := by
  cases xs with
  | nil => rfl
  | cons x xs => simp [index?, List.getLast?_eq_getElem?]

theorem slice?_of_le {xs : List α} {lo hi : ℕ} (h : lo ≤ hi) (hhi : hi ≤ xs.length) :
    slice? xs lo hi = some ((xs.take hi).drop lo) := if_pos ⟨h, hhi⟩

end Indexing

/-! ### Texts that end in a number -/

section Numbered

variable {α : Type}

theorem append_sep_inj {sep : α} {xs ys ds es : List α} (hds : sep ∉ ds) (hes : sep ∉ es)
    (h : xs ++ sep :: ds = ys ++ sep :: es) : xs = ys ∧ ds = es := by
  rcases List.append_eq_append_iff.1 h with ⟨l, hl, hrest⟩ | ⟨l, hl, hrest⟩
  · cases l with
    | nil => exact ⟨by rw [hl, List.append_nil], (List.cons.inj hrest).2⟩
    | cons c l =>
        refine absurd ?_ hds
        rw [(List.cons.inj hrest).2]
        exact List.mem_append_right _ List.mem_cons_self
  · cases l with
    | nil => exact ⟨by rw [hl, List.append_nil], (List.cons.inj hrest).2.symm⟩
    | cons c l =>
        refine absurd ?_ hes
        rw [(List.cons.inj hrest).2]
        exact List.mem_append_right _ List.mem_cons_self

theorem dash_notMem_toDigits (n : ℕ) : '-' ∉ Nat.toDigits 10 n := by
  intro hmem
  have hdigit := Nat.isDigit_of_mem_toDigits (by decide) (by decide) hmem
  exact absurd hdigit (by decide)

theorem toDigits_inj {m n : ℕ} (h : Nat.toDigits 10 m = Nat.toDigits 10 n) : m = n := by
  have hm := Nat.ofDigitChars_toDigits (b := 10) (n := m) (by decide) (by decide)
  have hn := Nat.ofDigitChars_toDigits (b := 10) (n := n) (by decide) (by decide)
  rw [← hm, h, hn]

/-- **A text and a number after a dash** can be read off again, whatever the text is. -/
theorem dash_nat_inj {s t : String} {m n : ℕ}
    (h : s ++ "-" ++ toString m = t ++ "-" ++ toString n) : s = t ∧ m = n := by
  have hlist : s.toList ++ '-' :: Nat.toDigits 10 m = t.toList ++ '-' :: Nat.toDigits 10 n := by
    have hchars := congrArg String.toList h
    simpa [Nat.toString_eq_repr, Nat.toList_repr] using hchars
  obtain ⟨hst, hmn⟩ := append_sep_inj (dash_notMem_toDigits m) (dash_notMem_toDigits n) hlist
  exact ⟨String.toList_inj.1 hst, toDigits_inj hmn⟩

theorem dash_int_eq (s : String) (z : ℤ) :
    s ++ "-" ++ toString z =
      (if 0 ≤ z then s else s ++ "-") ++ "-" ++ toString z.natAbs := by
  rw [Int.toString_eq_repr, Int.repr_eq_if, Nat.toString_eq_repr]
  split
  · next hz => rw [← Int.toNat_of_nonneg hz, Int.natAbs_natCast, Int.toNat_natCast]
  · next hz =>
      have habs : (-z).toNat = z.natAbs := by omega
      rw [habs]
      exact String.append_assoc.symm

/-- The same for integers, up to the sign, whose dash may belong to the text: `s-` and `1` are
written as `s` and `-1` are. -/
theorem dash_int_inj {s t : String} {y z : ℤ}
    (h : s ++ "-" ++ toString y = t ++ "-" ++ toString z) :
    y.natAbs = z.natAbs ∧ (y = z → s = t) := by
  rw [dash_int_eq s y, dash_int_eq t z] at h
  obtain ⟨hst, habs⟩ := dash_nat_inj h
  refine ⟨habs, ?_⟩
  rintro rfl
  split at hst
  · exact hst
  · exact (String.append_left_inj _).1 hst

end Numbered

end Go
