/-
**Texts as Python handles them.**

The operations on texts that scripts use to take output apart, on lists of characters: splitting
into lines, stripping white space, looking for a text in another.

* `PyText.lines`, `PyText.strip`, `PyText.rstripChar` — `split("\n")`, `strip()`, `rstrip(c)`;
* `PyText.contains`, `PyText.fromFirst` — `needle in text` and the text from the first occurrence;
* `PyText.lines_append`, `PyText.strip_of_ends` — lines that were joined, and lines without white
  space at their ends.
-/

import Mathlib.Data.List.DropRight
import Mathlib.Data.Nat.Notation

set_option autoImplicit false

namespace PyText

/-- White space, as `str.isspace` has it. -/
def isSpace (c : Char) : Bool :=
  (9 ≤ c.toNat && c.toNat ≤ 13) || (28 ≤ c.toNat && c.toNat ≤ 32) || c.toNat = 0x85 ||
    c.toNat = 0xA0 || c.toNat = 0x1680 || (0x2000 ≤ c.toNat && c.toNat ≤ 0x200A) ||
    c.toNat = 0x2028 || c.toNat = 0x2029 || c.toNat = 0x202F || c.toNat = 0x205F ||
    c.toNat = 0x3000

/-- `text.strip()`. -/
def strip (cs : List Char) : List Char := (cs.dropWhile isSpace).rdropWhile isSpace

/-- `text.rstrip(c)`. -/
def rstripChar (c : Char) (cs : List Char) : List Char := cs.rdropWhile (· = c)

/-- `text.split("\n")`. -/
def lines (cs : List Char) : List (List Char) := cs.splitOn '\n'

/-- `needle in text`. -/
def contains (needle : List Char) : List Char → Bool
  | [] => needle.isEmpty
  | c :: cs => needle.isPrefixOf (c :: cs) || contains needle cs

/-- The text from the first occurrence of `needle` on: `text[text.index(needle):]`. -/
def fromFirst (needle : List Char) : List Char → Option (List Char)
  | [] => if needle.isEmpty then some [] else none
  | c :: cs => if needle.isPrefixOf (c :: cs) then some (c :: cs) else fromFirst needle cs

theorem lines_append {line : List Char} (h : '\n' ∉ line) (rest : List Char) :
    lines (line ++ '\n' :: rest) = line :: lines rest :=
  List.splitOnP_append_cons_of_forall_mem (fun c hc => by
    rw [beq_eq_false_iff_ne]
    rintro rfl
    exact h hc) '\n' (by simp) rest

theorem lines_flatMap {ls : List (List Char)} (h : ∀ l ∈ ls, '\n' ∉ l) (rest : List Char) :
    lines (ls.flatMap (· ++ ['\n']) ++ rest) = ls ++ lines rest := by
  induction ls with
  | nil => rfl
  | cons l ls ih =>
      rw [List.flatMap_cons, List.append_assoc, List.append_assoc, List.singleton_append,
        lines_append (h l (by simp)), ih fun l' hl' => h l' (by simp [hl']), List.cons_append]

theorem intercalate_concat (sep : List Char) {parts : List (List Char)} (h : parts ≠ [])
    (part : List Char) :
    sep.intercalate (parts ++ [part]) = sep.intercalate parts ++ (sep ++ part) := by
  induction parts with
  | nil => exact absurd rfl h
  | cons p parts ih =>
      cases parts with
      | nil => simp
      | cons p' parts =>
          have hrec := ih (by simp)
          simp only [List.cons_append, List.intercalate_cons_cons, List.append_assoc] at hrec ⊢
          rw [hrec]

theorem strip_of_ends {a b : Char} {mid : List Char} (ha : isSpace a = false)
    (hb : isSpace b = false) (w : List Char) (hw : ∀ c ∈ w, isSpace c = true) :
    strip (w ++ (a :: (mid ++ [b]))) = a :: (mid ++ [b]) := by
  have hdrop : (w ++ (a :: (mid ++ [b]))).dropWhile isSpace = a :: (mid ++ [b]) := by
    rw [List.dropWhile_append_of_pos hw]
    simp [ha]
  rw [strip, hdrop, ← List.cons_append, List.rdropWhile_concat_neg _ _ _ (by simp [hb])]

theorem isSpace_of_strip_eq_cons {cs rest : List Char} {c : Char} (h : strip cs = c :: rest) :
    isSpace c = false := by
  obtain ⟨tail, htail⟩ := List.rdropWhile_prefix isSpace (cs.dropWhile isSpace)
  have hhead : (cs.dropWhile isSpace).head? = some c := by
    rw [← htail, ← strip, h]
    rfl
  have hnot := List.head?_dropWhile_not isSpace cs
  rw [hhead] at hnot
  exact hnot

end PyText
