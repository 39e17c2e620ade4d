/-
**What the JSON recogniser reads.**

`Json.parse` is a program; this module says what it does to texts that are built rather than given.
`Json.Reads` is the grammar as a relation: a value, the elements of an array or the members of an
object, together with a text for it, where white space may stand between any two tokens.  Every text
of the relation is read back (`Json.Reads.parsed`, and for whole texts `Json.Reads.parse_eq`), so a
printer is correct as soon as its output is in the relation.

The other half is about texts that stop too early.  Once an object has been read, what follows it
cannot change the reading (`Json.object_stable`); so if a text that begins an object is read as a
whole, no proper initial part of it is (`Json.parse_eq_none_of_append`).

* `Json.Reads` — the grammar;
* `Json.StringText`, `Json.decimal` — texts of strings and of decimal numbers;
* `Json.Reads.parse_append_eq` — **what the grammar derives is read back**;
* `Json.parse_eq_none_of_append` — **an object cut short is not read**;
* `Json.parse_object_append` — **after an object only white space is read**.
-/

import Dvf.Json
import Mathlib.Data.List.DropRight
import Mathlib.Data.List.TakeDrop
import Mathlib.Tactic.IntervalCases
import Mathlib.Tactic.Tauto

set_option autoImplicit false

namespace Json

/-! ### Characters -/

theorem forall_mem_of_all {p : Char → Prop} [DecidablePred p] {cs : List Char}
    (h : cs.all (fun c => decide (p c)) = true) : ∀ c ∈ cs, p c := by
  simpa using h

/-! ### White space -/

def Blank (w : List Char) : Prop := ∀ c ∈ w, isSpace c = true

theorem blank_nil : Blank [] := by simp [Blank]

theorem blank_space : Blank [' '] := by simp [Blank, isSpace]

theorem skipSpace_append_of_blank {w : List Char} (hw : Blank w) (cs : List Char) :
    skipSpace (w ++ cs) = skipSpace cs :=
  List.dropWhile_append_of_pos hw

theorem skipSpace_cons_of_not {c : Char} (hc : isSpace c = false) (cs : List Char) :
    skipSpace (c :: cs) = c :: cs := by
  simp [skipSpace, hc]

theorem skipSpace_skipSpace (cs : List Char) : skipSpace (skipSpace cs) = skipSpace cs :=
  List.dropWhile_idempotent _ _

theorem skipSpace_append {cs : List Char} (h : skipSpace cs ≠ []) (q : List Char) :
    skipSpace (cs ++ q) = skipSpace cs ++ q := by
  have hempty : ¬ (List.dropWhile isSpace cs).isEmpty = true := by
    rwa [List.isEmpty_iff]
  rw [skipSpace, List.dropWhile_append, if_neg hempty, skipSpace]

theorem skipSpace_eq_cons {cs rest : List Char} {c : Char} (h : skipSpace cs = c :: rest)
    (q : List Char) : skipSpace (cs ++ q) = c :: (rest ++ q) := by
  rw [skipSpace_append (by simp [h]), h, List.cons_append]

/-! ### Numbers -/

/-- A text with which no number can go on. -/
def Stops (rest : List Char) : Prop :=
  ∀ c, rest.head? = some c → c.isDigit = false ∧ c ≠ '.' ∧ c ≠ 'e' ∧ c ≠ 'E'

theorem stops_nil : Stops [] := by simp [Stops]

theorem stops_cons {c : Char} (h : c = ',' ∨ c = ']' ∨ c = '}' ∨ isSpace c = true)
    (rest : List Char) : Stops (c :: rest) := by
  rintro c' hc'
  obtain rfl : c = c' := by simpa using hc'
  simp only [isSpace, Bool.or_eq_true, decide_eq_true_eq] at h
  rcases h with rfl | rfl | rfl | ((rfl | rfl) | rfl) | rfl <;> decide

theorem stops_blank_append {w : List Char} (hw : Blank w) {c : Char}
    (h : c = ',' ∨ c = ']' ∨ c = '}') (rest : List Char) : Stops (w ++ c :: rest) := by
  cases w with
  | nil => exact stops_cons (by tauto) rest
  | cons a w => exact stops_cons (.inr (.inr (.inr (hw a (by simp))))) _

theorem digits_append {ds rest : List Char} (hds : ∀ c ∈ ds, c.isDigit = true)
    (hrest : ∀ c, rest.head? = some c → c.isDigit = false) : digits (ds ++ rest) = (ds, rest) := by
  have htake : rest.takeWhile Char.isDigit = [] := by
    cases rest with
    | nil => rfl
    | cons c rest => simp [hrest c rfl]
  have hdrop : rest.dropWhile Char.isDigit = rest := by
    cases rest with
    | nil => rfl
    | cons c rest => simp [hrest c rfl]
  rw [digits, List.span_eq_takeWhile_dropWhile, List.takeWhile_append_of_pos hds,
    List.dropWhile_append_of_pos hds, htake, hdrop, List.append_nil]

theorem head_toDigits_ne_zero {n : ℕ} (hn : 0 < n) : (Nat.toDigits 10 n).head? ≠ some '0' := by
  induction n using Nat.strong_induction_on with
  | _ n ih =>
    rcases Nat.lt_or_ge n 10 with hlt | hge
    · rw [Nat.toDigits_of_lt_base hlt]
      interval_cases n <;> decide
    · have hne : Nat.toDigits 10 (n / 10) ≠ [] := Nat.toDigits_ne_nil
      have hhead := ih (n / 10) (by omega) (by omega)
      rw [Nat.toDigits_of_base_le (by decide) hge, List.head?_append]
      cases hds : Nat.toDigits 10 (n / 10) with
      | nil => exact absurd hds hne
      | cons c ds => simpa [hds] using hhead

theorem digitsValue_toDigits (n : ℕ) : digitsValue (Nat.toDigits 10 n) = n := by
  have h := Nat.ofDigitChars_toDigits (b := 10) (n := n) (by decide) (by decide)
  have hfold : ∀ (cs : List Char) (k : ℕ),
      cs.foldl (fun n c => n * 10 + (c.toNat - '0'.toNat)) k = Nat.ofDigitChars 10 cs k := by
    intro cs
    induction cs with
    | nil => intro k; rfl
    | cons c cs ih => intro k; simp [Nat.ofDigitChars, Nat.mul_comm]
  rw [digitsValue, hfold, h]

/-- A decimal number: a sign, the digits of `k` and, after a point, the digits `frac` if any. -/
def decimal (negative : Bool) (k : ℕ) (frac : List Char) : List Char :=
  (if negative then ['-'] else []) ++ Nat.toDigits 10 k ++ (if frac = [] then [] else '.' :: frac)

/-- The number that `decimal` writes. -/
def decimalNumber (negative : Bool) (k : ℕ) (frac : List Char) : JsonNumber :=
  ⟨negative, digitsValue (Nat.toDigits 10 k ++ frac), -(frac.length : ℤ)⟩

theorem decimalNumber_nil (negative : Bool) (k : ℕ) :
    decimalNumber negative k [] = ⟨negative, k, 0⟩ := by
  simp [decimalNumber, digitsValue_toDigits]

theorem integerPart_toDigits (k : ℕ) {rest : List Char}
    (hrest : ∀ c, rest.head? = some c → c.isDigit = false) :
    integerPart (Nat.toDigits 10 k ++ rest) = some (Nat.toDigits 10 k, rest) := by
  have hall : ∀ c ∈ Nat.toDigits 10 k, c.isDigit = true := fun c hc =>
    Nat.isDigit_of_mem_toDigits (by decide) (by decide) hc
  have hdigits := digits_append hall hrest
  rcases Nat.eq_zero_or_pos k with rfl | hk
  · rfl
  · have hhead := head_toDigits_ne_zero hk
    have hne : Nat.toDigits 10 k ≠ [] := Nat.toDigits_ne_nil
    cases hds : Nat.toDigits 10 k with
    | nil => exact absurd hds hne
    | cons c ds =>
      rw [hds] at hhead hdigits
      unfold integerPart
      split
      · rename_i heq
        simp only [List.cons_append, List.cons.injEq] at heq
        simp [heq.1] at hhead
      · rw [hdigits]

theorem fraction_text {frac : List Char} (hfrac : ∀ c ∈ frac, c.isDigit = true) {rest : List Char}
    (hrest : Stops rest) :
    fraction ((if frac = [] then [] else '.' :: frac) ++ rest) = some (frac, rest) := by
  cases frac with
  | nil =>
    cases rest with
    | nil => rfl
    | cons c rest =>
      have hc := (hrest c rfl).2.1
      unfold fraction
      split
      · rename_i heq
        simp at heq
        exact absurd heq.1 hc
      · rfl
  | cons d frac =>
    have hdigits := digits_append hfrac (fun c hc => (hrest c hc).1)
    simp only [fraction, List.cons_append, reduceCtorEq, if_false] at hdigits ⊢
    rw [hdigits]

theorem exponentPart_stops {rest : List Char} (hrest : Stops rest) :
    exponentPart rest = some (0, rest) := by
  cases rest with
  | nil => rfl
  | cons c rest =>
    have hc := (hrest c rfl).2.2
    simp [exponentPart, hc.1, hc.2]

/-- A decimal number is read back, whatever stops it. -/
theorem number_decimal (negative : Bool) (k : ℕ) {frac : List Char}
    (hfrac : ∀ c ∈ frac, c.isDigit = true) {rest : List Char} (hrest : Stops rest) :
    number (decimal negative k frac ++ rest) = some (decimalNumber negative k frac, rest) := by
  have hne : Nat.toDigits 10 k ≠ [] := Nat.toDigits_ne_nil
  have hhead : (Nat.toDigits 10 k).head? ≠ some '-' := by
    cases hds : Nat.toDigits 10 k with
    | nil => exact absurd hds hne
    | cons c ds =>
      have hc : c.isDigit = true :=
        Nat.isDigit_of_mem_toDigits (b := 10) (n := k) (by decide) (by decide) (by simp [hds])
      rintro h
      obtain rfl : c = '-' := by simpa using h
      exact absurd hc (by decide)
  set tail := (if frac = [] then [] else '.' :: frac) ++ rest with htail
  have hstop : ∀ c, tail.head? = some c → c.isDigit = false := by
    intro c hc
    rw [htail] at hc
    split at hc
    · exact (hrest c hc).1
    · obtain rfl : '.' = c := by simpa using hc
      decide
  have htext : decimal negative k frac ++ rest =
      (if negative then ['-'] else []) ++ (Nat.toDigits 10 k ++ tail) := by
    simp [decimal, htail]
  have hstrip : (if ((decimal negative k frac ++ rest).head? = some '-') then
      (decimal negative k frac ++ rest).tail else decimal negative k frac ++ rest) =
        Nat.toDigits 10 k ++ tail ∧
      (((decimal negative k frac ++ rest).head? = some '-') ↔ negative = true) := by
    rw [htext]
    cases negative with
    | true => simp
    | false => simp [List.head?_append, Option.or_eq_some_iff, hhead, hne]
  simp only [number, decide_eq_true_eq, hstrip.1]
  rw [integerPart_toDigits k hstop]
  simp only [htail, fraction_text hfrac hrest, exponentPart_stops hrest]
  simp only [decimalNumber, hstrip.2, Bool.decide_eq_true, Int.zero_sub]

theorem head_decimal (negative : Bool) (k : ℕ) (frac : List Char) :
    ∃ c cs, decimal negative k frac = c :: cs ∧ (c = '-' ∨ c.isDigit = true) := by
  cases hds : Nat.toDigits 10 k with
  | nil => exact absurd hds Nat.toDigits_ne_nil
  | cons c ds =>
    have hc : c.isDigit = true :=
      Nat.isDigit_of_mem_toDigits (b := 10) (n := k) (by decide) (by decide) (by simp [hds])
    cases negative with
    | true => exact ⟨'-', _, rfl, .inl rfl⟩
    | false => exact ⟨c, ds ++ (if frac = [] then [] else '.' :: frac),
        by simp [decimal, hds], .inr hc⟩

/-! ### Strings -/

theorem strItems_unit {a b c d : Char} {n : ℕ} (hhex : hex4 a b c d = some n)
    {cs rest : List Char} {items : List StrItem} (h : strItems cs = some (items, rest)) :
    strItems ('\\' :: 'u' :: a :: b :: c :: d :: cs) = some (.unit n :: items, rest) := by
  simp only [strItems, hhex, h]

theorem strItems_escape {e c : Char} (he : escapeChar e = some c) {cs rest : List Char}
    {items : List StrItem} (h : strItems cs = some (items, rest)) :
    strItems ('\\' :: e :: cs) = some (.char c :: items, rest) := by
  have hu : e ≠ 'u' := by
    rintro rfl
    simp [escapeChar] at he
  rw [strItems]
  · simp only [he, h]
  · intro _ _ _ _ _ heq
    exact absurd heq hu

theorem strItems_char {c : Char} (hctl : ¬ c.toNat < 32) (hq : c ≠ '"') (hb : c ≠ '\\')
    {cs rest : List Char} {items : List StrItem} (h : strItems cs = some (items, rest)) :
    strItems (c :: cs) = some (.char c :: items, rest) := by
  rw [strItems]
  · simp [hctl, hb, h]
  · exact hq
  · intro _ _ _ _ _ heq
    exact absurd heq hb
  · intro _ _ heq
    exact absurd heq hb

/-! ### The grammar -/

/-- The characters of a string literal between its quotes, for the string `s`. -/
def StringText (s : String) (cs : List Char) : Prop :=
  ∀ rest, string (cs ++ '"' :: rest) = some (s, rest)

/-- A string written character by character, each as a text that is taken for it. -/
theorem stringText_flatMap (esc : Char → List Char) (cs : List Char)
    (h : ∀ c ∈ cs, ∀ {rest r : List Char} {its : List StrItem}, strItems rest = some (its, r) →
      strItems (esc c ++ rest) = some (.char c :: its, r)) :
    StringText (String.ofList cs) (cs.flatMap esc) := by
  intro rest
  have hitems : strItems (cs.flatMap esc ++ '"' :: rest) = some (cs.map .char, rest) := by
    induction cs with
    | nil => rfl
    | cons c cs ih =>
      rw [List.flatMap_cons, List.append_assoc, List.map_cons]
      exact h c (by simp) (ih fun c' hc' => h c' (by simp [hc']))
  have hjoin : joinUnits (cs.map .char) = cs := by
    clear hitems h
    induction cs with
    | nil => rfl
    | cons c cs ih => rw [List.map_cons, joinUnits, ih]
  simp only [string, hitems, hjoin]

theorem stringText_plain (cs : List Char)
    (h : ∀ c ∈ cs, ¬ c.toNat < 32 ∧ c ≠ '"' ∧ c ≠ '\\') : StringText (String.ofList cs) cs := by
  have hmap : cs.flatMap (fun c => [c]) = cs := List.flatMap_singleton' cs
  have htext := stringText_flatMap (fun c => [c]) cs fun c hc _ _ _ hread =>
    strItems_char (h c hc).1 (h c hc).2.1 (h c hc).2.2 hread
  rwa [hmap] at htext

/-- What a text can be a text of. -/
inductive Form
  | value (v : Json)
  | elements (vs : List Json)
  | members (ms : List (String × Json))

/-- `Reads d f cs`: the text `cs` is one for `f`, with at most `d` arrays and objects nested in it.
The texts of elements and members are those between the brackets. -/
inductive Reads : ℕ → Form → List Char → Prop
  | null (d : ℕ) : Reads d (.value .null) ['n', 'u', 'l', 'l']
  | true (d : ℕ) : Reads d (.value (.bool true)) ['t', 'r', 'u', 'e']
  | false (d : ℕ) : Reads d (.value (.bool false)) ['f', 'a', 'l', 's', 'e']
  | num (d : ℕ) (negative : Bool) (k : ℕ) {frac : List Char}
      (hfrac : ∀ c ∈ frac, c.isDigit = Bool.true) :
      Reads d (.value (.num (decimalNumber negative k frac))) (decimal negative k frac)
  | str (d : ℕ) {s : String} {cs : List Char} (h : StringText s cs) :
      Reads d (.value (.str s)) ('"' :: (cs ++ ['"']))
  | emptyArr (d : ℕ) {w : List Char} (hw : Blank w) :
      Reads (d + 1) (.value (.arr [])) ('[' :: (w ++ [']']))
  | arr {d : ℕ} {vs : List Json} {cs : List Char} (h : Reads d (.elements vs) cs) :
      Reads (d + 1) (.value (.arr vs)) ('[' :: (cs ++ [']']))
  | emptyObj (d : ℕ) {w : List Char} (hw : Blank w) :
      Reads (d + 1) (.value (.obj [])) ('{' :: (w ++ ['}']))
  | obj {d : ℕ} {ms : List (String × Json)} {cs : List Char} (h : Reads d (.members ms) cs) :
      Reads (d + 1) (.value (.obj ms)) ('{' :: (cs ++ ['}']))
  | lastElement {d : ℕ} {v : Json} {w cs w' : List Char} (hw : Blank w)
      (h : Reads d (.value v) cs) (hw' : Blank w') : Reads d (.elements [v]) (w ++ (cs ++ w'))
  | element {d : ℕ} {v : Json} {vs : List Json} {w cs w' cs' : List Char} (hw : Blank w)
      (h : Reads d (.value v) cs) (hw' : Blank w') (hs : Reads d (.elements vs) cs') :
      Reads d (.elements (v :: vs)) (w ++ (cs ++ (w' ++ ',' :: cs')))
  | lastMember {d : ℕ} {k : String} {v : Json} {w ks w₁ w₂ cs w' : List Char} (hw : Blank w)
      (hk : StringText k ks) (hw₁ : Blank w₁) (hw₂ : Blank w₂) (h : Reads d (.value v) cs)
      (hw' : Blank w') :
      Reads d (.members [(k, v)]) (w ++ '"' :: (ks ++ '"' :: (w₁ ++ ':' :: (w₂ ++ (cs ++ w')))))
  | member {d : ℕ} {k : String} {v : Json} {ms : List (String × Json)}
      {w ks w₁ w₂ cs w' cs' : List Char} (hw : Blank w) (hk : StringText k ks) (hw₁ : Blank w₁)
      (hw₂ : Blank w₂) (h : Reads d (.value v) cs) (hw' : Blank w')
      (hs : Reads d (.members ms) cs') :
      Reads d (.members ((k, v) :: ms))
        (w ++ '"' :: (ks ++ '"' :: (w₁ ++ ':' :: (w₂ ++ (cs ++ (w' ++ ',' :: cs'))))))

/-! ### What the grammar derives is read back -/

theorem head_ne_of_forall {c : Char} {cs : List Char} (h : ∀ rest, cs = c :: rest → False) :
    cs.head? ≠ some c := by
  intro hhead
  obtain ⟨rest, hrest⟩ := List.head?_eq_some_iff.mp hhead
  exact h rest hrest

theorem value_string (fuel d : ℕ) (cs : List Char) :
    value (fuel + 1) d ('"' :: cs) = (string cs).map fun p => (.str p.1, p.2) := by
  rw [value]
  cases string cs <;> rfl

theorem value_array (fuel d : ℕ) (cs : List Char) :
    value (fuel + 1) (d + 1) ('[' :: cs) =
      if (skipSpace cs).head? = some ']' then some (.arr [], (skipSpace cs).tail)
      else (elements fuel d (skipSpace cs)).map fun p => (.arr p.1, p.2) := by
  rw [value]
  split
  · rename_i rest heq
    rw [heq]
    rfl
  · rename_i hne
    rw [if_neg (head_ne_of_forall hne)]
    cases elements fuel d (skipSpace cs) <;> rfl

theorem value_object (fuel d : ℕ) (cs : List Char) :
    value (fuel + 1) (d + 1) ('{' :: cs) =
      if (skipSpace cs).head? = some '}' then some (.obj [], (skipSpace cs).tail)
      else (members fuel d (skipSpace cs)).map fun p => (.obj p.1, p.2) := by
  rw [value]
  split
  · rename_i rest heq
    rw [heq]
    rfl
  · rename_i hne
    rw [if_neg (head_ne_of_forall hne)]
    cases members fuel d (skipSpace cs) <;> rfl

theorem value_number (fuel d : ℕ) {c : Char} (hc : c = '-' ∨ c.isDigit = true) (cs : List Char) :
    value (fuel + 1) d (c :: cs) = (number (c :: cs)).map fun p => (.num p.1, p.2) := by
  have hne : ∀ c' : Char, (c' ≠ '-' ∧ c'.isDigit = false) → c ≠ c' := by
    rintro c' ⟨h₁, h₂⟩ rfl
    rcases hc with h | h
    · exact h₁ h
    · simp [h₂] at h
  have hn := hne 'n' (by decide)
  have ht := hne 't' (by decide)
  have hf := hne 'f' (by decide)
  have hq := hne '"' (by decide)
  have hb := hne '[' (by decide)
  have hB := hne '{' (by decide)
  unfold value
  split <;> rename_i heq <;> try simp_all
  cases number (c :: cs) <;> rfl

/-- **The elements of an array**: a value, and then the end or a comma and the other elements. -/
theorem elements_eq_some_iff {fuel d : ℕ} {cs rest : List Char} {vs : List Json} :
    elements (fuel + 1) d cs = some (vs, rest) ↔
      ∃ v r, value fuel d (skipSpace cs) = some (v, r) ∧
        ((skipSpace r = ']' :: rest ∧ vs = [v]) ∨
          ∃ r' vs', skipSpace r = ',' :: r' ∧ elements fuel d r' = some (vs', rest) ∧
            vs = v :: vs') := by
  rw [elements]
  constructor
  · intro h
    split at h
    · cases h
    · rename_i v r hvalue
      refine ⟨v, r, hvalue, ?_⟩
      split at h
      · rename_i r' hr
        obtain ⟨rfl, rfl⟩ : [v] = vs ∧ r' = rest := by simpa using h
        exact .inl ⟨hr, rfl⟩
      · rename_i r' hr
        split at h
        · rename_i vs' r'' hrest
          obtain ⟨rfl, rfl⟩ : v :: vs' = vs ∧ r'' = rest := by simpa using h
          exact .inr ⟨r', vs', hr, hrest, rfl⟩
        · cases h
      · cases h
  · rintro ⟨v, r, hvalue, ⟨hr, rfl⟩ | ⟨r', vs', hr, hrest, rfl⟩⟩
    · simp only [hvalue, hr]
    · simp only [hvalue, hr, hrest]

/-- **The members of an object**: a key and a value, and then the end or a comma and the other
members. -/
theorem members_eq_some_iff {fuel d : ℕ} {cs rest : List Char} {ms : List (String × Json)} :
    members (fuel + 1) d cs = some (ms, rest) ↔
      ∃ r k r₁ r₂ v r₃, skipSpace cs = '"' :: r ∧ string r = some (k, r₁) ∧
        skipSpace r₁ = ':' :: r₂ ∧ value fuel d (skipSpace r₂) = some (v, r₃) ∧
        ((skipSpace r₃ = '}' :: rest ∧ ms = [(k, v)]) ∨
          ∃ r' ms', skipSpace r₃ = ',' :: r' ∧ members fuel d r' = some (ms', rest) ∧
            ms = (k, v) :: ms') := by
  rw [members]
  constructor
  · intro h
    split at h
    · rename_i r hr
      split at h
      · cases h
      · rename_i k r₁ hk
        split at h
        · rename_i r₂ hr₂
          split at h
          · cases h
          · rename_i v r₃ hvalue
            refine ⟨r, k, r₁, r₂, v, r₃, hr, hk, hr₂, hvalue, ?_⟩
            split at h
            · rename_i r' hr'
              obtain ⟨rfl, rfl⟩ : [(k, v)] = ms ∧ r' = rest := by simpa using h
              exact .inl ⟨hr', rfl⟩
            · rename_i r' hr'
              split at h
              · rename_i ms' r'' hrest
                obtain ⟨rfl, rfl⟩ : (k, v) :: ms' = ms ∧ r'' = rest := by simpa using h
                exact .inr ⟨r', ms', hr', hrest, rfl⟩
              · cases h
            · cases h
        · cases h
    · cases h
  · rintro ⟨r, k, r₁, r₂, v, r₃, hr, hk, hr₂, hvalue, ⟨hr₃, rfl⟩ | ⟨r', ms', hr₃, hrest, rfl⟩⟩
    · simp only [hr, hk, hr₂, hvalue, hr₃]
    · simp only [hr, hk, hr₂, hvalue, hr₃, hrest]

theorem elements_skipSpace (fuel d : ℕ) (cs : List Char) :
    elements fuel d (skipSpace cs) = elements fuel d cs := by
  cases fuel with
  | zero => rfl
  | succ fuel =>
    refine Option.ext fun ⟨vs, rest⟩ => ?_
    rw [elements_eq_some_iff, elements_eq_some_iff, skipSpace_skipSpace]

theorem members_skipSpace (fuel d : ℕ) (cs : List Char) :
    members fuel d (skipSpace cs) = members fuel d cs := by
  cases fuel with
  | zero => rfl
  | succ fuel =>
    refine Option.ext fun ⟨ms, rest⟩ => ?_
    rw [members_eq_some_iff, members_eq_some_iff, skipSpace_skipSpace]

/-- What the recogniser does with a text of a form, given enough fuel. -/
def Form.Parsed (d : ℕ) (cs : List Char) : Form → Prop
  | .value v => (∃ c cs', cs = c :: cs' ∧ isSpace c = false ∧ c ≠ ']') ∧
      ∀ fuel rest, cs.length ≤ fuel → Stops rest → Json.value fuel d (cs ++ rest) = some (v, rest)
  | .elements vs => (∃ c cs', (∀ q, skipSpace (cs ++ q) = c :: (cs' ++ q)) ∧ c ≠ ']') ∧
      ∀ fuel rest, cs.length < fuel → Json.elements fuel d (cs ++ ']' :: rest) = some (vs, rest)
  | .members ms => (∃ cs', ∀ q, skipSpace (cs ++ q) = '"' :: (cs' ++ q)) ∧
      ∀ fuel rest, cs.length < fuel → Json.members fuel d (cs ++ '}' :: rest) = some (ms, rest)

namespace Form.Parsed

variable {d : ℕ}

theorem of_word {v : Json} {c : Char} {cs : List Char} (hc : isSpace c = false) (hb : c ≠ ']')
    (h : ∀ fuel rest, Json.value (fuel + 1) d (c :: (cs ++ rest)) = some (v, rest)) :
    Form.Parsed d (c :: cs) (.value v) := by
  refine ⟨⟨c, cs, rfl, hc, hb⟩, fun fuel rest hfuel _ => ?_⟩
  obtain ⟨fuel, rfl⟩ : ∃ f, fuel = f + 1 := ⟨fuel - 1, by simp at hfuel; omega⟩
  exact h fuel rest

theorem num (negative : Bool) (k : ℕ) {frac : List Char} (hfrac : ∀ c ∈ frac, c.isDigit = true) :
    Form.Parsed d (decimal negative k frac) (.value (.num (decimalNumber negative k frac))) := by
  obtain ⟨c, cs, htext, hc⟩ := head_decimal negative k frac
  have hclass : isSpace c = false ∧ c ≠ ']' := by
    constructor
    · by_contra hspace
      simp only [isSpace, Bool.or_eq_true, decide_eq_true_eq, Bool.not_eq_false] at hspace
      rcases hspace with ((rfl | rfl) | rfl) | rfl <;> revert hc <;> decide
    · rintro rfl
      revert hc
      decide
  refine ⟨⟨c, cs, htext, hclass⟩, fun fuel rest hfuel hrest => ?_⟩
  obtain ⟨fuel, rfl⟩ : ∃ f, fuel = f + 1 := ⟨fuel - 1, by simp [htext] at hfuel; omega⟩
  have hnumber := number_decimal negative k hfrac hrest
  rw [htext, List.cons_append] at hnumber ⊢
  rw [value_number fuel d hc, hnumber, Option.map_some]

theorem str {s : String} {cs : List Char} (h : StringText s cs) :
    Form.Parsed d ('"' :: (cs ++ ['"'])) (.value (.str s)) := by
  refine of_word (by decide) (by decide) fun fuel rest => ?_
  have hstring := h rest
  rw [value_string, List.append_assoc, List.singleton_append, hstring, Option.map_some]

theorem emptyArr {w : List Char} (hw : Blank w) :
    Form.Parsed (d + 1) ('[' :: (w ++ [']'])) (.value (.arr [])) := by
  refine of_word (by decide) (by decide) fun fuel rest => ?_
  rw [value_array, List.append_assoc, skipSpace_append_of_blank hw, List.singleton_append,
    skipSpace_cons_of_not (by decide)]
  rfl

theorem emptyObj {w : List Char} (hw : Blank w) :
    Form.Parsed (d + 1) ('{' :: (w ++ ['}'])) (.value (.obj [])) := by
  refine of_word (by decide) (by decide) fun fuel rest => ?_
  rw [value_object, List.append_assoc, skipSpace_append_of_blank hw, List.singleton_append,
    skipSpace_cons_of_not (by decide)]
  rfl

theorem arr {vs : List Json} {cs : List Char} (h : Form.Parsed d cs (.elements vs)) :
    Form.Parsed (d + 1) ('[' :: (cs ++ [']'])) (.value (.arr vs)) := by
  obtain ⟨⟨c, cs', hskip, hc⟩, hread⟩ := h
  refine ⟨⟨'[', _, rfl, by decide, by decide⟩, fun fuel rest hfuel _ => ?_⟩
  obtain ⟨fuel, rfl⟩ : ∃ f, fuel = f + 1 := ⟨fuel - 1, by simp at hfuel; omega⟩
  have htext : '[' :: (cs ++ [']']) ++ rest = '[' :: (cs ++ ']' :: rest) := by simp
  rw [htext, value_array, if_neg (by simp [hskip, hc]), elements_skipSpace,
    hread fuel rest (by simp at hfuel; omega), Option.map_some]

theorem obj {ms : List (String × Json)} {cs : List Char} (h : Form.Parsed d cs (.members ms)) :
    Form.Parsed (d + 1) ('{' :: (cs ++ ['}'])) (.value (.obj ms)) := by
  obtain ⟨⟨cs', hskip⟩, hread⟩ := h
  refine ⟨⟨'{', _, rfl, by decide, by decide⟩, fun fuel rest hfuel _ => ?_⟩
  obtain ⟨fuel, rfl⟩ : ∃ f, fuel = f + 1 := ⟨fuel - 1, by simp at hfuel; omega⟩
  have htext : '{' :: (cs ++ ['}']) ++ rest = '{' :: (cs ++ '}' :: rest) := by simp
  rw [htext, value_object, if_neg (by simp [hskip]), members_skipSpace,
    hread fuel rest (by simp at hfuel; omega), Option.map_some]

theorem skip {v : Json} {cs w : List Char} (h : Form.Parsed d cs (.value v)) (hw : Blank w)
    (q : List Char) : skipSpace (w ++ (cs ++ q)) = cs ++ q := by
  obtain ⟨⟨c, cs', rfl, hc, -⟩, -⟩ := h
  rw [skipSpace_append_of_blank hw, List.cons_append, skipSpace_cons_of_not hc]

theorem lastElement {v : Json} {w cs w' : List Char} (hw : Blank w)
    (h : Form.Parsed d cs (.value v)) (hw' : Blank w') :
    Form.Parsed d (w ++ (cs ++ w')) (.elements [v]) := by
  have hskip := fun q => h.skip hw q
  obtain ⟨⟨c, cs', hcs, hc, hb⟩, hread⟩ := h
  refine ⟨⟨c, cs' ++ w', fun q => ?_, hb⟩, fun fuel rest hfuel => ?_⟩
  · have := hskip (w' ++ q)
    simpa [hcs] using this
  · obtain ⟨fuel, rfl⟩ : ∃ f, fuel = f + 1 := ⟨fuel - 1, by omega⟩
    simp only [List.length_append] at hfuel
    have hvalue := hread fuel (w' ++ ']' :: rest) (by omega)
      (stops_blank_append hw' (by simp) rest)
    have htext : w ++ (cs ++ w') ++ ']' :: rest = w ++ (cs ++ (w' ++ ']' :: rest)) := by simp
    rw [htext, elements_eq_some_iff]
    refine ⟨v, _, by rw [hskip, hvalue], .inl ⟨?_, rfl⟩⟩
    rw [skipSpace_append_of_blank hw', skipSpace_cons_of_not (by decide)]

theorem element {v : Json} {vs : List Json} {w cs w' cs' : List Char} (hw : Blank w)
    (h : Form.Parsed d cs (.value v)) (hw' : Blank w') (hs : Form.Parsed d cs' (.elements vs)) :
    Form.Parsed d (w ++ (cs ++ (w' ++ ',' :: cs'))) (.elements (v :: vs)) := by
  have hskip := fun q => h.skip hw q
  obtain ⟨⟨c, tail, hcs, hc, hb⟩, hread⟩ := h
  refine ⟨⟨c, tail ++ (w' ++ ',' :: cs'), fun q => ?_, hb⟩, fun fuel rest hfuel => ?_⟩
  · have := hskip (w' ++ ',' :: cs' ++ q)
    simpa [hcs] using this
  · obtain ⟨fuel, rfl⟩ : ∃ f, fuel = f + 1 := ⟨fuel - 1, by omega⟩
    simp only [List.length_append, List.length_cons] at hfuel
    have hvalue := hread fuel (w' ++ ',' :: (cs' ++ ']' :: rest)) (by omega)
      (stops_blank_append hw' (by simp) _)
    have hrest := hs.2 fuel rest (by omega)
    have htext : w ++ (cs ++ (w' ++ ',' :: cs')) ++ ']' :: rest =
        w ++ (cs ++ (w' ++ ',' :: (cs' ++ ']' :: rest))) := by simp
    rw [htext, elements_eq_some_iff]
    refine ⟨v, _, by rw [hskip, hvalue], .inr ⟨_, vs, ?_, hrest, rfl⟩⟩
    rw [skipSpace_append_of_blank hw', skipSpace_cons_of_not (by decide)]

theorem skip_key {w : List Char} (hw : Blank w) (ks w₁ w₂ q : List Char) :
    skipSpace (w ++ '"' :: (ks ++ '"' :: (w₁ ++ ':' :: (w₂ ++ q)))) =
      '"' :: (ks ++ '"' :: (w₁ ++ ':' :: (w₂ ++ q))) := by
  rw [skipSpace_append_of_blank hw, skipSpace_cons_of_not (by decide)]

theorem lastMember {k : String} {v : Json} {w ks w₁ w₂ cs w' : List Char} (hw : Blank w)
    (hk : StringText k ks) (hw₁ : Blank w₁) (hw₂ : Blank w₂) (h : Form.Parsed d cs (.value v))
    (hw' : Blank w') :
    Form.Parsed d (w ++ '"' :: (ks ++ '"' :: (w₁ ++ ':' :: (w₂ ++ (cs ++ w')))))
      (.members [(k, v)]) := by
  refine ⟨⟨ks ++ '"' :: (w₁ ++ ':' :: (w₂ ++ (cs ++ w'))), fun q => ?_⟩, fun fuel rest hfuel => ?_⟩
  · have := skip_key hw ks w₁ w₂ (cs ++ w' ++ q)
    simpa using this
  · obtain ⟨fuel, rfl⟩ : ∃ f, fuel = f + 1 := ⟨fuel - 1, by omega⟩
    simp only [List.length_append, List.length_cons] at hfuel
    have hvalue := h.2 fuel (w' ++ '}' :: rest) (by omega) (stops_blank_append hw' (by simp) rest)
    have htext : w ++ '"' :: (ks ++ '"' :: (w₁ ++ ':' :: (w₂ ++ (cs ++ w')))) ++ '}' :: rest =
        w ++ '"' :: (ks ++ '"' :: (w₁ ++ ':' :: (w₂ ++ (cs ++ (w' ++ '}' :: rest))))) := by simp
    rw [htext, members_eq_some_iff]
    refine ⟨_, k, _, _, v, _, skip_key hw ks w₁ w₂ _, hk _, ?_, by rw [h.skip hw₂, hvalue],
      .inl ⟨?_, rfl⟩⟩
    · rw [skipSpace_append_of_blank hw₁, skipSpace_cons_of_not (by decide)]
    · rw [skipSpace_append_of_blank hw', skipSpace_cons_of_not (by decide)]

theorem member {k : String} {v : Json} {ms : List (String × Json)}
    {w ks w₁ w₂ cs w' cs' : List Char}
    (hw : Blank w) (hk : StringText k ks) (hw₁ : Blank w₁) (hw₂ : Blank w₂)
    (h : Form.Parsed d cs (.value v)) (hw' : Blank w') (hs : Form.Parsed d cs' (.members ms)) :
    Form.Parsed d (w ++ '"' :: (ks ++ '"' :: (w₁ ++ ':' :: (w₂ ++ (cs ++ (w' ++ ',' :: cs'))))))
      (.members ((k, v) :: ms)) := by
  refine ⟨⟨ks ++ '"' :: (w₁ ++ ':' :: (w₂ ++ (cs ++ (w' ++ ',' :: cs')))), fun q => ?_⟩,
    fun fuel rest hfuel => ?_⟩
  · have := skip_key hw ks w₁ w₂ (cs ++ (w' ++ ',' :: cs') ++ q)
    simpa using this
  · obtain ⟨fuel, rfl⟩ : ∃ f, fuel = f + 1 := ⟨fuel - 1, by omega⟩
    simp only [List.length_append, List.length_cons] at hfuel
    have hvalue := h.2 fuel (w' ++ ',' :: (cs' ++ '}' :: rest)) (by omega)
      (stops_blank_append hw' (by simp) _)
    have hrest := hs.2 fuel rest (by omega)
    have htext : w ++ '"' :: (ks ++ '"' :: (w₁ ++ ':' :: (w₂ ++ (cs ++ (w' ++ ',' :: cs'))))) ++
        '}' :: rest = w ++ '"' :: (ks ++ '"' :: (w₁ ++ ':' ::
          (w₂ ++ (cs ++ (w' ++ ',' :: (cs' ++ '}' :: rest)))))) := by simp
    rw [htext, members_eq_some_iff]
    refine ⟨_, k, _, _, v, _, skip_key hw ks w₁ w₂ _, hk _, ?_, by rw [h.skip hw₂, hvalue],
      .inr ⟨_, ms, ?_, hrest, rfl⟩⟩
    · rw [skipSpace_append_of_blank hw₁, skipSpace_cons_of_not (by decide)]
    · rw [skipSpace_append_of_blank hw', skipSpace_cons_of_not (by decide)]

end Form.Parsed

/-- Every text of the grammar is read as the grammar says. -/
theorem Reads.parsed {d : ℕ} {f : Form} {cs : List Char} (h : Reads d f cs) :
    Form.Parsed d cs f := by
  induction h with
  | null d => exact .of_word (by decide) (by decide) fun _ _ => by rfl
  | true d => exact .of_word (by decide) (by decide) fun _ _ => by rfl
  | false d => exact .of_word (by decide) (by decide) fun _ _ => by rfl
  | num d negative k hfrac => exact .num negative k hfrac
  | str d h => exact .str h
  | emptyArr d hw => exact .emptyArr hw
  | arr _ ih => exact .arr ih
  | emptyObj d hw => exact .emptyObj hw
  | obj _ ih => exact .obj ih
  | lastElement hw _ hw' ih => exact .lastElement hw ih hw'
  | element hw _ hw' _ ih ihs => exact .element hw ih hw' ihs
  | lastMember hw hk hw₁ hw₂ _ hw' ih => exact .lastMember hw hk hw₁ hw₂ ih hw'
  | member hw hk hw₁ hw₂ _ hw' _ ih ihs => exact .member hw hk hw₁ hw₂ ih hw' ihs

theorem stops_of_blank {w : List Char} (hw : Blank w) : Stops w := by
  cases w with
  | nil => exact stops_nil
  | cons a w => exact stops_cons (.inr (.inr (.inr (hw a (by simp))))) w

/-- **What the grammar derives is read back**, as a whole text, with or without white space behind
it. -/
theorem Reads.parse_append_eq {d : ℕ} {v : Json} {cs w : List Char} (h : Reads d (.value v) cs)
    (hw : Blank w) : parse d (String.ofList (cs ++ w)) = some v := by
  obtain ⟨⟨c, cs', rfl, hc, -⟩, hread⟩ := h.parsed
  have hvalue := hread (2 * (c :: cs' ++ w).length + 1) w
    (by simp only [List.length_append]; omega) (stops_of_blank hw)
  have hskip : skipSpace w = [] := List.dropWhile_eq_nil_iff.mpr hw
  rw [parse, String.toList_ofList, List.cons_append, skipSpace_cons_of_not hc, ← List.cons_append]
  simp only [hvalue]
  rw [if_pos hskip]

theorem Reads.parse_eq {d : ℕ} {v : Json} {cs : List Char} (h : Reads d (.value v) cs) :
    parse d (String.ofList cs) = some v := by
  have hparse := h.parse_append_eq blank_nil
  rwa [List.append_nil] at hparse

/-! ### What follows an object does not change its reading -/

theorem digits_append_of_rest {cs ds rest : List Char} (h : digits cs = (ds, rest))
    (hrest : rest ≠ []) (q : List Char) : digits (cs ++ q) = (ds, rest ++ q) := by
  rw [digits, List.span_eq_takeWhile_dropWhile, Prod.mk.injEq] at h
  obtain ⟨htake, hdrop⟩ := h
  have hempty : ¬ (cs.dropWhile Char.isDigit).isEmpty = true := by
    rwa [List.isEmpty_iff, hdrop]
  have hall : ¬ (cs.takeWhile Char.isDigit).length = cs.length := by
    intro hlength
    have hsum := congrArg List.length
      (List.takeWhile_append_dropWhile (p := Char.isDigit) (l := cs))
    rw [List.length_append, hlength, hdrop] at hsum
    exact hrest (List.length_eq_zero_iff.mp (by omega))
  rw [digits, List.span_eq_takeWhile_dropWhile, List.takeWhile_append, if_neg hall,
    List.dropWhile_append, if_neg hempty, htake, hdrop]

theorem integerPart_append {cs int rest : List Char} (h : integerPart cs = some (int, rest))
    (hrest : rest ≠ []) (q : List Char) : integerPart (cs ++ q) = some (int, rest ++ q) := by
  unfold integerPart at h
  split at h
  · cases h
    rfl
  · rename_i hzero
    split at h
    · cases h
    · rename_i ds rest' hne hdigits
      obtain ⟨rfl, rfl⟩ : ds = int ∧ rest' = rest := by simpa using h
      have happend := digits_append_of_rest hdigits hrest q
      unfold integerPart
      split
      · rename_i heq
        cases cs with
        | nil =>
            simp [digits, List.span_eq_takeWhile_dropWhile] at hdigits
            exact absurd hdigits.2 hrest
        | cons c cs =>
          simp only [List.cons_append, List.cons.injEq] at heq
          exact absurd (by rw [heq.1]) (hzero cs)
      · obtain ⟨c, ds, rfl⟩ := List.exists_cons_of_ne_nil hne
        rw [happend]

theorem fraction_append {cs frac rest : List Char} (h : fraction cs = some (frac, rest))
    (hrest : rest ≠ []) (q : List Char) : fraction (cs ++ q) = some (frac, rest ++ q) := by
  unfold fraction at h
  split at h
  · split at h
    · cases h
    · rename_i ds rest' hne hdigits
      obtain ⟨rfl, rfl⟩ : ds = frac ∧ rest' = rest := by simpa using h
      have happend := digits_append_of_rest hdigits hrest q
      simp only [fraction, List.cons_append, happend]
  · rename_i hpoint
    obtain ⟨rfl, rfl⟩ : [] = frac ∧ cs = rest := by simpa using h
    unfold fraction
    split
    · rename_i heq
      cases cs with
      | nil => exact absurd rfl hrest
      | cons c cs =>
        simp only [List.cons_append, List.cons.injEq] at heq
        exact absurd (by rw [heq.1]) (hpoint cs)
    · rfl

theorem exponentDigits_append {negative : Bool} {cs rest : List Char} {e : ℤ}
    (h : exponentDigits negative cs = some (e, rest)) (hrest : rest ≠ []) (q : List Char) :
    exponentDigits negative (cs ++ q) = some (e, rest ++ q) := by
  unfold exponentDigits at h
  split at h
  · cases h
  · rename_i ds rest' hne hdigits
    obtain ⟨he, rfl⟩ : _ = e ∧ rest' = rest := by simpa using h
    simp only [exponentDigits, digits_append_of_rest hdigits hrest q, he]

theorem exponentPart_append {cs rest : List Char} {e : ℤ} (h : exponentPart cs = some (e, rest))
    (hrest : rest ≠ []) (q : List Char) : exponentPart (cs ++ q) = some (e, rest ++ q) := by
  cases cs with
  | nil =>
    obtain ⟨-, hnil⟩ : e = 0 ∧ rest = [] := by simpa [exponentPart] using h.symm
    exact absurd hnil hrest
  | cons c cs =>
    simp only [exponentPart, List.cons_append] at h ⊢
    split at h
    · rename_i hc
      rw [if_pos hc]
      split at h
      · exact exponentDigits_append h hrest q
      · exact exponentDigits_append h hrest q
      · rename_i hminus hplus
        split
        · rename_i heq
          cases cs with
          | nil => simp [exponentDigits, digits, List.span_eq_takeWhile_dropWhile] at h
          | cons a cs =>
            simp only [List.cons_append, List.cons.injEq] at heq
            exact absurd (by rw [heq.1]) (hminus cs)
        · rename_i heq
          cases cs with
          | nil => simp [exponentDigits, digits, List.span_eq_takeWhile_dropWhile] at h
          | cons a cs =>
            simp only [List.cons_append, List.cons.injEq] at heq
            exact absurd (by rw [heq.1]) (hplus cs)
        · exact exponentDigits_append h hrest q
    · rename_i hc
      obtain ⟨rfl, rfl⟩ : 0 = e ∧ c :: cs = rest := by simpa using h
      rw [if_neg hc, List.cons_append]

/-- The parts of a number that has been read. -/
theorem number_eq_some {cs rest : List Char} {n : JsonNumber} (h : number cs = some (n, rest)) :
    ∃ int r frac r' e,
      integerPart (if cs.head? = some '-' then cs.tail else cs) = some (int, r) ∧
      fraction r = some (frac, r') ∧ exponentPart r' = some (e, rest) ∧
      n = ⟨decide (cs.head? = some '-'), digitsValue (int ++ frac), e - frac.length⟩ := by
  simp only [number, decide_eq_true_eq] at h
  split at h
  · cases h
  · rename_i int r hint
    split at h
    · cases h
    · rename_i frac r' hfrac
      split at h
      · cases h
      · rename_i e rest' hexp
        obtain ⟨rfl, rfl⟩ : _ = n ∧ rest' = rest := by simpa using h
        exact ⟨int, r, frac, r', e, hint, hfrac, hexp, rfl⟩

theorem digits_nil : digits [] = ([], []) := by
  simp [digits, List.span_eq_takeWhile_dropWhile]

/-- A number that something follows is read the same way when more follows. -/
theorem number_append {cs rest : List Char} {n : JsonNumber} (h : number cs = some (n, rest))
    (hrest : rest ≠ []) (q : List Char) : number (cs ++ q) = some (n, rest ++ q) := by
  obtain ⟨int, r, frac, r', e, hint, hfrac, hexp, rfl⟩ := number_eq_some h
  have hr' : r' ≠ [] := by
    rintro rfl
    simp only [exponentPart, Option.some.injEq, Prod.mk.injEq] at hexp
    exact hrest hexp.2.symm
  have hr : r ≠ [] := by
    rintro rfl
    simp only [fraction, Option.some.injEq, Prod.mk.injEq] at hfrac
    exact hr' hfrac.2.symm
  have hcs : cs ≠ [] := by
    rintro rfl
    simp [integerPart, digits_nil] at hint
  have hhead : (cs ++ q).head? = cs.head? := by
    obtain ⟨c, cs, rfl⟩ := List.exists_cons_of_ne_nil hcs
    rfl
  have htail : (cs ++ q).tail = cs.tail ++ q := List.tail_append_of_ne_nil hcs
  have hstrip : (if cs.head? = some '-' then (cs ++ q).tail else cs ++ q) =
      (if cs.head? = some '-' then cs.tail else cs) ++ q := by
    rw [htail]
    split <;> rfl
  simp only [number, hhead, decide_eq_true_eq, hstrip, integerPart_append hint hr q,
    fraction_append hfrac hr' q, exponentPart_append hexp hrest q]

theorem strItems_append {cs rest : List Char} {items : List StrItem}
    (h : strItems cs = some (items, rest)) (q : List Char) :
    strItems (cs ++ q) = some (items, rest ++ q) := by
  fun_induction strItems cs generalizing items rest with
  | case1 => cases h
  | case2 cs => cases h; rfl
  | case3 a b c d cs n items' rest' hitems hhex ih => cases h; exact strItems_unit hhex (ih hitems)
  | case4 => cases h
  | case5 e cs hu c items' rest' hitems he ih => cases h; exact strItems_escape he (ih hitems)
  | case6 => cases h
  | case7 => cases h
  | case8 c cs hq hu hb hc items' rest' hitems ih =>
    cases h
    exact strItems_char (by tauto) hq (by tauto) (ih hitems)
  | case9 => cases h

theorem string_append {cs rest : List Char} {s : String} (h : string cs = some (s, rest))
    (q : List Char) : string (cs ++ q) = some (s, rest ++ q) := by
  unfold string at h
  split at h
  · rename_i items rest' hitems
    obtain ⟨rfl, rfl⟩ : _ = s ∧ rest' = rest := by simpa using h
    simp only [string, strItems_append hitems q]
  · cases h

/-- Reading with some fuel is not changed by more fuel and more text, once something follows. -/
def Stable (fuel : ℕ) : Prop :=
  (∀ d cs v rest, value fuel d cs = some (v, rest) → rest ≠ [] →
    ∀ fuel' ≥ fuel, ∀ q, value fuel' d (cs ++ q) = some (v, rest ++ q)) ∧
  (∀ d cs vs rest, elements fuel d cs = some (vs, rest) →
    ∀ fuel' ≥ fuel, ∀ q, elements fuel' d (cs ++ q) = some (vs, rest ++ q)) ∧
  (∀ d cs ms rest, members fuel d cs = some (ms, rest) →
    ∀ fuel' ≥ fuel, ∀ q, members fuel' d (cs ++ q) = some (ms, rest ++ q))

theorem value_nil (fuel d : ℕ) : value fuel d [] = none := by
  cases fuel with
  | zero => rfl
  | succ fuel => rfl

/-- A number begins with a sign or a digit. -/
theorem head_of_number {cs rest : List Char} {n : JsonNumber} (h : number cs = some (n, rest)) :
    ∃ c cs', cs = c :: cs' ∧ (c = '-' ∨ c.isDigit = true) := by
  obtain ⟨int, r, frac, r', e, hint, -⟩ := number_eq_some h
  cases cs with
  | nil => simp [integerPart, digits_nil] at hint
  | cons c cs =>
    refine ⟨c, cs, rfl, ?_⟩
    by_contra hc
    obtain ⟨hminus, hdigit⟩ := not_or.mp hc
    have hzero : c ≠ '0' := by
      rintro rfl
      exact hdigit (by decide)
    have hdigits : digits (c :: cs) = ([], c :: cs) := by
      simp [digits, List.span_eq_takeWhile_dropWhile, hdigit]
    simp only [List.head?_cons, Option.some.injEq, hminus, if_false] at hint
    unfold integerPart at hint
    split at hint
    · rename_i heq
      exact absurd (List.cons.inj heq).1 hzero
    · simp [hdigits] at hint

theorem elements_nil (fuel d : ℕ) : elements fuel d [] = none := by
  cases fuel with
  | zero => rfl
  | succ fuel =>
    refine Option.eq_none_iff_forall_ne_some.mpr fun ⟨vs, rest⟩ h => ?_
    obtain ⟨v, r, hvalue, -⟩ := elements_eq_some_iff.mp h
    rw [show skipSpace [] = [] from rfl, value_nil] at hvalue
    cases hvalue

theorem members_nil (fuel d : ℕ) : members fuel d [] = none := by
  cases fuel with
  | zero => rfl
  | succ fuel =>
    refine Option.eq_none_iff_forall_ne_some.mpr fun ⟨ms, rest⟩ h => ?_
    obtain ⟨r, k, r₁, r₂, v, r₃, hr, -⟩ := members_eq_some_iff.mp h
    cases hr

theorem head_skipSpace_append {cs : List Char} {c : Char} (hne : skipSpace cs ≠ [])
    (h : (skipSpace cs).head? ≠ some c) (q : List Char) :
    (skipSpace (cs ++ q)).head? ≠ some c := by
  rw [skipSpace_append hne]
  obtain ⟨a, as, has⟩ := List.exists_cons_of_ne_nil hne
  rw [has] at h ⊢
  exact h

theorem array_stable {fuel : ℕ} (ih : Stable fuel) {d : ℕ} {cs rest : List Char} {v : Json}
    (h : value (fuel + 1) (d + 1) ('[' :: cs) = some (v, rest)) {fuel' : ℕ}
    (hfuel : fuel ≤ fuel') (q : List Char) :
    value (fuel' + 1) (d + 1) ('[' :: (cs ++ q)) = some (v, rest ++ q) := by
  by_cases hempty : (skipSpace cs).head? = some ']'
  · obtain ⟨cs', hcs⟩ := List.head?_eq_some_iff.mp hempty
    rw [value_array, if_pos hempty, hcs] at h
    obtain ⟨rfl, rfl⟩ : .arr [] = v ∧ cs' = rest := by simpa using h
    rw [value_array, skipSpace_eq_cons hcs q]
    rfl
  · rw [value_array, if_neg hempty, Option.map_eq_some_iff] at h
    obtain ⟨⟨vs, rest'⟩, hread, heq⟩ := h
    obtain ⟨rfl, rfl⟩ : .arr vs = v ∧ rest' = rest := by simpa using heq
    have hne : skipSpace cs ≠ [] := by
      intro hnil
      rw [hnil, elements_nil] at hread
      cases hread
    rw [elements_skipSpace] at hread
    rw [value_array, if_neg (head_skipSpace_append hne hempty q), elements_skipSpace,
      ih.2.1 d cs vs rest' hread fuel' hfuel q, Option.map_some]

theorem object_stable {fuel : ℕ} (ih : Stable fuel) {d : ℕ} {cs rest : List Char} {v : Json}
    (h : value (fuel + 1) (d + 1) ('{' :: cs) = some (v, rest)) {fuel' : ℕ}
    (hfuel : fuel ≤ fuel') (q : List Char) :
    value (fuel' + 1) (d + 1) ('{' :: (cs ++ q)) = some (v, rest ++ q) := by
  by_cases hempty : (skipSpace cs).head? = some '}'
  · obtain ⟨cs', hcs⟩ := List.head?_eq_some_iff.mp hempty
    rw [value_object, if_pos hempty, hcs] at h
    obtain ⟨rfl, rfl⟩ : .obj [] = v ∧ cs' = rest := by simpa using h
    rw [value_object, skipSpace_eq_cons hcs q]
    rfl
  · rw [value_object, if_neg hempty, Option.map_eq_some_iff] at h
    obtain ⟨⟨ms, rest'⟩, hread, heq⟩ := h
    obtain ⟨rfl, rfl⟩ : .obj ms = v ∧ rest' = rest := by simpa using heq
    have hne : skipSpace cs ≠ [] := by
      intro hnil
      rw [hnil, members_nil] at hread
      cases hread
    rw [members_skipSpace] at hread
    rw [value_object, if_neg (head_skipSpace_append hne hempty q), members_skipSpace,
      ih.2.2 d cs ms rest' hread fuel' hfuel q, Option.map_some]

/-- A value that is neither an array nor an object. -/
theorem scalar_stable {fuel fuel' d : ℕ} {cs rest : List Char} {v : Json}
    (h : value (fuel + 1) d cs = some (v, rest)) (hrest : rest ≠ []) (harr : cs.head? ≠ some '[')
    (hobj : cs.head? ≠ some '{') (q : List Char) :
    value (fuel' + 1) d (cs ++ q) = some (v, rest ++ q) := by
  unfold value at h
  split at h
  · cases h
  · cases h; rfl
  · cases h; rfl
  · cases h; rfl
  · split at h
    · rename_i hs
      cases h
      rw [List.cons_append, value_string, string_append hs q, Option.map_some]
    · cases h
  · cases h
  · exact absurd rfl harr
  · cases h
  · exact absurd rfl hobj
  · split at h
    · rename_i n _ hn
      cases h
      obtain ⟨c, cs', rfl, hc⟩ := head_of_number hn
      rw [List.cons_append, value_number _ _ hc, ← List.cons_append, number_append hn hrest q,
        Option.map_some]
    · cases h

theorem value_stable {fuel : ℕ} (ih : Stable fuel) {d : ℕ} {cs rest : List Char} {v : Json}
    (h : value (fuel + 1) d cs = some (v, rest)) (hrest : rest ≠ []) {fuel' : ℕ}
    (hfuel : fuel ≤ fuel') (q : List Char) :
    value (fuel' + 1) d (cs ++ q) = some (v, rest ++ q) := by
  by_cases harr : cs.head? = some '['
  · obtain ⟨cs', rfl⟩ := List.head?_eq_some_iff.mp harr
    cases d with
    | zero => cases h
    | succ d => exact array_stable ih h hfuel q
  · by_cases hobj : cs.head? = some '{'
    · obtain ⟨cs', rfl⟩ := List.head?_eq_some_iff.mp hobj
      cases d with
      | zero => cases h
      | succ d => exact object_stable ih h hfuel q
    · exact scalar_stable h hrest harr hobj q

theorem stable (fuel : ℕ) : Stable fuel := by
  induction fuel with
  | zero =>
    refine ⟨?_, ?_, ?_⟩
    · intro _ _ _ _ h
      cases h
    · intro _ _ _ _ h
      cases h
    · intro _ _ _ _ h
      cases h
  | succ fuel ih =>
    obtain ⟨ihv, ihe, ihm⟩ := ih
    refine ⟨?_, ?_, ?_⟩
    · intro d cs v rest h hrest fuel' hfuel q
      obtain ⟨fuel', rfl⟩ : ∃ f, fuel' = f + 1 := ⟨fuel' - 1, by omega⟩
      exact value_stable ⟨ihv, ihe, ihm⟩ h hrest (by omega) q
    · intro d cs vs rest h fuel' hfuel q
      obtain ⟨fuel', rfl⟩ : ∃ f, fuel' = f + 1 := ⟨fuel' - 1, by omega⟩
      obtain ⟨v, r, hvalue, hcase⟩ := elements_eq_some_iff.mp h
      have hcs : skipSpace cs ≠ [] := by
        intro hnil
        rw [hnil, value_nil] at hvalue
        cases hvalue
      have hr : r ≠ [] := by
        rintro rfl
        rcases hcase with ⟨h, -⟩ | ⟨_, _, h, -⟩ <;> simp [skipSpace] at h
      have hvalue' := ihv d _ v r hvalue hr fuel' (by omega) q
      rw [elements_eq_some_iff, skipSpace_append hcs]
      refine ⟨v, r ++ q, hvalue', ?_⟩
      rcases hcase with ⟨hr', rfl⟩ | ⟨r', vs', hr', hrest, rfl⟩
      · exact .inl ⟨skipSpace_eq_cons hr' q, rfl⟩
      · exact .inr ⟨r' ++ q, vs', skipSpace_eq_cons hr' q,
          ihe d r' vs' rest hrest fuel' (by omega) q, rfl⟩
    · intro d cs ms rest h fuel' hfuel q
      obtain ⟨fuel', rfl⟩ : ∃ f, fuel' = f + 1 := ⟨fuel' - 1, by omega⟩
      obtain ⟨r, k, r₁, r₂, v, r₃, hr, hk, hr₂, hvalue, hcase⟩ := members_eq_some_iff.mp h
      have hskip : skipSpace r₂ ≠ [] := by
        intro hnil
        rw [hnil, value_nil] at hvalue
        cases hvalue
      have hr₃ : r₃ ≠ [] := by
        rintro rfl
        rcases hcase with ⟨h, -⟩ | ⟨_, _, h, -⟩ <;> simp [skipSpace] at h
      have hvalue' := ihv d _ v r₃ hvalue hr₃ fuel' (by omega) q
      rw [members_eq_some_iff]
      refine ⟨r ++ q, k, r₁ ++ q, r₂ ++ q, v, r₃ ++ q, skipSpace_eq_cons hr q, string_append hk q,
        skipSpace_eq_cons hr₂ q, by rw [skipSpace_append hskip, hvalue'], ?_⟩
      rcases hcase with ⟨hr', rfl⟩ | ⟨r', ms', hr', hrest, rfl⟩
      · exact .inl ⟨skipSpace_eq_cons hr' q, rfl⟩
      · exact .inr ⟨r' ++ q, ms', skipSpace_eq_cons hr' q,
          ihm d r' ms' rest hrest fuel' (by omega) q, rfl⟩

/-- **An object cut short is not read**: if a text that begins with a brace is read as a whole, no
proper initial part of it is. -/
theorem parse_eq_none_of_append {d : ℕ} {cs q : List Char} {v : Json}
    (h : Reads d (.value v) ('{' :: (cs ++ q))) (hq : q ≠ []) :
    parse d (String.ofList ('{' :: cs)) = none := by
  by_contra hsome
  obtain ⟨v', hparse⟩ := Option.ne_none_iff_exists'.mp hsome
  rw [parse, String.toList_ofList, skipSpace_cons_of_not (by decide)] at hparse
  split at hparse
  · rename_i w rest hvalue
    cases d with
    | zero => cases hvalue
    | succ d =>
      have hfuel : 2 * ('{' :: cs).length ≤ 2 * ('{' :: (cs ++ q)).length + 1 := by
        simp
        omega
      have hlong := object_stable (stable _) hvalue hfuel q
      have hwhole := h.parsed.2 (2 * ('{' :: (cs ++ q)).length + 2) [] (by omega) stops_nil
      rw [List.append_nil, hlong] at hwhole
      obtain ⟨-, hrest⟩ : w = v ∧ rest ++ q = [] := by simpa using hwhole
      exact hq (List.append_eq_nil_iff.mp hrest).2
  · cases hparse

/-- **What may follow an object**: white space, which does not change the reading, and nothing else.
-/
theorem parse_object_append {d : ℕ} {cs : List Char} {v : Json}
    (h : parse d (String.ofList ('{' :: cs)) = some v) (q : List Char) :
    parse d (String.ofList ('{' :: (cs ++ q))) = if skipSpace q = [] then some v else none := by
  rw [parse, String.toList_ofList, skipSpace_cons_of_not (by decide)] at h
  split at h
  · rename_i w rest hvalue
    cases d with
    | zero => cases hvalue
    | succ d =>
      obtain ⟨hblank, rfl⟩ : skipSpace rest = [] ∧ w = v := by simpa using h
      have hfuel : 2 * ('{' :: cs).length ≤ 2 * ('{' :: (cs ++ q)).length := by
        simp
      have hlong := object_stable (stable _) hvalue hfuel q
      have hskip : skipSpace (rest ++ q) = skipSpace q :=
        skipSpace_append_of_blank (List.dropWhile_eq_nil_iff.mp hblank) q
      rw [parse, String.toList_ofList, skipSpace_cons_of_not (by decide)]
      simp only [hlong, hskip]
  · cases h

end Json
