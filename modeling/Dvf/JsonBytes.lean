/-
**JSON texts as bytes.**

A JSON text is exchanged in UTF-8.  This module reads a text from its bytes and supplies what is
needed to compare a writer that works on bytes with one that works on characters: a map that changes
only bytes below 128 commutes with the encoding, since every byte of a longer sequence is 128 or
more.  It also gives the other direction of the lemmas about string literals: what is in a literal
that is read.

* `Json.utf8`, `Json.parseBytes` — the encoding, and the parser on bytes;
* `Json.parseBytes_utf8` — on the encoding of a text it is the parser;
* `Json.utf8_flatMap` — a writer on characters and the same one on bytes;
* `Json.isSome_strItems_of_parse` — a text that begins with a quote is read as a literal.
-/

import Dvf.JsonText

set_option autoImplicit false

namespace Json

/-! ### The encoding -/

def utf8 (cs : List Char) : List UInt8 := cs.flatMap String.utf8EncodeChar

def parseBytes (depth : ℕ) (bytes : List UInt8) : Option Json :=
  bytes.toByteArray.utf8Decode?.bind fun text => parse depth (String.ofList text.toList)

theorem utf8_append (cs cs' : List Char) : utf8 (cs ++ cs') = utf8 cs ++ utf8 cs' :=
  List.flatMap_append

/-- **On the encoding of a text, the parser on bytes is the parser.** -/
theorem parseBytes_utf8 (depth : ℕ) (cs : List Char) :
    parseBytes depth (utf8 cs) = parse depth (String.ofList cs) := by
  have hdecode : (utf8 cs).toByteArray.utf8Decode? = some cs.toArray := List.utf8Decode?_utf8Encode
  rw [parseBytes, hdecode, Option.bind_some]

theorem utf8EncodeChar_ascii {c : Char} (h : c.toNat < 128) :
    String.utf8EncodeChar c = [UInt8.ofNat c.toNat] := by
  have hle : c.val.toNat ≤ 127 := Nat.le_of_lt_succ h
  simp only [String.utf8EncodeChar, hle, if_true]
  rfl

/-- The bytes of a character that takes several. -/
theorem le_of_mem_utf8EncodeChar {c : Char} (h : ¬ c.toNat < 128) {b : UInt8}
    (hb : b ∈ String.utf8EncodeChar c) : 128 ≤ b.toNat := by
  have hgt : ¬ c.val.toNat ≤ 127 := fun hle => h (Nat.lt_succ_of_le hle)
  have hbyte : ∀ n, 128 ≤ n → n < 256 → 128 ≤ (UInt8.ofNat n).toNat := by
    intro n hle hlt
    rwa [UInt8.toNat_ofNat_of_lt' hlt]
  simp only [String.utf8EncodeChar, hgt, if_false] at hb
  split_ifs at hb
  all_goals
    simp only [List.mem_cons, List.not_mem_nil, or_false] at hb
  · rcases hb with rfl | rfl
    · exact hbyte _ (by omega) (by omega)
    · exact hbyte _ (by omega) (by omega)
  · rcases hb with rfl | rfl | rfl
    · exact hbyte _ (by omega) (by omega)
    · exact hbyte _ (by omega) (by omega)
    · exact hbyte _ (by omega) (by omega)
  · rcases hb with rfl | rfl | rfl | rfl
    · exact hbyte _ (by omega) (by omega)
    · exact hbyte _ (by omega) (by omega)
    · exact hbyte _ (by omega) (by omega)
    · exact hbyte _ (by omega) (by omega)

/-- **A writer that changes only characters below 128** is the same writer on bytes. -/
theorem utf8_flatMap {f : Char → List Char} {g : UInt8 → List UInt8}
    (hascii : ∀ c : Char, c.toNat < 128 → utf8 (f c) = g (UInt8.ofNat c.toNat))
    (hchar : ∀ c : Char, ¬ c.toNat < 128 → f c = [c])
    (hbyte : ∀ b : UInt8, 128 ≤ b.toNat → g b = [b]) (cs : List Char) :
    utf8 (cs.flatMap f) = (utf8 cs).flatMap g := by
  have hone : ∀ c, utf8 (f c) = (String.utf8EncodeChar c).flatMap g := by
    intro c
    by_cases hc : c.toNat < 128
    · rw [hascii c hc, utf8EncodeChar_ascii hc, List.flatMap_singleton]
    · have hkept : (String.utf8EncodeChar c).flatMap g =
          (String.utf8EncodeChar c).flatMap fun b => [b] :=
        List.flatMap_congr fun b hb => hbyte b (le_of_mem_utf8EncodeChar hc hb)
      rw [hchar c hc, hkept, List.flatMap_singleton']
      exact List.flatMap_singleton _ _
  induction cs with
  | nil => rfl
  | cons c cs ih =>
      have hcons : utf8 (c :: cs) = String.utf8EncodeChar c ++ utf8 cs := rfl
      rw [List.flatMap_cons, utf8_append, hone, ih, hcons, List.flatMap_append]

theorem exists_of_mem_utf8 {cs : List Char} {b : UInt8} (hb : b ∈ utf8 cs) (hlt : b.toNat < 128) :
    ∃ c ∈ cs, c.toNat = b.toNat := by
  obtain ⟨c, hc, hmem⟩ := List.mem_flatMap.1 hb
  refine ⟨c, hc, ?_⟩
  by_cases hascii : c.toNat < 128
  · rw [utf8EncodeChar_ascii hascii] at hmem
    rw [List.mem_singleton.1 hmem, UInt8.toNat_ofNat_of_lt' (Nat.lt_trans hascii (by decide))]
  · exact absurd (le_of_mem_utf8EncodeChar hascii hmem) (by omega)

theorem mem_utf8_of_ascii {cs : List Char} {c : Char} (hc : c ∈ cs) (hlt : c.toNat < 128) :
    UInt8.ofNat c.toNat ∈ utf8 cs := by
  refine List.mem_flatMap.2 ⟨c, hc, ?_⟩
  rw [utf8EncodeChar_ascii hlt]
  exact List.mem_singleton_self _

/-! ### What is in a literal that is read -/

theorem isSome_strItems_of_escape {e : Char} (hu : e ≠ 'u') {cs : List Char}
    (h : (strItems ('\\' :: e :: cs)).isSome) : (strItems cs).isSome := by
  by_contra hnone
  rw [Option.not_isSome_iff_eq_none] at hnone
  rw [strItems] at h
  · simp [hnone] at h
  · intro _ _ _ _ _ heq
    exact absurd heq hu

theorem isSome_strItems_of_char {c : Char} (hq : c ≠ '"') (hb : c ≠ '\\') {cs : List Char}
    (h : (strItems (c :: cs)).isSome) : ¬ c.toNat < 32 ∧ (strItems cs).isSome := by
  rw [strItems] at h
  · by_cases hctl : c.toNat < 32
    · simp [hctl] at h
    · refine ⟨hctl, ?_⟩
      by_contra hnone
      rw [Option.not_isSome_iff_eq_none] at hnone
      simp [hnone] at h
  · exact hq
  · intro _ _ _ _ _ heq
    exact absurd heq hb
  · intro _ _ heq
    exact absurd heq hb

/-- **A text that begins with a quote is read as a literal.** -/
theorem isSome_strItems_of_parse {d : ℕ} {cs : List Char} {v : Json}
    (h : parse d (String.ofList ('"' :: cs)) = some v) : (strItems cs).isSome := by
  by_contra hnone
  rw [Option.not_isSome_iff_eq_none] at hnone
  have hstring : string cs = none := by rw [string, hnone]
  rw [parse, String.toList_ofList, skipSpace_cons_of_not (by decide)] at h
  simp only [value_string, hstring, Option.map_none, reduceCtorEq] at h

end Json
