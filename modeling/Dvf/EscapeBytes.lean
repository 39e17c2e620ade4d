/-
**`json_escape` on bytes** (`test_framework.c`).

`Dvf/TestReport.lean` has the escapes on characters.  Here `json_escape` is the loop of the source:
it reads the bytes of a message up to the NUL and stores into a buffer, with a test that leaves room
for two bytes.  The stores are kept as a list of offsets and bytes, so that a store outside the
buffer would be seen.

For a message of at most 511 bytes and a buffer of 1024, no store is outside, the output ends with a
NUL and every byte of the message is in it.  Between quotes it is a JSON literal of the message
exactly when the message is UTF-8 and has no control byte other than a line feed or a tab: the
others are stored as they are, and JSON does not allow them in a literal.

* `Dvf.CTest.jsonEscapeBytes` — the loop;
* `Dvf.CTest.EscapeFaithful` — bounded, terminated, whole and decoded to the message;
* `Dvf.CTest.jsonEscapeBytes_holds` — what is in the buffer;
* `Dvf.CTest.escapeFaithful_iff` — the messages for which the escapes are faithful.
-/

import Dvf.JsonBytes
import Dvf.TestReport

set_option autoImplicit false

namespace Dvf

namespace CTest

/-! ### The loop -/

/-- The stores into `out` so far, and the next offset. -/
structure OutBuffer where
  stores : List (ℕ × UInt8)
  j : ℕ

/-- `out[j++] = b`. -/
def OutBuffer.put (o : OutBuffer) (b : UInt8) : OutBuffer := ⟨o.stores ++ [(o.j, b)], o.j + 1⟩

/-- The `switch` of `json_escape`. -/
def OutBuffer.escape (o : OutBuffer) (b : UInt8) : OutBuffer :=
  if b = 0x22 then (o.put 0x5C).put 0x22
  else if b = 0x5C then (o.put 0x5C).put 0x5C
  else if b = 0x0A then (o.put 0x5C).put 0x6E
  else if b = 0x09 then (o.put 0x5C).put 0x74
  else o.put b

/-- The loop of `json_escape` over the memory from `s[i]` on. -/
def escapeLoop (outSz : UInt64) : List UInt8 → OutBuffer → OutBuffer
  | [], o => o
  | b :: s, o =>
      if b ≠ 0 ∧ o.j < (outSz - 2).toNat then escapeLoop outSz s (o.escape b) else o

/-- `json_escape`. -/
def jsonEscapeBytes (s : List UInt8) (outSz : UInt64) : OutBuffer :=
  let o := escapeLoop outSz s ⟨[], 0⟩
  -- `out[j] = '\0'`
  { o with stores := o.stores ++ [(o.j, 0)] }

/-! ### What is in the buffer -/

/-- The memory from `out` on after the stores. -/
def OutBuffer.memory (o : OutBuffer) (mem : ℕ → UInt8) : ℕ → UInt8 :=
  o.stores.foldl (fun m w => Function.update m w.1 w.2) mem

def IsCString (mem : ℕ → UInt8) (text : List UInt8) : Prop :=
  (List.range text.length).map mem = text ∧ 0 ∉ text ∧ mem text.length = 0

/-- What `json_escape` is to write for a byte. -/
def escapeByte (b : UInt8) : List UInt8 :=
  if b = 0x22 then [0x5C, 0x22] else if b = 0x5C then [0x5C, 0x5C]
  else if b = 0x0A then [0x5C, 0x6E] else if b = 0x09 then [0x5C, 0x74] else [b]

/-- **The output for a message is bounded and faithful**, whatever is behind the message in memory
and whatever was in the buffer: every store is inside, the buffer holds a string, no byte of the
message is missing, and between quotes it is a literal that is decoded to the message. -/
def EscapeFaithful (depth : ℕ) (msg : List UInt8) : Prop :=
  ∀ (after : List UInt8) (mem : ℕ → UInt8),
    (∀ w ∈ (jsonEscapeBytes (msg ++ 0 :: after) 1024).stores, w.1 < 1024) ∧
      ∃ text, IsCString ((jsonEscapeBytes (msg ++ 0 :: after) 1024).memory mem) text ∧
        text = msg.flatMap escapeByte ∧
        ∃ s : String, Json.parseBytes depth (0x22 :: (text ++ [0x22])) = some (.str s) ∧
          Json.utf8 s.toList = msg

/-- The buffer holds a text from its beginning. -/
structure OutBuffer.Holds (o : OutBuffer) (text : List UInt8) : Prop where
  stores : o.stores = text.zipIdx.map Prod.swap
  j : o.j = text.length

section Holds

variable {o : OutBuffer} {text : List UInt8}

theorem OutBuffer.Holds.put (h : o.Holds text) (b : UInt8) : (o.put b).Holds (text ++ [b]) := by
  constructor
  · rw [OutBuffer.put, h.stores, h.j, List.zipIdx_append]
    simp
  · rw [OutBuffer.put, h.j]
    simp

theorem OutBuffer.Holds.escape (h : o.Holds text) (b : UInt8) :
    (o.escape b).Holds (text ++ escapeByte b) := by
  have htwo : ∀ b₁ b₂, ((o.put b₁).put b₂).Holds (text ++ [b₁, b₂]) := by
    intro b₁ b₂
    rw [List.append_cons]
    exact (h.put b₁).put b₂
  unfold OutBuffer.escape escapeByte
  split_ifs
  · exact htwo _ _
  · exact htwo _ _
  · exact htwo _ _
  · exact htwo _ _
  · exact h.put b

theorem length_escapeByte (b : UInt8) : (escapeByte b).length ≤ 2 := by
  unfold escapeByte
  split_ifs <;> simp

/-- **The loop up to the NUL**, with two places for each byte. -/
theorem OutBuffer.Holds.escapeLoop {outSz : UInt64} {msg : List UInt8} (after : List UInt8)
    (h : o.Holds text) (hnul : 0 ∉ msg)
    (hroom : text.length + 2 * msg.length ≤ (outSz - 2).toNat) :
    (escapeLoop outSz (msg ++ 0 :: after) o).Holds (text ++ msg.flatMap escapeByte) := by
  induction msg generalizing o text with
  | nil => simpa [CTest.escapeLoop] using h
  | cons b msg ih =>
      rw [List.mem_cons, not_or] at hnul
      have hlength := length_escapeByte b
      have hb : b ≠ 0 ∧ o.j < (outSz - 2).toNat := by
        refine ⟨fun hzero => hnul.1 hzero.symm, ?_⟩
        rw [h.j]
        simp only [List.length_cons] at hroom
        omega
      rw [List.cons_append, CTest.escapeLoop, if_pos hb, List.flatMap_cons, ← List.append_assoc]
      refine ih (h.escape b) hnul.2 ?_
      simp only [List.length_append, List.length_cons] at hroom ⊢
      omega

/-- The memory of a buffer that holds a text. -/
theorem foldl_stores (text : List UInt8) (mem : ℕ → UInt8) (i : ℕ) :
    (text.zipIdx.map Prod.swap).foldl (fun m w => Function.update m w.1 w.2) mem i =
      (text[i]?).getD (mem i) := by
  induction text using List.reverseRecOn with
  | nil => rfl
  | append_singleton text b ih =>
      rw [List.zipIdx_append, List.map_append, List.foldl_append]
      by_cases hi : i = text.length
      · subst hi
        simp
      · have hsame : (text ++ [b])[i]? = text[i]? := by
          rcases Nat.lt_or_gt_of_ne hi with hlt | hgt
          · exact List.getElem?_append_left hlt
          · rw [List.getElem?_eq_none (by rw [List.length_append, List.length_singleton]; omega),
              List.getElem?_eq_none (by omega)]
        rw [hsame, ← ih]
        simp [Function.update_of_ne hi]

end Holds

/-- **What is in the buffer**: the escapes of every byte, and a NUL. -/
theorem jsonEscapeBytes_holds {msg : List UInt8} (hnul : 0 ∉ msg) (hlen : msg.length ≤ 511)
    (after : List UInt8) :
    (jsonEscapeBytes (msg ++ 0 :: after) 1024).stores =
      (msg.flatMap escapeByte ++ [0]).zipIdx.map Prod.swap := by
  have hempty : OutBuffer.Holds ⟨[], 0⟩ [] := ⟨rfl, rfl⟩
  have hroom : ([] : List UInt8).length + 2 * msg.length ≤ ((1024 : UInt64) - 2).toNat := by
    have hsize : ((1024 : UInt64) - 2).toNat = 1022 := by decide
    rw [hsize, List.length_nil]
    omega
  have hloop := hempty.escapeLoop after hnul hroom
  exact (hloop.put 0).stores

theorem length_flatMap_escapeByte (msg : List UInt8) :
    (msg.flatMap escapeByte).length ≤ 2 * msg.length := by
  induction msg with
  | nil => simp
  | cons b msg ih =>
      have hb := length_escapeByte b
      rw [List.flatMap_cons, List.length_append, List.length_cons]
      omega

theorem stores_inside {msg : List UInt8} (hnul : 0 ∉ msg) (hlen : msg.length ≤ 511)
    (after : List UInt8) :
    ∀ w ∈ (jsonEscapeBytes (msg ++ 0 :: after) 1024).stores, w.1 < 1024 := by
  intro w hw
  rw [jsonEscapeBytes_holds hnul hlen, List.mem_map] at hw
  obtain ⟨⟨b, i⟩, hmem, rfl⟩ := hw
  have hi := List.snd_lt_of_mem_zipIdx hmem
  have hlength := length_flatMap_escapeByte msg
  simp only [List.length_append, List.length_singleton] at hi
  change i < 1024
  omega

theorem zero_notMem_escapeByte {b : UInt8} (hb : b ≠ 0) : 0 ∉ escapeByte b := by
  unfold escapeByte
  split_ifs
  · decide
  · decide
  · decide
  · decide
  · simpa using hb.symm

/-- The output is terminated, and nothing of the message is missing. -/
theorem isCString_output {msg : List UInt8} (hnul : 0 ∉ msg) (hlen : msg.length ≤ 511)
    (after : List UInt8) (mem : ℕ → UInt8) :
    IsCString ((jsonEscapeBytes (msg ++ 0 :: after) 1024).memory mem)
      (msg.flatMap escapeByte) := by
  have hmem : ∀ i, (jsonEscapeBytes (msg ++ 0 :: after) 1024).memory mem i =
      ((msg.flatMap escapeByte ++ [0])[i]?).getD (mem i) := by
    intro i
    rw [OutBuffer.memory, jsonEscapeBytes_holds hnul hlen, foldl_stores]
  refine ⟨?_, ?_, ?_⟩
  · refine List.ext_getElem (by simp) ?_
    intro i _ hi
    rw [List.getElem_map, List.getElem_range, hmem, List.getElem?_append_left hi,
      List.getElem?_eq_getElem hi, Option.getD_some]
  · intro hzero
    obtain ⟨b, hb, hmem⟩ := List.mem_flatMap.1 hzero
    exact zero_notMem_escapeByte (fun heq => hnul (heq ▸ hb)) hmem
  · rw [hmem]
    simp

/-! ### The literal -/

/-- The escapes on bytes are those on characters. -/
theorem utf8_escape (cs : List Char) :
    Json.utf8 (cs.flatMap escapeChar) = (Json.utf8 cs).flatMap escapeByte := by
  refine Json.utf8_flatMap ?_ ?_ ?_ cs
  · -- the 128 characters one by one
    have hall : ∀ n < 128,
        Json.utf8 (escapeChar (Char.ofNat n)) = escapeByte (UInt8.ofNat n) := by decide +kernel
    intro c hc
    rw [← hall c.toNat hc, Char.ofNat_toNat]
  · intro c hc
    have hne : ∀ c' : Char, c'.toNat < 128 → c ≠ c' := by
      rintro c' hc' rfl
      exact hc hc'
    rw [escapeChar, if_neg (hne _ (by decide)), if_neg (hne _ (by decide)),
      if_neg (hne _ (by decide)), if_neg (hne _ (by decide))]
  · intro b hb
    have hne : ∀ b' : UInt8, b'.toNat < 128 → b ≠ b' := by
      rintro b' hb' rfl
      omega
    rw [escapeByte, if_neg (hne _ (by decide)), if_neg (hne _ (by decide)),
      if_neg (hne _ (by decide)), if_neg (hne _ (by decide))]

/-- In a literal with the escapes that is read, every character is one that can be read back. -/
theorem control_of_isSome_strItems {cs rest : List Char}
    (h : (Json.strItems (cs.flatMap escapeChar ++ rest)).isSome) :
    ∀ c ∈ cs, c.toNat < 32 → c = '\n' ∨ c = '\t' := by
  induction cs with
  | nil => simp
  | cons c cs ih =>
      rw [List.flatMap_cons, List.append_assoc] at h
      have hsplit : (c.toNat < 32 → c = '\n' ∨ c = '\t') ∧
          (Json.strItems (cs.flatMap escapeChar ++ rest)).isSome := by
        unfold escapeChar at h
        split_ifs at h with hq hb hn ht
        · exact ⟨fun hctl => absurd hctl (by rw [hq]; decide),
            Json.isSome_strItems_of_escape (by decide) h⟩
        · exact ⟨fun hctl => absurd hctl (by rw [hb]; decide),
            Json.isSome_strItems_of_escape (by decide) h⟩
        · exact ⟨fun _ => Or.inl hn, Json.isSome_strItems_of_escape (by decide) h⟩
        · exact ⟨fun _ => Or.inr ht, Json.isSome_strItems_of_escape (by decide) h⟩
        · obtain ⟨hctl, hsome⟩ := Json.isSome_strItems_of_char hq hb h
          exact ⟨fun hlt => absurd hlt hctl, hsome⟩
      rw [List.forall_mem_cons]
      exact ⟨hsplit.1, ih hsplit.2⟩

theorem literal_utf8 (cs : List Char) :
    0x22 :: ((Json.utf8 cs).flatMap escapeByte ++ [0x22]) =
      Json.utf8 ('"' :: (cs.flatMap escapeChar ++ ['"'])) := by
  have hquote : Json.utf8 ['"'] = [0x22] := by decide +kernel
  have hcons : ∀ cs, Json.utf8 ('"' :: cs) = Json.utf8 ['"'] ++ Json.utf8 cs := fun cs =>
    Json.utf8_append ['"'] cs
  rw [hcons, Json.utf8_append, hquote, utf8_escape, List.singleton_append]

/-- The control bytes of an encoded message are its control characters. -/
theorem control_utf8_iff (cs : List Char) :
    (∀ b ∈ Json.utf8 cs, b.toNat < 32 → b = 0x0A ∨ b = 0x09) ↔
      ∀ c ∈ cs, c.toNat < 32 → c = '\n' ∨ c = '\t' := by
  constructor
  · intro h c hc hctl
    have hbyte := h _ (Json.mem_utf8_of_ascii hc (by omega))
    have hnat : (UInt8.ofNat c.toNat).toNat = c.toNat :=
      UInt8.toNat_ofNat_of_lt' (Nat.lt_trans hctl (by decide))
    rw [hnat] at hbyte
    rcases hbyte hctl with heq | heq
    · refine Or.inl (Char.toNat_inj.1 ?_)
      rw [← hnat, heq]
      rfl
    · refine Or.inr (Char.toNat_inj.1 ?_)
      rw [← hnat, heq]
      rfl
  · intro h b hb hctl
    obtain ⟨c, hc, hnat⟩ := Json.exists_of_mem_utf8 hb (by omega)
    rcases h c hc (by omega) with rfl | rfl
    · exact Or.inl (UInt8.toNat_inj.1 hnat.symm)
    · exact Or.inr (UInt8.toNat_inj.1 hnat.symm)

/-- **The escapes are faithful exactly for UTF-8 without other control bytes.** -/
theorem escapeFaithful_iff (depth : ℕ) {msg : List UInt8} (hnul : 0 ∉ msg)
    (hlen : msg.length ≤ 511) :
    EscapeFaithful depth msg ↔
      msg.toByteArray.IsValidUTF8 ∧ ∀ b ∈ msg, b.toNat < 32 → b = 0x0A ∨ b = 0x09 := by
  constructor
  · intro h
    obtain ⟨_, text, _, rfl, s, hparse, hmsg⟩ := h [] fun _ => 0
    subst hmsg
    refine ⟨⟨s.toList, rfl⟩, (control_utf8_iff _).2 ?_⟩
    rw [literal_utf8, Json.parseBytes_utf8] at hparse
    exact control_of_isSome_strItems (Json.isSome_strItems_of_parse hparse)
  · rintro ⟨⟨cs, hvalid⟩, hctl⟩ after mem
    have hmsg : msg = Json.utf8 cs := List.toByteArray_inj.1 hvalid
    refine ⟨stores_inside hnul hlen after, _, isCString_output hnul hlen after mem, rfl,
      String.ofList cs, ?_, by rw [String.toList_ofList, hmsg]⟩
    rw [hmsg, control_utf8_iff] at hctl
    rw [hmsg, literal_utf8, Json.parseBytes_utf8]
    have htext := Json.stringText_flatMap escapeChar cs fun c hc _ _ _ hread =>
      strItems_escapeChar (hctl c hc) hread
    exact (Json.Reads.str depth htext).parse_eq

/-- A message with a quote, a line feed and a letter outside of ASCII. -/
theorem escapeFaithful_quoted : EscapeFaithful 0 (Json.utf8 "\"é\"\n".toList) :=
  (escapeFaithful_iff 0 (by decide +kernel) (by decide +kernel)).2
    ⟨⟨_, rfl⟩, by decide +kernel⟩

/-- **A carriage return is stored as it is**, and the literal is not read. -/
theorem carriage_return_not_read :
    (jsonEscapeBytes [0x6F, 0x6B, 0x0D, 0] 1024).stores =
        [(0, 0x6F), (1, 0x6B), (2, 0x0D), (3, 0)] ∧
      Json.parseBytes 0 [0x22, 0x6F, 0x6B, 0x0D, 0x22] = none ∧
      ¬ EscapeFaithful 0 [0x6F, 0x6B, 0x0D] := by
  have hnone : Json.parseBytes 0 [0x22, 0x6F, 0x6B, 0x0D, 0x22] = none := by
    have hutf8 : [0x22, 0x6F, 0x6B, 0x0D, 0x22] = Json.utf8 ['"', 'o', 'k', '\r', '"'] := by
      decide +kernel
    rw [hutf8, Json.parseBytes_utf8]
    decide +kernel
  refine ⟨by decide +kernel, hnone, fun h => ?_⟩
  obtain ⟨_, text, _, rfl, s, hparse, _⟩ := h [] fun _ => 0
  have htext : 0x22 :: (List.flatMap escapeByte [0x6F, 0x6B, 0x0D] ++ [0x22]) =
      [0x22, 0x6F, 0x6B, 0x0D, 0x22] := by decide +kernel
  rw [htext, hnone] at hparse
  cases hparse

end CTest

end Dvf
