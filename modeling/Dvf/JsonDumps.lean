/-
**Writing JSON texts.**

The compact writer: no white space, integers in decimal, strings character by character.  Writers
differ in which characters of a string they escape and how, so the writer takes an `Json.Escaper`:
for every character the text written for it, and the proof that the recogniser takes this text for
the character again, whatever surrounds it.  Two escapers are given: one that writes ASCII only,
with a surrogate pair for a character beyond U+FFFF, and one that writes most characters as they are
but escapes those that matter in HTML and in scripts.

Whatever the escaper, a value whose numbers are integers is read back from the text written for it
(`Json.parse_dumps`), and the text has no line feed in it (`Json.newline_notMem_dumps`).

* `Json.Escaper`, `Json.asciiEscaper`, `Json.htmlEscaper`;
* `Json.dumps` — the writer, `Json.fits` — what it can write within a nesting depth;
* `Json.reads_dumps`, `Json.parse_dumps` — **what is written is read back**;
* `Json.newline_notMem_dumps` — what is written is one line;
* `Json.get?`, `Json.ofMap` — members by name, and the object of a map.
-/

import Dvf.JsonText

set_option autoImplicit false

namespace Json

/-! ### Escapes -/

/-- The hexadecimal digit of a value below 16. -/
def hexChar (n : ℕ) : Char := if n < 10 then Char.ofNat (48 + n) else Char.ofNat (87 + n)

theorem hexDigit_hexChar {n : ℕ} (h : n < 16) : hexDigit (hexChar n) = some n := by
  interval_cases n <;> decide

/-- The escape of a code unit by its four hexadecimal digits. -/
def unitEscape (n : ℕ) : List Char :=
  ['\\', 'u', hexChar (n / 4096 % 16), hexChar (n / 256 % 16), hexChar (n / 16 % 16),
    hexChar (n % 16)]

theorem strItems_unitEscape {n : ℕ} (hn : n < 65536) {cs rest : List Char} {items : List StrItem}
    (h : strItems cs = some (items, rest)) :
    strItems (unitEscape n ++ cs) = some (.unit n :: items, rest) := by
  refine strItems_unit ?_ h
  have hdigit (k : ℕ) : hexDigit (hexChar (k % 16)) = some (k % 16) :=
    hexDigit_hexChar (Nat.mod_lt _ (by decide))
  simp only [hex4, hdigit, Option.some.injEq]
  omega

theorem joinUnits_unit {n : ℕ} (hhigh : isHighSurrogate n = false) (hlow : isLowSurrogate n = false)
    (items : List StrItem) : joinUnits (.unit n :: items) = Char.ofNat n :: joinUnits items := by
  have hchar : unitChar n = Char.ofNat n := by simp [unitChar, hhigh, hlow]
  cases items with
  | nil => simp [joinUnits, hchar]
  | cons item items =>
    cases item with
    | char c => simp [joinUnits, hchar]
    | unit m => simp [joinUnits, hhigh, hchar]

theorem joinUnits_pair {n m : ℕ} (hhigh : isHighSurrogate n = true) (hlow : isLowSurrogate m = true)
    (items : List StrItem) : joinUnits (.unit n :: .unit m :: items) =
      Char.ofNat (0x10000 + (n - 0xD800) * 0x400 + (m - 0xDC00)) :: joinUnits items := by
  simp [joinUnits, hhigh, hlow]

theorem not_surrogate (c : Char) :
    isHighSurrogate c.toNat = false ∧ isLowSurrogate c.toNat = false := by
  have hvalid := c.valid
  simp only [UInt32.isValidChar, Nat.isValidChar] at hvalid
  simp only [isHighSurrogate, isLowSurrogate, Char.toNat, Bool.and_eq_false_iff,
    decide_eq_false_iff_not]
  omega

/-- How a writer writes each character of a string, with what the recogniser makes of it. -/
structure Escaper where
  esc : Char → List Char
  items : Char → List StrItem
  read : ∀ (c : Char) {cs rest : List Char} {its : List StrItem},
    strItems cs = some (its, rest) → strItems (esc c ++ cs) = some (items c ++ its, rest)
  join : ∀ (c : Char) (its : List StrItem), joinUnits (items c ++ its) = c :: joinUnits its
  oneLine : ∀ c : Char, '\n' ∉ esc c

theorem Escaper.stringText (e : Escaper) (s : String) : StringText s (s.toList.flatMap e.esc) := by
  intro rest
  have hitems (cs : List Char) : ∃ its, strItems (cs.flatMap e.esc ++ '"' :: rest) =
      some (its, rest) ∧ joinUnits its = cs := by
    induction cs with
    | nil => exact ⟨[], rfl, rfl⟩
    | cons c cs ih =>
      obtain ⟨its, hread, hjoin⟩ := ih
      refine ⟨e.items c ++ its, ?_, by rw [e.join, hjoin]⟩
      rw [List.flatMap_cons, List.append_assoc]
      exact e.read c hread
  obtain ⟨its, hread, hjoin⟩ := hitems s.toList
  simp only [string, hread, hjoin, String.ofList_toList]

theorem Escaper.esc_ne_nil (e : Escaper) (c : Char) : e.esc c ≠ [] := by
  intro hnil
  have hread := e.read c (show strItems ['"'] = some ([], []) from rfl)
  rw [hnil, List.nil_append, List.append_nil] at hread
  have hitems : e.items c = [] := by
    have : some ([], []) = some (e.items c, []) := hread
    simpa using this.symm
  have hjoin := e.join c []
  rw [hitems] at hjoin
  cases hjoin

theorem Escaper.length_le (e : Escaper) (cs : List Char) :
    cs.length ≤ (cs.flatMap e.esc).length := by
  induction cs with
  | nil => simp
  | cons c cs ih =>
    have hpos : 0 < (e.esc c).length := List.length_pos_iff.mpr (e.esc_ne_nil c)
    rw [List.flatMap_cons, List.length_append, List.length_cons]
    omega

/-- The letter of the short escape of a character, if it has one. -/
def shortEscape (c : Char) : Option Char :=
  if c = '"' then some '"' else if c = '\\' then some '\\' else if c = '\n' then some 'n'
  else if c = '\r' then some 'r' else if c = '\t' then some 't'
  else if c = Char.ofNat 8 then some 'b' else if c = Char.ofNat 12 then some 'f' else none

theorem escapeChar_shortEscape {c e : Char} (h : shortEscape c = some e) :
    escapeChar e = some c := by
  unfold shortEscape at h
  split_ifs at h <;> cases h <;> subst c <;> rfl

theorem shortEscape_ne_newline {c e : Char} (h : shortEscape c = some e) : e ≠ '\n' := by
  unfold shortEscape at h
  split_ifs at h <;> cases h <;> decide

theorem ne_of_shortEscape_eq_none {c : Char} (h : shortEscape c = none) :
    c ≠ '"' ∧ c ≠ '\\' ∧ c ≠ '\n' := by
  unfold shortEscape at h
  split_ifs at h
  exact ⟨‹_›, ‹_›, ‹_›⟩

theorem newline_notMem_unitEscape (n : ℕ) : '\n' ∉ unitEscape n := by
  have hhex (k : ℕ) : hexChar (k % 16) ≠ '\n' := by
    have hlt : k % 16 < 16 := Nat.mod_lt _ (by decide)
    interval_cases k % 16 <;> decide
  simp [unitEscape, (hhex _).symm]

/-- The code units of a character: one, or a surrogate pair. -/
def codeUnits (c : Char) : List ℕ :=
  if c.toNat < 0x10000 then [c.toNat]
  else [0xD800 + (c.toNat - 0x10000) / 0x400, 0xDC00 + (c.toNat - 0x10000) % 0x400]

theorem char_lt (c : Char) : c.toNat < 0x110000 := by
  have hvalid := c.valid
  simp only [UInt32.isValidChar, Nat.isValidChar] at hvalid
  simp only [Char.toNat]
  omega

theorem codeUnits_lt (c : Char) : ∀ n ∈ codeUnits c, n < 65536 := by
  have hlt := char_lt c
  intro n hn
  unfold codeUnits at hn
  split_ifs at hn <;> simp only [List.mem_cons, List.not_mem_nil, or_false] at hn <;> omega

theorem joinUnits_codeUnits (c : Char) (items : List StrItem) :
    joinUnits ((codeUnits c).map .unit ++ items) = c :: joinUnits items := by
  have hlt := char_lt c
  unfold codeUnits
  split_ifs with h
  · have hc := not_surrogate c
    simp only [List.map_cons, List.map_nil, List.singleton_append]
    rw [joinUnits_unit hc.1 hc.2, Char.ofNat_toNat]
  · have hpair : 0x10000 + (0xD800 + (c.toNat - 0x10000) / 0x400 - 0xD800) * 0x400 +
        (0xDC00 + (c.toNat - 0x10000) % 0x400 - 0xDC00) = c.toNat := by omega
    simp only [List.map_cons, List.map_nil, List.cons_append, List.nil_append]
    rw [joinUnits_pair _ _ items, hpair, Char.ofNat_toNat]
    · simp only [isHighSurrogate, Bool.and_eq_true, decide_eq_true_eq]
      omega
    · simp only [isLowSurrogate, Bool.and_eq_true, decide_eq_true_eq]
      omega

/-- A character as a writer writes it that leaves the characters `raw` as they are: a short escape
where there is one, the character itself, or the escapes of its code units. -/
def escapeUnless (raw : Char → Bool) (c : Char) : List Char :=
  match shortEscape c with
  | some e => ['\\', e]
  | none => if raw c then [c] else (codeUnits c).flatMap unitEscape

/-- What the recogniser makes of `escapeUnless`. -/
def itemsUnless (raw : Char → Bool) (c : Char) : List StrItem :=
  if (shortEscape c).isSome || raw c then [.char c] else (codeUnits c).map .unit

theorem strItems_codeUnits {units : List ℕ} (hunits : ∀ n ∈ units, n < 65536)
    {cs rest : List Char} {items : List StrItem} (h : strItems cs = some (items, rest)) :
    strItems (units.flatMap unitEscape ++ cs) = some (units.map .unit ++ items, rest) := by
  induction units with
  | nil => exact h
  | cons n units ih =>
    rw [List.flatMap_cons, List.append_assoc, List.map_cons, List.cons_append]
    exact strItems_unitEscape (hunits n (by simp)) (ih fun m hm => hunits m (by simp [hm]))

/-- The escaper that leaves `raw` characters, none of which is a control character. -/
def escaperUnless (raw : Char → Bool) (hraw : ∀ c, raw c = true → ¬ c.toNat < 32) : Escaper where
  esc := escapeUnless raw
  items := itemsUnless raw
  read := by
    intro c cs rest its h
    unfold escapeUnless itemsUnless
    cases hshort : shortEscape c with
    | some e => exact strItems_escape (escapeChar_shortEscape hshort) h
    | none =>
      obtain ⟨hq, hb, -⟩ := ne_of_shortEscape_eq_none hshort
      cases hc : raw c with
      | true => exact strItems_char (hraw c hc) hq hb h
      | false => exact strItems_codeUnits (codeUnits_lt c) h
  join := by
    intro c its
    unfold itemsUnless
    split
    · rfl
    · exact joinUnits_codeUnits c its
  oneLine := by
    intro c
    unfold escapeUnless
    cases hshort : shortEscape c with
    | some e => simp [(shortEscape_ne_newline hshort).symm]
    | none =>
      obtain ⟨-, -, hnl⟩ := ne_of_shortEscape_eq_none hshort
      cases raw c with
      | true => simpa using Ne.symm hnl
      | false =>
        simp only [Bool.false_eq_true, if_false, List.mem_flatMap, not_exists, not_and]
        exact fun n _ => newline_notMem_unitEscape n

def isPrintable (c : Char) : Bool := 32 ≤ c.toNat && c.toNat < 127

/-- The escaper that writes printable ASCII only. -/
def asciiEscaper : Escaper :=
  escaperUnless isPrintable fun c hc => by
    simp only [isPrintable, Bool.and_eq_true, decide_eq_true_eq] at hc
    omega

/-- Characters that are safe inside HTML and scripts. -/
def isHtmlSafe (c : Char) : Bool :=
  32 ≤ c.toNat && c ≠ '<' && c ≠ '>' && c ≠ '&' && c.toNat ≠ 0x2028 && c.toNat ≠ 0x2029

/-- The escaper that writes every character it can as it is, those with a meaning in HTML or to a
script apart. -/
def htmlEscaper : Escaper :=
  escaperUnless isHtmlSafe fun c hc => by
    simp only [isHtmlSafe, Bool.and_eq_true, decide_eq_true_eq] at hc
    omega

/-! ### The writer -/

variable (e : Escaper)

def dumpsString (s : String) : List Char := '"' :: (s.toList.flatMap e.esc ++ ['"'])

mutual

/-- The compact text of a value. -/
def dumps : Json → List Char
  | .null => ['n', 'u', 'l', 'l']
  | .bool true => ['t', 'r', 'u', 'e']
  | .bool false => ['f', 'a', 'l', 's', 'e']
  | .num n => decimal n.negative n.mantissa []
  | .str s => dumpsString e s
  | .arr vs => '[' :: (dumpsElements vs ++ [']'])
  | .obj ms => '{' :: (dumpsMembers ms ++ ['}'])

/-- The elements of an array, separated by commas. -/
def dumpsElements : List Json → List Char
  | [] => []
  | [v] => dumps v
  | v :: vs => dumps v ++ ',' :: dumpsElements vs

/-- The members of an object, separated by commas. -/
def dumpsMembers : List (String × Json) → List Char
  | [] => []
  | [(k, v)] => dumpsString e k ++ ':' :: dumps v
  | (k, v) :: ms => dumpsString e k ++ ':' :: (dumps v ++ ',' :: dumpsMembers ms)

end

mutual

/-- The value has only integers as numbers, and at most `d` arrays and objects are nested in it. -/
def fits : ℕ → Json → Bool
  | _, .null => true
  | _, .bool _ => true
  | _, .num n => n.exponent = 0
  | _, .str _ => true
  | 0, .arr _ => false
  | d + 1, .arr vs => fitsElements d vs
  | 0, .obj _ => false
  | d + 1, .obj ms => fitsMembers d ms

def fitsElements : ℕ → List Json → Bool
  | _, [] => true
  | d, v :: vs => fits d v && fitsElements d vs

def fitsMembers : ℕ → List (String × Json) → Bool
  | _, [] => true
  | d, (_, v) :: ms => fits d v && fitsMembers d ms

end

theorem length_lt_dumpsString (s : String) : s.toList.length < (dumpsString e s).length := by
  have hle := e.length_le s.toList
  simp only [dumpsString, List.length_cons, List.length_append]
  omega

/-! ### What is written is read back -/

theorem reads_dumpsString (d : ℕ) (s : String) : Reads d (.value (.str s)) (dumpsString e s) :=
  .str d (e.stringText s)

theorem decimalNumber_of_integer {n : JsonNumber} (h : n.exponent = 0) :
    decimalNumber n.negative n.mantissa [] = n := by
  cases n
  rw [decimalNumber_nil]
  cases h
  rfl

theorem Reads.cons_dumps {d : ℕ} {k : String} {v : Json} {cs : List Char}
    (hv : Reads d (.value v) cs) {ms : List (String × Json)} {cs' : List Char}
    (hms : Reads d (.members ms) cs') :
    Reads d (.members ((k, v) :: ms)) (dumpsString e k ++ ':' :: (cs ++ ',' :: cs')) := by
  have h := Reads.member blank_nil (e.stringText k) blank_nil blank_nil hv blank_nil hms
  simpa [dumpsString] using h

theorem Reads.single_dumps {d : ℕ} {k : String} {v : Json} {cs : List Char}
    (hv : Reads d (.value v) cs) :
    Reads d (.members [(k, v)]) (dumpsString e k ++ ':' :: cs) := by
  have h := Reads.lastMember blank_nil (e.stringText k) blank_nil blank_nil hv blank_nil
  simpa [dumpsString] using h

mutual

/-- The text written for a value is a text for it. -/
theorem reads_dumps : ∀ (d : ℕ) (v : Json), fits d v = true → Reads d (.value v) (dumps e v)
  | d, .null, _ => by
    rw [dumps]
    exact .null d
  | d, .bool true, _ => by
    rw [dumps]
    exact .true d
  | d, .bool false, _ => by
    rw [dumps]
    exact .false d
  | d, .num n, h => by
    have hn : n.exponent = 0 := by simpa [fits] using h
    have hread := Reads.num d n.negative n.mantissa (List.forall_mem_nil _)
    rw [decimalNumber_of_integer hn] at hread
    rw [dumps]
    exact hread
  | d, .str s, _ => by
    rw [dumps]
    exact reads_dumpsString e d s
  | 0, .arr _, h => by simp [fits] at h
  | d + 1, .arr [], _ => by
    rw [dumps, dumpsElements]
    exact .emptyArr d blank_nil
  | d + 1, .arr (v :: vs), h => by
    rw [dumps]
    exact .arr (reads_dumpsElements d v vs (by simpa [fits] using h))
  | 0, .obj _, h => by simp [fits] at h
  | d + 1, .obj [], _ => by
    rw [dumps, dumpsMembers]
    exact .emptyObj d blank_nil
  | d + 1, .obj ((k, v) :: ms), h => by
    rw [dumps]
    exact .obj (reads_dumpsMembers d k v ms (by simpa [fits] using h))

theorem reads_dumpsElements : ∀ (d : ℕ) (v : Json) (vs : List Json),
    fitsElements d (v :: vs) = true → Reads d (.elements (v :: vs)) (dumpsElements e (v :: vs))
  | d, v, [], h => by
    have hv := reads_dumps d v (by simpa [fitsElements] using h)
    simpa [dumpsElements] using Reads.lastElement blank_nil hv blank_nil
  | d, v, w :: vs, h => by
    obtain ⟨hfv, hfs⟩ : fits d v = true ∧ fitsElements d (w :: vs) = true := by
      rwa [fitsElements, Bool.and_eq_true] at h
    have hv := reads_dumps d v hfv
    have hs := reads_dumpsElements d w vs hfs
    have hread := Reads.element blank_nil hv blank_nil hs
    rw [dumpsElements]
    · exact hread
    · simp

theorem reads_dumpsMembers : ∀ (d : ℕ) (k : String) (v : Json) (ms : List (String × Json)),
    fitsMembers d ((k, v) :: ms) = true →
      Reads d (.members ((k, v) :: ms)) (dumpsMembers e ((k, v) :: ms))
  | d, k, v, [], h => by
    have hv := reads_dumps d v (by simpa [fitsMembers] using h)
    rw [dumpsMembers]
    exact hv.single_dumps e
  | d, k, v, (k', v') :: ms, h => by
    obtain ⟨hfv, hfs⟩ : fits d v = true ∧ fitsMembers d ((k', v') :: ms) = true := by
      rwa [fitsMembers, Bool.and_eq_true] at h
    have hv := reads_dumps d v hfv
    have hs := reads_dumpsMembers d k' v' ms hfs
    rw [dumpsMembers]
    · exact hv.cons_dumps e hs
    · simp

end

/-- **What is written is read back.** -/
theorem parse_dumps {d : ℕ} {v : Json} (h : fits d v = true) :
    parse d (String.ofList (dumps e v)) = some v :=
  (reads_dumps e d v h).parse_eq

/-! ### The characters of what is written -/

theorem isPrintable_of_isDigit {c : Char} (h : c.isDigit = true) : isPrintable c = true := by
  simp only [Char.isDigit, Bool.and_eq_true, decide_eq_true_eq, UInt32.le_iff_toNat_le] at h
  simp only [isPrintable, Bool.and_eq_true, decide_eq_true_eq, Char.toNat]
  have h0 : '0'.val.toNat = 48 := rfl
  have h9 : '9'.val.toNat = 57 := rfl
  omega

theorem isPrintable_of_mem_decimal {negative : Bool} {k : ℕ} {frac : List Char}
    (hfrac : ∀ c ∈ frac, c.isDigit = true) {c : Char} (h : c ∈ decimal negative k frac) :
    isPrintable c = true := by
  simp only [decimal, List.mem_append] at h
  rcases h with (h | h) | h
  · split at h
    · obtain rfl : c = '-' := by simpa using h
      decide
    · cases h
  · exact isPrintable_of_isDigit (Nat.isDigit_of_mem_toDigits (by decide) (by decide) h)
  · split at h
    · cases h
    · rcases List.mem_cons.mp h with rfl | h
      · decide
      · exact isPrintable_of_isDigit (hfrac c h)

theorem forall_mem_dumpsString {P : Char → Prop} (hp : ∀ c, isPrintable c = true → P c)
    (he : ∀ c, ∀ x ∈ e.esc c, P x) (s : String) : ∀ x ∈ dumpsString e s, P x := by
  intro x hx
  simp only [dumpsString, List.mem_cons, List.mem_append, List.mem_flatMap, List.not_mem_nil,
    or_false] at hx
  rcases hx with rfl | ⟨c, -, hc⟩ | rfl
  · exact hp _ (by decide)
  · exact he c x hc
  · exact hp _ (by decide)

mutual

/-- A property that the structural characters have and that the escaper keeps holds of every
character written. -/
theorem forall_mem_dumps {P : Char → Prop} (hp : ∀ c, isPrintable c = true → P c)
    (he : ∀ c, ∀ x ∈ e.esc c, P x) : ∀ (v : Json), ∀ x ∈ dumps e v, P x
  | .null => by
    rw [dumps]
    have hword : ∀ x ∈ ['n', 'u', 'l', 'l'], isPrintable x = true := forall_mem_of_all (by decide)
    exact fun x hx => hp x (hword x hx)
  | .bool true => by
    rw [dumps]
    have hword : ∀ x ∈ ['t', 'r', 'u', 'e'], isPrintable x = true := forall_mem_of_all (by decide)
    exact fun x hx => hp x (hword x hx)
  | .bool false => by
    rw [dumps]
    have hword : ∀ x ∈ ['f', 'a', 'l', 's', 'e'], isPrintable x = true :=
      forall_mem_of_all (by decide)
    exact fun x hx => hp x (hword x hx)
  | .num n => by
    rw [dumps]
    exact fun x hx => hp x (isPrintable_of_mem_decimal (by simp) hx)
  | .str s => by
    rw [dumps]
    exact forall_mem_dumpsString e hp he s
  | .arr vs => by
    have hs := forall_mem_dumpsElements hp he vs
    rw [dumps]
    intro x hx
    simp only [List.mem_cons, List.mem_append, List.not_mem_nil, or_false] at hx
    rcases hx with rfl | hx | rfl
    · exact hp _ (by decide)
    · exact hs x hx
    · exact hp _ (by decide)
  | .obj ms => by
    have hs := forall_mem_dumpsMembers hp he ms
    rw [dumps]
    intro x hx
    simp only [List.mem_cons, List.mem_append, List.not_mem_nil, or_false] at hx
    rcases hx with rfl | hx | rfl
    · exact hp _ (by decide)
    · exact hs x hx
    · exact hp _ (by decide)

theorem forall_mem_dumpsElements {P : Char → Prop} (hp : ∀ c, isPrintable c = true → P c)
    (he : ∀ c, ∀ x ∈ e.esc c, P x) : ∀ (vs : List Json), ∀ x ∈ dumpsElements e vs, P x
  | [] => by simp [dumpsElements]
  | [v] => by
    rw [dumpsElements]
    exact forall_mem_dumps hp he v
  | v :: w :: vs => by
    have hv := forall_mem_dumps hp he v
    have hs := forall_mem_dumpsElements hp he (w :: vs)
    rw [dumpsElements]
    · intro x hx
      rcases List.mem_append.mp hx with hx | hx
      · exact hv x hx
      · rcases List.mem_cons.mp hx with rfl | hx
        · exact hp _ (by decide)
        · exact hs x hx
    · simp

theorem forall_mem_dumpsMembers {P : Char → Prop} (hp : ∀ c, isPrintable c = true → P c)
    (he : ∀ c, ∀ x ∈ e.esc c, P x) : ∀ (ms : List (String × Json)), ∀ x ∈ dumpsMembers e ms, P x
  | [] => by simp [dumpsMembers]
  | [(k, v)] => by
    have hk := forall_mem_dumpsString e hp he k
    have hv := forall_mem_dumps hp he v
    rw [dumpsMembers]
    intro x hx
    rcases List.mem_append.mp hx with hx | hx
    · exact hk x hx
    · rcases List.mem_cons.mp hx with rfl | hx
      · exact hp _ (by decide)
      · exact hv x hx
  | (k, v) :: (k', v') :: ms => by
    have hk := forall_mem_dumpsString e hp he k
    have hv := forall_mem_dumps hp he v
    have hs := forall_mem_dumpsMembers hp he ((k', v') :: ms)
    rw [dumpsMembers]
    · intro x hx
      simp only [List.mem_append, List.mem_cons] at hx
      rcases hx with hx | rfl | hx | rfl | hx
      · exact hk x hx
      · exact hp _ (by decide)
      · exact hv x hx
      · exact hp _ (by decide)
      · exact hs x hx
    · simp

end

theorem newline_notMem_dumps (v : Json) : '\n' ∉ dumps e v := by
  intro h
  refine forall_mem_dumps (P := (· ≠ '\n')) e ?_ ?_ v '\n' h rfl
  · rintro c hc rfl
    exact absurd hc (by decide)
  · rintro c x hx rfl
    exact e.oneLine c hx

/-! ### Members by name -/

/-- The member of an object with a name; of several the last one counts. -/
def get? : Json → String → Option Json
  | .obj ms, key => ms.reverse.lookup key
  | _, _ => none

/-- The object of a map, its members sorted by name. -/
def ofMap (entries : List (String × Json)) : Json :=
  .obj (entries.mergeSort fun a b => a.1 ≤ b.1)

theorem lookup_eq_some_iff_mem {l : List (String × Json)} (h : (l.map Prod.fst).Nodup) {k : String}
    {v : Json} : l.lookup k = some v ↔ (k, v) ∈ l := by
  induction l with
  | nil => simp
  | cons p l ih =>
    obtain ⟨k', v'⟩ := p
    obtain ⟨hnot, hnodup⟩ := List.nodup_cons.mp h
    by_cases hk : k = k'
    · subst hk
      have hmem : (k, v) ∉ l := fun hv => hnot (List.mem_map.mpr ⟨(k, v), hv, rfl⟩)
      simp [hmem, eq_comm]
    · have hbeq : (k == k') = false := by simpa using hk
      simp only [List.lookup_cons, hbeq, ih hnodup, List.mem_cons, Prod.mk.injEq, hk, false_and,
        false_or]

theorem lookup_eq_of_perm {l l' : List (String × Json)} (hp : l.Perm l')
    (h : (l.map Prod.fst).Nodup) (k : String) : l.lookup k = l'.lookup k := by
  have h' : (l'.map Prod.fst).Nodup := (hp.map Prod.fst).nodup_iff.mp h
  refine Option.ext fun v => ?_
  rw [lookup_eq_some_iff_mem h, lookup_eq_some_iff_mem h', hp.mem_iff]

theorem get?_ofMap {entries : List (String × Json)} (h : (entries.map Prod.fst).Nodup)
    (key : String) : (ofMap entries).get? key = entries.lookup key := by
  have hperm : (entries.mergeSort fun a b => a.1 ≤ b.1).reverse.Perm entries :=
    (List.reverse_perm _).trans (List.mergeSort_perm _ _)
  exact (lookup_eq_of_perm hperm.symm h key).symm

theorem fitsMembers_iff {d : ℕ} {ms : List (String × Json)} :
    fitsMembers d ms = true ↔ ∀ m ∈ ms, fits d m.2 = true := by
  induction ms with
  | nil => simp [fitsMembers]
  | cons m ms ih => simp [fitsMembers, ih]

theorem fits_ofMap {d : ℕ} {entries : List (String × Json)}
    (h : ∀ m ∈ entries, fits d m.2 = true) : fits (d + 1) (ofMap entries) = true := by
  rw [ofMap, fits, fitsMembers_iff]
  exact fun m hm => h m ((List.mergeSort_perm _ _).mem_iff.mp hm)

end Json
