/-
**JSON texts.**

A recogniser for JSON texts that builds the value they denote.  It follows the grammar of the data
format: one value, surrounded by white space and nothing else.  Strings are decoded, with surrogate
pairs joined and lone surrogates replaced by U+FFFD; numbers are kept exactly, as a signed decimal
mantissa and exponent; objects keep their members in order, duplicates included.  As in decoders
that bound their stack, at most a given number of arrays and objects may be nested.

Main definitions:

* `Json` — the values;
* `Json.number`, `Json.string` — the two lexical forms with structure;
* `Json.value`, `Json.elements`, `Json.members` — the recursive descent;
* `Json.parse` — a whole text;
* `Json.same` — equality of values, which is decidable.
-/

import Mathlib.Data.Int.Notation
import Mathlib.Data.Nat.Notation

set_option autoImplicit false

/-- A JSON number, as the decimal `±mantissa * 10 ^ exponent`. -/
structure JsonNumber where
  negative : Bool
  mantissa : ℕ
  exponent : ℤ
  deriving DecidableEq, Repr

/-- A JSON value. -/
inductive Json
  | null
  | bool (b : Bool)
  | num (n : JsonNumber)
  | str (s : String)
  | arr (elems : List Json)
  | obj (members : List (String × Json))

namespace Json

/-! ### Characters -/

def isSpace (c : Char) : Bool := c = ' ' || c = '\t' || c = '\r' || c = '\n'

/-- The text without leading white space. -/
def skipSpace (cs : List Char) : List Char := cs.dropWhile isSpace

/-- The value of a hexadecimal digit. -/
def hexDigit (c : Char) : Option ℕ :=
  if '0' ≤ c ∧ c ≤ '9' then some (c.toNat - '0'.toNat)
  else if 'a' ≤ c ∧ c ≤ 'f' then some (c.toNat - 'a'.toNat + 10)
  else if 'A' ≤ c ∧ c ≤ 'F' then some (c.toNat - 'A'.toNat + 10)
  else none

/-- The value of four hexadecimal digits. -/
def hex4 (a b c d : Char) : Option ℕ :=
  match hexDigit a, hexDigit b, hexDigit c, hexDigit d with
  | some a, some b, some c, some d => some (((a * 16 + b) * 16 + c) * 16 + d)
  | _, _, _, _ => none

/-! ### Numbers -/

/-- The leading decimal digits of a text and the rest. -/
def digits (cs : List Char) : List Char × List Char := cs.span Char.isDigit

/-- The number that a list of decimal digits denotes. -/
def digitsValue (cs : List Char) : ℕ := cs.foldl (fun n c => n * 10 + (c.toNat - '0'.toNat)) 0

/-- The integer part: a zero, or digits that do not begin with a zero. -/
def integerPart (cs : List Char) : Option (List Char × List Char) :=
  match cs with
  | '0' :: rest => some (['0'], rest)
  | _ =>
      match digits cs with
      | ([], _) => none
      | (ds, rest) => some (ds, rest)

/-- The fraction: nothing, or a point and at least one digit. -/
def fraction (cs : List Char) : Option (List Char × List Char) :=
  match cs with
  | '.' :: rest =>
      match digits rest with
      | ([], _) => none
      | (ds, rest) => some (ds, rest)
  | _ => some ([], cs)

/-- The digits of an exponent, with its sign. -/
def exponentDigits (negative : Bool) (cs : List Char) : Option (ℤ × List Char) :=
  match digits cs with
  | ([], _) => none
  | (ds, rest) => some (if negative then -(digitsValue ds : ℤ) else digitsValue ds, rest)

/-- The exponent: nothing, or a letter, an optional sign and at least one digit. -/
def exponentPart (cs : List Char) : Option (ℤ × List Char) :=
  match cs with
  | c :: rest =>
      if c = 'e' ∨ c = 'E' then
        match rest with
        | '-' :: rest => exponentDigits true rest
        | '+' :: rest => exponentDigits false rest
        | _ => exponentDigits false rest
      else some (0, cs)
  | [] => some (0, [])

/-- A number at the beginning of a text. -/
def number (cs : List Char) : Option (JsonNumber × List Char) :=
  let negative : Bool := cs.head? = some '-'
  let cs := if negative then cs.tail else cs
  match integerPart cs with
  | none => none
  | some (int, rest) =>
      match fraction rest with
      | none => none
      | some (frac, rest) =>
          match exponentPart rest with
          | none => none
          | some (e, rest) => some (⟨negative, digitsValue (int ++ frac), e - frac.length⟩, rest)

/-! ### Strings -/

/-- An item of a string literal: a character, or a code unit from a `\u` escape. -/
inductive StrItem
  | char (c : Char)
  | unit (n : ℕ)

/-- The character that a one-letter escape stands for. -/
def escapeChar (c : Char) : Option Char :=
  match c with
  | '"' => some '"'
  | '\\' => some '\\'
  | '/' => some '/'
  | 'b' => some (Char.ofNat 8)
  | 'f' => some (Char.ofNat 12)
  | 'n' => some '\n'
  | 'r' => some '\r'
  | 't' => some '\t'
  | _ => none

/-- The items of a string literal up to its closing quote, and the text after it. -/
def strItems : List Char → Option (List StrItem × List Char)
  | [] => none
  | '"' :: rest => some ([], rest)
  | '\\' :: 'u' :: a :: b :: c :: d :: rest =>
      match hex4 a b c d, strItems rest with
      | some n, some (items, rest) => some (.unit n :: items, rest)
      | _, _ => none
  | '\\' :: e :: rest =>
      match escapeChar e, strItems rest with
      | some c, some (items, rest) => some (.char c :: items, rest)
      | _, _ => none
  | c :: rest =>
      if c.toNat < 32 ∨ c = '\\' then none
      else
        match strItems rest with
        | some (items, rest) => some (.char c :: items, rest)
        | none => none

/-- A code unit of the first half of a surrogate pair. -/
def isHighSurrogate (n : ℕ) : Bool := 0xD800 ≤ n && n < 0xDC00

/-- A code unit of the second half of a surrogate pair. -/
def isLowSurrogate (n : ℕ) : Bool := 0xDC00 ≤ n && n < 0xE000

/-- The character of a code unit on its own; a lone surrogate is replaced. -/
def unitChar (n : ℕ) : Char :=
  if isHighSurrogate n || isLowSurrogate n then Char.ofNat 0xFFFD else Char.ofNat n

/-- The characters of a string literal, surrogate pairs joined. -/
def joinUnits : List StrItem → List Char
  | [] => []
  | .char c :: rest => c :: joinUnits rest
  | .unit n :: .unit m :: rest =>
      if isHighSurrogate n && isLowSurrogate m then
        Char.ofNat (0x10000 + (n - 0xD800) * 0x400 + (m - 0xDC00)) :: joinUnits rest
      else unitChar n :: joinUnits (.unit m :: rest)
  | .unit n :: rest => unitChar n :: joinUnits rest

/-- A string literal after its opening quote. -/
def string (cs : List Char) : Option (String × List Char) :=
  match strItems cs with
  | some (items, rest) => some (String.ofList (joinUnits items), rest)
  | none => none

/-! ### Values -/

mutual

/-- A value at the beginning of a text without leading space; `depth` more arrays or objects may
be opened.  The first argument bounds the recursion: every call consumes a character. -/
def value : ℕ → ℕ → List Char → Option (Json × List Char)
  | 0, _, _ => none
  | _ + 1, _, 'n' :: 'u' :: 'l' :: 'l' :: rest => some (.null, rest)
  | _ + 1, _, 't' :: 'r' :: 'u' :: 'e' :: rest => some (.bool true, rest)
  | _ + 1, _, 'f' :: 'a' :: 'l' :: 's' :: 'e' :: rest => some (.bool false, rest)
  | _ + 1, _, '"' :: rest =>
      match string rest with
      | some (s, rest) => some (.str s, rest)
      | none => none
  | _ + 1, 0, '[' :: _ => none
  | fuel + 1, depth + 1, '[' :: rest =>
      match skipSpace rest with
      | ']' :: rest => some (.arr [], rest)
      | rest =>
          match elements fuel depth rest with
          | some (elems, rest) => some (.arr elems, rest)
          | none => none
  | _ + 1, 0, '{' :: _ => none
  | fuel + 1, depth + 1, '{' :: rest =>
      match skipSpace rest with
      | '}' :: rest => some (.obj [], rest)
      | rest =>
          match members fuel depth rest with
          | some (mems, rest) => some (.obj mems, rest)
          | none => none
  | _ + 1, _, cs =>
      match number cs with
      | some (n, rest) => some (.num n, rest)
      | none => none

/-- The elements of a non-empty array, up to and with its closing bracket. -/
def elements : ℕ → ℕ → List Char → Option (List Json × List Char)
  | 0, _, _ => none
  | fuel + 1, depth, cs =>
      match value fuel depth (skipSpace cs) with
      | none => none
      | some (v, rest) =>
          match skipSpace rest with
          | ']' :: rest => some ([v], rest)
          | ',' :: rest =>
              match elements fuel depth rest with
              | some (vs, rest) => some (v :: vs, rest)
              | none => none
          | _ => none

/-- The members of a non-empty object, up to and with its closing brace. -/
def members : ℕ → ℕ → List Char → Option (List (String × Json) × List Char)
  | 0, _, _ => none
  | fuel + 1, depth, cs =>
      match skipSpace cs with
      | '"' :: rest =>
          match string rest with
          | none => none
          | some (key, rest) =>
              match skipSpace rest with
              | ':' :: rest =>
                  match value fuel depth (skipSpace rest) with
                  | none => none
                  | some (v, rest) =>
                      match skipSpace rest with
                      | '}' :: rest => some ([(key, v)], rest)
                      | ',' :: rest =>
                          match members fuel depth rest with
                          | some (ms, rest) => some ((key, v) :: ms, rest)
                          | none => none
                      | _ => none
              | _ => none
      | _ => none

end

/-- A whole text: one value, with at most `depth` arrays and objects nested. -/
def parse (depth : ℕ) (s : String) : Option Json :=
  let cs := skipSpace s.toList
  match value (2 * cs.length + 1) depth cs with
  | some (v, rest) => if skipSpace rest = [] then some v else none
  | none => none

/-! ### Equality -/

mutual

/-- Two values are the same. -/
def same : Json → Json → Bool
  | .null, .null => true
  | .bool a, .bool b => a = b
  | .num a, .num b => a = b
  | .str a, .str b => a = b
  | .arr as, .arr bs => sameElements as bs
  | .obj as, .obj bs => sameMembers as bs
  | _, _ => false

/-- Two lists of values are the same. -/
def sameElements : List Json → List Json → Bool
  | [], [] => true
  | a :: as, b :: bs => same a b && sameElements as bs
  | _, _ => false

/-- Two lists of members are the same. -/
def sameMembers : List (String × Json) → List (String × Json) → Bool
  | [], [] => true
  | (k, a) :: as, (l, b) :: bs => k = l && same a b && sameMembers as bs
  | _, _ => false

end

mutual

theorem same_iff (a b : Json) : same a b = true ↔ a = b := by
  cases a with
  | arr as => cases b <;> simp [same, sameElements_iff as]
  | obj as => cases b <;> simp [same, sameMembers_iff as]
  | _ => cases b <;> simp [same]

theorem sameElements_iff (as bs : List Json) : sameElements as bs = true ↔ as = bs := by
  cases as with
  | nil => cases bs <;> simp [sameElements]
  | cons a as =>
      cases bs with
      | nil => simp [sameElements]
      | cons b bs => simp [sameElements, same_iff a b, sameElements_iff as bs]

theorem sameMembers_iff (as bs : List (String × Json)) : sameMembers as bs = true ↔ as = bs := by
  cases as with
  | nil => cases bs <;> simp [sameMembers]
  | cons p as =>
      cases bs with
      | nil => simp [sameMembers]
      | cons q bs =>
          obtain ⟨k, a⟩ := p
          obtain ⟨l, b⟩ := q
          simp [sameMembers, same_iff a b, sameMembers_iff as bs, and_assoc]

end

instance : DecidableEq Json := fun a b => decidable_of_iff _ (same_iff a b)

end Json
