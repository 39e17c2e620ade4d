/-
**Messages as lines of a stream.**

A sender writes each message as one line: its encoding and a line feed, in one call to a write
operation that may accept only an initial part of what it is given.  A receiver reads the stream
with a scanner that delivers it line by line, has room for `limit` symbols, the line feed included,
and gives up for good on a line that does not fit; what it delivers is decoded, and what does not
decode is passed over.

The question is when the receiver gets the messages that were sent, all of them, in order and
unchanged.  `LineFraming.Codec.received_eq_iff` answers it for an open stream: exactly when every
write accepted its whole line and every line fits.  Necessity is a matter of counting.  A scanner
delivers at most as many lines as there are line feeds, only complete writes put one into the
stream, and after a line that does not fit nothing is delivered at all.

* `LineFraming.scan` — the scanner;
* `LineFraming.Codec` — an encoding of messages in lines;
* `LineFraming.Codec.stream`, `LineFraming.Codec.received` — what was written and what is decoded;
* `LineFraming.Codec.received_eq_of_forall` — complete writes of lines that fit are received;
* `LineFraming.Codec.received_eq_iff` — **and nothing else is**.
-/

import Mathlib.Data.List.Basic
import Mathlib.Data.Nat.Notation

set_option autoImplicit false

namespace LineFraming

variable {α μ ν : Type} [DecidableEq α]

/-! ### The scanner -/

/-- The lines delivered from a stream, when `line` has been read of the current one.  At the end of
the stream a line without a line feed is delivered too; as long as more may come it is not. -/
def scanFrom (newline : α) (limit : ℕ) (eof : Bool) : List α → List α → List (List α)
  | line, [] => if eof ∧ line ≠ [] ∧ line.length < limit then [line] else []
  | line, x :: xs =>
      if x = newline then
        if line.length < limit then line :: scanFrom newline limit eof [] xs else []
      else scanFrom newline limit eof (line ++ [x]) xs

/-- The lines delivered from a stream. -/
def scan (newline : α) (limit : ℕ) (eof : Bool) (stream : List α) : List (List α) :=
  scanFrom newline limit eof [] stream

variable {newline : α} {limit : ℕ} {eof : Bool}

/-- A whole line in the stream: it is delivered if it fits, and ends the scan if it does not. -/
theorem scanFrom_line {text : List α} (h : newline ∉ text) (line rest : List α) :
    scanFrom newline limit eof line (text ++ newline :: rest) =
      if (line ++ text).length < limit then (line ++ text) :: scan newline limit eof rest
      else [] := by
  induction text generalizing line with
  | nil => simp [scanFrom, scan]
  | cons x text ih =>
    obtain ⟨hx, htext⟩ : newline ≠ x ∧ newline ∉ text := by simpa using h
    rw [List.cons_append, scanFrom, if_neg hx.symm, ih htext, List.append_assoc,
      List.singleton_append]

/-- While the stream is open, every line delivered was ended by a line feed. -/
theorem length_scanFrom_le (line stream : List α) :
    (scanFrom newline limit false line stream).length ≤ stream.count newline := by
  induction stream generalizing line with
  | nil => simp [scanFrom]
  | cons x xs ih =>
    by_cases hx : x = newline
    · subst hx
      rw [scanFrom, if_pos rfl, List.count_cons_self]
      split
      · exact Nat.succ_le_succ (ih [])
      · simp
    · rw [scanFrom, if_neg hx, List.count_cons_of_ne hx]
      exact ih (line ++ [x])

/-! ### Messages -/

/-- An encoding of messages in lines; `view m` is what a receiver should get for `m`. -/
structure Codec (μ ν : Type) (newline : α) where
  encode : μ → List α
  decode : List α → Option ν
  view : μ → ν
  decode_encode : ∀ m, decode (encode m) = some (view m)
  newline_notMem : ∀ m, newline ∉ encode m

/-- A call to the write operation: the message, and how many symbols of its line were accepted. -/
structure Write (μ : Type) where
  message : μ
  accepted : ℕ

namespace Codec

variable (c : Codec μ ν newline)

/-- The line of a message. -/
def line (m : μ) : List α := c.encode m ++ [newline]

/-- What a call puts into the stream. -/
def written (w : Write μ) : List α := (c.line w.message).take w.accepted

/-- What a sequence of calls puts into the stream. -/
def stream (ws : List (Write μ)) : List α := ws.flatMap c.written

/-- What the receiver decodes. -/
def received (limit : ℕ) (eof : Bool) (ws : List (Write μ)) : List ν :=
  (scan newline limit eof (c.stream ws)).filterMap c.decode

/-- The call accepted the whole line. -/
def Complete (w : Write μ) : Prop := (c.line w.message).length ≤ w.accepted

/-- The scanner has room for the line of the message. -/
def Fits (limit : ℕ) (m : μ) : Prop := (c.line m).length ≤ limit

instance (w : Write μ) : Decidable (c.Complete w) := inferInstanceAs (Decidable (_ ≤ _))

instance (m : μ) : Decidable (c.Fits limit m) := inferInstanceAs (Decidable (_ ≤ _))

omit [DecidableEq α] in
theorem stream_cons (w : Write μ) (ws : List (Write μ)) :
    c.stream (w :: ws) = c.written w ++ c.stream ws :=
  List.flatMap_cons

omit [DecidableEq α] in
theorem written_of_complete {w : Write μ} (h : c.Complete w) : c.written w = c.line w.message :=
  List.take_of_length_le h

/-- The line feed is the last symbol of its line, so only a complete write has put it there. -/
theorem count_written (w : Write μ) :
    (c.written w).count newline = if c.Complete w then 1 else 0 := by
  have hnone : (c.encode w.message).count newline = 0 :=
    List.count_eq_zero_of_not_mem (c.newline_notMem w.message)
  split
  · rename_i h
    rw [c.written_of_complete h, line, List.count_append, hnone, List.count_singleton_self]
  · rename_i h
    have hlength : w.accepted ≤ (c.encode w.message).length := by
      simp only [Complete, line, List.length_append, List.length_singleton] at h
      omega
    rw [written, line, List.take_append_of_le_length hlength]
    exact List.count_eq_zero_of_not_mem fun hmem =>
      c.newline_notMem w.message (List.mem_of_mem_take hmem)

theorem count_stream_le (ws : List (Write μ)) : (c.stream ws).count newline ≤ ws.length := by
  induction ws with
  | nil => simp [stream]
  | cons w ws ih =>
    rw [stream_cons, List.count_append, count_written, List.length_cons]
    split <;> omega

/-- As many line feeds as messages means that every write was complete. -/
theorem complete_of_count {ws : List (Write μ)} (h : ws.length ≤ (c.stream ws).count newline) :
    ∀ w ∈ ws, c.Complete w := by
  induction ws with
  | nil => simp
  | cons w ws ih =>
    have hle := c.count_stream_le ws
    rw [stream_cons, List.count_append, count_written, List.length_cons] at h
    split at h
    · rename_i hw
      rintro w' hw'
      rcases List.mem_cons.mp hw' with rfl | hw'
      · exact hw
      · exact ih (by omega) w' hw'
    · omega

/-- Reading the line of a complete write. -/
theorem received_cons {w : Write μ} (hw : c.Complete w) (ws : List (Write μ)) :
    c.received limit eof (w :: ws) =
      if c.Fits limit w.message then c.view w.message :: c.received limit eof ws else [] := by
  have hstream : c.stream (w :: ws) = c.encode w.message ++ newline :: c.stream ws := by
    rw [stream_cons, c.written_of_complete hw, line, List.append_assoc, List.singleton_append]
  have hfits : ([] ++ c.encode w.message).length < limit ↔ c.Fits limit w.message := by
    rw [List.nil_append, Fits, line, List.length_append, List.length_singleton,
      Nat.lt_iff_add_one_le]
  rw [received, hstream, scan, scanFrom_line (c.newline_notMem w.message)]
  by_cases h : c.Fits limit w.message
  · rw [if_pos (hfits.mpr h), if_pos h, List.nil_append,
      List.filterMap_cons_some (c.decode_encode w.message), received]
  · rw [if_neg (fun hlt => h (hfits.mp hlt)), if_neg h, List.filterMap_nil]

/-- Complete writes of lines that fit are received, whether or not the stream has ended. -/
theorem received_eq_of_forall {ws : List (Write μ)}
    (h : ∀ w ∈ ws, c.Complete w ∧ c.Fits limit w.message) :
    c.received limit eof ws = ws.map fun w => c.view w.message := by
  induction ws with
  | nil => simp [received, stream, scan, scanFrom]
  | cons w ws ih =>
    obtain ⟨hcomplete, hfits⟩ := h w (by simp)
    rw [c.received_cons hcomplete, if_pos hfits, ih fun w' hw' => h w' (by simp [hw']),
      List.map_cons]

theorem length_received_le (ws : List (Write μ)) :
    (c.received limit false ws).length ≤ (c.stream ws).count newline :=
  Nat.le_trans (List.length_filterMap_le _ _) (length_scanFrom_le [] _)

/-- A line that does not fit ends the reception. -/
theorem fits_of_received {ws : List (Write μ)} (hcomplete : ∀ w ∈ ws, c.Complete w)
    (h : c.received limit eof ws = ws.map (fun w => c.view w.message)) :
    ∀ w ∈ ws, c.Fits limit w.message := by
  induction ws with
  | nil => simp
  | cons w ws ih =>
    rw [c.received_cons (hcomplete w (by simp)), List.map_cons] at h
    split at h
    · rename_i hw
      rintro w' hw'
      rcases List.mem_cons.mp hw' with rfl | hw'
      · exact hw
      · exact ih (fun w'' hw'' => hcomplete w'' (by simp [hw''])) (List.cons.inj h).2 w' hw'
    · cases h

/-- **On an open stream the messages arrive exactly when every write was complete and every line
fits.** -/
theorem received_eq_iff (ws : List (Write μ)) :
    c.received limit false ws = ws.map (fun w => c.view w.message) ↔
      ∀ w ∈ ws, c.Complete w ∧ c.Fits limit w.message := by
  refine ⟨fun h => ?_, c.received_eq_of_forall⟩
  have hcount : ws.length ≤ (c.stream ws).count newline := by
    have hle : (c.received limit false ws).length ≤ _ := c.length_received_le ws
    rwa [h, List.length_map] at hle
  have hcomplete := c.complete_of_count hcount
  exact fun w hw => ⟨hcomplete w hw, c.fits_of_received hcomplete h w hw⟩

end Codec

end LineFraming
