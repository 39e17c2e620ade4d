/-
**From the guest agent to the hub** (`python-agent/agent/__main__.py`, `_send`;
`internal/vm/virtio_serial.go`, `serveVM`).

The agent writes each of its messages as a JSON object on a line of its own, with one call to
`os.write` whose result it does not look at.  The hub reads the stream of the virtual machine with a
line scanner of the default size, passes over lines that are not JSON objects and handles the
others.  Python writes ASCII only, so a character of a message is one byte of the stream.

The messages are decoded by the hub as they were sent exactly when every write took the whole line
and no line, its line feed included, is longer than 64 KiB (`Dvf.serveVM_eq_iff`).  Neither is
checked anywhere: a result with the output and the logs of a test can be longer, and then it and
everything after it is lost (`Dvf.long_result_ends_the_stream`).

* `Dvf.AgentMessage` — the messages of the agent, `Dvf.AgentMessage.toJson` as the agent builds
  them;
* `Dvf.sendData` — the bytes that `_send` passes to `os.write`;
* `Dvf.decodeLine`, `Dvf.serveVM` — the hub.
-/

import Dvf.JsonDumps
import Dvf.LineFraming
import Dvf.Results

set_option autoImplicit false

namespace Dvf

open LineFraming

/-! ### The agent's side -/

/-- The messages that the agent sends. -/
inductive AgentMessage
  | register (vmID hostname osVersion : String) (availableDevices : List String)
  | heartbeat (vmID : String)
  | log (vmID severity message : String)
  | result (commandID status output logs : String) (durationMs : ℤ)

def jsonInt (n : ℤ) : Json := .num ⟨decide (n < 0), n.natAbs, 0⟩

/-- The dictionaries that the agent passes to `_send`. -/
def AgentMessage.toJson : AgentMessage → Json
  | .register vmID hostname osVersion availableDevices =>
      .obj [("msg", .str "register"), ("vm_id", .str vmID), ("hostname", .str hostname),
        ("os_version", .str osVersion), ("agent_version", .str "2.0.0"),
        ("available_devices", .arr (availableDevices.map .str))]
  | .heartbeat vmID =>
      .obj [("msg", .str "heartbeat"), ("vm_id", .str vmID), ("state", .str "READY")]
  | .log vmID severity message =>
      .obj [("msg", .str "log"), ("vm_id", .str vmID), ("severity", .str severity),
        ("message", .str message)]
  | .result commandID status output logs durationMs =>
      .obj [("msg", .str "result"), ("command_id", .str commandID), ("status", .str status),
        ("output", .str output), ("logs", .str logs), ("duration_ms", jsonInt durationMs)]

/-- `json.dumps(msg, separators=(",", ":"))`, with Python's default of ASCII output. -/
def AgentMessage.text (m : AgentMessage) : List Char := Json.dumps Json.asciiEscaper m.toJson

/-- The data that `_send` passes to `os.write`. -/
def sendData (m : AgentMessage) : List Char := m.text ++ ['\n']

theorem fitsElements_map_str (d : ℕ) (ss : List String) :
    Json.fitsElements d (ss.map Json.str) = true := by
  induction ss with
  | nil => simp [Json.fitsElements]
  | cons s ss ih => simp [Json.fitsElements, Json.fits, ih]

theorem AgentMessage.fits_toJson (m : AgentMessage) (d : ℕ) :
    Json.fits (d + 2) m.toJson = true := by
  cases m <;> simp [AgentMessage.toJson, Json.fits, Json.fitsMembers, jsonInt, fitsElements_map_str]

theorem AgentMessage.toJson_eq_obj (m : AgentMessage) : ∃ ms, m.toJson = .obj ms := by
  cases m <;> exact ⟨_, rfl⟩

/-! ### The hub's side -/

/-- The scanner drops a carriage return at the end of a line. -/
def dropCR (line : List Char) : List Char :=
  if line.getLast? = some '\r' then line.dropLast else line

/-- `json.Unmarshal` of a line into a map: an object, or nothing at all for `null`. -/
def decodeLine (line : List Char) : Option Json :=
  (Json.parse maxNestingDepth (String.ofList (dropCR line))).filter fun v =>
    match v with
    | .obj _ => true
    | .null => true
    | _ => false

theorem decodeLine_text (m : AgentMessage) : decodeLine m.text = some m.toJson := by
  obtain ⟨ms, hobj⟩ := m.toJson_eq_obj
  have hcr : dropCR m.text = m.text := by
    rw [dropCR, AgentMessage.text, hobj, Json.dumps, ← List.cons_append, List.getLast?_concat,
      if_neg (by decide)]
  have hparse := Json.parse_dumps Json.asciiEscaper (m.fits_toJson 9998)
  rw [decodeLine, hcr, AgentMessage.text, maxNestingDepth, hparse, hobj]
  rfl

/-- The messages as lines of the stream between agent and hub. -/
def agentChannel : Codec AgentMessage Json '\n' where
  encode := AgentMessage.text
  decode := decodeLine
  view := AgentMessage.toJson
  decode_encode := decodeLine_text
  newline_notMem m := Json.newline_notMem_dumps Json.asciiEscaper m.toJson

/-- `bufio.MaxScanTokenSize`. -/
def maxScanTokenSize : ℕ := 65536

/-- The messages that the loop of `serveVM` decodes, after the calls of `os.write` in `_send` that
have been made; the connection stays open. -/
def serveVM (ws : List (Write AgentMessage)) : List Json :=
  agentChannel.received maxScanTokenSize false ws

/-- **The hub decodes every message exactly once, in order and unchanged, exactly when each write
took all of its data and no data is longer than the scanner's limit.** -/
theorem serveVM_eq_iff (ws : List (Write AgentMessage)) :
    serveVM ws = ws.map (fun w => w.message.toJson) ↔
      ∀ w ∈ ws, (sendData w.message).length ≤ w.accepted ∧ (sendData w.message).length ≤ 65536 :=
  agentChannel.received_eq_iff ws

def writeAll (m : AgentMessage) : Write AgentMessage := ⟨m, (sendData m).length⟩

theorem complete_writeAll (m : AgentMessage) : agentChannel.Complete (writeAll m) := Nat.le_refl _

theorem length_output_lt (commandID status output logs : String) (durationMs : ℤ) :
    output.toList.length < (sendData (.result commandID status output logs durationMs)).length := by
  have houtput := Json.length_lt_dumpsString Json.asciiEscaper output
  simp only [sendData, AgentMessage.text, AgentMessage.toJson, Json.dumps, Json.dumpsMembers,
    List.length_append, List.length_cons]
  omega

/-- A result with an output of 65536 characters and the heartbeat after it, both written as a whole:
the hub decodes neither.  And of two heartbeats the first of which is cut off after ten bytes, none
is left either. -/
theorem long_result_ends_the_stream :
    serveVM [writeAll (.result "c1" "passed" (String.ofList (List.replicate 65536 'a')) "" 1),
        writeAll (.heartbeat "vm-1")] = [] ∧
      serveVM [⟨.heartbeat "vm-1", 10⟩, writeAll (.heartbeat "vm-1")] = [] := by
  constructor
  · have hlength := length_output_lt "c1" "passed" (String.ofList (List.replicate 65536 'a')) "" 1
    rw [String.toList_ofList, List.length_replicate] at hlength
    rw [serveVM, agentChannel.received_cons (complete_writeAll _), if_neg]
    intro hfits
    have hle : (sendData (.result "c1" "passed" (String.ofList (List.replicate 65536 'a')) "" 1)
      ).length ≤ 65536 := hfits
    omega
  · decide +kernel

end Dvf
