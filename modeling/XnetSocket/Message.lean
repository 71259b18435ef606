import XnetSocket.Lib.Utf8
import XnetSocket.Protocol

/-!
Messages, and text as the bytes that encode it.
-/

namespace XnetSocket

inductive Message
  | Text (string : String)
  | Binary (data : Bytes)
  deriving DecidableEq

/-- What is wrong with bytes that are not a text. -/
def Utf8Error.of (bytes : Bytes) : Utf8Error where
  valid_up_to := Utf8.valid_up_to bytes
  error_len := Utf8.error_len (bytes.drop (Utf8.valid_up_to bytes))

def into_bytes (s : String) : Bytes := Utf8.encode s

/-- The text the bytes encode, if they encode one. -/
def from_utf8 (bytes : Bytes) : Except Utf8Error String :=
  match Utf8.decode? bytes with
  | some s => .ok s
  | none => .error (.of bytes)

namespace Message

def text (string : String) : Message := .Text string

def binary (bin : Bytes) : Message := .Binary bin

def opcode : Message → OpCode
  | .Text _ => .Text
  | .Binary _ => .Binary

def into_data : Message → Bytes
  | .Text string => into_bytes string
  | .Binary data => data

end Message

lemma from_utf8_valid {bytes : Bytes} (h : Utf8.Valid bytes) :
    ∃ s, from_utf8 bytes = .ok s ∧ into_bytes s = bytes := by
  rcases hd : Utf8.decode? bytes with _ | s
  · exact absurd h (Utf8.decode_eq_none.mp hd)
  · exact ⟨s, by simp only [from_utf8, hd], Utf8.encode_decode hd⟩

/-- The error names the end of the longest front that is a text. -/
lemma from_utf8_error {bytes : Bytes} {err : Utf8Error} (h : from_utf8 bytes = .error err) :
    Utf8.Valid (bytes.take err.valid_up_to) ∧
      ∀ n ≤ bytes.length, Utf8.Valid (bytes.take n) → n ≤ err.valid_up_to := by
  unfold from_utf8 at h
  split at h
  · cases h
  · cases h
    exact ⟨Utf8.valid_take_up_to bytes, fun n hn hv => Nat.le_findGreatest hn hv⟩

lemma from_utf8_invalid {bytes : Bytes} (h : ¬ Utf8.Valid bytes) :
    from_utf8 bytes = .error (.of bytes) := by
  simp only [from_utf8, Utf8.decode_eq_none.mpr h]

end XnetSocket
