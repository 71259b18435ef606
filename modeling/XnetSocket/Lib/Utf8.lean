import Mathlib.Data.List.Basic
import Mathlib.Data.Nat.Find
import Mathlib.Tactic.Common

/-!
Lists of bytes that are UTF-8, and where a text may be cut.

Since the code of a character is never a proper prefix of the code of another, a text followed
by bytes is a text exactly when those bytes are: a text can be cut where its front is one.
-/

namespace Utf8

/-- The bytes are the code of some characters. -/
def Valid (bs : List UInt8) : Prop := bs.toByteArray.IsValidUTF8

instance (bs : List UInt8) : Decidable (Valid bs) :=
  inferInstanceAs (Decidable bs.toByteArray.IsValidUTF8)

/-- The code of a text. -/
def encode (s : String) : List UInt8 := s.toByteArray.data.toList

/-- The text the bytes are the code of. -/
def decode? (bs : List UInt8) : Option String := String.fromUTF8? bs.toByteArray

/-- The length of the longest front that is a text. -/
def valid_up_to (bs : List UInt8) : ℕ := Nat.findGreatest (fun n => Valid (bs.take n)) bs.length

/-- A byte inside the code of a character. -/
def continuation (b : UInt8) : Bool := 0x80 ≤ b && b ≤ 0xBF

/-- Whether the byte may follow the first one of a code of several bytes. -/
def follows (first b : UInt8) : Bool :=
  if first = 0xE0 then 0xA0 ≤ b && b ≤ 0xBF
  else if first = 0xED then 0x80 ≤ b && b ≤ 0x9F
  else if first = 0xF0 then 0x90 ≤ b && b ≤ 0xBF
  else if first = 0xF4 then 0x80 ≤ b && b ≤ 0x8F
  else continuation b

/-- How many bytes at the front of the list begin no character; none when they may be the front of
the code of one that is cut off. -/
def error_len : List UInt8 → Option ℕ
  | [] => none
  | first :: rest =>
    if first < 0xC2 || 0xF4 < first then some 1
    else match rest with
      | [] => none
      | second :: rest =>
        if !follows first second then some 1
        else match rest with
          | [] => none
          | third :: rest =>
            if !continuation third then some 2
            else if rest.isEmpty then none else some 3

lemma valid_nil : Valid [] := ByteArray.isValidUTF8_empty

lemma encode_decode {bs : List UInt8} {s : String} (h : decode? bs = some s) : encode s = bs := by
  unfold decode? String.fromUTF8? at h
  split at h
  · cases h
    change bs.toByteArray.data.toList = bs
    simp
  · cases h

lemma decode_eq_none {bs : List UInt8} : decode? bs = none ↔ ¬ Valid bs := by
  unfold decode? String.fromUTF8? Valid
  split <;> simp_all

lemma encode_append_left (l : List Char) (b : ByteArray) :
    (l.utf8Encode ++ b).IsValidUTF8 ↔ b.IsValidUTF8 := by
  induction l with
  | nil => simp
  | cons c l ih =>
    rw [← List.singleton_append, List.utf8Encode_append, ByteArray.append_assoc,
      ByteArray.isValidUTF8_utf8Encode_singleton_append_iff, ih]

lemma valid_take_up_to (bs : List UInt8) : Valid (bs.take (valid_up_to bs)) :=
  Nat.findGreatest_spec (P := fun n => Valid (bs.take n)) (Nat.zero_le _) valid_nil

/-- **Cutting a text.** Behind a text, bytes are a text exactly when the whole is. -/
theorem valid_append {as bs : List UInt8} (h : Valid as) : Valid (as ++ bs) ↔ Valid bs := by
  obtain ⟨l, hl⟩ := h
  unfold Valid
  rw [List.toByteArray_append, hl, encode_append_left]

end Utf8
