import Floodgate.Power
import Mathlib.Data.String.Basic

/-!
# The order of texts

A text is less than another one when it is less character by character, which it is exactly when
its UTF-8 bytes are: a character of a greater code has bytes that differ from those of a lesser
one at some place, and the greater byte is there.

## Main definitions

* `utf8Bytes` — the bytes that a text is written in

## Main results

* `utf8Bytes_le_iff` — texts are in the order of their bytes
-/

namespace Floodgate

/-- The bytes that a text is written in. -/
def utf8Bytes (s : String) : List UInt8 := s.toUTF8.data.toList

theorem utf8Bytes_eq (s : String) : utf8Bytes s = s.toList.flatMap String.utf8EncodeChar := by
  conv_lhs => rw [utf8Bytes, ← String.ofList_toList (s := s), String.toUTF8_eq_toByteArray]
  exact List.toList_data_toByteArray

/-- A character of 21 bits, in the form in which its bytes are computed. -/
theorem code_lt (c : Char) : c.val.toNat < 2 ^ 21 := by
  rcases c.valid with low | high
  · exact low.trans (by decide)
  · exact high.2.trans (by decide)

/-- Of two characters the lesser one has the lesser bytes, whatever stands behind them. -/
theorem utf8EncodeChar_append_lt {c d : Char} (less : c < d) (bs bs' : List UInt8) :
    String.utf8EncodeChar c ++ bs < String.utf8EncodeChar d ++ bs' := by
  have codes : c.val.toNat < d.val.toNat := less
  have c_lt := code_lt c
  have d_lt := code_lt d
  simp only [String.utf8EncodeChar]
  -- Either the first bytes tell how many there are, or the bytes are digits in base 64.
  split_ifs <;>
    simp only [List.cons_append, List.nil_append, List.cons_lt_cons_iff, UInt8.lt_iff_toNat_lt,
      ← UInt8.toNat_inj, UInt8.toNat_ofNat'] <;>
    simp (disch := omega) only [Nat.mod_eq_of_lt] <;>
    omega

theorem append_lt_append_left {bs cs : List UInt8} (as : List UInt8) (less : bs < cs) :
    as ++ bs < as ++ cs := by
  induction as with
  | nil => exact less
  | cons a as ih => exact List.cons_lt_cons_iff.2 (.inr ⟨rfl, ih⟩)

theorem flatMap_utf8EncodeChar_lt {cs ds : List Char} (less : cs < ds) :
    cs.flatMap String.utf8EncodeChar < ds.flatMap String.utf8EncodeChar := by
  -- One text ends where the other goes on, or the first characters that differ decide.
  induction less with
  | @nil c cs =>
    obtain ⟨b, bs, bytes⟩ := List.exists_cons_of_ne_nil (String.utf8EncodeChar_ne_nil (c := c))
    rw [List.flatMap_cons, bytes, List.cons_append, List.flatMap_nil]
    exact List.Lex.nil
  | rel less => exact utf8EncodeChar_append_lt less _ _
  | cons _ ih => exact append_lt_append_left _ ih

theorem utf8Bytes_lt {s t : String} (less : s < t) : utf8Bytes s < utf8Bytes t := by
  rw [utf8Bytes_eq, utf8Bytes_eq]
  exact flatMap_utf8EncodeChar_lt less

/-- Texts are in the order of their bytes. -/
theorem utf8Bytes_le_iff {s t : String} : utf8Bytes s ≤ utf8Bytes t ↔ s ≤ t := by
  constructor
  · intro le
    by_contra greater
    exact le (utf8Bytes_lt (String.not_le.1 greater))
  · intro le
    by_cases eq : s = t
    · rw [eq]
      exact List.le_refl _
    · have less : s < t := String.not_le.1 fun le' => eq (String.le_antisymm le le')
      exact List.le_of_lt (utf8Bytes_lt less)

end Floodgate
