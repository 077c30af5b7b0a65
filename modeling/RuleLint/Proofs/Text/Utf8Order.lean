import Mathlib.Data.List.Lex
import RuleLint.Text.Basic

namespace RuleLint.Text

def utf8 (s : String) : List UInt8 := s.toUTF8.data.toList

theorem utf8_eq_flatMap (s : String) : utf8 s = s.toList.flatMap String.utf8EncodeChar := by
  unfold utf8
  rw [String.toUTF8_eq_toByteArray, ← String.utf8Encode_toList]
  simp [List.utf8Encode]

theorem encoding_ne_nil (c : Char) : String.utf8EncodeChar c ≠ [] := by
  unfold String.utf8EncodeChar
  dsimp only
  split_ifs <;> simp

/-- Whatever follows them, the bytes of a smaller character come first. -/
theorem encoding_append_lt {c d : Char} (h : c < d) (s t : List UInt8) :
    String.utf8EncodeChar c ++ s < String.utf8EncodeChar d ++ t := by
  have hcd : c.val.toNat < d.val.toNat := h
  have hd : d.val.toNat < 0x110000 := by
    rcases d.valid with h | h <;> omega
  -- The digits in base 64 are taken off one at a time.
  have h2 (n : Nat) : n / 4096 = n / 64 / 64 := by omega
  have h3 (n : Nat) : n / 262144 = n / 64 / 64 / 64 := by omega
  unfold String.utf8EncodeChar
  simp only [h2, h3]
  split_ifs <;>
    simp only [List.cons_append, List.nil_append, List.cons_lt_cons_iff, UInt8.lt_iff_toNat_lt,
      ← UInt8.toNat_inj, UInt8.toNat_ofNat'] <;>
    simp (disch := omega) only [Nat.reducePow, Nat.mod_eq_of_lt (b := 256)] <;>
    omega

theorem encodings_lt {s t : List Char} (h : s < t) :
    s.flatMap String.utf8EncodeChar < t.flatMap String.utf8EncodeChar := by
  induction h with
  | nil =>
    rename_i c cs
    obtain ⟨b, bs, hb⟩ := List.exists_cons_of_ne_nil (encoding_ne_nil c)
    rw [List.flatMap_cons, hb]
    exact List.nil_lt_cons _ _
  | rel h =>
    rw [List.flatMap_cons, List.flatMap_cons]
    exact encoding_append_lt h _ _
  | cons _ ih =>
    rw [List.flatMap_cons, List.flatMap_cons]
    exact List.append_left_lt ih

/-- Texts are ordered as their encodings are. -/
theorem utf8_lt_iff {s t : String} : utf8 s < utf8 t ↔ s < t := by
  have mono (s t : String) (h : s < t) : utf8 s < utf8 t := by
    rw [utf8_eq_flatMap, utf8_eq_flatMap]
    exact encodings_lt h
  constructor
  · intro h
    by_contra hn
    rcases Std.le_iff_lt_or_eq.mp (String.not_lt.mp hn) with h' | rfl
    · exact List.lt_asymm h (mono _ _ h')
    · exact List.lt_irrefl _ h
  · exact mono s t

theorem compare_eq_lt_iff {s t : String} : compare s t = .lt ↔ utf8 s < utf8 t := by
  rw [utf8_lt_iff]
  show compareOfLessAndEq s t = .lt ↔ s < t
  unfold compareOfLessAndEq
  split_ifs <;> simp [*]

end RuleLint.Text
