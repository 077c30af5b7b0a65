import Mathlib.Data.List.Basic
import RuleLint.Json.Reading
import RuleLint.Proofs.Text.Digits

namespace RuleLint.Json

open Text

def readFirst (c : Char) (read : List Char × List Char) : List Char × List Char :=
  (c :: read.1, read.2)

theorem hexNumber?_control :
    ∀ n < 0x20, hexNumber? ['0', '0', lowerHexDigit (n / 16), lowerHexDigit (n % 16)] = some n := by
  decide

/-- Another number may follow one, and would be looked at if that were the first half of a pair. -/
def NumberFollows (s : List Char) : Prop :=
  ∃ a b c d rest, s = '\\' :: 'u' :: a :: b :: c :: d :: rest

theorem readChars_of_not_hex {a b c d : Char} (h : hexNumber? [a, b, c, d] = none) (s : List Char) :
    readChars ('\\' :: 'u' :: a :: b :: c :: d :: s) = none := by
  by_cases hnext : NumberFollows s
  · obtain ⟨e, f, g, i, rest, rfl⟩ := hnext
    rw [readChars, h]
  · rw [readChars.eq_4 a b c d s fun e f g i rest hs => hnext ⟨e, f, g, i, rest, hs⟩, h]

theorem readChars_number {n : Nat} (hn : n < 0xD800) {a b c d : Char}
    (h : hexNumber? [a, b, c, d] = some n) (s : List Char) :
    readChars ('\\' :: 'u' :: a :: b :: c :: d :: s) =
      (readChars s).map (readFirst (.ofNat n)) := by
  have hhigh : isHighUnit n = false := by
    unfold isHighUnit
    simp only [Bool.and_eq_false_iff, decide_eq_false_iff_not]
    omega
  have hlow : isLowUnit n = false := by
    unfold isLowUnit
    simp only [Bool.and_eq_false_iff, decide_eq_false_iff_not]
    omega
  -- Two branches of the reader take such a number. The first reads the number behind it too, only
  -- to leave it in place.
  by_cases hnext : NumberFollows s
  · obtain ⟨e, f, g, i, rest, rfl⟩ := hnext
    rw [readChars]
    cases hsecond : hexNumber? [e, f, g, i] with
    | none => simp [h, readChars_of_not_hex hsecond]
    | some second =>
      simp only [h, hhigh, hlow]
      rfl
  · rw [readChars.eq_4 a b c d s fun e f g i rest hs => hnext ⟨e, f, g, i, rest, hs⟩]
    simp only [h, hhigh, hlow]
    rfl

theorem readChars_letter {x c : Char} (h : unescape? x = some c) (s : List Char) :
    readChars ('\\' :: x :: s) = (readChars s).map (readFirst c) := by
  have hx : x ≠ 'u' := by
    rintro rfl
    contradiction
  rw [readChars.eq_5 x s (fun _ _ _ _ _ _ _ _ _ hu => (hx hu).elim)
    (fun _ _ _ _ _ hu => (hx hu).elim), h]
  rfl

theorem readChars_plain {c : Char} (hquote : c ≠ '"') (hbackslash : c ≠ '\\')
    (hcontrol : ¬ c.toNat < 0x20) (s : List Char) :
    readChars (c :: s) = (readChars s).map (readFirst c) := by
  rw [readChars.eq_6 c s hquote (fun _ _ _ _ _ _ _ _ _ h => (hbackslash h).elim)
    (fun _ _ _ _ _ h => (hbackslash h).elim) (fun _ _ h => (hbackslash h).elim)]
  simp only [hcontrol, hbackslash, decide_false, Bool.or_self]
  rfl

/-- A character is read back from what it is written as. -/
theorem readChars_escape (c : Char) (s : List Char) :
    readChars (escape c ++ s) = (readChars s).map (readFirst c) := by
  unfold escape
  split
  · exact readChars_letter rfl s
  · exact readChars_letter rfl s
  · exact readChars_letter rfl s
  · exact readChars_letter rfl s
  · exact readChars_letter rfl s
  · exact readChars_letter rfl s
  · exact readChars_letter rfl s
  · rename_i hquote hbackslash _ _ _ _ _
    split_ifs with hcontrol
    · have hread :=
        readChars_number (Nat.lt_trans hcontrol (by decide)) (hexNumber?_control _ hcontrol) s
      rwa [Char.ofNat_toNat] at hread
    · exact readChars_plain hquote hbackslash hcontrol s

theorem readChars_flatMap_escape (text s : List Char) :
    readChars (text.flatMap escape ++ '"' :: s) = some (text, s) := by
  induction text with
  | nil => exact readChars.eq_2 s
  | cons c text ih =>
    rw [List.flatMap_cons, List.append_assoc, readChars_escape, ih]
    rfl

theorem readString?_quote (text : String) (s : List Char) :
    readString? ((quote text).toList ++ s) = some (text, s) := by
  unfold quote
  rw [String.toList_ofList, List.cons_append, List.cons_append, List.append_assoc,
    List.singleton_append]
  show (readChars (text.toList.flatMap escape ++ '"' :: s)).map _ = _
  rw [readChars_flatMap_escape, Option.map_some]
  exact congrArg (fun read => some (read, s)) String.ofList_toList

/-- A number ends here: what comes next would not be read as part of it. -/
def NumberEnds (s : List Char) : Prop := ∀ c ∈ s.head?, c.isDigit = false ∧ c ∉ ['.', 'e', 'E']

theorem numberEnds_nil : NumberEnds [] := by
  intro c hc
  contradiction

theorem numberEnds_cons {c : Char} (h : c.isDigit = false ∧ c ∉ ['.', 'e', 'E']) (s : List Char) :
    NumberEnds (c :: s) := by
  intro d hd
  rw [← Option.mem_some.mp hd]
  exact h

theorem isDigit_of_mem_toDigits {n : Nat} {c : Char} (h : c ∈ Nat.toDigits 10 n) :
    c.isDigit = true :=
  Nat.isDigit_of_mem_toDigits (by decide) (by decide) h

theorem eq_zero_of_head?_toDigits {n : Nat} (h : (Nat.toDigits 10 n).head? = some '0') : n = 0 := by
  -- The first digit of a number is that of its tenth part, down to a single digit.
  induction n using Nat.strongRecOn with
  | _ n ih =>
    by_cases hsmall : n < 10
    · rw [Nat.toDigits_of_lt_base hsmall] at h
      have hdigit : ∀ n < 10, Nat.digitChar n = '0' → n = 0 := by decide
      exact hdigit n hsmall (Option.some.inj h)
    · rw [Nat.toDigits_of_base_le (by decide) (Nat.le_of_not_lt hsmall),
        List.head?_append_of_ne_nil _ Nat.toDigits_ne_nil] at h
      have hzero := ih (n / 10) (by omega) h
      omega

theorem not_padded_toDigits (n : Nat) :
    (decide (1 < (Nat.toDigits 10 n).length) && (Nat.toDigits 10 n).head? = some '0') = false := by
  by_cases h : (Nat.toDigits 10 n).head? = some '0'
  · obtain rfl := eq_zero_of_head?_toDigits h
    rfl
  · simp [h]

theorem span_toDigits (n : Nat) {s : List Char} (hs : NumberEnds s) :
    (Nat.toDigits 10 n ++ s).takeWhile Char.isDigit = Nat.toDigits 10 n ∧
      (Nat.toDigits 10 n ++ s).dropWhile Char.isDigit = s := by
  have hdigits : ∀ c ∈ Nat.toDigits 10 n, c.isDigit = true := fun c => isDigit_of_mem_toDigits
  rw [List.takeWhile_append_of_pos hdigits, List.dropWhile_append_of_pos hdigits]
  cases s with
  | nil => simp
  | cons c s => simp [(hs c rfl).1]

theorem number?_toDigits (n : Nat) : number? (Nat.toDigits 10 n) = some n := by
  rw [number?_of_digits fun c => isDigit_of_mem_toDigits,
    Nat.ofDigitChars_toDigits (by decide) (by decide)]

/-- The digits of a number are read as this number, behind a minus sign as its negative. -/
theorem readNumber?_digits (negative : Bool) (n : Nat) {s : List Char} (hs : NumberEnds s) :
    readNumber? ((if negative then ['-'] else []) ++ Nat.toDigits 10 n ++ s) =
      some (if negative then -(n : Int) else n, s) := by
  obtain ⟨htake, hdrop⟩ := span_toDigits n hs
  have hends : s.head?.any (fun c => c = '.' || (c = 'e' || c = 'E')) = false := by
    cases s with
    | nil => rfl
    | cons c s => simpa using (hs c rfl).2
  have hsign : ((if negative then ['-'] else []) ++ Nat.toDigits 10 n ++ s).head? = some '-' ↔
      negative = true := by
    cases negative with
    | true => simp
    | false =>
      rw [if_neg Bool.false_ne_true, List.nil_append,
        List.head?_append_of_ne_nil _ Nat.toDigits_ne_nil]
      refine iff_of_false (fun h => ?_) Bool.false_ne_true
      have hdigit := isDigit_of_mem_toDigits (List.mem_of_mem_head? h)
      contradiction
  unfold readNumber?
  simp only [hsign]
  cases negative with
  | true =>
    simp [htake, hdrop, hends, not_padded_toDigits, number?_toDigits, Nat.toDigits_ne_nil]
  | false =>
    simp [htake, hdrop, hends, not_padded_toDigits, number?_toDigits, Nat.toDigits_ne_nil]

theorem toList_toString_int (n : Int) :
    (toString n).toList = (if n < 0 then ['-'] else []) ++ Nat.toDigits 10 n.natAbs := by
  cases n with
  | ofNat m => exact Nat.toList_repr
  | negSucc m =>
    rw [if_pos (Int.negSucc_lt_zero m)]
    show ("-" ++ (m + 1).repr).toList = _
    rw [String.toList_append, Nat.toList_repr]
    rfl

theorem exists_head_toString_int (n : Int) :
    ∃ c rest, (toString n).toList = c :: rest ∧ (c = '-' ∨ c.isDigit = true) := by
  obtain ⟨d, ds, hd⟩ := List.exists_cons_of_ne_nil (Nat.toDigits_ne_nil (n := n.natAbs) (b := 10))
  rw [toList_toString_int]
  split_ifs
  · exact ⟨'-', _, rfl, .inl rfl⟩
  · refine ⟨d, ds, hd, .inr (isDigit_of_mem_toDigits (n := n.natAbs) ?_)⟩
    rw [hd]
    exact List.mem_cons_self

theorem readNumber?_toString (n : Int) {s : List Char} (hs : NumberEnds s) :
    readNumber? ((toString n).toList ++ s) = some (n, s) := by
  have hread := readNumber?_digits (decide (n < 0)) n.natAbs hs
  simp only [decide_eq_true_eq] at hread
  rw [toList_toString_int, hread]
  congr 2
  split_ifs <;> omega

end RuleLint.Json
