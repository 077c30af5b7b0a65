import Mathlib.Data.List.TakeWhile
import RuleLint.Text.Basic

namespace RuleLint.Text

variable {s t : List Char} {sep : Char}

/-- Neither end is blank. -/
def Trimmed (s : List Char) : Prop :=
  (∀ c ∈ s.head?, isBlank c = false) ∧ ∀ c ∈ s.getLast?, isBlank c = false

theorem dropWhile_isBlank_eq_self (h : ∀ c ∈ s.head?, isBlank c = false) :
    s.dropWhile isBlank = s := by
  cases s with
  | nil => rfl
  | cons c s => exact List.dropWhile_cons_of_neg (by simp [h c rfl])

theorem head?_dropWhile_isBlank (s : List Char) :
    ∀ c ∈ (s.dropWhile isBlank).head?, isBlank c = false := by
  intro c hc
  have h := List.head?_dropWhile_not isBlank s
  rw [Option.mem_def.mp hc] at h
  simpa using h

theorem trimEnd_prefix (s : List Char) : trimEnd s <+: s := by
  have h := List.reverse_prefix.mpr (List.dropWhile_suffix (l := s.reverse) isBlank)
  rwa [List.reverse_reverse] at h

theorem trim_eq_self_iff : trim s = s ↔ Trimmed s := by
  unfold trim trimStart Trimmed
  constructor
  · intro h
    -- Nothing is taken off at either end.
    have hsuffix : s.dropWhile isBlank <:+ s := List.dropWhile_suffix isBlank
    have hprefix := trimEnd_prefix (s.dropWhile isBlank)
    have hstart : s.dropWhile isBlank = s :=
      hsuffix.eq_of_length_le (by rw [h] at hprefix; exact hprefix.length_le)
    have hend : trimEnd s = s := by rwa [hstart] at h
    constructor
    · rw [← hstart]
      exact head?_dropWhile_isBlank s
    · rw [← hend]
      unfold trimEnd
      rw [List.getLast?_reverse]
      exact head?_dropWhile_isBlank s.reverse
  · rintro ⟨hstart, hend⟩
    rw [dropWhile_isBlank_eq_self hstart]
    unfold trimEnd
    rw [dropWhile_isBlank_eq_self (by rwa [List.head?_reverse]), List.reverse_reverse]

theorem exists_trimEnd_append (s : List Char) :
    ∃ right, s = trimEnd s ++ right ∧ ∀ c ∈ right, isBlank c = true := by
  refine ⟨(s.reverse.takeWhile isBlank).reverse, ?_, fun c hc => ?_⟩
  · unfold trimEnd
    rw [← List.reverse_append, List.takeWhile_append_dropWhile, List.reverse_reverse]
  · exact List.all_eq_true.mp List.all_takeWhile c (List.mem_reverse.mp hc)

theorem trimmed_trim (s : List Char) : Trimmed (trim s) := by
  have hprefix : trim s <+: trimStart s := trimEnd_prefix _
  constructor
  · intro c hc
    apply head?_dropWhile_isBlank s
    -- What is left has the first character of what there was before its end was taken off.
    obtain ⟨right, hright⟩ := hprefix
    show (trimStart s).head? = some c
    rw [← hright, List.head?_append, Option.mem_def.mp hc]
    rfl
  · intro c hc
    apply head?_dropWhile_isBlank (trimStart s).reverse
    rwa [← List.getLast?_reverse]

/-- Trimming takes blanks off, and nothing else. -/
theorem exists_append_trim_append (s : List Char) :
    ∃ left right, s = left ++ trim s ++ right ∧ ∀ c ∈ left ++ right, isBlank c = true := by
  obtain ⟨right, hright, hblank⟩ := exists_trimEnd_append (trimStart s)
  refine ⟨s.takeWhile isBlank, right, ?_, fun c hc => ?_⟩
  · show s = s.takeWhile isBlank ++ trimEnd (trimStart s) ++ right
    rw [List.append_assoc, ← hright]
    exact List.takeWhile_append_dropWhile.symm
  · rcases List.mem_append.mp hc with hc | hc
    · exact List.all_eq_true.mp List.all_takeWhile c hc
    · exact hblank c hc

theorem trim_append_append {left right : List Char} (h : Trimmed s)
    (hblank : ∀ c ∈ left ++ right, isBlank c = true) :
    trim (left ++ s ++ right) = s := by
  obtain ⟨hleft, hright⟩ := List.forall_mem_append.mp hblank
  have hright' : ∀ c ∈ right.reverse, isBlank c = true :=
    fun c hc => hright c (List.mem_reverse.mp hc)
  have hstart : trimStart (left ++ s ++ right) = trimStart (s ++ right) := by
    unfold trimStart
    rw [List.append_assoc, List.dropWhile_append_of_pos hleft]
  have hend : trimEnd (s ++ right) = s := by
    unfold trimEnd
    rw [List.reverse_append, List.dropWhile_append_of_pos hright', dropWhile_isBlank_eq_self,
      List.reverse_reverse]
    rw [List.head?_reverse]
    exact h.2
  unfold trim
  rw [hstart]
  cases s with
  | nil =>
    -- All there is are blanks, and they are taken off as the start.
    have hnil : trimStart right = [] := List.dropWhile_eq_nil_iff.mpr hright
    rw [List.nil_append, hnil]
    rfl
  | cons c s =>
    have hkept : trimStart (c :: s ++ right) = c :: s ++ right := dropWhile_isBlank_eq_self h.1
    rw [hkept, hend]

theorem Trimmed.append (hs : Trimmed s) (ht : Trimmed t) : Trimmed (s ++ t) := by
  constructor
  · intro c hc
    rw [List.head?_append, Option.mem_def, Option.or_eq_some_iff] at hc
    rcases hc with hc | ⟨-, hc⟩
    · exact hs.1 c hc
    · exact ht.1 c hc
  · intro c hc
    rw [List.getLast?_append, Option.mem_def, Option.or_eq_some_iff] at hc
    rcases hc with hc | ⟨-, hc⟩
    · exact ht.2 c hc
    · exact hs.2 c hc

theorem trimmed_singleton (h : isBlank sep = false) : Trimmed [sep] := by
  constructor
  · rintro _ ⟨⟩
    exact h
  · rintro _ ⟨⟩
    exact h

theorem trimmed_intercalate (hsep : isBlank sep = false) {fs : List (List Char)}
    (h : ∀ f ∈ fs, Trimmed f) :
    Trimmed ([sep].intercalate fs) := by
  induction fs with
  | nil => exact ⟨nofun, nofun⟩
  | cons f fs ih =>
    have hf := h f List.mem_cons_self
    cases fs with
    | nil => rwa [List.intercalate_singleton]
    | cons g fs =>
      rw [List.intercalate_cons_cons]
      exact (hf.append (trimmed_singleton hsep)).append
        (ih fun f hf => h f (List.mem_cons_of_mem _ hf))

end RuleLint.Text
