import Mathlib.Data.List.Basic
import RuleLint.Text.Digits

namespace RuleLint.Text

def IsDigits (run : List Char) : Prop := run ≠ [] ∧ ∀ c ∈ run, isDigit c = true

instance (run : List Char) : Decidable (IsDigits run) :=
  decidable_of_iff (run ≠ [] ∧ run.all isDigit = true) (and_congr_right' List.all_eq_true)

/-- No digit comes first. -/
def Delimited (rest : List Char) : Prop := ∀ c ∈ rest.head?, isDigit c = false

theorem delimited_nil : Delimited [] := by
  intro c hc
  contradiction

theorem delimited_cons {c : Char} (h : isDigit c = false) (rest : List Char) :
    Delimited (c :: rest) := by
  intro d hd
  rw [← Option.mem_some.mp hd]
  exact h

theorem isDigit_dot : isDigit '.' = false := by decide

theorem isDigit_slash : isDigit '/' = false := by decide

theorem isDigit_comma : isDigit ',' = false := by decide

theorem takeWhile_isDigit_append {run rest : List Char} (h : ∀ c ∈ run, isDigit c = true)
    (hr : Delimited rest) :
    (run ++ rest).takeWhile isDigit = run := by
  rw [List.takeWhile_append_of_pos h]
  have hstop : rest.takeWhile isDigit = [] := by
    cases rest with
    | nil => rfl
    | cons c rest => rw [List.takeWhile_cons_of_neg (by simp [hr c rfl])]
  rw [hstop, List.append_nil]

theorem delimited_dropWhile (s : List Char) : Delimited (s.dropWhile isDigit) := by
  intro c hc
  have h := List.head?_dropWhile_not isDigit s
  rw [Option.mem_def.mp hc] at h
  simpa using h

/-- What is read is the run that is there. -/
theorem digits?_eq_some_iff {most : Nat} {s run rest : List Char} :
    digits? most s = some (run, rest) ↔
      s = run ++ rest ∧ IsDigits run ∧ run.length ≤ most ∧ Delimited rest := by
  unfold digits?
  dsimp only
  constructor
  · intro h
    split_ifs at h with hrun
    obtain ⟨rfl, rfl⟩ := Prod.mk.inj (Option.some.inj h)
    refine ⟨(List.takeWhile_append_dropWhile).symm, ⟨hrun.1, fun c hc => ?_⟩, hrun.2,
      delimited_dropWhile s⟩
    exact List.all_eq_true.mp List.all_takeWhile c hc
  · rintro ⟨rfl, ⟨hne, hrun⟩, hlen, hrest⟩
    have htake := takeWhile_isDigit_append hrun hrest
    have hdrop : (run ++ rest).dropWhile isDigit = rest := by
      have h := List.takeWhile_append_dropWhile (p := isDigit) (l := run ++ rest)
      rw [htake] at h
      exact List.append_cancel_left h
    rw [htake, hdrop, if_pos ⟨hne, hlen⟩]

theorem IsDigits.reverse {run : List Char} (h : IsDigits run) : IsDigits run.reverse :=
  ⟨by simpa using h.1, fun c hc => h.2 c (List.mem_reverse.mp hc)⟩

theorem IsDigits.extend {run : List Char} (h : IsDigits run) (rest : List Char) :
    ∃ run' rest', run ++ rest = run' ++ rest' ∧ IsDigits run' ∧ Delimited rest' := by
  refine ⟨run ++ rest.takeWhile isDigit, rest.dropWhile isDigit, ?_, ⟨?_, ?_⟩,
    delimited_dropWhile rest⟩
  · rw [List.append_assoc, List.takeWhile_append_dropWhile]
  · exact List.append_ne_nil_of_left_ne_nil h.1 _
  · intro c hc
    rcases List.mem_append.mp hc with hc | hc
    · exact h.2 c hc
    · exact List.all_eq_true.mp List.all_takeWhile c hc

theorem number?_of_digits {run : List Char} (h : ∀ c ∈ run, c.isDigit = true) :
    number? run = some (Nat.ofDigitChars 10 run 0) := by
  unfold number?
  generalize 0 = start
  induction run generalizing start with
  | nil => rfl
  | cons c run ih =>
    rw [List.foldlM_cons, if_pos (h c List.mem_cons_self), Nat.ofDigitChars_cons,
      ← ih fun d hd => h d (List.mem_cons_of_mem _ hd)]
    rfl

theorem number?_of_not_digits {run : List Char} (h : ∃ c ∈ run, c.isDigit = false) :
    number? run = none := by
  unfold number?
  generalize 0 = start
  induction run generalizing start with
  | nil =>
    obtain ⟨c, hc, -⟩ := h
    contradiction
  | cons d run ih =>
    rw [List.foldlM_cons]
    by_cases hd : d.isDigit = true
    · rw [if_pos hd]
      obtain ⟨c, hc, hdigit⟩ := h
      rcases List.mem_cons.mp hc with rfl | hc
      · rw [hd] at hdigit
        contradiction
      · exact ih ⟨c, hc, hdigit⟩ _
    · rw [if_neg hd]
      rfl

/-- A run spells a number up to `most` if all its digits are of ASCII and their decimal value is no
greater. -/
theorem any_number?_iff {run : List Char} {most : Nat} :
    (number? run).any (· ≤ most) = true ↔
      (∀ c ∈ run, c.isDigit = true) ∧ Nat.ofDigitChars 10 run 0 ≤ most := by
  by_cases h : ∀ c ∈ run, c.isDigit = true
  · rw [number?_of_digits h, Option.any_some, decide_eq_true_eq, and_iff_right h]
  · have hnone : number? run = none := number?_of_not_digits (by simpa using h)
    rw [hnone, Option.any_none]
    exact iff_of_false Bool.false_ne_true fun hrun => h hrun.1

end RuleLint.Text
