import Mathlib.Data.List.Basic
import RuleLint.Unicode.Category

namespace RuleLint.Unicode

variable {code : Nat} {label : String}

/-- Halving ends at a run that holds the code point if those before it end earlier and those behind
it start later. -/
theorem labelAt_eq_some {runs : Array Run} {run : Run} {i : Nat} (hrun : runs[i]? = some run)
    (hfirst : run.first ≤ code) (hlast : code ≤ run.last)
    (hbefore : ∀ j < i, ∀ r, runs[j]? = some r → r.first ≤ code ∧ r.last < code)
    (hbehind : ∀ j, i < j → ∀ r, runs[j]? = some r → code < r.first)
    {steps low high : Nat} (hlow : low ≤ i) (hhigh : i < high) (hsize : high ≤ runs.size)
    (hsteps : high - low < steps) : labelAt runs code steps low high = some run.label := by
  induction steps generalizing low high with
  | zero => omega
  | succ steps ih =>
    have hmiddle : (low + high) / 2 < runs.size := by omega
    obtain ⟨r, hr⟩ : ∃ r, runs[(low + high) / 2]? = some r := ⟨_, Array.getElem?_eq_getElem hmiddle⟩
    unfold labelAt
    dsimp only
    rw [hr]
    dsimp only
    rcases Nat.lt_trichotomy ((low + high) / 2) i with hlt | heq | hgt
    · obtain ⟨hstart, hend⟩ := hbefore _ hlt r hr
      rw [if_neg (by omega), if_pos hend]
      exact ih (by omega) hhigh hsize (by omega)
    · rw [heq, hrun] at hr
      obtain rfl := Option.some.inj hr
      rw [if_neg (by omega), if_neg (by omega)]
    · rw [if_pos (hbehind _ hgt r hr)]
      exact ih hlow (by omega) (by omega) (by omega)

def labelAlong (code : Nat) : List (String × Nat) → Option String
  | [] => none
  | (label, length) :: rest => if code < length then some label else labelAlong (code - length) rest

theorem labelAlong_append {lengths : List (String × Nat)} (h : labelAlong code lengths = some label)
    (more : List (String × Nat)) : labelAlong code (lengths ++ more) = some label := by
  induction lengths generalizing code with
  | nil => contradiction
  | cons entry lengths ih =>
    obtain ⟨l, length⟩ := entry
    rw [labelAlong] at h
    rw [List.cons_append, labelAlong]
    split_ifs at h ⊢ with hcode
    · exact h
    · exact ih h

theorem first_le_of_mem_runsFrom {lengths : List (String × Nat)} {n : Nat} {r : Run}
    (h : r ∈ runsFrom n lengths) :
    n ≤ r.first := by
  induction lengths generalizing n with
  | nil => contradiction
  | cons entry lengths ih =>
    rcases List.mem_cons.mp h with rfl | h
    · exact Nat.le_refl _
    · exact Nat.le_of_add_right_le (ih h)

/-- The runs before the one that the walk comes to end before the code point, and those behind it
start later. -/
theorem exists_run_of_labelAlong {lengths : List (String × Nat)} {n : Nat}
    (h : labelAlong code lengths = some label) (hpos : 0 < n + code) :
    ∃ before run behind, runsFrom n lengths = before ++ run :: behind ∧ run.label = label ∧
      run.first ≤ n + code ∧ n + code ≤ run.last ∧
      (∀ r ∈ before, r.first ≤ n + code ∧ r.last < n + code) ∧
      ∀ r ∈ behind, n + code < r.first := by
  induction lengths generalizing n code with
  | nil => contradiction
  | cons entry lengths ih =>
    obtain ⟨l, length⟩ := entry
    rw [labelAlong] at h
    split_ifs at h with hcode
    · refine ⟨[], _, _, rfl, Option.some.inj h, Nat.le_add_right _ _, ?_, List.forall_mem_nil _, ?_⟩
      · dsimp only
        omega
      · intro r hr
        have hfirst := first_le_of_mem_runsFrom hr
        omega
    · -- The walk goes on behind this run, which is one more that ends before the code point.
      have hsum : n + length + (code - length) = n + code := by omega
      obtain ⟨before, run, behind, hruns, hlabel, hfirst, hlast, hbefore, hbehind⟩ :=
        ih (n := n + length) h (by omega)
      rw [hsum] at hfirst hlast hbefore hbehind
      refine ⟨_ :: before, run, behind, congrArg _ hruns, hlabel, hfirst, hlast, ?_, hbehind⟩
      refine List.forall_mem_cons.mpr ⟨?_, hbefore⟩
      dsimp only
      omega

theorem lookUp_runsFrom {lengths : List (String × Nat)} (h : labelAlong code lengths = some label)
    (hcode : 0 < code) :
    lookUp (runsFrom 0 lengths).toArray code = some label := by
  obtain ⟨before, run, behind, hruns, rfl, hfirst, hlast, hbefore, hbehind⟩ :=
    exists_run_of_labelAlong (n := 0) h (by omega)
  rw [Nat.zero_add] at hfirst hlast hbefore hbehind
  rw [hruns]
  refine labelAt_eq_some (i := before.length) ?_ hfirst hlast ?_ ?_ (Nat.zero_le _) ?_
    (Nat.le_refl _) (by omega)
  · rw [List.getElem?_toArray, List.getElem?_append_right (Nat.le_refl _), Nat.sub_self,
      List.getElem?_cons_zero]
  · intro j hj r hr
    rw [List.getElem?_toArray, List.getElem?_append_left hj] at hr
    exact hbefore r (List.mem_of_getElem? hr)
  · intro j hj r hr
    obtain ⟨k, rfl⟩ : ∃ k, j = before.length + (k + 1) := ⟨j - before.length - 1, by omega⟩
    rw [List.getElem?_toArray, List.getElem?_append_right (by omega), Nat.add_sub_cancel_left,
      List.getElem?_cons_succ] at hr
    exact hbehind r (List.mem_of_getElem? hr)
  · simp

def readLength (width : Nat) (word : List Char) : String × Nat :=
  (.ofList (word.take width), number36 (word.drop width))

/-- The first two lines of a table are enough for the code points that their runs cover. -/
theorem lookUp_readRuns {width : Nat} {line line' : String} {s s' : List Char}
    (hs : line = .ofList s) (hs' : line' = .ofList s') (more : List String)
    (h : labelAlong code ((s.splitOn ' ' ++ s'.splitOn ' ').map (readLength width)) = some label)
    (hcode : 0 < code) :
    lookUp (readRuns width (line :: line' :: more)).toArray code = some label := by
  have hwords : words (line :: line' :: more) = s.splitOn ' ' ++ s'.splitOn ' ' ++ words more := by
    unfold words
    rw [List.flatMap_cons, List.flatMap_cons, hs, hs', String.toList_ofList, String.toList_ofList,
      List.append_assoc]
  unfold readRuns
  rw [hwords, List.map_append]
  exact lookUp_runsFrom (labelAlong_append h _) hcode

end RuleLint.Unicode
