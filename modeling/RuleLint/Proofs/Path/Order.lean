import Mathlib.Data.List.Sort
import RuleLint.Path

namespace RuleLint.Path

open Std

namespace Component

instance : TransCmp Component.compare :=
  inferInstanceAs (TransCmp (compareLex (compareOn Component.rank) (compareOn Component.text)))

instance : LawfulEqCmp Component.compare where
  eq_of_compare {a b} h := by
    have hboth : a.rank = b.rank ∧ a.text = b.text := by
      simpa only [Component.compare, Ordering.then_eq_eq, LawfulEqOrd.compare_eq_iff_eq] using h
    obtain ⟨hrank, htext⟩ := hboth
    cases a <;> cases b <;> simp_all [Component.rank, Component.text]

end Component

theorem transCmp_components : TransCmp (List.compareLex Component.compare) := inferInstance

theorem lawfulEqCmp_components : LawfulEqCmp (List.compareLex Component.compare) := inferInstance

instance : TransCmp Path.compare where
  eq_swap := transCmp_components.eq_swap
  isLE_trans := transCmp_components.isLE_trans

variable {p q : Path}

theorem compare_eq_eq_iff : p.compare q = .eq ↔ p.components = q.components :=
  lawfulEqCmp_components.compare_eq_iff_eq

def Before (p q : Path) : Prop := p.compare q = .lt

instance : Std.Irrefl Before := ⟨fun _ h => nomatch (compare_eq_eq_iff.mpr rfl).symm.trans h⟩

instance : Std.Antisymm Before := ⟨fun _ _ h h' => (OrientedCmp.not_lt_of_lt h h').elim⟩

theorem before_of_isLE (h : (p.compare q).isLE = true) (hne : p.components ≠ q.components) :
    p.Before q :=
  (Ordering.isLE_iff_eq_lt_or_eq_eq.mp h).resolve_right fun he => hne (compare_eq_eq_iff.mp he)

/-- Sorting paths with different components puts each before those that follow. -/
theorem pairwise_before_mergeSort {ps : List Path}
    (h : ps.Pairwise fun p q => p.components ≠ q.components) :
    (ps.mergeSort fun p q => (p.compare q).isLE).Pairwise Before := by
  have hsorted : (ps.mergeSort fun p q => (p.compare q).isLE).Pairwise fun p q =>
      (p.compare q).isLE = true := by
    apply List.pairwise_mergeSort
    · exact fun _ _ _ => TransCmp.isLE_trans
    · intro p q
      have hswap : q.compare p = (p.compare q).swap := transCmp_components.eq_swap
      rw [hswap]
      cases p.compare q <;> rfl
  have hdifferent : (ps.mergeSort fun p q => (p.compare q).isLE).Pairwise fun p q =>
      p.components ≠ q.components :=
    ((List.mergeSort_perm ps _).pairwise_iff fun hne he => hne he.symm).mpr h
  exact hsorted.imp₂ (fun _ _ => before_of_isLE) hdifferent

end RuleLint.Path
