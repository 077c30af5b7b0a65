import Mathlib.Data.List.Basic
import RuleLint.Report

namespace RuleLint

def ErrorFree (diagnostics : List Diagnostic) : Prop := ∀ d ∈ diagnostics, d.severity ≠ .error

@[simp] theorem errorFree_nil : ErrorFree [] := by
  intro d hd
  contradiction

@[simp] theorem errorFree_append {ds ds' : List Diagnostic} :
    ErrorFree (ds ++ ds') ↔ ErrorFree ds ∧ ErrorFree ds' := List.forall_mem_append

@[simp] theorem errorFree_singleton {d : Diagnostic} : ErrorFree [d] ↔ d.severity ≠ .error :=
  List.forall_mem_singleton

theorem errorFree_map {α : Type} {f : α → Diagnostic} {xs : List α} :
    ErrorFree (xs.map f) ↔ ∀ x ∈ xs, (f x).severity ≠ .error := List.forall_mem_map

theorem errorFree_flatMap {α : Type} {f : α → List Diagnostic} {xs : List α} :
    ErrorFree (xs.flatMap f) ↔ ∀ x ∈ xs, ErrorFree (f x) := by
  unfold ErrorFree
  simp only [List.mem_flatMap, forall_exists_index, and_imp]
  constructor
  · exact fun h x hx d hd => h d x hx hd
  · exact fun h d x hx hd => h x hx d hd

theorem errorFree_iff_eq_nil {ds : List Diagnostic} (h : ∀ d ∈ ds, d.severity = .error) :
    ErrorFree ds ↔ ds = [] := by
  rw [List.eq_nil_iff_forall_not_mem]
  exact ⟨fun hf d hd => hf d hd (h d hd), fun hn d hd => (hn d hd).elim⟩

theorem exitCode_ofDiagnostics_eq_zero_iff {root : String} {n : Nat} {ds : List Diagnostic} :
    (Report.ofDiagnostics root n ds).exitCode = 0 ↔ ErrorFree ds := by
  have hcount : 0 < Summary.countOf .error ds ↔ ∃ d ∈ ds, d.severity = .error := by
    unfold Summary.countOf
    simp only [List.countP_pos_iff, decide_eq_true_eq]
  show (if decide (0 < Summary.countOf .error ds) then 2 else 0) = 0 ↔ _
  rw [ite_eq_right_iff, decide_eq_true_eq, hcount]
  simp [ErrorFree]

end RuleLint
