import Mathlib.Data.List.Nodup
import RuleLint.Text.Basic

namespace RuleLint.LineIndex

def linesIn (places : List (String × Nat)) (text : String) : List Nat :=
  (places.filter (·.1 = text)).map Prod.snd

theorem linesIn_cons (text : String) (line : Nat) (places : List (String × Nat)) (other : String) :
    linesIn ((text, line) :: places) other =
      if text = other then line :: linesIn places other else linesIn places other := by
  unfold linesIn
  rw [List.filter_cons]
  by_cases h : text = other <;> simp [h]

theorem length_linesIn (places : List (String × Nat)) (text : String) :
    (linesIn places text).length = (places.map Prod.fst).count text := by
  unfold linesIn
  rw [List.length_map, ← List.countP_eq_length_filter, List.count, List.countP_map]
  rfl

theorem mem_linesIn {places : List (String × Nat)} {text : String} {line : Nat} :
    line ∈ linesIn places text ↔ (text, line) ∈ places := by
  unfold linesIn
  simp

theorem linesIn_pairwise {places : List (String × Nat)} (h : places.Pairwise (·.2 < ·.2))
    (text : String) :
    (linesIn places text).Pairwise (· < ·) :=
  List.pairwise_map.mpr (h.filter _)

theorem getElem?_ofList (places : List (String × Nat)) (text : String) :
    (ofList places)[text]? = if linesIn places text = [] then none
      else some (linesIn places text) := by
  induction places with
  | nil => simp [ofList, linesIn]
  | cons place places ih =>
    obtain ⟨other, line⟩ := place
    show ((ofList places).alter other fun lines => some (line :: lines.getD []))[text]? = _
    rw [Std.ExtTreeMap.getElem?_alter, linesIn_cons]
    simp only [Std.compare_eq_iff_eq]
    by_cases h : other = text
    · subst h
      rw [if_pos rfl, if_pos rfl, if_neg (List.cons_ne_nil _ _), ih]
      by_cases hn : linesIn places other = [] <;> simp [hn]
    · rw [if_neg h, if_neg h, ih]

theorem linesOf_ofList (places : List (String × Nat)) (text : String) :
    (ofList places).linesOf text = linesIn places text := by
  unfold linesOf
  rw [Std.ExtTreeMap.getD_eq_getD_getElem?, getElem?_ofList]
  by_cases h : linesIn places text = [] <;> simp [h]

theorem mem_repeated_ofList {places : List (String × Nat)} {text : String} {lines : List Nat} :
    (text, lines) ∈ (ofList places).repeated ↔ lines = linesIn places text ∧ 2 ≤ lines.length := by
  unfold repeated
  rw [List.mem_filter, Std.ExtTreeMap.mem_toList_iff_getElem?_eq_some, getElem?_ofList,
    decide_eq_true_eq]
  by_cases h : linesIn places text = []
  · rw [if_pos h, h]
    constructor
    · rintro ⟨⟨⟩, -⟩
    · rintro ⟨rfl, hl⟩
      contradiction
  · rw [if_neg h, Option.some.injEq, eq_comm]

theorem repeated_pairwise (index : LineIndex) : index.repeated.Pairwise fun a b =>
    compare a.1 b.1 = .lt :=
  index.ordered_keys_toList.filter _

theorem exists_of_mem_repeated {α : Type} {xs : List α} {name : α → String} {line : α → Nat}
    {text : String} {lines : List Nat}
    (h : (text, lines) ∈ (ofList (xs.map fun x => (name x, line x))).repeated) :
    ∃ x ∈ xs, name x = text := by
  obtain ⟨rfl, hlength⟩ := mem_repeated_ofList.mp h
  rw [length_linesIn, List.map_map] at hlength
  exact List.mem_map.mp (List.count_pos_iff.mp (Nat.lt_of_lt_of_le Nat.two_pos hlength))

/-- No text is repeated exactly if no two places have the same one. -/
theorem repeated_ofList_eq_nil_iff {places : List (String × Nat)} :
    (ofList places).repeated = [] ↔ (places.map Prod.fst).Nodup := by
  rw [List.eq_nil_iff_forall_not_mem, List.nodup_iff_count_le_one]
  constructor
  · intro h text
    rw [← length_linesIn]
    by_contra hl
    exact h _ (mem_repeated_ofList.mpr ⟨rfl, Nat.lt_of_not_le hl⟩)
  · rintro h ⟨text, lines⟩ hm
    obtain ⟨rfl, hl⟩ := mem_repeated_ofList.mp hm
    rw [length_linesIn] at hl
    exact Nat.not_le_of_lt hl (h text)

end RuleLint.LineIndex
