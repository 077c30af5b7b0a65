import RuleLint.Proofs.Text.Fields
import RuleLint.Proofs.Text.Trim

namespace RuleLint.Text

/-- The text has no line feed. -/
def SingleLine (s : String) : Prop := '\n' ∉ s.toList

instance (s : String) : Decidable (SingleLine s) := inferInstanceAs (Decidable (¬ _))

variable {s t l f : List Char} {sep : Char}

theorem trim_subset (s : List Char) : trim s ⊆ s := by
  have hstart : trimStart s <:+ s := List.dropWhile_suffix isBlank
  have hend : trim s <+: trimStart s := trimEnd_prefix _
  exact List.Subset.trans hend.subset hstart.subset

theorem feed_notMem_of_mem_lines (h : l ∈ lines s) : '\n' ∉ l := by
  induction s using lines.induct generalizing l with
  | case1 => contradiction
  | case2 cs ih =>
    rcases List.mem_cons.mp h with rfl | h
    · exact List.not_mem_nil
    · exact ih h
  | case3 cs ih =>
    rcases List.mem_cons.mp h with rfl | h
    · exact List.not_mem_nil
    · exact ih h
  | case4 c cs hfeed hreturn hnone =>
    rw [lines.eq_4 c cs hfeed hreturn, hnone] at h
    rw [List.mem_singleton.mp h, List.mem_singleton]
    exact fun hc => hfeed hc.symm
  | case5 c cs hfeed hreturn first others hsome ih =>
    rw [lines.eq_4 c cs hfeed hreturn, hsome] at h
    rw [hsome] at ih
    rcases List.mem_cons.mp h with rfl | h
    · exact List.not_mem_cons_of_ne_of_not_mem (fun hc => hfeed hc.symm) (ih List.mem_cons_self)
    · exact ih (List.mem_cons_of_mem _ h)

theorem feed_notMem_text {content : String} {l : Line} (h : l ∈ numberedLines content) :
    '\n' ∉ l.text :=
  feed_notMem_of_mem_lines (text_mem_lines h)

variable {a b : String}

theorem singleLine_append : SingleLine (a ++ b) ↔ SingleLine a ∧ SingleLine b := by
  unfold SingleLine
  rw [String.toList_append, List.mem_append, not_or]

theorem SingleLine.append (ha : SingleLine a) (hb : SingleLine b) : SingleLine (a ++ b) :=
  singleLine_append.mpr ⟨ha, hb⟩

theorem singleLine_ofList : SingleLine (.ofList s) ↔ '\n' ∉ s := by
  unfold SingleLine
  rw [String.toList_ofList]

theorem SingleLine.mono (ha : SingleLine a) (h : b.toList ⊆ a.toList) : SingleLine b :=
  fun hb => ha (h hb)

theorem singleLine_toString (n : Nat) : SingleLine (toString n) := by
  intro h
  have hdigits : (toString n).toList = Nat.toDigits 10 n := String.toList_ofList
  rw [hdigits] at h
  exact absurd (Nat.isDigit_of_mem_toDigits (by decide) (by decide) h) (by decide)

theorem singleLine_intercalate (ha : SingleLine a) {parts : List String}
    (h : ∀ p ∈ parts, SingleLine p) :
    SingleLine (a.intercalate parts) := by
  unfold SingleLine
  rw [String.toList_intercalate]
  induction parts with
  | nil => exact List.not_mem_nil
  | cons p parts ih =>
    obtain ⟨hp, hparts⟩ := List.forall_mem_cons.mp h
    cases parts with
    | nil =>
      rw [List.map_singleton, List.intercalate_singleton]
      exact hp
    | cons p' parts =>
      rw [List.map_cons, List.map_cons, List.intercalate_cons_cons, List.mem_append,
        List.mem_append]
      rintro ((hc | hc) | hc)
      · exact hp hc
      · exact ha hc
      · exact ih hparts hc

/-- Every line but the first starts with four blanks. -/
def Hanging (s : String) : Prop := ∀ l ∈ (fields '\n' s.toList).tail, "    ".toList <+: l

theorem SingleLine.hanging (ha : SingleLine a) : Hanging a := by
  unfold Hanging
  rw [fields_eq_singleton ha]
  exact nofun

theorem fields_append_join (ha : SingleLine a) {rows : List String}
    (hrows : ∀ r ∈ rows, SingleLine r) :
    fields '\n' (a ++ .join (rows.map ("\n" ++ ·))).toList =
      a.toList :: rows.map String.toList := by
  have hjoin : (String.join (rows.map ("\n" ++ ·))).toList =
      (rows.map String.toList).flatMap ('\n' :: ·) := by
    rw [String.toList_join, List.flatMap_map, List.flatMap_map]
    congr 1
    funext r
    rw [String.toList_append]
    rfl
  rw [String.toList_append, hjoin, fields_append_of_notMem ha,
    fields_flatMap_cons (List.forall_mem_map.mpr hrows), List.modifyHead_cons, List.append_nil]

theorem hanging_append_join (ha : SingleLine a) {rows : List String}
    (hrows : ∀ r ∈ rows, SingleLine r ∧ "    ".toList <+: r.toList) :
    Hanging (a ++ .join (rows.map ("\n" ++ ·))) := by
  unfold Hanging
  rw [fields_append_join ha fun r hr => (hrows r hr).1]
  exact List.forall_mem_map.mpr fun r hr => (hrows r hr).2

end RuleLint.Text
