import Mathlib.Data.List.Basic
import Mathlib.Data.List.Pairwise
import RuleLint.Text.Basic

namespace RuleLint.Text

variable {sep : Char} {s t : List Char}

theorem fields_ne_nil (sep : Char) (s : List Char) : fields sep s ≠ [] := by
  cases s with
  | nil => exact List.cons_ne_nil _ _
  | cons c s =>
    unfold fields
    split
    · exact List.cons_ne_nil _ _
    · split <;> exact List.cons_ne_nil _ _

theorem fields_cons_self (sep : Char) (s : List Char) :
    fields sep (sep :: s) = [] :: fields sep s := by
  rw [fields, if_pos rfl]

theorem fields_cons_of_ne {c : Char} (h : c ≠ sep) {f : List Char} {fs : List (List Char)}
    (hs : fields sep s = f :: fs) : fields sep (c :: s) = (c :: f) :: fs := by
  rw [fields, if_neg h, hs]

theorem fields_append_cons (sep : Char) (s t : List Char) :
    fields sep (s ++ sep :: t) = fields sep s ++ fields sep t := by
  induction s with
  | nil => exact fields_cons_self sep t
  | cons c s ih =>
    by_cases h : c = sep
    · rw [h, List.cons_append, fields_cons_self, ih, fields_cons_self, List.cons_append]
    · obtain ⟨f, fs, hs⟩ := List.exists_cons_of_ne_nil (fields_ne_nil sep s)
      rw [hs, List.cons_append] at ih
      rw [List.cons_append, fields_cons_of_ne h ih, fields_cons_of_ne h hs, List.cons_append]

theorem fields_eq_singleton (h : sep ∉ s) : fields sep s = [s] := by
  induction s with
  | nil => rfl
  | cons c s ih =>
    have hc : c ≠ sep := by
      rintro rfl
      exact h List.mem_cons_self
    exact fields_cons_of_ne hc (ih fun hm => h (List.mem_cons_of_mem _ hm))

theorem fields_append_of_notMem (h : sep ∉ s) (t : List Char) :
    fields sep (s ++ t) = (fields sep t).modifyHead (s ++ ·) := by
  induction s with
  | nil => exact (congrFun List.modifyHead_id _).symm
  | cons c s ih =>
    obtain ⟨hc, hs⟩ := not_or.mp (mt List.mem_cons.mpr h)
    obtain ⟨f, fs, ht⟩ := List.exists_cons_of_ne_nil (fields_ne_nil sep t)
    rw [ht, List.modifyHead_cons] at ih ⊢
    exact fields_cons_of_ne (Ne.symm hc) (ih hs)

/-- Fields that each begin with a separator, with nothing before the first. -/
theorem fields_flatMap_cons {fs : List (List Char)} (h : ∀ f ∈ fs, sep ∉ f) :
    fields sep (fs.flatMap (sep :: ·)) = [] :: fs := by
  induction fs with
  | nil => rfl
  | cons f fs ih =>
    obtain ⟨hf, hfs⟩ := List.forall_mem_cons.mp h
    rw [List.flatMap_cons, List.cons_append, fields_cons_self, fields_append_of_notMem hf, ih hfs,
      List.modifyHead_cons, List.append_nil]

/-- A separator after each of several texts keeps their fields apart. -/
theorem fields_flatMap_append (ss : List (List Char)) (t : List Char) :
    fields sep (ss.flatMap (· ++ [sep]) ++ t) = ss.flatMap (fields sep) ++ fields sep t := by
  induction ss with
  | nil => rfl
  | cons s ss ih =>
    rw [List.flatMap_cons, List.append_assoc, List.append_assoc, List.singleton_append,
      fields_append_cons, ih, List.flatMap_cons, List.append_assoc]

theorem notMem_of_mem_fields {f : List Char} (h : f ∈ fields sep s) : sep ∉ f := by
  induction s generalizing f with
  | nil =>
    rw [List.mem_singleton.mp h]
    exact List.not_mem_nil
  | cons c s ih =>
    by_cases hc : c = sep
    · rw [hc, fields_cons_self] at h
      rcases List.mem_cons.mp h with rfl | h
      · exact List.not_mem_nil
      · exact ih h
    · obtain ⟨g, gs, hs⟩ := List.exists_cons_of_ne_nil (fields_ne_nil sep s)
      rw [fields_cons_of_ne hc hs] at h
      rw [hs] at ih
      rcases List.mem_cons.mp h with rfl | h
      · exact List.not_mem_cons_of_ne_of_not_mem (Ne.symm hc) (ih List.mem_cons_self)
      · exact ih (List.mem_cons_of_mem _ h)

theorem subset_of_mem_fields {f : List Char} (h : f ∈ fields sep s) : f ⊆ s := by
  induction s generalizing f with
  | nil =>
    rw [List.mem_singleton.mp h]
    exact List.Subset.refl _
  | cons c s ih =>
    by_cases hc : c = sep
    · rw [hc, fields_cons_self] at h
      rcases List.mem_cons.mp h with rfl | h
      · exact List.nil_subset _
      · exact List.subset_cons_of_subset _ (ih h)
    · obtain ⟨g, gs, hs⟩ := List.exists_cons_of_ne_nil (fields_ne_nil sep s)
      rw [fields_cons_of_ne hc hs] at h
      rw [hs] at ih
      rcases List.mem_cons.mp h with rfl | h
      · exact List.cons_subset_cons _ (ih List.mem_cons_self)
      · exact List.subset_cons_of_subset _ (ih (List.mem_cons_of_mem _ h))

theorem head?_fields (sep : Char) (s : List Char) :
    (fields sep s).head? = some (s.takeWhile (· ≠ sep)) := by
  induction s with
  | nil => rfl
  | cons c s ih =>
    by_cases h : c = sep
    · rw [h, fields_cons_self, List.takeWhile_cons_of_neg (by simp)]
      rfl
    · obtain ⟨f, fs, hs⟩ := List.exists_cons_of_ne_nil (fields_ne_nil sep s)
      rw [hs] at ih
      rw [fields_cons_of_ne h hs, List.takeWhile_cons_of_pos (by simpa using h),
        ← Option.some.inj ih]
      rfl

theorem head?_fields_eq_nil_iff (h : s ≠ []) :
    (fields sep s).head? = some [] ↔ s.head? = some sep := by
  rw [head?_fields, Option.some.injEq]
  cases s with
  | nil => contradiction
  | cons c s => by_cases hc : c = sep <;> simp [hc]

/-- Every separator begins a field, and there is one before the first. -/
theorem length_fields (sep : Char) (s : List Char) : (fields sep s).length = s.count sep + 1 := by
  induction s with
  | nil => rfl
  | cons c s ih =>
    by_cases h : c = sep
    · rw [h, fields_cons_self, List.length_cons, ih, List.count_cons_self]
    · obtain ⟨f, fs, hs⟩ := List.exists_cons_of_ne_nil (fields_ne_nil sep s)
      rw [fields_cons_of_ne h hs, List.count_cons_of_ne h, ← ih, hs]
      rfl

theorem fields_intercalate {fs : List (List Char)} (hne : fs ≠ []) (h : ∀ f ∈ fs, sep ∉ f) :
    fields sep ([sep].intercalate fs) = fs := by
  induction fs with
  | nil => contradiction
  | cons f fs ih =>
    cases fs with
    | nil =>
      rw [List.intercalate_singleton]
      exact fields_eq_singleton (h f List.mem_cons_self)
    | cons f' fs =>
      rw [List.intercalate_cons_cons, List.append_assoc, List.singleton_append, fields_append_cons,
        fields_eq_singleton (h f List.mem_cons_self), List.singleton_append,
        ih (List.cons_ne_nil _ _) fun g hg => h g (List.mem_cons_of_mem _ hg)]

theorem intercalate_fields (sep : Char) (s : List Char) : [sep].intercalate (fields sep s) = s := by
  induction s with
  | nil => rfl
  | cons c s ih =>
    obtain ⟨f, fs, hs⟩ := List.exists_cons_of_ne_nil (fields_ne_nil sep s)
    rw [hs] at ih
    by_cases h : c = sep
    · rw [h, fields_cons_self, hs, List.intercalate_cons_cons, ih]
      rfl
    · rw [fields_cons_of_ne h hs]
      cases fs with
      | nil =>
        rw [List.intercalate_singleton] at ih ⊢
        rw [ih]
      | cons g gs =>
        rw [List.intercalate_cons_cons] at ih ⊢
        rw [List.cons_append, List.cons_append, ih]

/-- Joining with a separator that no field holds loses nothing. -/
theorem intercalate_inj {fs gs : List (List Char)} (hf : fs ≠ []) (hg : gs ≠ [])
    (hfs : ∀ f ∈ fs, sep ∉ f) (hgs : ∀ g ∈ gs, sep ∉ g)
    (h : [sep].intercalate fs = [sep].intercalate gs) : fs = gs := by
  rw [← fields_intercalate hf hfs, h, fields_intercalate hg hgs]

theorem cut?_eq_some_iff {l r : List Char} :
    cut? sep s = some (l, r) ↔ s = l ++ sep :: r ∧ sep ∉ l := by
  induction s generalizing l with
  | nil => simp [cut?]
  | cons c s ih =>
    by_cases h : c = sep
    · subst h
      rw [cut?, if_pos rfl]
      cases l with
      | nil => simp [eq_comm]
      | cons d l => simp; tauto
    · rw [cut?, if_neg h, Option.map_eq_some_iff]
      cases l with
      | nil => simp [h]
      | cons d l =>
        simp only [Prod.exists, Prod.mk.injEq, List.cons_append, List.cons.injEq,
          List.mem_cons, not_or]
        constructor
        · rintro ⟨l', r', hc, ⟨rfl, rfl⟩, rfl⟩
          obtain ⟨hs, hl⟩ := ih.mp hc
          exact ⟨⟨rfl, hs⟩, Ne.symm h, hl⟩
        · rintro ⟨⟨rfl, hs⟩, -, hl⟩
          exact ⟨l, r, ih.mpr ⟨hs, hl⟩, ⟨rfl, rfl⟩, rfl⟩

theorem isSome_rest?_iff {word : List Char} : (rest? word s).isSome = true ↔ word <+: s := by
  rw [Option.isSome_iff_exists]
  exact exists_congr fun t => rest?_eq_some_iff.trans eq_comm

theorem mentions_iff {word : List Char} : mentions word s = true ↔ word <:+: s := by
  induction s with
  | nil => rw [mentions, List.isEmpty_iff, List.infix_nil]
  | cons c s ih => rw [mentions, Bool.or_eq_true, isSome_rest?_iff, ih, List.infix_cons_iff]

theorem map_number_numberedLines (content : String) :
    (numberedLines content).map Line.number = List.range' 1 (lines content.toList).length := by
  unfold numberedLines
  rw [List.map_map]
  exact List.zipIdx_map_snd 1 _

theorem numberedLines_pairwise (content : String) :
    (numberedLines content).Pairwise (·.number < ·.number) := by
  rw [← List.pairwise_map, map_number_numberedLines]
  exact List.pairwise_lt_range'

theorem number_bounds {content : String} {l : Line} (hl : l ∈ numberedLines content) :
    1 ≤ l.number ∧ l.number ≤ (lines content.toList).length := by
  have hmem : l.number ∈ (numberedLines content).map Line.number := List.mem_map_of_mem hl
  rw [map_number_numberedLines, List.mem_range'_1] at hmem
  omega

theorem text_mem_lines {content : String} {l : Line} (hl : l ∈ numberedLines content) :
    l.text ∈ lines content.toList := by
  rw [← map_text_numberedLines]
  exact List.mem_map_of_mem hl

theorem eq_of_number_eq {content : String} {l m : Line} (hl : l ∈ numberedLines content)
    (hm : m ∈ numberedLines content) (h : l.number = m.number) : l = m := by
  have hinj : (numberedLines content).Pairwise fun l m => l.number ≠ m.number :=
    (numberedLines_pairwise content).imp Nat.ne_of_lt
  by_contra hne
  have : Std.Symm fun l m : Line => l.number ≠ m.number := ⟨fun _ _ => Ne.symm⟩
  exact hinj.forall hl hm hne h

/-- The first line with a property is the one with the least number. -/
theorem find?_number_eq_some_iff {ls : List Line} (hsorted : ls.Pairwise (·.number < ·.number))
    {p : Line → Bool} {n : Nat} :
    (ls.find? p).map Line.number = some n ↔
      ∃ l ∈ ls, p l ∧ l.number = n ∧ ∀ m ∈ ls, p m → n ≤ m.number := by
  induction ls with
  | nil => simp
  | cons l ls ih =>
    obtain ⟨hl, hls⟩ := List.pairwise_cons.mp hsorted
    by_cases hp : p l
    · rw [List.find?_cons_of_pos hp]
      constructor
      · intro h
        obtain rfl := Option.some.inj h
        refine ⟨l, List.mem_cons_self, hp, rfl, ?_⟩
        intro m hm _
        rcases List.mem_cons.mp hm with rfl | hm
        · exact Nat.le_refl _
        · exact Nat.le_of_lt (hl m hm)
      · rintro ⟨l', hl', -, rfl, hleast⟩
        have hle := hleast l List.mem_cons_self hp
        rcases List.mem_cons.mp hl' with rfl | hm
        · rfl
        · exact absurd (hl l' hm) (Nat.not_lt.mpr hle)
    · rw [List.find?_cons_of_neg hp, ih hls]
      simp [hp]

/-- Of what lines give, the part placed at one line is what this line gives. -/
theorem filter_flatMap_of_mem {α : Type} {l : Line} {ls : List Line}
    (hsorted : ls.Pairwise (·.number < ·.number)) {give : Line → List α} (placedAt : Nat → α → Bool)
    (hplace : ∀ m, ∀ a ∈ give m, ∀ n, placedAt n a = true ↔ m.number = n) (hl : l ∈ ls) :
    (ls.flatMap give).filter (placedAt l.number) = give l := by
  obtain ⟨before, after, rfl⟩ := List.append_of_mem hl
  -- The lines before have smaller numbers and the lines after have greater ones.
  have hothers {ms : List Line} (hms : ∀ m ∈ ms, m.number ≠ l.number) :
      (ms.flatMap give).filter (placedAt l.number) = [] := by
    rw [List.filter_eq_nil_iff]
    intro a ha
    obtain ⟨m, hm, ha⟩ := List.mem_flatMap.mp ha
    rw [hplace m a ha]
    exact hms m hm
  have hself : (give l).filter (placedAt l.number) = give l :=
    List.filter_eq_self.mpr fun a ha => (hplace l a ha _).mpr rfl
  obtain ⟨-, hafter, hbefore⟩ := List.pairwise_append.mp hsorted
  have hgreater := (List.pairwise_cons.mp hafter).1
  rw [List.flatMap_append, List.flatMap_cons, List.filter_append, List.filter_append, hself,
    hothers fun m hm => Nat.ne_of_lt (hbefore m hm l List.mem_cons_self),
    hothers fun m hm => Nat.ne_of_gt (hgreater m hm), List.nil_append, List.append_nil]

end RuleLint.Text
