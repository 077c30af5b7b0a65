import RuleLint.Proofs.Path

namespace RuleLint.Path

open Text

variable {s t front seg seg' first : List Char} {others : List (List Char)} {c : Component}

theorem segmentEnds_append (start : Nat) (segments others : List (List Char)) :
    segmentEnds start (segments ++ others) =
      segmentEnds start segments ++
        segmentEnds (start + (segments.flatMap (· ++ ['/'])).length) others := by
  induction segments generalizing start with
  | nil => rfl
  | cons s segments ih =>
    rw [List.cons_append, segmentEnds, ih, segmentEnds, List.cons_append, List.flatMap_cons,
      List.length_append, List.length_append, List.length_singleton, Nat.add_assoc start s.length 1,
      Nat.add_assoc]

theorem flatMap_fields (sep : Char) (s : List Char) :
    (fields sep s).flatMap (· ++ [sep]) = s ++ [sep] := by
  induction s with
  | nil => rfl
  | cons c s ih =>
    by_cases hc : c = sep
    · rw [hc, fields_cons_self, List.flatMap_cons, ih]
      rfl
    · obtain ⟨f, fs, hs⟩ := List.exists_cons_of_ne_nil (fields_ne_nil sep s)
      rw [hs, List.flatMap_cons] at ih
      rw [fields_cons_of_ne hc hs, List.flatMap_cons, List.cons_append, List.cons_append, ih,
        List.cons_append]

theorem markOf?_mk (s : List Char) (stop : Nat) :
    markOf? (s, stop) = (Component.ofSegment? s).map fun c => (c, stop) := rfl

theorem marks_of_fields (hs : s ≠ []) (hfields : fields '/' s = first :: others) :
    marks s = ((leading first).map fun c => (c, max 1 first.length)).toList ++
      (segmentEnds (first.length + 1) others).filterMap markOf? := by
  have hne : first :: others ≠ [[]] := hfields ▸ fields_ne_singleton_nil hs
  unfold marks
  rw [hfields]
  by_cases hempty : first = []
  · subst hempty
    cases others with
    | nil => contradiction
    | cons second rest => rfl
  · by_cases hdot : first = ['.']
    · subst hdot
      rfl
    · have hlength : max 1 first.length = first.length :=
        Nat.max_eq_right (List.length_pos_iff.mpr hempty)
      rw [segmentEnds, Nat.zero_add, hlength, leading_of_ne hempty hdot]
      split
      · rename_i heq
        exact (hempty (Prod.mk.inj (List.cons.inj heq).1).1).elim
      · rename_i heq
        exact (hdot (Prod.mk.inj (List.cons.inj heq).1).1).elim
      · rw [List.filterMap_cons, markOf?_mk]
        cases Component.ofSegment? first <;> rfl

theorem marks_append_cons (hfront : front ≠ []) (hseg : '/' ∉ seg) :
    marks (front ++ '/' :: seg) =
      marks front ++ (markOf? (seg, front.length + 1 + seg.length)).toList := by
  obtain ⟨first, others, hfields⟩ := List.exists_cons_of_ne_nil (fields_ne_nil '/' front)
  have hall : fields '/' (front ++ '/' :: seg) = first :: (others ++ [seg]) := by
    rw [fields_append_cons, hfields, fields_eq_singleton hseg, List.cons_append]
  have hstart : first.length + 1 + (others.flatMap (· ++ ['/'])).length = front.length + 1 := by
    have hlength := congrArg List.length (flatMap_fields '/' front)
    rw [hfields, List.flatMap_cons, List.length_append, List.length_append,
      List.length_append] at hlength
    exact hlength
  rw [marks_of_fields (List.append_ne_nil_of_left_ne_nil hfront _) hall,
    marks_of_fields hfront hfields, segmentEnds_append, List.filterMap_append, hstart,
    List.append_assoc]
  congr 2

theorem marks_slash_cons (hseg : '/' ∉ seg) :
    marks ('/' :: seg) = (.root, 1) :: (markOf? (seg, 1 + seg.length)).toList := by
  have hfields :
      fields '/' ('/' :: seg) = [] :: [seg] := by rw [fields_cons_self, fields_eq_singleton hseg]
  exact marks_of_fields (List.cons_ne_nil _ _) hfields

theorem text_of_leading (hs : s ≠ []) (h : leading s = some c) : c.text = s := by
  by_cases hdot : s = ['.']
  · subst hdot
    rw [← Option.some.inj h]
    rfl
  · rw [leading_of_ne hs hdot] at h
    exact text_of_ofSegment? h

theorem marks_of_notMem (hs : s ≠ []) (hslash : '/' ∉ s) :
    ∃ c, c.text = s ∧ marks s = [(c, s.length)] := by
  obtain ⟨c, hc⟩ := Option.isSome_iff_exists.mp (isSome_leading s)
  have hlength : max 1 s.length = s.length := Nat.max_eq_right (List.length_pos_iff.mpr hs)
  refine ⟨c, text_of_leading hs hc, ?_⟩
  rw [marks_of_fields hs (fields_eq_singleton hslash), hc, hlength]
  rfl

/-- What holds of texts without a slash, also behind a first slash, and of a text if it holds of
what is before its last slash, holds of all texts. -/
theorem slash_induction {motive : List Char → Prop} (plain : ∀ seg, '/' ∉ seg → motive seg)
    (rooted : ∀ seg, '/' ∉ seg → motive ('/' :: seg))
    (below : ∀ front seg, front ≠ [] → '/' ∉ seg → motive front → motive (front ++ '/' :: seg))
    (s : List Char) :
    motive s := by
  induction hn : s.length using Nat.strongRecOn generalizing s with
  | _ n ih =>
    by_cases hslash : '/' ∈ s
    · obtain ⟨seg, front, hsplit, hseg⟩ := List.eq_append_cons_of_mem (List.mem_reverse.mpr hslash)
      obtain rfl : s = front.reverse ++ '/' :: seg.reverse := by
        rw [← List.reverse_reverse s, hsplit]
        simp
      have hseg' : '/' ∉ seg.reverse := fun hm => hseg (List.mem_reverse.mp hm)
      by_cases hfront : front.reverse = []
      · rw [hfront]
        exact rooted _ hseg'
      · refine below _ _ hfront hseg' (ih _ ?_ _ rfl)
        rw [← hn, List.length_append, List.length_cons]
        omega
    · exact plain s hslash

theorem mem_toList_markOf? {m : Component × Nat} {stop : Nat}
    (h : m ∈ (markOf? (seg, stop)).toList) :
    m.2 = stop ∧ Component.ofSegment? seg = some m.1 := by
  obtain ⟨c, hc, rfl⟩ := Option.map_eq_some_iff.mp (Option.mem_toList.mp h)
  exact ⟨rfl, hc⟩

theorem mark_bounds {m : Component × Nat} (h : m ∈ marks s) : 0 < m.2 ∧ m.2 ≤ s.length := by
  induction s using slash_induction with
  | plain seg hseg =>
    by_cases hempty : seg = []
    · rw [hempty] at h
      contradiction
    · obtain ⟨c, -, hmarks⟩ := marks_of_notMem hempty hseg
      rw [hmarks] at h
      rw [List.mem_singleton.mp h]
      exact ⟨List.length_pos_iff.mpr hempty, Nat.le_refl _⟩
  | rooted seg hseg =>
    rw [marks_slash_cons hseg] at h
    rcases List.mem_cons.mp h with rfl | h
    · simp
    · rw [(mem_toList_markOf? h).1, List.length_cons]
      omega
  | below front seg hfront hseg ih =>
    rw [marks_append_cons hfront hseg] at h
    rw [List.length_append, List.length_cons]
    rcases List.mem_append.mp h with h | h
    · have hbounds := ih h
      omega
    · rw [(mem_toList_markOf? h).1]
      omega

theorem toList_eq_append_cons {α : Type} {o : Option α} {a : α} {before after : List α}
    (h : o.toList = before ++ a :: after) : o = some a ∧ before = [] := by
  cases before with
  | nil => cases o <;> simp_all
  | cons => cases o <;> simp_all

/-- Up to the end of a component a path has the components up to this one. -/
theorem marks_take {before after : List (Component × Nat)} {m : Component × Nat}
    (h : marks s = before ++ m :: after) : marks (s.take m.2) = before ++ [m] := by
  -- The last component is followed by nothing that matters, and every other one ends before the
  -- last slash.
  induction s using slash_induction generalizing after with
  | plain seg hseg =>
    by_cases hempty : seg = []
    · rw [hempty] at h
      exact (List.append_ne_nil_of_right_ne_nil _ (List.cons_ne_nil _ _) h.symm).elim
    · obtain ⟨c, -, hmarks⟩ := marks_of_notMem hempty hseg
      have honly : (some (c, seg.length)).toList = before ++ m :: after := hmarks.symm.trans h
      obtain ⟨hm, rfl⟩ := toList_eq_append_cons honly
      rw [← Option.some.inj hm, List.take_length, hmarks, List.nil_append]
  | rooted seg hseg =>
    rw [marks_slash_cons hseg] at h
    cases before with
    | nil =>
      rw [← (List.cons.inj h).1]
      rfl
    | cons b before =>
      obtain ⟨rfl, hrest⟩ := List.cons.inj h
      obtain ⟨hm, rfl⟩ := toList_eq_append_cons hrest
      obtain ⟨hstop, -⟩ := mem_toList_markOf? (Option.mem_toList.mpr hm)
      have hall : ('/' :: seg).take m.2 = '/' :: seg :=
        List.take_of_length_le (by rw [hstop, List.length_cons]; omega)
      rw [hall, marks_slash_cons hseg, hm]
      rfl
  | below front seg hfront hseg ih =>
    have hmarks := marks_append_cons hfront hseg
    rw [hmarks] at h
    have hlast {before after : List (Component × Nat)}
        (h : (markOf? (seg, front.length + 1 + seg.length)).toList = before ++ m :: after) :
        before = [] ∧ marks ((front ++ '/' :: seg).take m.2) = marks front ++ [m] := by
      obtain ⟨hm, rfl⟩ := toList_eq_append_cons h
      obtain ⟨hstop, -⟩ := mem_toList_markOf? (Option.mem_toList.mpr hm)
      have hall : (front ++ '/' :: seg).take m.2 = front ++ '/' :: seg := by
        apply List.take_of_length_le
        rw [hstop, List.length_append, List.length_cons]
        omega
      rw [hall, hmarks, hm]
      exact ⟨rfl, rfl⟩
    rcases List.append_eq_append_iff.mp h with ⟨between, rfl, hseg⟩ | ⟨between, hfront', hseg⟩
    · obtain ⟨rfl, htake⟩ := hlast hseg
      rw [htake, List.append_nil]
    · cases between with
      | nil =>
        have honly : (markOf? (seg, front.length + 1 + seg.length)).toList = [] ++ m :: after :=
          hseg.symm
        obtain ⟨-, htake⟩ := hlast honly
        rw [htake, hfront', List.append_nil]
      | cons m' between =>
        obtain ⟨rfl, -⟩ := List.cons.inj hseg
        have hbounds :=
          mark_bounds (hfront' ▸ List.mem_append_right _ List.mem_cons_self : m ∈ marks front)
        rw [List.take_append_of_le_length hbounds.2]
        exact ih hfront'

theorem ofSegment?_eq_none_of_beginning (h : seg' <+: seg)
    (hseg : Component.ofSegment? seg = none) :
    Component.ofSegment? seg' = none := by
  unfold Component.ofSegment? at hseg
  split at hseg
  · rw [List.prefix_nil.mp h]
    rfl
  · rcases List.prefix_cons_iff.mp h with rfl | ⟨rest, rfl, hrest⟩
    · rfl
    · rw [List.prefix_nil.mp hrest]
      rfl
  · contradiction
  · contradiction

theorem prefix_append_cons (h : t <+: front ++ '/' :: seg) :
    t <+: front ∨ ∃ seg', t = front ++ '/' :: seg' ∧ seg' <+: seg := by
  rcases List.prefix_or_prefix_of_prefix h (List.prefix_append front ('/' :: seg))
    with ht | ⟨rest, rfl⟩
  · exact .inl ht
  · have hrest := (List.prefix_append_right_inj front).mp h
    cases rest with
    | nil =>
      rw [List.append_nil]
      exact .inl List.prefix_rfl
    | cons x seg' =>
      obtain ⟨rfl, hseg⟩ := List.cons_prefix_cons.mp hrest
      exact .inr ⟨seg', rfl, hseg⟩

theorem notMem_of_beginning {x : Char} (h : t <+: s) (hs : x ∉ s) : x ∉ t :=
  fun hm => hs (h.subset hm)

/-- A beginning has no more components than the whole. -/
theorem length_marks_le (h : t <+: s) : (marks t).length ≤ (marks s).length := by
  have hlast {seg seg' : List Char} (h : seg' <+: seg) (stop stop' : Nat) :
      (markOf? (seg', stop')).toList.length ≤ (markOf? (seg, stop)).toList.length := by
    rw [markOf?_mk, markOf?_mk]
    cases hseg : Component.ofSegment? seg with
    | none =>
      rw [ofSegment?_eq_none_of_beginning h hseg]
      exact Nat.zero_le _
    | some c => cases Component.ofSegment? seg' <;> simp
  induction s using slash_induction with
  | plain seg hseg =>
    by_cases ht : t = []
    · rw [ht]
      exact Nat.zero_le _
    · obtain ⟨_, -, hmarks⟩ := marks_of_notMem ht (notMem_of_beginning h hseg)
      have hne : seg ≠ [] := by
        rintro rfl
        exact ht (List.prefix_nil.mp h)
      obtain ⟨_, -, hmarks'⟩ := marks_of_notMem hne hseg
      rw [hmarks, hmarks']
      exact Nat.le_refl _
  | rooted seg hseg =>
    rcases List.prefix_cons_iff.mp h with rfl | ⟨seg', rfl, hseg'⟩
    · exact Nat.zero_le _
    · rw [marks_slash_cons hseg, marks_slash_cons (notMem_of_beginning hseg' hseg)]
      exact Nat.succ_le_succ (hlast hseg' _ _)
  | below front seg hfront hseg ih =>
    rw [marks_append_cons hfront hseg, List.length_append]
    rcases prefix_append_cons h with ht | ⟨seg', rfl, hseg'⟩
    · exact Nat.le_trans (ih ht) (Nat.le_add_right _ _)
    · rw [marks_append_cons hfront (notMem_of_beginning hseg' hseg), List.length_append]
      exact Nat.add_le_add_left (hlast hseg' _ _) _

section

variable {before : List (Component × Nat)} {last : Component} {stop stop' : Nat}

theorem exists_of_last {others : List (Component × Nat)} (hothers : ∀ m ∈ others, m.2 < s.length)
    (h : others ++ (markOf? (seg, stop)).toList = before ++ [(last, s.length)]) :
    ∃ c, Component.ofSegment? seg = some c := by
  cases hseg : Component.ofSegment? seg with
  | some c => exact ⟨c, rfl⟩
  | none =>
    rw [markOf?_mk, hseg] at h
    have hmem : (last, s.length) ∈ others := by
      rw [← List.append_nil others]
      exact h ▸ List.mem_append_right before (List.mem_singleton_self _)
    exact absurd (hothers _ hmem) (Nat.lt_irrefl s.length)

/-- No other segment stands for the same component. -/
theorem eq_of_ofSegment? (others : List (Component × Nat))
    (hseg : Component.ofSegment? seg = some c)
    (h : (others ++ (markOf? (seg', stop')).toList).map Prod.fst =
      (others ++ (markOf? (seg, stop)).toList).map Prod.fst) :
    seg' = seg := by
  rw [List.map_append, List.map_append] at h
  have hlast := List.append_cancel_left h
  rw [markOf?_mk seg, hseg] at hlast
  obtain ⟨m, hm, hc⟩ := List.map_eq_singleton_iff.mp hlast
  obtain ⟨-, hseg'⟩ := mem_toList_markOf? (hm ▸ List.mem_singleton_self m)
  rw [← text_of_ofSegment? hseg', hc, text_of_ofSegment? hseg]

/-- A text that ends in a component is the shortest beginning with its components. -/
theorem eq_of_beginning (h : t <+: s) (hs : marks s = before ++ [(last, s.length)])
    (hcomponents : (marks t).map Prod.fst = (marks s).map Prod.fst) : t = s := by
  have hlength :
      (marks t).length = (marks s).length := by simpa using congrArg List.length hcomponents
  have hne {u : List Char} (hu : (marks u).length = (marks s).length) : u ≠ [] := by
    rintro rfl
    rw [hs, List.length_append] at hu
    exact absurd hu (Nat.succ_ne_zero _).symm
  induction s using slash_induction with
  | plain seg hseg =>
    obtain ⟨c, hc, hmarks⟩ := marks_of_notMem (hne hlength) (notMem_of_beginning h hseg)
    obtain ⟨c', hc', hmarks'⟩ := marks_of_notMem (hne rfl) hseg
    rw [hmarks, hmarks'] at hcomponents
    exact hc.symm.trans ((congrArg Component.text (List.cons.inj hcomponents).1).trans hc')
  | rooted seg hseg =>
    rcases List.prefix_cons_iff.mp h with rfl | ⟨seg', rfl, hseg'⟩
    · exact (hne hlength rfl).elim
    · by_cases hempty : seg = []
      · subst hempty
        rw [List.prefix_nil.mp hseg']
      · rw [marks_slash_cons (notMem_of_beginning hseg' hseg), marks_slash_cons hseg] at hcomponents
        rw [marks_slash_cons hseg] at hs
        have hroot : ∀ m ∈ [(Component.root, 1)], m.2 < ('/' :: seg).length :=
          List.forall_mem_singleton.mpr (Nat.succ_lt_succ (List.length_pos_iff.mpr hempty))
        obtain ⟨c, hc⟩ := exists_of_last hroot hs
        rw [eq_of_ofSegment? [(.root, 1)] hc hcomponents]
  | below front seg hfront hseg =>
    have hmarks := marks_append_cons hfront hseg
    have hwithin : ∀ m ∈ marks front, m.2 < (front ++ '/' :: seg).length := by
      intro m hm
      have hbounds := mark_bounds hm
      rw [List.length_append, List.length_cons]
      omega
    obtain ⟨c, hc⟩ := exists_of_last hwithin (hmarks.symm.trans hs)
    rcases prefix_append_cons h with ht | ⟨seg', rfl, hseg'⟩
    · -- Before the last slash there are too few components.
      have hfewer := length_marks_le ht
      rw [hlength, hmarks, markOf?_mk, hc, List.length_append] at hfewer
      exact absurd hfewer (Nat.not_succ_le_self _)
    · rw [hmarks, marks_append_cons hfront (notMem_of_beginning hseg' hseg)] at hcomponents
      rw [eq_of_ofSegment? _ hc hcomponents]

end

end RuleLint.Path
