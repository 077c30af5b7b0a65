import RuleLint.Proofs.Path.Beginnings

namespace RuleLint.Path

open Text

variable {p q r : Path} {k : Nat}

/-- `q` is `p` without its last component: the shortest beginning of `p` with all the others. The
root stays. -/
structure IsParent (q p : Path) : Prop where
  begins : q.text.toList <+: p.text.toList
  components : ∃ c, c ≠ .root ∧ p.components = q.components ++ [c]
  shortest : ∀ r : Path, r.text.toList <+: p.text.toList → r.components = q.components →
    q.text.toList <+: r.text.toList

theorem IsParent.unique (hq : q.IsParent p) (hr : r.IsParent p) : q = r := by
  obtain ⟨c, -, hc⟩ := hq.components
  obtain ⟨c', -, hc'⟩ := hr.components
  have hsame : q.components = r.components := (List.append_inj' (hc.symm.trans hc') rfl).1
  have hqr := hq.shortest r hr.begins hsame.symm
  have hrq := hr.shortest q hq.begins hsame
  exact congrArg Path.mk
    (String.toList_injective (hqr.eq_of_length (Nat.le_antisymm hqr.length_le hrq.length_le)))

theorem root_notMem_tail (p : Path) : .root ∉ p.components.tail := by
  by_cases hp : p.text = ""
  · rw [components_eq_nil hp]
    exact List.not_mem_nil
  · obtain ⟨first, others, hfields⟩ := List.exists_cons_of_ne_nil (fields_ne_nil '/' p.text.toList)
    obtain ⟨start, hstart⟩ := Option.isSome_iff_exists.mp (isSome_leading first)
    rw [components_eq hp, hfields, ofSegments, hstart]
    intro hroot
    obtain ⟨s, -, hs⟩ := List.mem_filterMap.mp hroot
    exact ofSegment?_ne_root s hs

theorem root_mem_components_iff {p : Path} : .root ∈ p.components ↔ p.isAbsolute = true := by
  by_cases hp : p.text = ""
  · rw [components_eq_nil hp]
    unfold isAbsolute
    rw [hp]
    decide
  · exact (isAbsolute_iff hp).symm

def IsTop (p : Path) : Prop := p.components = [] ∨ p.components = [.root]

theorem IsTop.not_isParent (h : p.IsTop) (q : Path) : ¬ q.IsParent p := by
  rintro ⟨-, ⟨c, hc, hlast⟩, -⟩
  rcases h with h | h
  · rw [h] at hlast
    exact List.append_ne_nil_of_right_ne_nil _ (List.cons_ne_nil c _) hlast.symm
  · have hcomponents : [] ++ [Component.root] = q.components ++ [c] := h.symm.trans hlast
    exact hc (List.cons.inj (List.append_inj' hcomponents rfl).2).1.symm

/-- The beginning of a path that ends at a position. -/
def upTo (p : Path) (stop : Nat) : Path := ⟨.ofList (p.text.toList.take stop)⟩

theorem toList_upTo (p : Path) (stop : Nat) : (p.upTo stop).text.toList = p.text.toList.take stop :=
  String.toList_ofList

theorem upTo_upTo {stop stop' : Nat} (h : stop ≤ stop') :
    (p.upTo stop').upTo stop = p.upTo stop := by
  unfold upTo
  rw [String.toList_ofList, List.take_take, Nat.min_eq_left h]

theorem isAbsolute_upTo {stop : Nat} (h : 0 < stop) : (p.upTo stop).isAbsolute = p.isAbsolute := by
  unfold isAbsolute
  rw [toList_upTo, List.head?_take, if_neg (Nat.ne_of_gt h)]

section

variable {before : List (Component × Nat)} {m last : Component × Nat}

theorem components_of_marks (h : marks p.text.toList = before ++ [last]) :
    p.components = before.map Prod.fst ++ [last.1] := by
  unfold components
  rw [h, List.map_append]
  rfl

theorem parents_of_marks (h : marks p.text.toList = before ++ [last]) :
    p.parents =
      (if p.isAbsolute then before.map Prod.snd
        else 0 :: before.map Prod.snd).reverse.map p.upTo := by
  unfold parents
  rw [h]
  simp [upTo]

theorem marks_upTo {after : List (Component × Nat)}
    (h : marks p.text.toList = before ++ m :: after) :
    marks (p.upTo m.2).text.toList = before ++ [m] := by
  rw [toList_upTo]
  exact marks_take h

theorem mark_bounds_of_mem {after : List (Component × Nat)}
    (h : marks p.text.toList = before ++ m :: after) :
    0 < m.2 ∧ m.2 ≤ p.text.toList.length :=
  mark_bounds (h ▸ List.mem_append_right before List.mem_cons_self)

/-- Without its last component a path is its parent, which has another one before that. -/
theorem isParent_upTo (h : marks p.text.toList = before ++ [m, last]) :
    (p.upTo m.2).IsParent p := by
  have hall : marks p.text.toList =
      (before ++ [m]) ++ [last] := by rw [h, List.append_assoc, List.singleton_append]
  have hmarks := marks_upTo h
  have hends : (p.upTo m.2).text.toList.length = m.2 := by
    rw [toList_upTo, List.length_take, Nat.min_eq_left (mark_bounds_of_mem h).2]
  have hbegins : (p.upTo m.2).text.toList <+: p.text.toList := by
    rw [toList_upTo]
    exact List.take_prefix _ _
  have hcomponents : p.components = (p.upTo m.2).components ++ [last.1] := by
    rw [components_of_marks hall, components_of_marks hmarks, List.map_append, List.map_singleton]
  refine ⟨hbegins, ⟨last.1, ?_, hcomponents⟩, ?_⟩
  · intro hroot
    have hne : (p.upTo m.2).components ≠ [] := by
      rw [components_of_marks hmarks]
      exact List.append_ne_nil_of_right_ne_nil _ (List.cons_ne_nil _ _)
    apply root_notMem_tail p
    rw [hcomponents, List.tail_append_of_ne_nil hne, ← hroot]
    exact List.mem_append_right _ (List.mem_singleton_self _)
  · intro r hr hsame
    rcases List.prefix_or_prefix_of_prefix hr hbegins with hshorter | hlonger
    · have hlast : marks (p.upTo m.2).text.toList =
          before ++ [(m.1, (p.upTo m.2).text.toList.length)] := by
        rw [hends, hmarks]
      have hr : r.text.toList = (p.upTo m.2).text.toList := eq_of_beginning hshorter hlast hsame
      exact hr ▸ List.prefix_rfl
    · exact hlonger

theorem parents_upTo (h : marks p.text.toList = before ++ [m, last]) :
    p.parents = (p.upTo m.2).ancestors := by
  have hall : marks p.text.toList =
      (before ++ [m]) ++ [last] := by rw [h, List.append_assoc, List.singleton_append]
  have hmarks := marks_upTo h
  -- The parents of the parent end before it does, so that they are beginnings of both.
  have hshorter : ∀ stop ∈ 0 :: before.map Prod.snd, (p.upTo m.2).upTo stop = p.upTo stop := by
    refine List.forall_mem_cons.mpr
      ⟨upTo_upTo (Nat.zero_le _), List.forall_mem_map.mpr fun m' hm' => upTo_upTo ?_⟩
    have hbounds :=
      mark_bounds (hmarks ▸ List.mem_append_left [m] hm' : m' ∈ marks (p.upTo m.2).text.toList)
    rw [toList_upTo] at hbounds
    exact Nat.le_trans hbounds.2 (List.length_take_le _ _)
  have hsame {stops : List Nat} (hstops : stops ⊆ 0 :: before.map Prod.snd) :
      (stops ++ [m.2]).reverse.map p.upTo = p.upTo m.2 :: stops.reverse.map (p.upTo m.2).upTo := by
    rw [List.reverse_append, List.reverse_singleton, List.singleton_append, List.map_cons]
    congr 1
    exact List.map_congr_left fun stop hstop =>
      (hshorter stop (hstops (List.mem_reverse.mp hstop))).symm
  rw [ancestors, parents_of_marks hall, parents_of_marks hmarks,
    isAbsolute_upTo (mark_bounds_of_mem h).1, List.map_append]
  cases p.isAbsolute with
  | true => exact hsame (List.subset_cons_self _ _)
  | false => exact hsame (List.Subset.refl _)

end

theorem IsTop.parents_eq_nil (h : p.IsTop) : p.parents = [] := by
  rcases h with h | h
  · unfold parents
    rw [List.map_eq_nil_iff.mp h]
    rfl
  · obtain ⟨last, hmarks, hroot⟩ := List.map_eq_singleton_iff.mp h
    have honly : marks p.text.toList = [] ++ [last] := hmarks
    have habsolute : p.isAbsolute = true :=
      root_mem_components_iff.mp (h ▸ List.mem_singleton_self _)
    rw [parents_of_marks honly, habsolute]
    rfl

theorem exists_isParent (h : ¬ p.IsTop) : ∃ q : Path, q.IsParent p ∧ p.parents = q.ancestors := by
  obtain ⟨hne, hroot⟩ := not_or.mp h
  obtain ⟨marked, last, hmarks⟩ := (List.eq_nil_or_concat' (marks p.text.toList)).resolve_left
    fun hnil => hne (congrArg (List.map Prod.fst) hnil)
  rcases List.eq_nil_or_concat' marked with rfl | ⟨before, m, rfl⟩
  · have hcomponents : p.components = [last.1] := components_of_marks hmarks
    have hlast : last.1 ≠ .root := fun hlast => hroot (hlast ▸ hcomponents)
    have hrelative : p.isAbsolute = false := by
      refine eq_false_of_ne_true fun habs => hlast ?_
      have hmem := root_mem_components_iff.mpr habs
      rw [hcomponents] at hmem
      exact (List.mem_singleton.mp hmem).symm
    refine ⟨⟨""⟩, ⟨List.nil_prefix, ⟨last.1, hlast, hcomponents⟩, fun _ _ _ => List.nil_prefix⟩, ?_⟩
    rw [parents_of_marks hmarks, hrelative]
    rfl
  · rw [List.append_assoc] at hmarks
    exact ⟨_, isParent_upTo hmarks, parents_upTo hmarks⟩

theorem IsParent.isAbsolute (h : q.IsParent p) : q.isAbsolute = p.isAbsolute := by
  obtain ⟨c, hc, hcomponents⟩ := h.components
  rw [Bool.eq_iff_iff, ← root_mem_components_iff, ← root_mem_components_iff, hcomponents,
    List.mem_append, List.mem_singleton, or_iff_left hc.symm]

/-- Going to the parent a number of times leads from a path to one of its ancestors. -/
inductive Climbs : Nat → Path → Path → Prop
  | here (p : Path) : Climbs 0 p p
  | up {k : Nat} {p q r : Path} (first : q.IsParent p) (further : Climbs k q r) : Climbs (k + 1) p r

theorem climbs_zero_iff : Climbs 0 p q ↔ p = q := by
  constructor
  · rintro ⟨⟩
    rfl
  · rintro rfl
    exact .here p

theorem climbs_succ_iff (h : q.IsParent p) : Climbs (k + 1) p r ↔ Climbs k q r := by
  constructor
  · intro hclimbs
    cases hclimbs with
    | up first further =>
      rw [h.unique first]
      exact further
  · exact .up h

theorem getElem?_ancestors : p.ancestors[k]? = some q ↔ Climbs k p q := by
  induction k generalizing p with
  | zero => rw [climbs_zero_iff, ancestors, List.getElem?_cons_zero, Option.some.injEq]
  | succ k ih =>
    rw [ancestors, List.getElem?_cons_succ]
    by_cases htop : p.IsTop
    · rw [htop.parents_eq_nil]
      refine iff_of_false nofun ?_
      rintro ⟨⟩
      exact htop.not_isParent _ ‹_›
    · obtain ⟨parent, hparent, hparents⟩ := exists_isParent htop
      rw [hparents, ih, climbs_succ_iff hparent]

theorem mem_ancestors : q ∈ p.ancestors ↔ ∃ k, Climbs k p q := by
  rw [List.mem_iff_getElem?]
  exact exists_congr fun k => getElem?_ancestors

/-- The way up ends at the empty path if the path is relative, and else at the root. -/
theorem exists_climbs_top (p : Path) :
    ∃ k top, Climbs k p top ∧ (∀ q : Path, ¬ q.IsParent top) ∧
      (p.isAbsolute = false → top = ⟨""⟩) ∧ (p.isAbsolute = true → top.components = [.root]) := by
  induction hn : p.components.length using Nat.strongRecOn generalizing p with
  | _ n ih =>
    by_cases htop : p.IsTop
    · refine ⟨0, p, .here p, htop.not_isParent, fun hrelative => ?_, fun habsolute => ?_⟩
      · have hnil : p.components = [] := by
          refine htop.resolve_right fun hroot => ?_
          have hmem := root_mem_components_iff.mp (hroot ▸ List.mem_singleton_self _)
          exact Bool.noConfusion (hrelative.symm.trans hmem)
        have hempty : p.text = "" := by
          by_contra hne
          exact components_ne_nil hne hnil
        exact congrArg Path.mk hempty
      · refine htop.resolve_left fun hnil => ?_
        have hmem := root_mem_components_iff.mpr habsolute
        rw [hnil] at hmem
        contradiction
    · obtain ⟨q, hq, -⟩ := exists_isParent htop
      obtain ⟨c, -, hcomponents⟩ := hq.components
      have hshorter : q.components.length < n := by
        rw [← hn, hcomponents, List.length_append]
        exact Nat.lt_succ_self _
      obtain ⟨k, top, hclimbs, htop, hends⟩ := ih _ hshorter q rfl
      rw [hq.isAbsolute] at hends
      exact ⟨k + 1, top, .up hq hclimbs, htop, hends⟩

end RuleLint.Path
