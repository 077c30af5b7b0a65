import RuleLint.Proofs.FileTree.Following

namespace RuleLint

open Text

namespace Path

variable {p q : Path} {c : Component} {s : List Char} {segments : List (List Char)}

def Component.segment? : Component → Option (List Char)
  | .root | .here => none
  | .up => some ['.', '.']
  | .name s => some s

/-- The segments of a path that lead somewhere. -/
def steps (segments : List (List Char)) : List (List Char) :=
  segments.filter fun s => s ≠ [] ∧ s ≠ ['.']

theorem steps_cons_of_blank (h : s = [] ∨ s = ['.']) (rest : List (List Char)) :
    steps (s :: rest) = steps rest := by
  rcases h with rfl | rfl <;> rfl

theorem steps_cons_of_not_blank (h : ¬ (s = [] ∨ s = ['.'])) (rest : List (List Char)) :
    steps (s :: rest) = s :: steps rest := by
  unfold steps
  rw [List.filter_cons_of_pos (by simpa using h)]

theorem segment?_ofSegment? (s : List Char) :
    (Component.ofSegment? s).bind Component.segment? = if s = [] ∨ s = ['.'] then none
      else some s := by
  unfold Component.ofSegment?
  split <;> simp_all [Component.segment?]

theorem segment?_leading (s : List Char) :
    (leading s).bind Component.segment? = if s = [] ∨ s = ['.'] then none else some s := by
  rw [← segment?_ofSegment?]
  unfold leading
  split <;> rfl

theorem filterMap_segment?_ofSegments (segments : List (List Char)) :
    (ofSegments segments).filterMap Component.segment? = steps segments := by
  have hothers (segments : List (List Char)) :
      (segments.filterMap Component.ofSegment?).filterMap Component.segment? = steps segments := by
    rw [List.filterMap_filterMap]
    induction segments with
    | nil => rfl
    | cons s rest ih =>
      rw [List.filterMap_cons, segment?_ofSegment?, ih]
      by_cases h : s = [] ∨ s = ['.']
      · rw [if_pos h, steps_cons_of_blank h]
      · rw [if_neg h, steps_cons_of_not_blank h]
  cases segments with
  | nil => rfl
  | cons first others =>
    have hfirst : (leading first).toList.filterMap Component.segment? =
        ((leading first).bind Component.segment?).toList := by
      cases leading first with
      | none => rfl
      | some c => cases hc : c.segment? <;> simp [hc]
    rw [ofSegments, List.filterMap_append, hothers, hfirst, segment?_leading]
    by_cases h : first = [] ∨ first = ['.']
    · rw [if_pos h, steps_cons_of_blank h]
      rfl
    · rw [if_neg h, steps_cons_of_not_blank h]
      rfl

theorem steps_eq_of_components (hp : p.text ≠ "") (hq : q.text ≠ "")
    (h : p.components = q.components) :
    steps (fields '/' p.text.toList) = steps (fields '/' q.text.toList) := by
  rw [← filterMap_segment?_ofSegments, ← components_eq hp, h, components_eq hq,
    filterMap_segment?_ofSegments]

theorem slash_notMem_of_mem_tail (hp : p.text ≠ "") (h : c ∈ p.components.tail) : '/' ∉ c.text := by
  rw [components_eq hp] at h
  obtain ⟨first, others, hsegments⟩ := List.exists_cons_of_ne_nil (fields_ne_nil '/' p.text.toList)
  obtain ⟨start, hstart⟩ := Option.isSome_iff_exists.mp (isSome_leading first)
  rw [hsegments, ofSegments, hstart] at h
  obtain ⟨s, hs, hc⟩ := List.mem_filterMap.mp h
  rw [text_of_ofSegment? hc]
  apply notMem_of_mem_fields
  rw [hsegments]
  exact List.mem_cons_of_mem first hs

theorem components_prefix_join (hp : p.text ≠ "") (hq : q.isAbsolute = false) :
    p.components <+: (p.join q).components := ⟨_, (components_join_of_relative hp hq).symm⟩

variable {names : List String}

theorem eq_names_of_text {cs : List Component} (hvalid : ∀ name ∈ names, ValidName name)
    (h : cs.map Component.text = names.map String.toList) : cs = names.map fun name =>
      .name name.toList := by
  induction names generalizing cs with
  | nil => exact List.map_eq_nil_iff.mp h
  | cons name names ih =>
    obtain ⟨hname, hrest⟩ := List.forall_mem_cons.mp hvalid
    obtain ⟨c, cs, rfl, hc, hcs⟩ := List.map_eq_cons_iff.mp h
    rw [ih hrest hcs, List.map_cons]
    congr 1
    cases c with
    | root => exact (hname.no_slash (hc ▸ List.mem_singleton_self '/')).elim
    | here => exact (hname.toList_ne_here hc.symm).elim
    | up => exact (hname.ne_up (String.toList_injective hc.symm)).elim
    | name s => exact congrArg Component.name hc

theorem fields_displayName_of_below {root : Path} (hroot : root.text ≠ "") {cs : List Component}
    (h : p.components = root.components ++ cs) :
    fields '/' (root.displayName p).toList =
      fields '/' (['/'].intercalate (cs.map Component.text)) ∧
      ∀ f ∈ cs.map Component.text, '/' ∉ f := by
  obtain ⟨start, others, hstart⟩ := List.exists_cons_of_ne_nil (components_ne_nil hroot)
  rw [hstart] at h
  constructor
  · unfold displayName below?
    rw [hstart, h, if_pos (List.prefix_append _ _), List.drop_left, String.toList_intercalate,
      List.map_map]
    congr 3
    funext c
    exact String.toList_ofList
  · intro f hf
    obtain ⟨c, hc, rfl⟩ := List.mem_map.mp hf
    have hp : p.text ≠ "" := by
      intro hempty
      rw [components_eq_nil hempty] at h
      contradiction
    apply slash_notMem_of_mem_tail hp
    rw [h]
    exact List.mem_append_right others hc

theorem components_of_displayName {root : Path} (hroot : root.text ≠ "")
    (hvalid : ∀ name ∈ names, ValidName name) (hne : names ≠ [])
    (h : root.displayName (root.join q) = "/".intercalate names) :
    (root.join q).components = (FileTree.joinNames root names).components := by
  have hnames : fields '/' (root.displayName (root.join q)).toList = names.map String.toList := by
    rw [h, String.toList_intercalate]
    apply fields_intercalate (by simpa using hne)
    intro f hf
    obtain ⟨name, hname, rfl⟩ := List.mem_map.mp hf
    exact (hvalid name hname).no_slash
  -- The first name is not empty, as nothing before a slash would be.
  have hfirst {rest : List (List Char)} : names.map String.toList ≠ [] :: rest := by
    intro hempty
    obtain ⟨name, others, rfl⟩ := List.exists_cons_of_ne_nil hne
    exact (hvalid name List.mem_cons_self).toList_ne_nil (List.cons.inj hempty).1
  rw [components_joinNames hvalid]
  by_cases hbelow : root.components <+: (root.join q).components
  · obtain ⟨cs, hcs⟩ := hbelow
    obtain ⟨hdisplay, hplain⟩ := fields_displayName_of_below hroot hcs.symm
    rw [hdisplay] at hnames
    have hcs_ne : cs ≠ [] := by
      rintro rfl
      exact hfirst hnames.symm
    rw [fields_intercalate (by simpa using hcs_ne) hplain] at hnames
    rw [← hcs, eq_names_of_text hvalid hnames]
  · -- Then the path is absolute, and so is its display name.
    have habsolute : q.isAbsolute = true := by
      by_contra hq
      exact hbelow (components_prefix_join hroot (eq_false_of_ne_true hq))
    have hdisplay : root.displayName (root.join q) = q.text := by
      have hq : root.join q = q := if_pos habsolute
      unfold displayName below?
      rw [if_neg hbelow, hq]
    obtain ⟨rest, hrest⟩ := List.head?_eq_some_iff.mp (of_decide_eq_true habsolute)
    rw [hdisplay, hrest, fields_cons_self] at hnames
    exact (hfirst hnames.symm).elim

end Path

namespace FileTree

open RuleLint.Path

variable {top : Node} {links left : Nat} {here there there' : List String}
    {segments : List (List Char)}

/-- Segments that make no difference can be left out. -/
theorem leads_steps (h : Leads top links here segments left there) :
    Leads top links here (steps segments) left there := by
  -- What is still to be followed starts with what links have put there; it is the rest of the path
  -- that is thinned out.
  suffices hall : ∀ front back, segments = front ++ back →
    Leads top links here (front ++ steps back) left there from
    hall [] segments rfl
  induction h with
  | nil links here =>
    intro front back hsplit
    obtain ⟨rfl, rfl⟩ := List.append_eq_nil_iff.mp hsplit.symm
    exact .nil links here
  | @cons links mid left here next there s put rest first further ih =>
    intro front back hsplit
    cases front with
    | cons s' front =>
      obtain ⟨rfl, rfl⟩ := List.cons.inj hsplit
      have hfurther := ih (put ++ front) back (List.append_assoc put front back).symm
      rw [List.append_assoc] at hfurther
      exact .cons first hfurther
    | nil =>
      obtain rfl : s :: rest = back := hsplit
      by_cases hblank : s = [] ∨ s = ['.']
      · cases (step_blank hblank (kind_of_step first)).symm.trans first
        rw [steps_cons_of_blank hblank]
        exact ih [] rest rfl
      · rw [steps_cons_of_not_blank hblank]
        exact .cons first (ih put rest rfl)

theorem Leads.unique {left' : Nat} (h : Leads top links here segments left there)
    (h' : Leads top links here segments left' there') : there = there' := by
  have hfollow := follow_eq_ok_iff.mpr ⟨left, h⟩
  have hfollow' := follow_eq_ok_iff.mpr ⟨left', h'⟩
  exact Except.ok.inj (hfollow.symm.trans hfollow')

/-- Paths with the same components that lead somewhere lead to the same place. -/
theorem locate_eq_of_components {tree : FileTree} {p q : Path} (hp : tree.locate p = .ok there)
    (hq : tree.locate q = .ok there') (h : p.components = q.components) : there = there' := by
  obtain ⟨hpe, -, -, _, hpl⟩ := locate_eq_ok_iff.mp hp
  obtain ⟨hqe, -, -, _, hql⟩ := locate_eq_ok_iff.mp hq
  have hstart : tree.startOf p = tree.startOf q := by
    have habs : p.isAbsolute = q.isAbsolute := by
      rw [Bool.eq_iff_iff, isAbsolute_iff hpe, isAbsolute_iff hqe, h]
    unfold startOf
    rw [habs]
  have hpl' := leads_steps hpl
  rw [steps_eq_of_components hpe hqe h, hstart] at hpl'
  exact hpl'.unique (leads_steps hql)

theorem locate_of_readText {tree : FileTree} {p : Path} {s : String} (h : tree.readText p = .ok s) :
    ∃ names, tree.locate p = .ok names := by
  unfold readText at h
  cases hl : tree.locate p with
  | ok names => exact ⟨names, rfl⟩
  | error e =>
    rw [hl] at h
    contradiction

theorem readText_eq_of_components {tree : FileTree} {p q : Path} {s : String}
    (hp : tree.locate p = .ok there) (hq : tree.readText q = .ok s)
    (h : p.components = q.components) : tree.readText p = .ok s := by
  obtain ⟨names, hlq⟩ := locate_of_readText hq
  obtain rfl := locate_eq_of_components hp hlq h
  rw [← hq]
  unfold readText
  rw [hp, hlq]

theorem text_eq_of_components {tree : FileTree} {p q : Path} {s t : String}
    (hp : tree.readText p = .ok s) (hq : tree.readText q = .ok t)
    (h : p.components = q.components) : s = t := by
  obtain ⟨names, hlp⟩ := locate_of_readText hp
  exact Except.ok.inj (hp.symm.trans (readText_eq_of_components hlp hq h))

end FileTree

end RuleLint
