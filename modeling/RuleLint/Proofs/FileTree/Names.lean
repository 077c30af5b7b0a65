import RuleLint.Proofs.FileTree.Components
import RuleLint.Proofs.FileTree.Listing

namespace RuleLint

open Text

namespace Path

variable {p q root : Path} {extension : String}

def Component.name? : Component → Option String
  | .name s => some (.ofList s)
  | _ => none

def names (p : Path) : List String := p.components.filterMap Component.name?

/-- The segments of a path that goes down are its names and such as make no difference. -/
theorem steps_fields_of_goesDown (h : p.goesDown = true) :
    steps (fields '/' p.text.toList) = p.names.map String.toList := by
  by_cases hp : p.text = ""
  · rw [names, components_eq_nil hp, hp]
    rfl
  have hsegment : ∀ c ∈ p.components, c.segment? = c.name?.map String.toList := by
    obtain ⟨hroot, hup⟩ := goesDown_iff_not_mem.mp h
    intro c hc
    cases c with
    | root => contradiction
    | up => contradiction
    | here => rfl
    | name s => exact congrArg some String.toList_ofList.symm
  rw [← filterMap_segment?_ofSegments, ← components_eq hp, names, List.map_filterMap]
  exact List.filterMap_congr hsegment

theorem valid_names (h : p.goesDown = true) : ∀ name ∈ p.names, ValidName name := by
  intro name hname
  have hstep : name.toList ∈ steps (fields '/' p.text.toList) := by
    rw [steps_fields_of_goesDown h]
    exact List.mem_map_of_mem hname
  obtain ⟨hfield, hblank⟩ := List.mem_filter.mp hstep
  obtain ⟨hne, hhere⟩ := of_decide_eq_true hblank
  have hup : name.toList ≠ ['.', '.'] := fun hup => (goesDown_iff.mp h).2 (hup ▸ hfield)
  exact {
    ne_empty := fun heq => hne (congrArg String.toList heq)
    ne_here := fun heq => hhere (congrArg String.toList heq)
    ne_up := fun heq => hup (congrArg String.toList heq)
    no_slash := notMem_of_mem_fields hfield }

theorem filterMap_ofSegment?_steps (segments : List (List Char)) :
    (steps segments).filterMap Component.ofSegment? = segments.filterMap Component.ofSegment? := by
  induction segments with
  | nil => rfl
  | cons s rest ih =>
    by_cases h : s = [] ∨ s = ['.']
    · rw [steps_cons_of_blank h, ih]
      rcases h with rfl | rfl <;> rfl
    · rw [steps_cons_of_not_blank h, List.filterMap_cons, List.filterMap_cons, ih]

theorem components_join_of_goesDown (hroot : root.text ≠ "") (h : p.goesDown = true) :
    (root.join p).components = root.components ++ p.names.map fun name => .name name.toList := by
  have hrelative : p.isAbsolute = false := eq_false_of_ne_true fun habs =>
    (goesDown_iff.mp h).1 (of_decide_eq_true habs)
  have hnames : (p.names.map String.toList).filterMap Component.ofSegment? =
      p.names.map fun name => .name name.toList := by
    rw [List.filterMap_map, ← List.filterMap_eq_map]
    exact List.filterMap_congr fun name hname => (valid_names h name hname).ofSegment?
  rw [components_join_of_relative hroot hrelative, ← filterMap_ofSegment?_steps,
    steps_fields_of_goesDown h, hnames]

theorem extension?_eq_of_getLast? (h : p.components.getLast? = q.components.getLast?) :
    p.extension? = q.extension? := by
  unfold extension?
  rw [h]

theorem extension?_joinNames_names (h : p.goesDown = true) (hext : p.extension? = some extension)
    (root : Path) :
    (FileTree.joinNames root p.names).extension? = some extension := by
  rw [← hext]
  apply extension?_eq_of_getLast?
  rw [components_joinNames (valid_names h)]
  unfold extension? at hext
  split at hext
  · rename_i s hlast
    obtain ⟨front, hfront⟩ := List.getLast?_eq_some_iff.mp hlast
    have hlastName : p.names = front.filterMap Component.name? ++ [.ofList s] := by
      rw [names, hfront, List.filterMap_append]
      rfl
    rw [hlast, hlastName, List.map_append, ← List.append_assoc, List.map_singleton,
      String.toList_ofList, List.getLast?_concat]
  · contradiction

end Path

namespace FileTree

open RuleLint.Path

variable {tree : FileTree} {root p : Path} {top n : Node} {links left : Nat}
    {here there names : List String}

theorem step_eq_of_not_link {name : String} {front : List (List Char)} (hname : ValidName name)
    (hlink : (top.at? (here ++ [name])).map Node.kind ≠ some .link)
    (h : step top links here name.toList = .ok (left, there, front)) :
    there = here ++ [name] ∧ front = [] := by
  have hblank : ¬ (name.toList = [] ∨ name.toList = ['.']) :=
    fun hn => hn.elim hname.toList_ne_nil hname.toList_ne_here
  have hup : name.toList ≠ ['.', '.'] := fun hn => hname.ne_up (String.toList_injective hn)
  unfold step at h
  rw [if_neg hblank, if_neg hup, String.ofList_toList] at h
  split_ifs at h
  unfold enter at h
  split at h
  · contradiction
  · rename_i hentry
    rw [hentry] at hlink
    exact (hlink rfl).elim
  · cases h
    exact ⟨rfl, rfl⟩

/-- Names lead where they say if there is no link among what they stand for. -/
theorem Leads.eq_append (hvalid : ∀ name ∈ names, ValidName name)
    (hlinks : ∀ front, front <+: names → (top.at? (here ++ front)).map Node.kind ≠ some .link)
    (h : Leads top links here (names.map String.toList) left there) : there = here ++ names := by
  induction names generalizing here links with
  | nil =>
    cases h
    exact (List.append_nil _).symm
  | cons name names ih =>
    obtain ⟨hname, hnames⟩ := List.forall_mem_cons.mp hvalid
    cases h with
    | cons first further =>
      obtain ⟨rfl, rfl⟩ :=
        step_eq_of_not_link hname (hlinks [name] (List.prefix_append [name] names)) first
      rw [List.append_cons]
      refine ih hnames ?_ further
      intro front hfront
      rw [List.append_assoc]
      exact hlinks (name :: front) (List.cons_prefix_cons.mpr ⟨rfl, hfront⟩)

/-- Nothing that the path names below the root, on the way or at its end, is a link. -/
def Linkless (tree : FileTree) (root p : Path) : Prop :=
  ∀ here, tree.locate root = .ok here →
    ∀ names, names <+: p.names → (tree.top.at? (here ++ names)).map Node.kind ≠ some .link

/-- Without links a path that goes down leads from the root along its names. -/
theorem locate_join_of_linkless (hroot : tree.locate root = .ok here) (hp : p.goesDown = true)
    (hlinks : tree.Linkless root p) (h : tree.locate (root.join p) = .ok there) :
    there = here ++ p.names := by
  obtain ⟨hempty, -, -, _, hleads⟩ := locate_eq_ok_iff.mp hroot
  obtain ⟨-, -, -, left, hjoined⟩ := locate_eq_ok_iff.mp h
  have hrelative : p.isAbsolute = false := eq_false_of_ne_true fun habs =>
    (goesDown_iff.mp hp).1 (of_decide_eq_true habs)
  have hstart : tree.startOf (root.join p) = tree.startOf root := by
    unfold startOf
    rw [isAbsolute_join hempty hrelative]
  rw [hstart] at hjoined
  obtain ⟨mid, next, hfront, hback⟩ :=
    leads_append_iff.mp ((leads_join_iff hempty hrelative).mp hjoined)
  -- The way to the file begins with the way to the root, of which there is one.
  obtain rfl := hfront.unique hleads
  have hsteps := leads_steps hback
  rw [steps_fields_of_goesDown hp] at hsteps
  exact hsteps.eq_append (valid_names hp) (hlinks _ hroot)

end FileTree

end RuleLint
