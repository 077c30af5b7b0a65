import RuleLint.FileTree.Listing
import RuleLint.Proofs.Text.Fields

namespace RuleLint.Path

open Text

/-- What the first segment stands for if it is not all there is: nothing before a slash is the
root. -/
def leading : List Char → Option Component
  | [] => some .root
  | ['.'] => some .here
  | s => Component.ofSegment? s

def ofSegments : List (List Char) → List Component
  | [] => []
  | first :: others => (leading first).toList ++ others.filterMap Component.ofSegment?

theorem leading_of_ne {s : List Char} (hs : s ≠ []) (hdot : s ≠ ['.']) :
    leading s = Component.ofSegment? s := by
  unfold leading
  split
  · contradiction
  · contradiction
  · rfl

theorem isSome_leading (s : List Char) : (leading s).isSome = true := by
  unfold leading Component.ofSegment?
  split
  · rfl
  · rfl
  · split <;> simp_all

theorem ofSegments_append {segments : List (List Char)} (h : segments ≠ [])
    (others : List (List Char)) :
    ofSegments (segments ++ others) = ofSegments segments ++
      others.filterMap Component.ofSegment? := by
  obtain ⟨first, rest, rfl⟩ := List.exists_cons_of_ne_nil h
  rw [List.cons_append, ofSegments, ofSegments, List.filterMap_append, List.append_assoc]

theorem map_fst_segmentEnds (start : Nat) (segments : List (List Char)) :
    (segmentEnds start segments).map Prod.fst = segments := by
  induction segments generalizing start with
  | nil => rfl
  | cons s rest ih => exact congrArg _ (ih _)

theorem map_fst_filterMap_markOf? (start : Nat) (segments : List (List Char)) :
    ((segmentEnds start segments).filterMap markOf?).map Prod.fst =
      segments.filterMap Component.ofSegment? := by
  have hmark : (fun x => (markOf? x).map Prod.fst) = Component.ofSegment? ∘ Prod.fst := by
    funext x
    unfold markOf?
    cases h : Component.ofSegment? x.1 <;> simp [h]
  rw [List.map_filterMap, hmark, ← List.filterMap_map, map_fst_segmentEnds]

theorem fields_ne_singleton_nil {sep : Char} {s : List Char} (h : s ≠ []) :
    fields sep s ≠ [[]] := by
  cases s with
  | nil => contradiction
  | cons c s =>
    obtain ⟨f, fs, hs⟩ := List.exists_cons_of_ne_nil (fields_ne_nil sep s)
    by_cases hc : c = sep
    · subst hc
      rw [fields_cons_self, hs]
      simp
    · rw [fields_cons_of_ne hc hs]
      simp

theorem components_eq {p : Path} (h : p.text ≠ "") :
    p.components = ofSegments (fields '/' p.text.toList) := by
  have hne : fields '/' p.text.toList ≠ [[]] :=
    fields_ne_singleton_nil fun hn => h (String.toList_injective hn)
  unfold components marks
  -- Only a first segment that is empty or a dot is read in a way of its own.
  generalize fields '/' p.text.toList = segments at hne ⊢
  cases segments with
  | nil => rfl
  | cons s rest =>
    by_cases hs : s = []
    · subst hs
      cases rest with
      | nil => contradiction
      | cons second rest => exact congrArg _ (map_fst_filterMap_markOf? 1 (second :: rest))
    · by_cases hdot : s = ['.']
      · subst hdot
        exact congrArg _ (map_fst_filterMap_markOf? 2 rest)
      · have hall : ofSegments (s :: rest) = (s :: rest).filterMap Component.ofSegment? := by
          rw [ofSegments, leading_of_ne hs hdot, List.filterMap_cons]
          cases Component.ofSegment? s <;> rfl
        rw [hall, ← map_fst_filterMap_markOf? 0]
        congr 1
        split
        · rename_i heq
          exact (hs (Prod.mk.inj (List.cons.inj heq).1).1).elim
        · rename_i heq
          exact (hdot (Prod.mk.inj (List.cons.inj heq).1).1).elim
        · rfl

theorem components_eq_nil {p : Path} (h : p.text = "") : p.components = [] := by
  unfold components
  rw [h]
  rfl

theorem components_ne_nil {p : Path} (hp : p.text ≠ "") : p.components ≠ [] := by
  rw [components_eq hp]
  obtain ⟨first, others, hsegments⟩ := List.exists_cons_of_ne_nil (fields_ne_nil '/' p.text.toList)
  obtain ⟨start, hstart⟩ := Option.isSome_iff_exists.mp (isSome_leading first)
  rw [hsegments, ofSegments, hstart]
  exact List.cons_ne_nil _ _

theorem text_of_ofSegment? {s : List Char} {c : Component} (h : Component.ofSegment? s = some c) :
    c.text = s := by
  unfold Component.ofSegment? at h
  split at h
  · contradiction
  · contradiction
  · rw [← Option.some.inj h]
    rfl
  · rw [← Option.some.inj h]
    rfl

theorem text_of_mem_components {p : Path} {c : Component} (h : c ∈ p.components) :
    c = .root ∨ c.text ∈ fields '/' p.text.toList := by
  have hne : p.text ≠ "" := by
    intro hempty
    rw [components_eq_nil hempty] at h
    contradiction
  rw [components_eq hne] at h
  obtain ⟨first, others, hfields⟩ := List.exists_cons_of_ne_nil (fields_ne_nil '/' p.text.toList)
  rw [hfields] at h ⊢
  rcases List.mem_append.mp h with h | h
  · have hleading := Option.mem_toList.mp h
    unfold leading at hleading
    split at hleading
    · exact .inl (Option.some.inj hleading).symm
    · rw [← Option.some.inj hleading]
      exact .inr List.mem_cons_self
    · rw [text_of_ofSegment? hleading]
      exact .inr List.mem_cons_self
  · obtain ⟨s, hs, hc⟩ := List.mem_filterMap.mp h
    rw [text_of_ofSegment? hc]
    exact .inr (List.mem_cons_of_mem _ hs)

/-- A name that a directory entry may have. -/
structure ValidName (name : String) : Prop where
  ne_empty : name ≠ ""
  ne_here : name ≠ "."
  ne_up : name ≠ ".."
  no_slash : '/' ∉ name.toList

instance (name : String) : Decidable (ValidName name) :=
  decidable_of_iff (name ≠ "" ∧ name ≠ "." ∧ name ≠ ".." ∧ '/' ∉ name.toList)
    ⟨fun ⟨h, h', h'', hs⟩ => ⟨h, h', h'', hs⟩, fun ⟨h, h', h'', hs⟩ => ⟨h, h', h'', hs⟩⟩

namespace ValidName

variable {name : String}

theorem toList_ne_nil (h : ValidName name) : name.toList ≠ [] :=
  fun hn => h.ne_empty (String.toList_injective hn)

theorem toList_ne_here (h : ValidName name) : name.toList ≠ ['.'] :=
  fun hn => h.ne_here (String.toList_injective hn)

theorem ofSegment? (h : ValidName name) :
    Component.ofSegment? name.toList = some (.name name.toList) := by
  unfold Component.ofSegment?
  split
  · rename_i hn
    exact (h.toList_ne_nil hn).elim
  · rename_i hn
    exact (h.toList_ne_here hn).elim
  · rename_i hn
    exact (h.ne_up (String.toList_injective hn)).elim
  · rfl

theorem not_isAbsolute (h : ValidName name) : isAbsolute ⟨name⟩ = false :=
  decide_eq_false fun hhead => h.no_slash (List.mem_of_mem_head? hhead)

theorem fields (h : ValidName name) : Text.fields '/' name.toList = [name.toList] :=
  fields_eq_singleton h.no_slash

end ValidName

theorem text_ne_empty_of_append {p : Path} {front back : List Char} {c : Char}
    (hp : p.text.toList = front ++ c :: back) : p.text ≠ "" := by
  intro h
  rw [h] at hp
  exact List.append_ne_nil_of_right_ne_nil front (List.cons_ne_nil c back) hp.symm

theorem components_join_of_relative {p q : Path} (hp : p.text ≠ "") (hq : q.isAbsolute = false) :
    (p.join q).components =
      p.components ++ (Text.fields '/' q.text.toList).filterMap Component.ofSegment? := by
  have hjoined {front : List Char} {text : String}
      (htext : text.toList = front ++ '/' :: q.text.toList) :
      components ⟨text⟩ =
        ofSegments (Text.fields '/' front) ++
          (Text.fields '/' q.text.toList).filterMap Component.ofSegment? := by
    rw [components_eq (p := ⟨text⟩) (text_ne_empty_of_append htext), htext, fields_append_cons,
      ofSegments_append (fields_ne_nil _ _)]
  unfold join
  rw [if_neg (by simp [hq])]
  split
  · rename_i hend
    exact (hp (String.toList_injective (List.getLast?_eq_none_iff.mp hend))).elim
  · rename_i hend
    obtain ⟨front, hfront⟩ := List.getLast?_eq_some_iff.mp hend
    have htext : (p.text ++ q.text).toList = front ++ '/' :: q.text.toList := by
      rw [String.toList_append, hfront, List.append_assoc, List.singleton_append]
    rw [hjoined htext, components_eq hp, hfront, fields_append_cons,
      ofSegments_append (fields_ne_nil _ _)]
    exact congrArg (· ++ _) (List.append_nil _).symm
  · have htext : (p.text ++ "/" ++ q.text).toList = p.text.toList ++ '/' :: q.text.toList := by
      rw [String.toList_append, String.toList_append, List.append_assoc]
      rfl
    rw [hjoined htext, components_eq hp]

theorem components_join {name : String} (h : ValidName name) (base : Path) :
    (base.join ⟨name⟩).components = base.components ++ [.name name.toList] := by
  by_cases hbase : base.text = ""
  · have hjoined : base.join ⟨name⟩ = ⟨name⟩ := by simp [join, h.not_isAbsolute, hbase]
    rw [hjoined, components_eq_nil hbase, components_eq h.ne_empty, h.fields, ofSegments,
      leading_of_ne h.toList_ne_nil h.toList_ne_here, h.ofSegment?]
    rfl
  · rw [components_join_of_relative hbase h.not_isAbsolute, h.fields,
      List.filterMap_cons_some h.ofSegment?, List.filterMap_nil]

theorem components_joinNames {names : List String} (h : ∀ name ∈ names, ValidName name)
    (root : Path) :
    (FileTree.joinNames root names).components = root.components ++ names.map fun name =>
      .name name.toList := by
  unfold FileTree.joinNames
  induction names generalizing root with
  | nil => exact (List.append_nil _).symm
  | cons name names ih =>
    rw [List.foldl_cons, ih fun n hn => h n (List.mem_cons_of_mem _ hn),
      components_join (h name List.mem_cons_self), List.append_assoc]
    rfl

theorem displayName_of_components {root p : Path} {names : List String}
    (h : p.components = root.components ++ names.map fun name => .name name.toList) :
    root.displayName p = "/".intercalate names := by
  unfold displayName below?
  rw [h, if_pos (by simp)]
  simp [Function.comp_def, Component.text]

/-- What is below a root is shown by the names that lead to it, however the root is spelled. -/
theorem displayName_joinNames {names : List String} (h : ∀ name ∈ names, ValidName name)
    (root : Path) :
    root.displayName (FileTree.joinNames root names) = "/".intercalate names :=
  displayName_of_components (components_joinNames h root)

theorem intercalate_names_inj {names names' : List String} (hne : names ≠ []) (hne' : names' ≠ [])
    (h : ∀ name ∈ names, ValidName name) (h' : ∀ name ∈ names', ValidName name)
    (heq : "/".intercalate names = "/".intercalate names') : names = names' := by
  have hlist := congrArg String.toList heq
  rw [String.toList_intercalate, String.toList_intercalate] at hlist
  have hslash {ns : List String} (hn : ∀ name ∈ ns, ValidName name) : ∀ f ∈
      ns.map String.toList, '/' ∉ f := by
    intro f hf
    obtain ⟨name, hm, rfl⟩ := List.mem_map.mp hf
    exact (hn name hm).no_slash
  apply List.map_injective_iff.mpr fun _ _ => String.toList_injective
  exact intercalate_inj (by simpa using hne) (by simpa using hne') (hslash h) (hslash h') hlist

theorem extensionOf?_eq_some_iff {name e : List Char} :
    extensionOf? name = some e ↔ (∃ stem, stem ≠ [] ∧ name = stem ++ '.' :: e) ∧ '.' ∉ e := by
  have hcut {r l : List Char} :
      cut? '.' name.reverse = some (r, l) ↔ name = l.reverse ++ '.' :: r.reverse ∧ '.' ∉ r := by
    rw [cut?_eq_some_iff, List.reverse_eq_iff]
    simp
  unfold extensionOf?
  constructor
  · intro h
    split at h
    · contradiction
    · contradiction
    · rename_i r c l hc
      obtain rfl := Option.some.inj h
      obtain ⟨hname, hdot⟩ := hcut.mp hc
      exact ⟨⟨(c :: l).reverse, by simp, hname⟩, fun hm => hdot (List.mem_reverse.mp hm)⟩
  · rintro ⟨⟨stem, hstem, hname⟩, hdot⟩
    have hc : cut? '.' name.reverse = some (e.reverse, stem.reverse) := by
      rw [hcut, List.reverse_reverse, List.reverse_reverse, List.mem_reverse]
      exact ⟨hname, hdot⟩
    rw [hc]
    split
    · rename_i heq
      have hnil := (Prod.mk.inj (Option.some.inj heq)).2
      exact (hstem (List.reverse_eq_nil_iff.mp hnil)).elim
    · contradiction
    · rename_i heq
      rw [← (Prod.mk.inj (Option.some.inj heq)).1, List.reverse_reverse]

/-- The extension of a path is what follows the last dot of its last name, if something precedes
this dot. -/
theorem extension?_joinNames {names : List String} (h : ∀ name ∈ names, ValidName name)
    (hne : names ≠ []) (root : Path) (e : String) :
    (FileTree.joinNames root names).extension? = some e ↔
      (∃ stem, stem ≠ "" ∧ names.getLast? = some (stem ++ "." ++ e)) ∧ '.' ∉ e.toList := by
  have hlast : (FileTree.joinNames root names).components.getLast? =
      some (.name (names.getLast hne).toList) := by
    rw [components_joinNames h, List.getLast?_append, List.getLast?_map,
      List.getLast?_eq_some_getLast hne]
    rfl
  unfold extension?
  rw [hlast, List.getLast?_eq_some_getLast hne]
  generalize names.getLast hne = last
  have hstems : (∃ stem, stem ≠ "" ∧ some last = some (stem ++ "." ++ e)) ↔
      ∃ stem, stem ≠ [] ∧ last.toList = stem ++ '.' :: e.toList := by
    constructor
    · rintro ⟨stem, hstem, hl⟩
      refine ⟨stem.toList, fun hn => hstem (String.toList_injective hn), ?_⟩
      rw [Option.some.inj hl, String.toList_append, String.toList_append, List.append_assoc]
      rfl
    · rintro ⟨stem, hstem, hl⟩
      refine ⟨.ofList stem, fun hn => hstem ?_, congrArg some (String.toList_injective ?_)⟩
      · simpa using congrArg String.toList hn
      · rw [hl, String.toList_append, String.toList_append, String.toList_ofList, List.append_assoc]
        rfl
  rw [hstems, ← extensionOf?_eq_some_iff]
  constructor
  · intro hmap
    obtain ⟨s, hs, rfl⟩ := Option.map_eq_some_iff.mp hmap
    rw [String.toList_ofList]
    exact hs
  · intro hs
    show (extensionOf? last.toList).map String.ofList = some e
    rw [hs, Option.map_some, String.ofList_toList]

theorem ofSegment?_ne_root (s : List Char) : Component.ofSegment? s ≠ some .root := by
  unfold Component.ofSegment?
  split <;> simp

theorem ofSegment?_eq_up_iff {s : List Char} :
    Component.ofSegment? s = some .up ↔ s = ['.', '.'] := by
  unfold Component.ofSegment?
  split <;> simp_all

theorem leading_eq_root_iff {s : List Char} : leading s = some .root ↔ s = [] := by
  unfold leading
  split
  · simp
  · simp
  · rename_i hs _
    exact iff_of_false (ofSegment?_ne_root s) hs

theorem leading_eq_up_iff {s : List Char} : leading s = some .up ↔ s = ['.', '.'] := by
  unfold leading
  split
  · simp
  · simp
  · exact ofSegment?_eq_up_iff

theorem root_mem_ofSegments_iff {segments : List (List Char)} :
    .root ∈ ofSegments segments ↔ segments.head? = some [] := by
  cases segments with
  | nil => simp [ofSegments]
  | cons first others => simp [ofSegments, leading_eq_root_iff, ofSegment?_ne_root]

theorem up_mem_ofSegments_iff {segments : List (List Char)} :
    .up ∈ ofSegments segments ↔ ['.', '.'] ∈ segments := by
  cases segments with
  | nil => simp [ofSegments]
  | cons first others =>
    simp [ofSegments, leading_eq_up_iff, ofSegment?_eq_up_iff, @eq_comm _ ['.', '.'] first]

theorem goesDown_iff_not_mem {p : Path} :
    p.goesDown = true ↔ .root ∉ p.components ∧ .up ∉ p.components := by
  unfold goesDown
  rw [List.all_eq_true]
  constructor
  · intro h
    exact ⟨fun hr => Bool.noConfusion (h _ hr), fun hu => Bool.noConfusion (h _ hu)⟩
  · rintro ⟨hr, hu⟩ c hc
    cases c with
    | root => contradiction
    | up => contradiction
    | here | name => rfl

theorem goesDown_iff {p : Path} :
    p.goesDown = true ↔ p.text.toList.head? ≠ some '/' ∧ ['.', '.'] ∉ fields '/' p.text.toList := by
  by_cases h : p.text = ""
  · obtain ⟨text⟩ := p
    subst h
    exact iff_of_true rfl (by decide)
  · have hne : p.text.toList ≠ [] := fun hn => h (String.toList_injective hn)
    rw [goesDown_iff_not_mem, components_eq h, root_mem_ofSegments_iff, up_mem_ofSegments_iff,
      head?_fields_eq_nil_iff hne]

/-- The path names something below where it is joined: it is not empty, it does not start with a
slash, and none of its segments is `..`. -/
def Confined (p : Path) : Prop :=
  p.text ≠ "" ∧ p.text.toList.head? ≠ some '/' ∧ ['.', '.'] ∉ fields '/' p.text.toList

instance (p : Path) : Decidable p.Confined := inferInstanceAs (Decidable (_ ∧ _ ∧ _))

theorem confined_iff {p : Path} : p.Confined ↔ p.text ≠ "" ∧ p.goesDown = true :=
  and_congr_right' goesDown_iff.symm

theorem isAbsolute_iff {p : Path} (h : p.text ≠ "") :
    p.isAbsolute = true ↔ .root ∈ p.components := by
  have hne : p.text.toList ≠ [] := fun hn => h (String.toList_injective hn)
  rw [components_eq h, root_mem_ofSegments_iff, head?_fields_eq_nil_iff hne]
  exact decide_eq_true_iff

end RuleLint.Path
