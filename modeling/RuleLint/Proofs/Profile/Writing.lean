import RuleLint.Profile.Writing
import RuleLint.Proofs.Profile.Entries
import RuleLint.Proofs.Text.Lines
import RuleLint.Proofs.Text.Trim

namespace RuleLint.Profile

open Text Statement

/-- A text that can be a field of a line. -/
structure Tidy (s : List Char) : Prop where
  no_feed : '\n' ∉ s
  trimmed : trim s = s

instance (s : List Char) : Decidable (Tidy s) :=
  decidable_of_iff ('\n' ∉ s ∧ trim s = s) ⟨fun ⟨h, h'⟩ => ⟨h, h'⟩, fun ⟨h, h'⟩ => ⟨h, h'⟩⟩

/-- An option that is read as it is written: a literal one must not look like a reference. -/
structure CleanOption (o : GroupOption) : Prop where
  tidy : Tidy o.field
  ne_nil : o.field ≠ []
  no_separator : groupSeparator ∉ o.field
  literal : o.reference? = none → ¬ ['[', ']'] <+: o.field

/-- An entry that is read as it is written. The source of a rule-set starts with a bracket and is
all that follows the name, or else it holds no comma. -/
inductive Entry.Clean : Entry → Prop
  | ruleSet {name source : String} {extra : List String} (name_tidy : Tidy name.toList)
      (named : name ≠ "") (name_comma : ',' ∉ name.toList) (source_tidy : Tidy source.toList)
      (sourced : source ≠ "")
      (shape : source.toList.head? = some '[' ∧ extra = [] ∨
        source.toList.head? ≠ some '[' ∧ ',' ∉ source.toList)
      (extra_clean : ∀ field ∈ extra, Tidy field.toList ∧ ',' ∉ field.toList) :
      Clean (.ruleSet name source extra)
  | group {name : String} {options : List GroupOption} (name_tidy : Tidy name.toList)
      (named : name ≠ "") (name_separator : groupSeparator ∉ name.toList)
      (options_clean : ∀ o ∈ options, CleanOption o) :
      Clean (.group name options)

variable {s t : List Char} {sep : Char} {e : Entry}

theorem Tidy.append (hs : Tidy s) (ht : Tidy t) : Tidy (s ++ t) := by
  refine ⟨?_,
    trim_eq_self_iff.mpr ((trim_eq_self_iff.mp hs.trimmed).append (trim_eq_self_iff.mp ht.trimmed))⟩
  rw [List.mem_append]
  rintro (h | h)
  · exact hs.no_feed h
  · exact ht.no_feed h

theorem not_mem_intercalate {c : Char} (hsep : c ≠ sep) {fs : List (List Char)}
    (h : ∀ f ∈ fs, c ∉ f) :
    c ∉ [sep].intercalate fs := by
  induction fs with
  | nil => exact List.not_mem_nil
  | cons f fs ih =>
    have hf := h f List.mem_cons_self
    cases fs with
    | nil => rwa [List.intercalate_singleton]
    | cons g fs =>
      have hrest := ih fun f hf => h f (List.mem_cons_of_mem _ hf)
      rw [List.intercalate_cons_cons]
      simp [hf, hsep, hrest]

theorem tidy_intercalate (hfeed : '\n' ≠ sep) (hblank : isBlank sep = false) {fs : List (List Char)}
    (h : ∀ f ∈ fs, Tidy f) : Tidy ([sep].intercalate fs) :=
  ⟨not_mem_intercalate hfeed fun f hf => (h f hf).no_feed,
    trim_eq_self_iff.mpr
      (trimmed_intercalate hblank fun f hf => trim_eq_self_iff.mp (h f hf).trimmed)⟩

theorem Tidy.isLine (h : Tidy s) : IsLine s := by
  refine ⟨h.no_feed, fun hreturn => ?_⟩
  have hblank := (trim_eq_self_iff.mp h.trimmed).2 '\r' hreturn
  contradiction

theorem toList_ne_nil {text : String} (h : text ≠ "") : text.toList ≠ [] :=
  fun hn => h (String.toList_injective hn)

theorem map_eq_self {α : Type} {f : α → α} {xs : List α} (h : ∀ x ∈ xs, f x = x) : xs.map f = xs :=
  (List.map_congr_left h).trans (List.map_id xs)

def Entry.statement : Entry → Statement
  | .ruleSet name source extra => .ruleSet name.toList source.toList (extra.map String.toList)
  | .group name options => .group name.toList (options.map GroupOption.field)

theorem tidy_line (h : e.Clean) : Tidy e.line := by
  cases h with
  | @ruleSet name source extra name_tidy _ _ source_tidy _ _ extra_clean =>
    refine Tidy.append (by decide) (tidy_intercalate (by decide) (by decide) ?_)
    rw [List.forall_mem_map, List.forall_mem_cons, List.forall_mem_cons]
    exact ⟨name_tidy, source_tidy, fun field hfield => (extra_clean field hfield).1⟩
  | @group name options name_tidy _ _ options_clean =>
    refine Tidy.append (by decide) (tidy_intercalate (by decide) (by decide) ?_)
    rw [List.forall_mem_cons, List.forall_mem_map]
    exact ⟨name_tidy, fun o ho => (options_clean o ho).tidy⟩

theorem line_ne_nil (e : Entry) : e.line ≠ [] := by
  cases e with
  | ruleSet => exact List.append_ne_nil_of_left_ne_nil (by decide) _
  | group => exact List.append_ne_nil_of_left_ne_nil (by decide) _

theorem ofRuleSet_fields {name source : List Char} {extra : List (List Char)} (hname : Tidy name)
    (hnamed : name ≠ []) (hcomma : ',' ∉ name) (hsource : Tidy source) (hsourced : source ≠ [])
    (hshape : source.head? = some '[' ∧ extra = [] ∨ source.head? ≠ some '[' ∧ ',' ∉ source)
    (hextra : ∀ f ∈ extra, Tidy f ∧ ',' ∉ f) :
    ofRuleSet ([','].intercalate (name :: source :: extra)) = .ruleSet name source extra := by
  have hfields : ∀ f ∈ source :: extra, Tidy f :=
    List.forall_mem_cons.mpr ⟨hsource, fun f hf => (hextra f hf).1⟩
  have hvalue : trim ([','].intercalate (source :: extra)) = [','].intercalate (source :: extra) :=
    (tidy_intercalate (by decide) (by decide) hfields).trimmed
  have hcut : cut? ',' ([','].intercalate (name :: source :: extra)) =
      some (name, [','].intercalate (source :: extra)) := by
    apply cut?_eq_some_iff.mpr
    exact ⟨by rw [List.intercalate_cons_cons, List.append_assoc, List.singleton_append], hcomma⟩
  unfold ofRuleSet
  rw [hcut]
  dsimp only
  rw [hname.trimmed, if_neg hnamed, hvalue]
  -- With a bracket all that follows the name is the source, otherwise the source ends at the next
  -- comma.
  rcases hshape with ⟨hbracket, rfl⟩ | ⟨hbracket, hsourceComma⟩
  · rw [List.intercalate_singleton, if_pos hbracket]
  · have hhead : ([','].intercalate (source :: extra)).head? = source.head? := by
      cases extra with
      | nil => rw [List.intercalate_singleton]
      | cons f fs =>
        rw [List.intercalate_cons_cons, List.append_assoc, List.head?_append_of_ne_nil _ hsourced]
    have hsplit : fields ',' ([','].intercalate (source :: extra)) = source :: extra := by
      apply fields_intercalate (List.cons_ne_nil _ _)
      exact List.forall_mem_cons.mpr ⟨hsourceComma, fun f hf => (hextra f hf).2⟩
    have htrim : (source :: extra).map trim = source :: extra :=
      map_eq_self fun f hf => (hfields f hf).trimmed
    rw [hhead, if_neg hbracket, hsplit, htrim]
    cases source with
    | nil => contradiction
    | cons c s => rfl

theorem groupFields_intercalate {fs : List (List Char)} (hne : fs ≠ [])
    (h : ∀ f ∈ fs, Tidy f ∧ groupSeparator ∉ f) :
    groupFields ([groupSeparator].intercalate fs) = fs := by
  unfold groupFields
  rw [fields_intercalate hne fun f hf => (h f hf).2]
  exact map_eq_self fun f hf => (h f hf).1.trimmed

theorem ofLine_line (h : e.Clean) : ofLine e.line = e.statement := by
  have htrim := (tidy_line h).trimmed
  cases h with
  | @ruleSet name source extra name_tidy named name_comma source_tidy sourced shape extra_clean =>
    have hline := ofLine_of_ruleSet (l := ⟨0, _⟩) htrim
    refine hline.trans ?_
    rw [List.map_cons, List.map_cons]
    refine ofRuleSet_fields name_tidy (toList_ne_nil named) name_comma source_tidy
      (toList_ne_nil sourced) ?_ ?_
    · rcases shape with ⟨hbracket, rfl⟩ | hplain
      · exact .inl ⟨hbracket, rfl⟩
      · exact .inr hplain
    · rw [List.forall_mem_map]
      exact extra_clean
  | @group name options name_tidy named name_separator options_clean =>
    have hline := ofLine_of_group (l := ⟨0, _⟩) htrim
    refine hline.trans
      ((ofGroup_of_fields (groupFields_intercalate (List.cons_ne_nil _ _) ?_)).trans ?_)
    · rw [List.forall_mem_cons, List.forall_mem_map]
      exact ⟨⟨name_tidy, name_separator⟩,
        fun o ho => ⟨(options_clean o ho).tidy, (options_clean o ho).no_separator⟩⟩
    · exact if_neg (toList_ne_nil named)

theorem optionOfField_field {o : GroupOption} (h : CleanOption o) : optionOfField o.field = o := by
  unfold optionOfField
  cases o with
  | reference name =>
    have hrest : rest? ['[', ']'] (GroupOption.field (.reference name)) = some name.toList :=
      rest?_eq_some_iff.mpr rfl
    rw [hrest]
    exact congrArg GroupOption.reference String.ofList_toList
  | literal text =>
    have hrest : rest? ['[', ']'] (GroupOption.field (.literal text)) = none := by
      rw [← Option.not_isSome_iff_eq_none, isSome_rest?_iff]
      exact h.literal rfl
    rw [hrest]
    exact congrArg GroupOption.literal String.ofList_toList

variable {es : List Entry} {file : String} {marker : Option Nat} {start : Nat}

def itemsFrom (start : Nat) (es : List Entry) : List Item :=
  (es.zipIdx start).map fun (e, line) => ⟨line, e.statement⟩

theorem items_of_lines (h : ∀ e ∈ es, e.Clean) :
    ((es.map Entry.line).zipIdx start).map (fun (text, number) => (⟨number, ofLine text⟩ : Item)) =
      itemsFrom start es := by
  unfold itemsFrom
  rw [List.zipIdx_map, List.map_map]
  apply List.map_congr_left
  rintro ⟨e, line⟩ hm
  show (⟨line, ofLine e.line⟩ : Item) = ⟨line, e.statement⟩
  rw [ofLine_line (h e (List.fst_mem_of_mem_zipIdx hm))]

theorem filterMap_ruleSet?_itemsFrom (kind : GroupKind) (start : Nat) (es : List Entry) :
    (itemsFrom start es).filterMap Item.ruleSet? =
      ((es.zipIdx start).map fun (e, line) => (e, kind, line)).filterMap fun (e, _, line) =>
        e.ruleSet? line := by
  unfold itemsFrom
  rw [List.filterMap_map, List.filterMap_map]
  congr 1
  funext ⟨e, line⟩
  cases e with
  | ruleSet => simp [Item.ruleSet?, Entry.statement, Entry.ruleSet?]
  | group => rfl

theorem filterMap_group?_itemsFrom {kind : GroupKind} (h : ∀ e ∈ es, e.Clean)
    (hkind : ∀ line, start ≤ line → line < start + es.length → kindAt marker line = kind) :
    (itemsFrom start es).filterMap (Item.group? marker) =
      ((es.zipIdx start).map fun (e, line) => (e, kind, line)).filterMap fun (e, kind, line) =>
        e.group? kind line := by
  unfold itemsFrom
  rw [List.filterMap_map, List.filterMap_map]
  apply List.filterMap_congr
  rintro ⟨e, line⟩ hm
  obtain ⟨hfrom, hto, -⟩ := List.mem_zipIdx hm
  have hclean := h e (List.fst_mem_of_mem_zipIdx hm)
  cases hclean with
  | ruleSet => rfl
  | @group name options _ _ _ options_clean =>
    have hfilter : (options.map GroupOption.field).filter (· ≠ []) =
        options.map GroupOption.field := by
      rw [List.filter_eq_self, List.forall_mem_map]
      exact fun o ho => decide_eq_true (options_clean o ho).ne_nil
    have hoptions : (options.map GroupOption.field).map optionOfField = options := by
      rw [List.map_map]
      exact map_eq_self fun o ho => optionOfField_field (options_clean o ho)
    simp only [Function.comp_apply, Item.group?, Entry.statement, Entry.group?, hfilter, hoptions,
      String.ofList_toList, hkind line hfrom hto]

theorem flatMap_diagnostics_itemsFrom (h : ∀ e ∈ es, e.Clean) :
    (itemsFrom start es).flatMap (Item.diagnostics file marker) = [] := by
  unfold itemsFrom
  rw [List.flatMap_map, List.flatMap_eq_nil_iff]
  rintro ⟨e, line⟩ hm
  have hclean := h e (List.fst_mem_of_mem_zipIdx hm)
  cases hclean with
  | ruleSet => rfl
  | @group name options _ _ _ options_clean =>
    have hempty : emptyFields (options.map GroupOption.field) = [] := by
      unfold emptyFields
      rw [List.map_eq_nil_iff, List.filter_eq_nil_iff]
      rintro ⟨field, position⟩ hfield hnil
      obtain ⟨o, ho, rfl⟩ := List.mem_map.mp (List.fst_mem_of_mem_zipIdx hfield)
      exact (options_clean o ho).ne_nil (of_decide_eq_true hnil)
    simp [Item.diagnostics, Entry.statement, hempty]

theorem find?_nodeMarker_itemsFrom (start : Nat) (es : List Entry) :
    (itemsFrom start es).find? (·.statement = .nodeMarker) = none := by
  rw [List.find?_eq_none]
  intro item hitem
  obtain ⟨⟨e, line⟩, -, rfl⟩ := List.mem_map.mp hitem
  cases e <;> simp [Entry.statement]

namespace Draft

variable {d : Draft}

def all (d : Draft) : List Entry := d.entries ++ d.nodeEntries.getD []

def items (d : Draft) : List Item :=
  itemsFrom 1 d.entries ++
    match d.nodeEntries with
    | some es => ⟨d.markerLine, .nodeMarker⟩ :: itemsFrom (d.markerLine + 1) es
    | none => []

theorem clean_of_nodeEntries (h : ∀ e ∈ d.all, e.Clean) (hn : d.nodeEntries = some es) :
    ∀ e ∈ es, e.Clean := by
  intro e he
  apply h e
  unfold all
  rw [hn]
  exact List.mem_append_right _ he

theorem lines_text (h : ∀ e ∈ d.all, e.Clean) (ended : Bool) :
    Text.lines (d.text ended).toList = d.lines := by
  have hlines : ∀ l ∈ d.lines, IsLine l ∧ l ≠ [] := by
    intro l hl
    have hentry {e : Entry} (he : e ∈ d.all) : IsLine e.line ∧ e.line ≠ [] :=
      ⟨(tidy_line (h e he)).isLine, line_ne_nil e⟩
    unfold lines at hl
    unfold all at hentry
    rcases List.mem_append.mp hl with hl | hl
    · obtain ⟨e, he, rfl⟩ := List.mem_map.mp hl
      exact hentry (List.mem_append_left _ he)
    · cases hn : d.nodeEntries with
      | none =>
        rw [hn] at hl
        contradiction
      | some es =>
        rw [hn] at hl hentry
        rcases List.mem_cons.mp hl with rfl | hl
        · exact ⟨Tidy.isLine (by decide), by decide⟩
        · obtain ⟨e, he, rfl⟩ := List.mem_map.mp hl
          exact hentry (List.mem_append_right _ he)
  unfold text
  rw [String.toList_ofList]
  cases ended with
  | true => exact lines_flatMap fun l hl => (hlines l hl).1
  | false =>
    -- No line is empty, so that the last one is there even without its line feed.
    exact lines_dropLast_flatMap (fun l hl => (hlines l hl).1) fun hnil => (hlines [] hnil).2 rfl

theorem items_text (h : ∀ e ∈ d.all, e.Clean) (ended : Bool) :
    Profile.items (d.text ended) = d.items := by
  have hentries : ∀ e ∈ d.entries, e.Clean := fun e he => h e (List.mem_append_left _ he)
  unfold Profile.items numberedLines items
  rw [lines_text h, List.map_map]
  unfold lines
  rw [List.zipIdx_append, List.map_append]
  refine congrArg₂ (· ++ ·) (items_of_lines hentries) ?_
  cases hn : d.nodeEntries with
  | none => rfl
  | some es =>
    have hstart : 1 + (d.entries.map Entry.line).length = d.markerLine := by
      rw [List.length_map, Nat.add_comm]
      rfl
    have hmarker : ofLine "; Node".toList = .nodeMarker := by decide
    rw [hstart, List.zipIdx_cons, List.map_cons]
    refine congrArg₂ List.cons ?_ (items_of_lines (clean_of_nodeEntries h hn))
    exact congrArg (Item.mk d.markerLine) hmarker

theorem markerLine_items (d : Draft) : Profile.markerLine d.items = d.nodeEntries.map fun _ =>
    d.markerLine := by
  unfold Profile.markerLine items
  rw [List.find?_append, find?_nodeMarker_itemsFrom]
  cases d.nodeEntries with
  | none => rfl
  | some es => rfl

theorem ofItems_items (h : ∀ e ∈ d.all, e.Clean) : ofItems d.items = d.profile := by
  have hentries : ∀ e ∈ d.entries, e.Clean := fun e he => h e (List.mem_append_left _ he)
  have hselector : ∀ line, 1 ≤ line → line < 1 + d.entries.length →
      kindAt (d.nodeEntries.map fun _ => d.markerLine) line = .selector := by
    intro line _ hline
    have hnot : ¬ d.markerLine < line := by unfold markerLine; omega
    unfold kindAt
    cases d.nodeEntries <;> simp [hnot]
  unfold ofItems
  dsimp only
  rw [markerLine_items]
  unfold items profile placed
  rw [List.filterMap_append, List.filterMap_append, List.filterMap_append, List.filterMap_append,
    filterMap_ruleSet?_itemsFrom .selector, filterMap_group?_itemsFrom hentries hselector]
  cases hn : d.nodeEntries with
  | none => simp
  | some es =>
    have hnode : ∀ line, d.markerLine + 1 ≤ line → line < d.markerLine + 1 + es.length →
        kindAt (some d.markerLine) line = .node := by
      intro line hline _
      have hlt : d.markerLine < line := hline
      simp [kindAt, hlt]
    congr 2
    · exact filterMap_ruleSet?_itemsFrom .node _ es
    · exact filterMap_group?_itemsFrom (clean_of_nodeEntries h hn) hnode

theorem flatMap_diagnostics_items (h : ∀ e ∈ d.all, e.Clean) (file : String) :
    d.items.flatMap (Item.diagnostics file d.profile.nodeMarker) = [] := by
  unfold items profile
  dsimp only
  rw [List.flatMap_append,
    flatMap_diagnostics_itemsFrom fun e he => h e (List.mem_append_left _ he), List.nil_append]
  cases hn : d.nodeEntries with
  | none => rfl
  | some es =>
    rw [List.flatMap_cons, flatMap_diagnostics_itemsFrom (clean_of_nodeEntries h hn)]
    simp [Item.diagnostics]

end Draft

/-- Reading a clean draft gives back its entries with their lines and sections, and the line of the
node section. Nothing is said about it, but for a warning if the node section leaves no group to be
checked. -/
theorem ofText_text (d : Draft) (h : ∀ e ∈ d.all, e.Clean) (file : String) (ended : Bool) :
    ofText (d.text ended) = d.profile ∧
      readingDiagnostics file (d.text ended) =
        if d.nodeEntries.isSome ∧ d.profile.groups ≠ [] ∧
        ∀ g ∈ d.profile.groups, g.kind ≠ .selector then
          [⟨.warn, some .config, "node section marker at line " ++ toString d.markerLine ++
            " precedes every proxy group; no group is reference-checked",
            some ⟨file, some d.markerLine⟩⟩]
        else [] := by
  have hitems := Draft.items_text h ended
  have hprofile : ofText (d.text ended) = d.profile := by
    unfold ofText
    rw [hitems, Draft.ofItems_items h]
  refine ⟨hprofile, ?_⟩
  have hselectors : d.profile.selectors = [] ↔ ∀ g ∈ d.profile.groups, g.kind ≠ .selector := by
    unfold selectors
    simp
  unfold readingDiagnostics
  dsimp only
  rw [hitems, Draft.ofItems_items h, Draft.flatMap_diagnostics_items h, List.nil_append]
  unfold markerDiagnostics
  rw [show d.profile.nodeMarker = d.nodeEntries.map fun _ => d.markerLine from rfl]
  cases d.nodeEntries with
  | none => simp
  | some es => simp [hselectors, Diagnostic.warn, Diagnostic.withKind, Diagnostic.onLine]

/-- A draft whose groups are all in the node section, with a source that holds a comma and a field
that is empty. -/
theorem ofText_text_nodes_only :
    let d : Draft := ⟨[.ruleSet "Ads" "[]GEOIP,CN" [], .ruleSet "Local" "a.list" ["", "60"]],
      some [.group "HK" [.literal "select", .reference "", .literal "(x"]]⟩
    (∀ e ∈ d.all, e.Clean) ∧ ofText (d.text false) = d.profile ∧
      readingDiagnostics "c.ini" (d.text false) =
        [⟨.warn, some .config,
          "node section marker at line 3 precedes every proxy group; no group is reference-checked",
          some ⟨"c.ini", some 3⟩⟩] := by
  intro d
  have hclean : ∀ e ∈ d.all, e.Clean := by
    have hall : d.all = [.ruleSet "Ads" "[]GEOIP,CN" [], .ruleSet "Local" "a.list" ["", "60"],
        .group "HK" [.literal "select", .reference "", .literal "(x"]] := rfl
    rw [hall]
    simp only [List.forall_mem_cons]
    refine ⟨?_, ?_, ?_, nofun⟩
    · exact .ruleSet (by decide) (by decide) (by decide) (by decide) (by decide)
        (by decide) (by decide)
    · exact .ruleSet (by decide) (by decide) (by decide) (by decide) (by decide)
        (by decide) (by decide)
    · refine .group (by decide) (by decide) (by decide) ?_
      simp only [List.forall_mem_cons]
      refine ⟨?_, ?_, ?_, nofun⟩ <;> exact ⟨by decide, by decide, by decide, by decide⟩
  obtain ⟨hprofile, hfindings⟩ := ofText_text d hclean "c.ini" false
  have hnodes : d.nodeEntries.isSome ∧ d.profile.groups ≠ [] ∧
      ∀ g ∈ d.profile.groups, g.kind ≠ .selector := by decide
  rw [if_pos hnodes] at hfindings
  refine ⟨hclean, hprofile, hfindings.trans ?_⟩
  decide

end RuleLint.Profile
