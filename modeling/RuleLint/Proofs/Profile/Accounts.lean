import RuleLint.Proofs.Profile.Entries

namespace RuleLint.Profile

open Text Statement

structure Yield where
  ruleSets : List RuleSet
  groups : List ProxyGroup
  findings : List Diagnostic

def yieldAt (file : String) (p : Profile) (ds : List Diagnostic) (line : Nat) : Yield :=
  ⟨p.ruleSets.filter (·.line = line), p.groups.filter (·.line = line),
    ds.filter (·.location = some ⟨file, some line⟩)⟩

def IsSyntaxError (d : Diagnostic) : Prop := d.severity = .error ∧ d.kind = some .malformed

def IsFieldWarning (d : Diagnostic) : Prop := d.severity = .warn ∧ d.kind = some .malformed

def OnlyNodes (p : Profile) : Prop := p.groups ≠ [] ∧ ∀ g ∈ p.groups, g.kind ≠ .selector

/-- The profile `p` and the findings `ds` account for the lines of a file: each line yields what it
says and nothing else, and all that is there comes from a line. -/
structure Accounts (file : String) (lines : List Line) (p : Profile)
    (ds : List Diagnostic) : Prop where
  marker : ∀ n, p.nodeMarker = some n ↔
    ∃ l ∈ lines, MarksNodes l ∧ l.number = n ∧ ∀ m ∈ lines, MarksNodes m → n ≤ m.number
  no_marker : p.nodeMarker = none ↔ ∀ l ∈ lines, ¬ MarksNodes l
  ruleSets_sorted : p.ruleSets.Pairwise (·.line < ·.line)
  groups_sorted : p.groups.Pairwise (·.line < ·.line)
  section_of_group : ∀ g ∈ p.groups, g.kind = .node ↔ ∃ marker ∈ p.nodeMarker, marker < g.line
  /-- A line that starts like a rule-set yields a rule-set or an error. -/
  ruleSet_line : ∀ l ∈ lines, ruleSetKey <+: trim l.text →
    (∃ r name source, IsRuleSet l name source ∧ r.name = .ofList name ∧ r.source = .ofList source ∧
      yieldAt file p ds l.number = ⟨[r], [], []⟩) ∨
    (∀ name source, ¬ IsRuleSet l name source) ∧ ∃ d, IsSyntaxError d ∧
    yieldAt file p ds l.number = ⟨[], [], [d]⟩
  /-- A line that starts like a group yields a group or an error. Every separator in it begins an
  option or is warned about. -/
  group_line : ∀ l ∈ lines, ∀ payload, trim l.text = groupKey ++ payload →
    (∃ g warnings name fields, IsGroup l name fields ∧ g.name = .ofList name ∧
      yieldAt file p ds l.number = ⟨[], [g], warnings⟩ ∧ (∀ d ∈ warnings, IsFieldWarning d) ∧
      g.options.length + warnings.length = payload.count groupSeparator) ∨
    (∀ name fields, ¬ IsGroup l name fields) ∧ ∃ d, IsSyntaxError d ∧
    yieldAt file p ds l.number = ⟨[], [], [d]⟩
  /-- A line that marks nodes once more is noted. -/
  later_marker_line : ∀ l ∈ lines, MarksNodes l → (∃ marker ∈ p.nodeMarker, marker < l.number) →
    ∃ d, d.severity = .info ∧ yieldAt file p ds l.number = ⟨[], [], [d]⟩
  /-- The marker yields a warning, the last finding of all, if it leaves no group to be checked. -/
  marker_line : ∀ l ∈ lines, p.nodeMarker = some l.number →
    (OnlyNodes p ∧ ∃ d, d.severity = .warn ∧ yieldAt file p ds l.number = ⟨[], [], [d]⟩ ∧
      ds.getLast? = some d) ∨
    ¬ OnlyNodes p ∧ yieldAt file p ds l.number = ⟨[], [], []⟩
  other_line : ∀ l ∈ lines, ¬ ruleSetKey <+: trim l.text → ¬ groupKey <+: trim l.text →
    ¬ MarksNodes l →
    yieldAt file p ds l.number = ⟨[], [], []⟩
  placed_ruleSet : ∀ r ∈ p.ruleSets, ∃ l ∈ lines, r.line = l.number
  placed_group : ∀ g ∈ p.groups, ∃ l ∈ lines, g.line = l.number
  placed_finding : ∀ d ∈ ds, ∃ l ∈ lines, d.location = some ⟨file, some l.number⟩

variable {file content : String} {l : Line} {marker : Option Nat} {name : List Char}
    {fields : List (List Char)}

def lineFindings (file : String) (marker : Option Nat) (l : Line) : List Diagnostic :=
  Item.diagnostics file marker ⟨l.number, ofLine l.text⟩

theorem readingDiagnostics_eq (file content : String) :
    readingDiagnostics file content =
      (numberedLines content).flatMap (lineFindings file (ofText content).nodeMarker) ++
        markerDiagnostics file (ofText content) := by
  show (items content).flatMap _ ++ _ = _
  unfold items
  rw [List.flatMap_map]
  rfl

theorem location_of_mem_lineFindings {d : Diagnostic} (h : d ∈ lineFindings file marker l) :
    d.location = some ⟨file, some l.number⟩ := by
  obtain ⟨_, -, rfl⟩ := List.mem_map.mp h
  rfl

theorem line_of_mem_ruleSetOf? {r : RuleSet} (h : ruleSetOf? l = some r) : r.line = l.number := by
  unfold ruleSetOf? Item.ruleSet? at h
  split at h
  · rw [← Option.some.inj h]
  · contradiction

theorem line_of_mem_groupOf? {g : ProxyGroup} (h : groupOf? marker l = some g) :
    g.line = l.number := by
  obtain ⟨_, _, -, rfl⟩ := groupOf?_eq_some_iff.mp h
  rfl

theorem filter_markerDiagnostics (file : String) (p : Profile) (n : Nat) :
    (markerDiagnostics file p).filter (·.location = some ⟨file, some n⟩) =
      if p.nodeMarker = some n then markerDiagnostics file p else [] := by
  unfold markerDiagnostics
  cases p.nodeMarker with
  | none => rfl
  | some marker =>
    dsimp only
    by_cases h : marker = n
    · rw [if_pos (congrArg some h)]
      split_ifs <;> simp [Diagnostic.onLine, h]
    · rw [if_neg fun he => h (Option.some.inj he)]
      split_ifs <;> simp [Diagnostic.onLine, h]

theorem yieldAt_of_mem (hl : l ∈ numberedLines content) :
    yieldAt file (ofText content) (readingDiagnostics file content) l.number =
      ⟨(ruleSetOf? l).toList, (groupOf? (ofText content).nodeMarker l).toList,
        lineFindings file (ofText content).nodeMarker l ++
          if (ofText content).nodeMarker = some l.number then
            markerDiagnostics file (ofText content) else []⟩ := by
  have hsorted := numberedLines_pairwise content
  unfold yieldAt
  congr 1
  · rw [ruleSets_ofText, List.filterMap_eq_flatMap_toList]
    refine filter_flatMap_of_mem hsorted (fun n (r : RuleSet) => r.line = n) ?_ hl
    intro m r hr n
    rw [decide_eq_true_eq, line_of_mem_ruleSetOf? (Option.mem_toList.mp hr)]
  · rw [groups_ofText, List.filterMap_eq_flatMap_toList]
    refine filter_flatMap_of_mem hsorted (fun n (g : ProxyGroup) => g.line = n) ?_ hl
    intro m g hg n
    rw [decide_eq_true_eq, line_of_mem_groupOf? (Option.mem_toList.mp hg)]
  · rw [readingDiagnostics_eq, List.filter_append, filter_markerDiagnostics]
    congr 1
    refine filter_flatMap_of_mem hsorted
      (fun n (d : Diagnostic) => d.location = some ⟨file, some n⟩) ?_ hl
    intro m d hd n
    rw [decide_eq_true_eq, location_of_mem_lineFindings hd]
    simp

theorem marksNodes_of_nodeMarker_eq (hl : l ∈ numberedLines content)
    (h : (ofText content).nodeMarker = some l.number) :
    MarksNodes l := by
  obtain ⟨m, hm, hmarks, hnumber, -⟩ := nodeMarker_eq_some_iff.mp h
  obtain rfl : m = l := eq_of_number_eq hm hl hnumber
  exact hmarks

theorem exists_says_yieldAt (file : String) (hl : l ∈ numberedLines content) (h : ¬ MarksNodes l) :
    ∃ statement, Says l statement ∧
      yieldAt file (ofText content) (readingDiagnostics file content) l.number =
      ⟨(Item.ruleSet? ⟨l.number, statement⟩).toList,
        (Item.group? (ofText content).nodeMarker ⟨l.number, statement⟩).toList,
        Item.diagnostics file (ofText content).nodeMarker ⟨l.number, statement⟩⟩ := by
  have hmarker : (ofText content).nodeMarker ≠ some l.number :=
    mt (marksNodes_of_nodeMarker_eq hl) h
  refine ⟨ofLine l.text, says_ofLine l, ?_⟩
  rw [yieldAt_of_mem hl, if_neg hmarker, List.append_nil]
  rfl

theorem yieldAt_ruleSet_line (hl : l ∈ numberedLines content) (key : ruleSetKey <+: trim l.text) :
    (∃ r name source, IsRuleSet l name source ∧ r.name = .ofList name ∧ r.source = .ofList source ∧
      yieldAt file (ofText content) (readingDiagnostics file content) l.number = ⟨[r], [], []⟩) ∨
    (∀ name source, ¬ IsRuleSet l name source) ∧ ∃ d, IsSyntaxError d ∧
      yieldAt file (ofText content) (readingDiagnostics file content) l.number = ⟨[], [], [d]⟩ := by
  obtain ⟨statement, hsays, hyield⟩ :=
    exists_says_yieldAt file hl (not_marksNodes_of_ruleSetKey key)
  rw [hyield]
  cases hsays with
  | ruleSet h => exact .inl ⟨_, _, _, h, rfl, rfl, rfl⟩
  | unsourced _ h => exact .inr ⟨h, _, ⟨rfl, rfl⟩, rfl⟩
  | unnamedRuleSet _ h => exact .inr ⟨h, _, ⟨rfl, rfl⟩, rfl⟩
  | group h => exact (not_groupKey_of_ruleSetKey key h.key).elim
  | unnamedGroup hg => exact (not_groupKey_of_ruleSetKey key hg).elim
  | nodeMarker h => exact (not_marksNodes_of_ruleSetKey key h).elim
  | other h => contradiction

/-- Every field behind the name is an option, or it is empty. -/
theorem length_options_add_length_emptyFields (fields : List (List Char)) :
    ((fields.filter (· ≠ [])).map optionOfField).length + (emptyFields fields).length =
      fields.length := by
  have hempty : (emptyFields fields).length = fields.countP (· = []) := by
    conv_rhs => rw [← List.zipIdx_map_fst 1 fields]
    unfold emptyFields
    rw [List.length_map, ← List.countP_eq_length_filter, List.countP_map]
    rfl
  rw [List.length_map, ← List.countP_eq_length_filter, hempty, Nat.add_comm,
    List.length_eq_countP_add_countP (fun f : List Char => decide (f = []))]
  simp

theorem yieldAt_group_line (hl : l ∈ numberedLines content) {payload : List Char}
    (hp : trim l.text = groupKey ++ payload) :
    (∃ g warnings name fields, IsGroup l name fields ∧ g.name = .ofList name ∧
      yieldAt file (ofText content) (readingDiagnostics file content) l.number =
        ⟨[], [g], warnings⟩ ∧
      (∀ d ∈ warnings, IsFieldWarning d) ∧
      g.options.length + warnings.length = payload.count groupSeparator) ∨
    (∀ name fields, ¬ IsGroup l name fields) ∧ ∃ d, IsSyntaxError d ∧
      yieldAt file (ofText content) (readingDiagnostics file content) l.number = ⟨[], [], [d]⟩ := by
  have key : groupKey <+: trim l.text := ⟨payload, hp.symm⟩
  obtain ⟨statement, hsays, hyield⟩ := exists_says_yieldAt file hl (not_marksNodes_of_groupKey key)
  rw [hyield]
  cases hsays with
  | @group name fields h =>
    refine .inl ⟨_, _, name, fields, h, rfl, rfl, ?_, ?_⟩
    · intro d hd
      obtain ⟨_, hsaid, rfl⟩ := List.mem_map.mp hd
      obtain ⟨position, -, rfl⟩ := List.mem_map.mp hsaid
      exact ⟨rfl, rfl⟩
    · obtain ⟨payload', hp', hfields⟩ := h.spelled
      obtain rfl := List.append_cancel_left (hp.symm.trans hp')
      have hcount := congrArg List.length hfields
      unfold groupFields at hcount
      rw [List.length_map, length_fields, List.length_cons] at hcount
      rw [Nat.succ.inj hcount, ← length_options_add_length_emptyFields fields]
      unfold Item.diagnostics
      simp only [List.length_map]
  | unnamedGroup _ h => exact .inr ⟨h, _, ⟨rfl, rfl⟩, rfl⟩
  | ruleSet h => exact (not_groupKey_of_ruleSetKey h.key key).elim
  | unsourced hr => exact (not_groupKey_of_ruleSetKey hr key).elim
  | unnamedRuleSet hr => exact (not_groupKey_of_ruleSetKey hr key).elim
  | nodeMarker h => exact (not_marksNodes_of_groupKey key h).elim
  | other _ h => contradiction

theorem yieldAt_other_line (hl : l ∈ numberedLines content) (hr : ¬ ruleSetKey <+: trim l.text)
    (hg : ¬ groupKey <+: trim l.text) (h : ¬ MarksNodes l) :
    yieldAt file (ofText content) (readingDiagnostics file content) l.number = ⟨[], [], []⟩ := by
  obtain ⟨statement, hsays, hyield⟩ := exists_says_yieldAt file hl h
  rw [hyield]
  cases hsays with
  | other => rfl
  | nodeMarker => contradiction
  | ruleSet h => exact (hr h.key).elim
  | group h => exact (hg h.key).elim
  | unsourced key | unnamedRuleSet key | unnamedGroup key => contradiction

theorem yieldAt_marker (hl : l ∈ numberedLines content) (h : MarksNodes l) :
    yieldAt file (ofText content) (readingDiagnostics file content) l.number =
      ⟨[], [], lineFindings file (ofText content).nodeMarker l ++
          if (ofText content).nodeMarker = some l.number then
            markerDiagnostics file (ofText content) else []⟩ := by
  rw [yieldAt_of_mem hl]
  unfold ruleSetOf? groupOf?
  rw [ofLine_eq_nodeMarker_iff.mpr h]
  rfl

theorem yieldAt_later_marker_line (hl : l ∈ numberedLines content) (h : MarksNodes l)
    (hlater : ∃ marker ∈ (ofText content).nodeMarker, marker < l.number) :
    ∃ d, d.severity = .info ∧
      yieldAt file (ofText content) (readingDiagnostics file content) l.number = ⟨[], [], [d]⟩ := by
  obtain ⟨marker, hmarker, hlt⟩ := hlater
  have hne : (ofText content).nodeMarker ≠ some l.number := by
    rw [Option.mem_def.mp hmarker]
    exact fun he => Nat.ne_of_lt hlt (Option.some.inj he)
  rw [yieldAt_marker hl h, if_neg hne]
  unfold lineFindings Item.diagnostics
  rw [ofLine_eq_nodeMarker_iff.mpr h, Option.mem_def.mp hmarker]
  dsimp only
  rw [if_pos hlt]
  exact ⟨_, rfl, rfl⟩

theorem onlyNodes_iff {p : Profile} : OnlyNodes p ↔ p.groups ≠ [] ∧ p.selectors = [] := by
  unfold OnlyNodes selectors
  simp

theorem yieldAt_marker_line (hl : l ∈ numberedLines content)
    (h : (ofText content).nodeMarker = some l.number) :
    (OnlyNodes (ofText content) ∧ ∃ d, d.severity = .warn ∧
      yieldAt file (ofText content) (readingDiagnostics file content) l.number = ⟨[], [], [d]⟩ ∧
      (readingDiagnostics file content).getLast? = some d) ∨
    ¬ OnlyNodes (ofText content) ∧
      yieldAt file (ofText content) (readingDiagnostics file content) l.number = ⟨[], [], []⟩ := by
  have hmarks := marksNodes_of_nodeMarker_eq hl h
  have hfirst : lineFindings file (ofText content).nodeMarker l = [] := by
    unfold lineFindings Item.diagnostics
    rw [ofLine_eq_nodeMarker_iff.mpr hmarks, h]
    dsimp only
    rw [if_neg (Nat.lt_irrefl _)]
    rfl
  rw [yieldAt_marker hl hmarks, if_pos h, hfirst, List.nil_append, readingDiagnostics_eq,
    onlyNodes_iff]
  unfold markerDiagnostics
  rw [h]
  dsimp only
  split_ifs with hnodes
  · exact .inl ⟨hnodes, _, rfl, rfl, List.getLast?_concat⟩
  · exact .inr ⟨hnodes, rfl⟩

theorem line_of_mem_markerDiagnostics {p : Profile} {d : Diagnostic}
    (h : d ∈ markerDiagnostics file p) :
    ∃ marker, p.nodeMarker = some marker ∧ d.location = some ⟨file, some marker⟩ := by
  unfold markerDiagnostics at h
  split at h
  · rename_i marker hmarker
    split at h
    · rw [List.mem_singleton.mp h]
      exact ⟨marker, hmarker, rfl⟩
    · contradiction
  · contradiction

theorem exists_line_of_mem_readingDiagnostics {d : Diagnostic}
    (h : d ∈ readingDiagnostics file content) :
    ∃ l ∈ numberedLines content, d.location = some ⟨file, some l.number⟩ := by
  rw [readingDiagnostics_eq] at h
  rcases List.mem_append.mp h with h | h
  · obtain ⟨l, hl, hd⟩ := List.mem_flatMap.mp h
    exact ⟨l, hl, location_of_mem_lineFindings hd⟩
  · obtain ⟨marker, hmarker, hplace⟩ := line_of_mem_markerDiagnostics h
    obtain ⟨l, hl, -, rfl, -⟩ := nodeMarker_eq_some_iff.mp hmarker
    exact ⟨l, hl, hplace⟩

theorem ruleSets_pairwise (content : String) :
    (ofText content).ruleSets.Pairwise (·.line < ·.line) := by
  rw [ruleSets_ofText, List.pairwise_filterMap]
  apply (numberedLines_pairwise content).imp
  intro l l' hlt r hr r' hr'
  rw [line_of_mem_ruleSetOf? hr, line_of_mem_ruleSetOf? hr']
  exact hlt

theorem groups_pairwise (content : String) :
    (ofText content).groups.Pairwise (·.line < ·.line) := by
  rw [groups_ofText, List.pairwise_filterMap]
  apply (numberedLines_pairwise content).imp
  intro l l' hlt g hg g' hg'
  rw [line_of_mem_groupOf? hg, line_of_mem_groupOf? hg']
  exact hlt

/-- What is read from a profile accounts for its lines. -/
theorem accounts_ofText (file content : String) :
    Accounts file (numberedLines content) (ofText content) (readingDiagnostics file content) where
  marker _ := nodeMarker_eq_some_iff
  no_marker := nodeMarker_eq_none_iff
  ruleSets_sorted := ruleSets_pairwise content
  groups_sorted := groups_pairwise content
  section_of_group := by
    intro g hg
    obtain ⟨l, -, _, _, -, rfl⟩ := mem_groups_ofText.mp hg
    exact kindAt_eq_node_iff.trans exists_nodeMarker_lt_iff.symm
  ruleSet_line _ := yieldAt_ruleSet_line
  group_line _ hl _ := yieldAt_group_line hl
  later_marker_line _ := yieldAt_later_marker_line
  marker_line _ := yieldAt_marker_line
  other_line _ := yieldAt_other_line
  placed_ruleSet := by
    intro r hr
    obtain ⟨l, hl, _, _, -, -, -, hline⟩ := isRuleSet_of_mem_ruleSets hr
    exact ⟨l, hl, hline⟩
  placed_group := by
    intro g hg
    obtain ⟨l, hl, _, _, -, rfl⟩ := mem_groups_ofText.mp hg
    exact ⟨l, hl, rfl⟩
  placed_finding _ := exists_line_of_mem_readingDiagnostics

end RuleLint.Profile
