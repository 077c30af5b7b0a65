import Mathlib.Data.List.Pairwise
import RuleLint.Profile.Checks
import RuleLint.Proofs.LineIndex
import RuleLint.Proofs.Lint.Classes
import RuleLint.Proofs.Profile.Entries
import RuleLint.Proofs.Severity

namespace RuleLint.Profile

open Text Statement

variable {file content : String} {l : Line}

def Statement.isFault : Statement → Bool
  | .unsourced _ | .unnamedRuleSet | .unnamedGroup => true
  | .nodeMarker | .ruleSet .. | .group .. | .other => false

theorem errorFree_item {marker : Option Nat} {item : Item} :
    ErrorFree (item.diagnostics file marker) ↔ item.statement.isFault = false := by
  obtain ⟨line, statement⟩ := item
  unfold Item.diagnostics
  rw [errorFree_map]
  cases statement with
  | nodeMarker =>
    refine iff_of_true (fun d hd => ?_) rfl
    cases marker with
    | none => contradiction
    | some first =>
      dsimp only at hd
      split_ifs at hd
      · rw [List.mem_singleton.mp hd]
        exact nofun
      · contradiction
  | group name fields =>
    refine iff_of_true (fun d hd => ?_) rfl
    obtain ⟨position, -, rfl⟩ := List.mem_map.mp hd
    exact nofun
  | ruleSet | other => exact iff_of_true nofun rfl
  | unsourced | unnamedRuleSet | unnamedGroup =>
    exact iff_of_false (fun h => h _ (List.mem_singleton_self _) rfl) nofun

structure LineComplete (l : Line) : Prop where
  ruleSet : ruleSetKey <+: trim l.text → ∃ name source, IsRuleSet l name source
  group : groupKey <+: trim l.text → ∃ name fields, IsGroup l name fields

theorem isFault_ofLine_iff : (ofLine l.text).isFault = false ↔ LineComplete l := by
  have hsays := says_ofLine l
  generalize ofLine l.text = statement at hsays
  cases hsays with
  | ruleSet h =>
    exact iff_of_true rfl ⟨fun _ => ⟨_, _, h⟩, fun hg => (not_groupKey_of_ruleSetKey h.key hg).elim⟩
  | group h =>
    exact iff_of_true rfl ⟨fun hr => (not_groupKey_of_ruleSetKey hr h.key).elim, fun _ => ⟨_, _, h⟩⟩
  | unsourced key h | unnamedRuleSet key h =>
    apply iff_of_false nofun
    intro hcomplete
    obtain ⟨name, source, hr⟩ := hcomplete.ruleSet key
    exact h name source hr
  | unnamedGroup key h =>
    apply iff_of_false nofun
    intro hcomplete
    obtain ⟨name, fields, hg⟩ := hcomplete.group key
    exact h name fields hg
  | nodeMarker h =>
    exact iff_of_true rfl ⟨fun hr => (not_marksNodes_of_ruleSetKey hr h).elim,
      fun hg => (not_marksNodes_of_groupKey hg h).elim⟩
  | other hr hg => exact iff_of_true rfl ⟨fun h => (hr h).elim, fun h => (hg h).elim⟩

theorem errorFree_readingDiagnostics :
    ErrorFree (readingDiagnostics file content) ↔ ∀ l ∈ numberedLines content, LineComplete l := by
  have hmarker (p : Profile) : ErrorFree (markerDiagnostics file p) := by
    intro d hd h
    have hclass := congrArg Prod.fst (classOf_markerDiagnostics hd)
    exact Severity.noConfusion (h.symm.trans hclass)
  unfold readingDiagnostics items
  dsimp only
  rw [errorFree_append, and_iff_left (hmarker _), errorFree_flatMap, List.forall_mem_map]
  exact forall₂_congr fun l _ => errorFree_item.trans isFault_ofLine_iff

theorem errorFree_checkNames {p : Profile} :
    ErrorFree (p.checkNames file) ↔ (p.groups.map ProxyGroup.name).Nodup := by
  unfold checkNames
  rw [errorFree_append]
  refine (and_iff_right (errorFree_map.mpr nofun)).trans ?_
  rw [errorFree_iff_eq_nil, List.map_eq_nil_iff, groupLines, LineIndex.repeated_ofList_eq_nil_iff,
    List.map_map]
  · rfl
  · intro d hd
    obtain ⟨_, -, rfl⟩ := List.mem_map.mp hd
    rfl

theorem name_groupOf?_iff {marker : Option Nat} {b : String} :
    b ∈ (groupOf? marker l).map ProxyGroup.name ↔
      ∃ name fields, IsGroup l name fields ∧ b = .ofList name := by
  rw [Option.mem_def, Option.map_eq_some_iff]
  constructor
  · rintro ⟨g, hg, rfl⟩
    obtain ⟨name, fields, hgroup, rfl⟩ := groupOf?_eq_some_iff.mp hg
    exact ⟨name, fields, hgroup, rfl⟩
  · rintro ⟨name, fields, hgroup, rfl⟩
    exact ⟨_, groupOf?_eq_some_iff.mpr ⟨name, fields, hgroup, rfl⟩, rfl⟩

/-- The names of groups differ exactly if no two lines are groups of one name. -/
theorem nodup_name_groups_iff :
    ((ofText content).groups.map ProxyGroup.name).Nodup ↔
      ∀ l ∈ numberedLines content, ∀ l' ∈ numberedLines content, ∀ name fields fields',
        IsGroup l name fields → IsGroup l' name fields' → l = l' := by
  rw [groups_ofText, List.map_filterMap, List.Nodup, List.pairwise_filterMap]
  constructor
  · intro h l hl l' hl' name fields fields' hg hg'
    by_contra hne
    have : Std.Symm fun l l' : Line =>
        ∀ b, (groupOf? (ofText content).nodeMarker l).map ProxyGroup.name = some b →
          ∀ b', (groupOf? (ofText content).nodeMarker l').map ProxyGroup.name = some b' → b ≠ b' :=
      ⟨fun _ _ hdiff b hb b' hb' => (hdiff b' hb' b hb).symm⟩
    exact h.forall hl hl' hne _ (name_groupOf?_iff.mpr ⟨name, fields, hg, rfl⟩) _
      (name_groupOf?_iff.mpr ⟨name, fields', hg', rfl⟩) rfl
  · intro h
    -- Lines at different places have different numbers.
    apply (numberedLines_pairwise content).imp_of_mem
    intro l l' hl hl' hlt b hb b' hb' heq
    obtain ⟨name, fields, hg, rfl⟩ := name_groupOf?_iff.mp hb
    obtain ⟨name', fields', hg', rfl⟩ := name_groupOf?_iff.mp hb'
    obtain rfl := String.ofList_inj.mp heq
    rw [h l hl l' hl' name fields fields' hg hg'] at hlt
    exact Nat.lt_irrefl _ hlt

/-- What a group may refer to: a reserved action, a rule-set anywhere or a group in the node
section. -/
def Known (content : String) (name : List Char) : Prop :=
  String.ofList name ∈ ["DIRECT", "REJECT", "NULL", "FINAL"] ∨
    (∃ l ∈ numberedLines content, ∃ source, IsRuleSet l name source) ∨
    ∃ l ∈ numberedLines content, InNodeSection content l ∧ ∃ fields, IsGroup l name fields

theorem resolves_iff {p : Profile} {name : String} :
    p.knownNames.resolves name = true ↔
      name ∈ reservedActions ∨ (∃ r ∈ p.ruleSets, r.name = name) ∨
      ∃ g ∈ p.nodes, g.name = name := by
  unfold KnownNames.resolves knownNames
  simp only [Bool.or_eq_true, decide_eq_true_eq, Std.ExtTreeSet.contains_ofList,
    List.contains_iff_mem, List.mem_map]
  rw [or_right_comm, or_assoc]

theorem exists_ruleSet_named_iff {placed : Nat → Prop} {name : List Char} :
    (∃ r ∈ (ofText content).ruleSets, placed r.line ∧ r.name = .ofList name) ↔
      ∃ l ∈ numberedLines content, placed l.number ∧ ∃ source, IsRuleSet l name source := by
  constructor
  · rintro ⟨r, hr, hplaced, hname⟩
    obtain ⟨l, hl, name', source, h, hname', -, hline⟩ := isRuleSet_of_mem_ruleSets hr
    obtain rfl := String.ofList_inj.mp (hname.symm.trans hname')
    exact ⟨l, hl, hline ▸ hplaced, source, h⟩
  · rintro ⟨l, hl, hplaced, source, h⟩
    obtain ⟨r, hr, hname, -, hline⟩ := exists_ruleSet_of_isRuleSet hl h
    exact ⟨r, hr, hline ▸ hplaced, hname⟩

theorem exists_node_named_iff {placed : Nat → Prop} {name : List Char} :
    (∃ g ∈ (ofText content).nodes, placed g.line ∧ g.name = .ofList name) ↔
      ∃ l ∈ numberedLines content, placed l.number ∧ InNodeSection content l ∧
      ∃ fields, IsGroup l name fields := by
  unfold nodes
  constructor
  · rintro ⟨g, hg, hplaced, hname⟩
    obtain ⟨hg, hkind⟩ := List.mem_filter.mp hg
    obtain ⟨l, hl, name', fields, h, rfl⟩ := mem_groups_ofText.mp hg
    obtain rfl := String.ofList_inj.mp hname
    exact ⟨l, hl, hplaced, kindAt_eq_node_iff.mp (of_decide_eq_true hkind), fields, h⟩
  · rintro ⟨l, hl, hplaced, hsection, fields, h⟩
    refine ⟨_, List.mem_filter.mpr ⟨mem_groups_ofText.mpr ⟨l, hl, name, fields, h, rfl⟩, ?_⟩,
      hplaced, rfl⟩
    exact decide_eq_true (kindAt_eq_node_iff.mpr hsection)

theorem resolves_ofText_iff {name : List Char} :
    (ofText content).knownNames.resolves (.ofList name) = true ↔ Known content name := by
  have hruleSets := @exists_ruleSet_named_iff content (fun _ => True) name
  have hnodes := @exists_node_named_iff content (fun _ => True) name
  simp only [true_and] at hruleSets hnodes
  rw [resolves_iff, hruleSets, hnodes]
  rfl

theorem errorFree_checkReferences {p : Profile} :
    ErrorFree (p.checkReferences file) ↔
      ∀ g ∈ p.selectors, ∀ name ∈ g.references, p.knownNames.resolves name = true := by
  unfold checkReferences
  rw [errorFree_flatMap]
  apply forall₂_congr
  intro g _
  rw [errorFree_iff_eq_nil, List.map_eq_nil_iff, List.filter_eq_nil_iff]
  · simp
  · intro d hd
    obtain ⟨_, -, rfl⟩ := List.mem_map.mp hd
    rfl

def Resolved (content : String) : Prop :=
  ∀ l ∈ numberedLines content, ¬ InNodeSection content l → ∀ name fields, IsGroup l name fields →
    ∀ ref, '[' :: ']' :: ref ∈ fields → Known content ref

theorem mem_references_iff {g : ProxyGroup} {name : String} :
    name ∈ g.references ↔ .reference name ∈ g.options := by
  unfold ProxyGroup.references
  rw [List.mem_filterMap]
  constructor
  · rintro ⟨option, hm, ho⟩
    cases option with
    | reference other =>
      obtain rfl := Option.some.inj ho
      exact hm
    | literal => contradiction
  · exact fun hm => ⟨_, hm, rfl⟩

theorem errorFree_checkReferences_ofText :
    ErrorFree ((ofText content).checkReferences file) ↔ Resolved content := by
  rw [errorFree_checkReferences]
  unfold selectors Resolved
  constructor
  · intro h l hl hsection name fields hgroup ref href
    have hg := mem_groups_ofText.mpr ⟨l, hl, name, fields, hgroup, rfl⟩
    have hkind := decide_eq_true (kindAt_eq_selector_iff.mpr hsection)
    exact resolves_ofText_iff.mp
      (h _ (List.mem_filter.mpr ⟨hg, hkind⟩) _
        (mem_references_iff.mpr (reference_mem_iff.mpr href)))
  · intro h g hg name href
    obtain ⟨hg, hkind⟩ := List.mem_filter.mp hg
    obtain ⟨l, hl, gname, fields, hgroup, rfl⟩ := mem_groups_ofText.mp hg
    have hsection := kindAt_eq_selector_iff.mp (of_decide_eq_true hkind)
    rw [← String.ofList_toList (s := name)] at href ⊢
    exact resolves_ofText_iff.mpr
      (h l hl hsection gname fields hgroup _ (reference_mem_iff.mp (mem_references_iff.mp href)))

/-- A profile as it should be, if `accepts` tells which sources are. -/
structure WellFormed (accepts : String → Prop) (content : String) : Prop where
  complete : ∀ l ∈ numberedLines content, LineComplete l
  different : ∀ l ∈ numberedLines content, ∀ l' ∈ numberedLines content, ∀ name fields fields',
    IsGroup l name fields → IsGroup l' name fields' → l = l'
  resolved : Resolved content
  sources : ∀ l ∈ numberedLines content, ∀ name source, IsRuleSet l name source →
    accepts (.ofList source)

theorem forall_source_iff {accepts : String → Prop} :
    (∀ r ∈ (ofText content).ruleSets, accepts r.source) ↔
      ∀ l ∈ numberedLines content, ∀ name source, IsRuleSet l name source →
      accepts (.ofList source) := by
  constructor
  · intro h l hl name source hr
    obtain ⟨r, hm, -, hsource, -⟩ := exists_ruleSet_of_isRuleSet hl hr
    rw [← hsource]
    exact h r hm
  · intro h r hm
    obtain ⟨l, hl, name, source, hr, -, hsource, -⟩ := isRuleSet_of_mem_ruleSets hm
    rw [hsource]
    exact h l hl name source hr

end RuleLint.Profile
