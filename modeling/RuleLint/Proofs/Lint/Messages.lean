import RuleLint.Proofs.FileTree.Following
import RuleLint.Proofs.Profile.Accounts
import RuleLint.Proofs.Profile.Errors
import RuleLint.Proofs.Rule.Repeated
import RuleLint.Proofs.Rule.Table
import RuleLint.Proofs.Source.Findings
import RuleLint.Proofs.Text.SingleLine
import RuleLint.Proofs.Url.Scheme

namespace RuleLint

open Text

variable {file content : String} {d : Diagnostic}

theorem singleLine_showLines (lines : List Nat) : SingleLine (LineIndex.showLines lines) := by
  refine singleLine_intercalate (by decide) ?_
  intro p hp
  obtain ⟨n, -, rfl⟩ := List.mem_map.mp hp
  exact singleLine_toString n

namespace Rule

theorem Finding.singleLine_diagnostic (f : Finding) {rule : String} (h : SingleLine rule) :
    SingleLine (f.diagnostic rule).message := by
  cases f <;>
    simp +decide only [diagnostic, Diagnostic.error, Diagnostic.warn, Diagnostic.withKind,
      singleLine_append, h, and_self]

theorem singleLine_checkFile (h : d ∈ checkFile file content) : SingleLine d.message := by
  obtain ⟨l, hl, hd⟩ := List.mem_flatMap.mp h
  obtain ⟨f, -, rfl⟩ := List.mem_map.mp hd
  exact f.singleLine_diagnostic (singleLine_ofLine hl)

theorem singleLine_repeatedDiagnostic? (h : repeatedDiagnostic? file content = some d) :
    SingleLine d.message := by
  have hrender : ∀ r ∈ repeated content, SingleLine r.render := by
    intro r hr
    rw [repeated_eq] at hr
    obtain ⟨e, he, hr⟩ := List.mem_filterMap.mp hr
    have hmem : e.rule ∈ rules content := by
      rw [← map_rule_entries]
      exact List.mem_map_of_mem he
    have hrule : SingleLine e.rule := singleLine_of_mem_rules hmem
    split_ifs at hr
    rw [← Option.some.inj hr]
    simp +decide only [Repeated.render, singleLine_append, hrule, singleLine_showLines, and_self]
  unfold repeatedDiagnostic? at h
  split at h
  · contradiction
  · rw [← Option.some.inj h]
    have hall := singleLine_intercalate (a := ", ") (by decide) (List.forall_mem_map.mpr hrender)
    simp +decide only [Diagnostic.inFile, Diagnostic.error, singleLine_append, singleLine_toString,
      hall, and_self]

namespace DuplicateIndex

theorem hanging_report? {index : DuplicateIndex}
    (hnotes : ∀ name rule, index.Notes name rule → SingleLine name ∧ SingleLine rule)
    (h : index.report? = some d) : Hanging d.message := by
  have hne : index.duplicates ≠ [] := by
    intro hnone
    rw [report?_eq_none_iff.mpr hnone] at h
    contradiction
  rw [report?_of_ne_nil hne] at h
  obtain rfl := Option.some.inj h
  refine hanging_append_join (singleLine_header _) (List.forall_mem_map.mpr fun e he => ?_)
  exact ⟨singleLine_tableRow (singleLine_of_mem_duplicates hnotes he) _, prefix_tableRow _ e⟩

end DuplicateIndex

end Rule

namespace Profile

/-- The texts of a statement that messages may quote. -/
def Statement.texts : Statement → List (List Char)
  | .ruleSet name source _ => [name, source]
  | .unsourced name => [name]
  | .group name fields => name :: fields
  | .nodeMarker | .unnamedRuleSet | .unnamedGroup | .other => []

variable {payload t : List Char} {l : Line} {marker : Option Nat}

theorem subset_of_mem_groupFields (h : t ∈ groupFields payload) : t ⊆ payload := by
  obtain ⟨f, hf, rfl⟩ := List.mem_map.mp h
  exact List.Subset.trans (trim_subset f) (subset_of_mem_fields hf)

namespace Statement

theorem texts_ofGroup (h : t ∈ (ofGroup payload).texts) : t ⊆ payload := by
  obtain ⟨name, fields, hfields⟩ := List.exists_cons_of_ne_nil (groupFields_ne_nil payload)
  rw [ofGroup_of_fields hfields] at h
  split_ifs at h
  · contradiction
  · apply subset_of_mem_groupFields
    rw [hfields]
    exact h

theorem sourceOf_subset (value : List Char) : sourceOf value ⊆ value := by
  unfold sourceOf
  split_ifs
  · exact List.Subset.refl _
  · exact List.Subset.trans (trim_subset _) (List.takeWhile_prefix _).subset

theorem texts_ofRuleSet (h : t ∈ (ofRuleSet payload).texts) : t ⊆ payload := by
  by_cases hcomma : ',' ∈ payload
  · obtain ⟨before, after, rfl, hbefore⟩ := List.eq_append_cons_of_mem hcomma
    have hname : trim before ⊆ before ++ ',' :: after :=
      List.Subset.trans (trim_subset before) (List.subset_append_left _ _)
    have hvalue : trim after ⊆ before ++ ',' :: after :=
      List.Subset.trans (trim_subset after)
        (List.subset_append_of_subset_right _ (List.subset_cons_self _ _))
    have hsource : sourceOf (trim after) ⊆ before ++ ',' :: after :=
      List.Subset.trans (sourceOf_subset _) hvalue
    have hparts : NamesSource (before ++ ',' :: after) (trim before) (sourceOf (trim after)) :=
      ⟨before, after, rfl, hbefore, rfl, rfl⟩
    rcases ofRuleSet_of_namesSource hparts with ⟨-, -, extra, hset⟩ | ⟨-, hset⟩ | ⟨-, hset⟩
    · rw [hset] at h
      rcases List.mem_cons.mp h with rfl | h
      · exact hname
      · rw [List.mem_singleton.mp h]
        exact hsource
    · rw [hset] at h
      contradiction
    · rw [hset] at h
      rw [List.mem_singleton.mp h]
      exact hname
  · rw [ofRuleSet_of_not_mem hcomma] at h
    rw [List.mem_singleton.mp h]
    exact trim_subset payload

theorem texts_ofLine {line : List Char} (h : t ∈ (ofLine line).texts) : t ⊆ line := by
  have hrest {word payload : List Char} (hpayload : rest? word (trim line) = some payload) :
      payload ⊆ line := by
    have hsuffix : payload <:+ trim line := ⟨word, (rest?_eq_some_iff.mp hpayload).symm⟩
    exact List.Subset.trans hsuffix.subset (trim_subset line)
  unfold ofLine at h
  dsimp only at h
  split_ifs at h
  · contradiction
  · contradiction
  · split at h
    · exact List.Subset.trans (texts_ofRuleSet h) (hrest (by assumption))
    · exact List.Subset.trans (texts_ofGroup h) (hrest (by assumption))
    · contradiction

end Statement

theorem singleLine_of_mem_texts (hl : l ∈ numberedLines content)
    (ht : t ∈ (Statement.ofLine l.text).texts) :
    SingleLine (.ofList t) :=
  singleLine_ofList.mpr fun hfeed => feed_notMem_text hl (Statement.texts_ofLine ht hfeed)

theorem singleLine_ruleSet {r : RuleSet} (h : r ∈ (ofText content).ruleSets) :
    SingleLine r.name ∧ SingleLine r.source := by
  obtain ⟨l, hl, name, source, hr, hname, hsource, -⟩ := isRuleSet_of_mem_ruleSets h
  obtain ⟨extra, hline⟩ := Statement.ofLine_of_isRuleSet hr
  have htexts : ∀ t ∈ [name, source], SingleLine (.ofList t) := by
    intro t ht
    apply singleLine_of_mem_texts hl
    rw [hline]
    exact ht
  rw [hname, hsource]
  exact ⟨htexts name List.mem_cons_self, htexts source (List.mem_cons_of_mem _ List.mem_cons_self)⟩

theorem singleLine_group {g : ProxyGroup} (h : g ∈ (ofText content).groups) :
    SingleLine g.name ∧ ∀ name ∈ g.references, SingleLine name := by
  obtain ⟨l, hl, name, fields, hg, rfl⟩ := mem_groups_ofText.mp h
  have htexts : ∀ t ∈ name :: fields, SingleLine (.ofList t) := by
    intro t ht
    apply singleLine_of_mem_texts hl
    rw [Statement.ofLine_of_isGroup hg]
    exact ht
  refine ⟨htexts name List.mem_cons_self, ?_⟩
  intro ref href
  obtain ⟨field, hfield, hoption⟩ := List.mem_map.mp (mem_references_iff.mp href)
  have hsingle := htexts field (List.mem_cons_of_mem _ (List.mem_of_mem_filter hfield))
  unfold optionOfField at hoption
  split at hoption
  · rename_i spelled hspelled
    rw [← GroupOption.reference.inj hoption]
    refine singleLine_ofList.mpr fun hfeed => singleLine_ofList.mp hsingle ?_
    rw [rest?_eq_some_iff.mp hspelled]
    exact List.mem_append_right _ hfeed
  · contradiction

theorem singleLine_lineFindings (hl : l ∈ numberedLines content)
    (h : d ∈ lineFindings file marker l) :
    SingleLine d.message := by
  have htexts {t : List Char} (ht : t ∈ (Statement.ofLine l.text).texts) : SingleLine (.ofList t) :=
    singleLine_of_mem_texts hl ht
  obtain ⟨said, hsaid, rfl⟩ := List.mem_map.mp h
  show SingleLine said.message
  cases hs : Statement.ofLine l.text with
  | nodeMarker =>
    simp only [hs] at hsaid
    cases marker with
    | none => contradiction
    | some first =>
      dsimp only at hsaid
      split at hsaid
      · rw [List.mem_singleton.mp hsaid]
        exact .append (by decide) (singleLine_toString first)
      · contradiction
  | group name fields =>
    rw [hs] at htexts
    simp only [hs] at hsaid
    obtain ⟨position, -, rfl⟩ := List.mem_map.mp hsaid
    have hname := htexts (t := name) List.mem_cons_self
    simp +decide only [Diagnostic.warn, Diagnostic.withKind, singleLine_append, singleLine_toString,
      hname, and_self]
  | unsourced name =>
    rw [hs] at htexts
    simp only [hs] at hsaid
    rw [List.mem_singleton.mp hsaid]
    have hname := htexts (t := name) List.mem_cons_self
    simp +decide only [Diagnostic.error, singleLine_append, hname, and_self]
  | unnamedRuleSet | unnamedGroup =>
    simp only [hs] at hsaid
    rw [List.mem_singleton.mp hsaid]
    decide
  | ruleSet | other =>
    simp only [hs] at hsaid
    contradiction

theorem singleLine_readingDiagnostics (h : d ∈ readingDiagnostics file content) :
    SingleLine d.message := by
  rw [readingDiagnostics_eq] at h
  rcases List.mem_append.mp h with h | h
  · obtain ⟨l, hl, hd⟩ := List.mem_flatMap.mp h
    exact singleLine_lineFindings hl hd
  · unfold markerDiagnostics at h
    split at h
    · rename_i marker _
      split_ifs at h
      · rw [List.mem_singleton.mp h]
        simp +decide only [Diagnostic.warn, Diagnostic.withKind, Diagnostic.onLine,
          singleLine_append, singleLine_toString, and_self]
      · contradiction
    · contradiction

theorem singleLine_checkNames (h : d ∈ (ofText content).checkNames file) :
    SingleLine d.message := by
  rcases List.mem_append.mp h with h | h
  · obtain ⟨⟨name, lines⟩, hrepeated, rfl⟩ := List.mem_map.mp h
    obtain ⟨r, hr, rfl⟩ := LineIndex.exists_of_mem_repeated hrepeated
    have hname : SingleLine r.name := (singleLine_ruleSet hr).1
    simp +decide only [Diagnostic.info, Diagnostic.inFile, singleLine_append, singleLine_toString,
      singleLine_showLines, hname, and_self]
  · obtain ⟨⟨name, lines⟩, hrepeated, rfl⟩ := List.mem_map.mp h
    obtain ⟨g, hg, rfl⟩ := LineIndex.exists_of_mem_repeated hrepeated
    have hname : SingleLine g.name := (singleLine_group hg).1
    simp +decide only [Diagnostic.error, Diagnostic.inFile, singleLine_append, singleLine_toString,
      singleLine_showLines, hname, and_self]

theorem singleLine_checkReferences (h : d ∈ (ofText content).checkReferences file) :
    SingleLine d.message := by
  obtain ⟨g, hg, hd⟩ := List.mem_flatMap.mp h
  obtain ⟨name, hname, rfl⟩ := List.mem_map.mp hd
  obtain ⟨hgroup, hrefs⟩ := singleLine_group (List.mem_of_mem_filter hg)
  have href := hrefs name (List.mem_of_mem_filter hname)
  simp +decide only [Diagnostic.error, Diagnostic.onLine, singleLine_append, singleLine_toString,
    hgroup, href, and_self]

end Profile

namespace Source

theorem dropTag_subset (source : String) : (dropTag source).toList ⊆ source.toList := by
  unfold dropTag
  split
  · rename_i s hs
    obtain ⟨tag, -, htag⟩ := List.exists_of_findSome?_eq_some hs
    rw [String.toList_ofList, rest?_eq_some_iff.mp htag]
    exact List.subset_append_right _ _
  · exact List.Subset.refl _

theorem singleLine_remote {source url : String} (hsource : SingleLine source)
    (h : ofText source = .remote url) :
    SingleLine url := by
  obtain ⟨-, -, rfl⟩ := Checker.eq_dropTag_of_ofText h
  exact hsource.mono (dropTag_subset source)

theorem singleLine_file {source path : String} (hsource : SingleLine source)
    (h : ofText source = .file path) :
    SingleLine path := by
  unfold ofText at h
  dsimp only at h
  split_ifs at h
  rw [← Source.file.inj h]
  exact hsource.mono (dropTag_subset source)

theorem singleLine_scheme {input : String} {u : Url} (h : Url.ofText input = .ok u) :
    SingleLine (.ofList u.scheme) := by
  refine singleLine_ofList.mpr fun hfeed => ?_
  rcases Url.isSchemeChar_of_ofText h hfeed with hletter | hmark
  · contradiction
  · exact absurd hmark (by decide)

theorem singleLine_join {root p : Path} (hroot : SingleLine root.text) (hp : SingleLine p.text) :
    SingleLine (root.join p).text := by
  intro hfeed
  rcases FileTree.mem_text_join hfeed with h | h | h
  · exact hroot h
  · exact absurd h (by decide)
  · exact hp h

namespace Checker

variable {c : Checker} {r : RuleSet} {rs : List RuleSet} {verdict : String → Option String}

theorem singleLine_sourceError {said : String} (hname : SingleLine r.name)
    (hsaid : SingleLine said) :
    SingleLine (sourceError file r said).message := by
  simp +decide only [sourceError, Diagnostic.error, Diagnostic.onLine, singleLine_append, hname,
    hsaid, and_self]

theorem singleLine_unreachableDiagnostic {url reason : String} (hname : SingleLine r.name)
    (hurl : SingleLine url) (hreason : SingleLine reason) :
    SingleLine (c.unreachableDiagnostic file r url reason).message := by
  have hmessage :
      SingleLine ("rule-set '" ++ r.name ++ "': " ++ url ++ " is unreachable: " ++ reason) := by
    simp +decide only [singleLine_append, hname, hurl, hreason, and_self]
  unfold unreachableDiagnostic
  cases c.policy with
  | fail | warn | skip => exact hmessage

theorem singleLine_said (hname : SingleLine r.name) (hsource : SingleLine r.source)
    (hroot : SingleLine c.root.text)
    (hverdict : ∀ url reason, verdict url = some reason → SingleLine reason)
    (h : Said c file r verdict d) : SingleLine d.message := by
  cases h with
  | @malformed url e hs hu =>
    have hurl := singleLine_remote hsource hs
    have hcause : SingleLine e.message := by cases e <;> decide
    exact singleLine_sourceError hname
      (by simp +decide only [singleLine_append, hurl, hcause, and_self])
  | scheme hs hu =>
    have hurl := singleLine_remote hsource hs
    have hscheme := singleLine_scheme hu
    exact singleLine_sourceError hname
      (by simp +decide only [singleLine_append, hurl, hscheme, and_self])
  | unreachable hs hv =>
    have hurl := singleLine_remote hsource (ofText_of_askedUrl? hs)
    exact singleLine_unreachableDiagnostic hname hurl (hverdict _ _ hv)
  | untrusted hs =>
    exact singleLine_sourceError hname (.append (by decide) (singleLine_remote hsource hs))
  | outside hs =>
    have hpath := singleLine_file hsource hs
    exact singleLine_sourceError hname (by simp +decide only [singleLine_append, hpath, and_self])
  | missing hs =>
    exact singleLine_sourceError hname
      (.append (by decide) (singleLine_join hroot (singleLine_file hsource hs)))

end Checker

end Source

end RuleLint
