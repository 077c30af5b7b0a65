import RuleLint.Proofs.FileTree.Components
import RuleLint.Proofs.Lint.Classes
import RuleLint.Proofs.Lint.Clean
import RuleLint.Proofs.Profile.Accounts
import RuleLint.Proofs.Source.Findings

namespace RuleLint

open Text

/-- The diagnostic is about a file, as a whole or at one of its lines. -/
def Diagnostic.PlacedIn (file content : String) (d : Diagnostic) : Prop :=
  ∃ line, d.location = some ⟨file, line⟩ ∧ ∀ n, line = some n →
    1 ≤ n ∧ n ≤ (lines content.toList).length

variable {file content : String} {d : Diagnostic} {l : Line}

namespace Diagnostic

theorem PlacedIn.of_line (hl : l ∈ numberedLines content)
    (h : d.location = some ⟨file, some l.number⟩) :
    d.PlacedIn file content := by
  refine ⟨some l.number, h, ?_⟩
  rintro n hn
  rw [← Option.some.inj hn]
  exact number_bounds hl

theorem PlacedIn.of_inFile (d : Diagnostic) (file content : String) :
    (d.inFile file).PlacedIn file content :=
  ⟨none, rfl, nofun⟩

theorem PlacedIn.location_ne_none (h : d.PlacedIn file content) : d.location ≠ none := by
  obtain ⟨line, hline, -⟩ := h
  rw [hline]
  exact Option.some_ne_none _

end Diagnostic

theorem Rule.placedIn_checkFile (h : d ∈ checkFile file content) : d.PlacedIn file content := by
  obtain ⟨l, hl, hd⟩ := List.mem_flatMap.mp h
  obtain ⟨f, -, rfl⟩ := List.mem_map.mp hd
  exact .of_line hl rfl

theorem Rule.placedIn_repeatedDiagnostic? (h : repeatedDiagnostic? file content = some d) :
    d.PlacedIn file content := by
  unfold repeatedDiagnostic? at h
  split at h
  · contradiction
  · rw [← Option.some.inj h]
    exact .of_inFile _ file content

namespace Profile

theorem placedIn_readingDiagnostics (h : d ∈ readingDiagnostics file content) :
    d.PlacedIn file content := by
  obtain ⟨l, hl, hplace⟩ := exists_line_of_mem_readingDiagnostics h
  exact .of_line hl hplace

theorem placedIn_checkNames {p : Profile} (h : d ∈ p.checkNames file) :
    d.PlacedIn file content := by
  rcases List.mem_append.mp h with h | h
  · obtain ⟨_, -, rfl⟩ := List.mem_map.mp h
    exact .of_inFile _ file content
  · obtain ⟨_, -, rfl⟩ := List.mem_map.mp h
    exact .of_inFile _ file content

theorem placedIn_checkReferences (h : d ∈ (ofText content).checkReferences file) :
    d.PlacedIn file content := by
  obtain ⟨g, hg, hd⟩ := List.mem_flatMap.mp h
  obtain ⟨name, -, rfl⟩ := List.mem_map.mp hd
  obtain ⟨l, hl, _, _, -, rfl⟩ := mem_groups_ofText.mp (List.mem_of_mem_filter hg)
  exact .of_line hl rfl

end Profile

namespace Source.Checker

variable {c : Checker} {r : RuleSet} {verdict : String → Option String}

theorem classOf_said (h : Said c file r verdict d) :
    d.classOf ∈ [(.error, some .source), (.warn, some .reachability)] := by
  cases h with
  | malformed | scheme | untrusted | outside | missing => exact List.mem_cons_self
  | unreachable =>
    unfold unreachableDiagnostic
    cases c.policy with
    | fail => exact List.mem_cons_self
    | warn | skip => exact List.mem_cons_of_mem _ List.mem_cons_self

theorem exists_said_of_mem_checkAll {rs : List RuleSet} (h : d ∈ (c.checkAll file {} rs).1) :
    ∃ r ∈ rs, Said c file r (c.checkAll file {} rs).2.verdict? d := by
  rw [checkAll_fst] at h
  obtain ⟨r, hr, hd⟩ := List.mem_flatMap.mp h
  rw [found_congr fun url hurl => verdict_checkAll_empty hr hurl] at hd
  exact ⟨r, hr, said_of_mem_found hd⟩

theorem placedIn_said (hr : r ∈ (Profile.ofText content).ruleSets) (h : Said c file r verdict d) :
    d.PlacedIn file content := by
  obtain ⟨l, hl, _, _, -, -, -, hline⟩ := Profile.isRuleSet_of_mem_ruleSets hr
  have habout := (isAbout_said h).1
  rw [hline] at habout
  exact .of_line hl habout

end Source.Checker

namespace Lint

variable {tree : FileTree} {root : Path} {settings : Settings} {prober : Prober}
variable {files : List Document} {document : Document} {trust : Source.Trust} {report : Report}
    {log : ProbeLog}

theorem placedIn_ruleFileDiagnostics (h : d ∈ ruleFileDiagnostics document) :
    d.PlacedIn document.label document.content := by
  rcases List.mem_append.mp h with h | h
  · exact Rule.placedIn_checkFile h
  · exact Rule.placedIn_repeatedDiagnostic? (Option.mem_toList.mp h)

theorem location_report? {index : Rule.DuplicateIndex} (h : index.report? = some d) :
    d.location = none := by
  unfold Rule.DuplicateIndex.report? at h
  split at h
  · contradiction
  · rw [← Option.some.inj h]
    rfl

theorem placedIn_textDiagnostics (h : d ∈ textDiagnostics document) :
    d.PlacedIn document.label document.content := by
  rcases List.mem_append.mp h with h | h
  · rcases List.mem_append.mp h with h | h
    · exact Profile.placedIn_readingDiagnostics h
    · exact Profile.placedIn_checkNames h
  · exact Profile.placedIn_checkReferences h

/-- Where a diagnostic of a report comes from. -/
inductive Origin (tree : FileTree) (root : Path) (settings : Settings) (prober : Prober)
    (log : ProbeLog) :
    Diagnostic → Prop
  | rules {files : List Document} {d : Diagnostic}
      (hf : ruleFiles tree root settings.listExtension = .ok files)
      (hd : d ∈ rulesDiagnostics files) : Origin tree root settings prober log d
  | missing (hc : tree.isFile (root.join settings.configPath) = false) :
      Origin tree root settings prober log (missingConfig (root.join settings.configPath))
  | text {document : Document} {d : Diagnostic}
      (hc : tree.isFile (root.join settings.configPath) = true)
      (hdocument : readDocument tree root (root.join settings.configPath) = .ok document)
      (hd : d ∈ textDiagnostics document) : Origin tree root settings prober log d
  | source {document : Document} {trust : Source.Trust} {r : RuleSet} {d : Diagnostic}
      (hc : tree.isFile (root.join settings.configPath) = true)
      (hdocument : readDocument tree root (root.join settings.configPath) = .ok document)
      (ht : Source.Trust.ofPatterns settings.trustedSources = .ok trust)
      (hr : r ∈ (Profile.ofText document.content).ruleSets)
      (hsaid : Source.Checker.Said (checkerOf tree root settings prober trust) document.label r
        log.verdict? d) :
      Origin tree root settings prober log d

theorem origin_of_mem (h : Reports tree root settings prober report log)
    (hd : d ∈ report.diagnostics) :
    Origin tree root settings prober log d := by
  cases h with
  | missing hf hc =>
    rcases List.mem_append.mp hd with hd | hd
    · exact .rules hf hd
    · rw [List.mem_singleton.mp hd]
      exact .missing hc
  | config hf hc hdocument ht hfound =>
    rcases List.mem_append.mp hd with hd | hd
    · exact .rules hf hd
    · rcases List.mem_append.mp hd with hd | hd
      · exact .text hc hdocument hd
      · obtain ⟨rfl, rfl⟩ := Prod.mk.inj hfound
        obtain ⟨r, hr, hsaid⟩ := Source.Checker.exists_said_of_mem_checkAll hd
        exact .source hc hdocument ht hr hsaid

def classes : List (Severity × Option IssueKind) :=
  [(.error, some .malformed), (.error, some .reference), (.error, some .duplicate),
    (.error, some .source), (.warn, some .malformed), (.warn, some .style),
    (.warn, some .reachability), (.warn, some .config), (.info, some .config), (.info, none)]

theorem classOf_mem_of_subset {expected : List (Severity × Option IssueKind)}
    (h : d.classOf ∈ expected) (hexpected : expected ⊆ classes) : d.classOf ∈ classes := hexpected h

theorem classOf_textDiagnostics (h : d ∈ textDiagnostics document) : d.classOf ∈ classes := by
  rcases List.mem_append.mp h with h | h
  · rcases List.mem_append.mp h with h | h
    · exact classOf_mem_of_subset (Profile.classOf_readingDiagnostics h) (by decide)
    · exact classOf_mem_of_subset (Profile.classOf_checkNames h) (by decide)
  · rw [Profile.classOf_checkReferences h]
    decide

theorem classOf_origin (h : Origin tree root settings prober log d) : d.classOf ∈ classes := by
  cases h with
  | rules hf hd => exact classOf_mem_of_subset (classOf_rulesDiagnostics hd) (by decide)
  | missing => exact (by decide : (Severity.warn, some IssueKind.config) ∈ classes)
  | text hc hdocument hd => exact classOf_textDiagnostics hd
  | source hc hdocument ht hr hsaid =>
    exact classOf_mem_of_subset (Source.Checker.classOf_said hsaid) (by decide)

/-- A file that a run looks at: one that is listed, or the configuration. -/
inductive LooksAt (tree : FileTree) (root : Path) (settings : Settings) (p : Path) : Prop
  | ruleFile {paths : List Path} (hlist : tree.listFiles root settings.listExtension = .ok paths)
      (hp : p ∈ paths)
  | config (hp : p = root.join settings.configPath) (hfile : tree.isFile p = true)

variable {p q : Path}

theorem readText_of_looksAt (h : Reports tree root settings prober report log)
    (hp : LooksAt tree root settings p) :
    ∃ content, tree.readText p = .ok content := by
  have hrules {files : List Document} (hf : ruleFiles tree root settings.listExtension = .ok files)
      {paths : List Path}
      (hlist : tree.listFiles root settings.listExtension = .ok paths) (hp : p ∈ paths) :
      ∃ content, tree.readText p = .ok content := by
    obtain ⟨paths', hlist', hread⟩ := ruleFiles_eq_ok_iff.mp hf
    obtain rfl := Except.ok.inj (hlist.symm.trans hlist')
    obtain ⟨d, -, hd, -⟩ := exists_mem_of_forall₂ hread hp
    exact ⟨d.content, hd⟩
  cases hp with
  | ruleFile hlist hp =>
    cases h with
    | missing hf hc => exact hrules hf hlist hp
    | config hf hc hd ht hfound => exact hrules hf hlist hp
  | config hp hfile =>
    subst hp
    cases h with
    | missing hf hc => exact Bool.noConfusion (hc.symm.trans hfile)
    | config hf hc hd ht hfound => exact ⟨_, (readDocument_eq_ok_iff.mp hd).1⟩

theorem content_eq_of_displayName_eq (htree : tree.top.WellFormed)
    (hp : LooksAt tree root settings p) (hq : LooksAt tree root settings q)
    (hname : root.displayName p = root.displayName q) {s t : String} (hs : tree.readText p = .ok s)
    (ht : tree.readText q = .ok t) : s = t := by
  -- Of a listed file and the configuration, the spellings may differ, but the components do not.
  have hmixed {paths : List Path} {p q : Path} {s t : String}
      (hlist : tree.listFiles root settings.listExtension = .ok paths) (hp : p ∈ paths)
      (hq : q = root.join settings.configPath) (hname : root.displayName p = root.displayName q)
      (hs : tree.readText p = .ok s) (ht : tree.readText q = .ok t) : s = t := by
    obtain ⟨n, hroot, -, -⟩ := FileTree.exists_node?_of_listFiles hlist
    obtain ⟨_, hlocate, -⟩ := FileTree.locate_of_node? hroot
    have hempty := (FileTree.locate_eq_ok_iff.mp hlocate).1
    obtain ⟨names, hne, hvalid, rfl⟩ := FileTree.exists_names_of_mem_listFiles htree hlist hp
    subst hq
    rw [Path.displayName_joinNames hvalid] at hname
    have hcomponents := Path.components_of_displayName hempty hvalid hne hname.symm
    exact FileTree.text_eq_of_components hs ht hcomponents.symm
  cases hp with
  | ruleFile hlist hp =>
    cases hq with
    | ruleFile hlist' hq =>
      obtain rfl := Except.ok.inj (hlist.symm.trans hlist')
      obtain rfl := FileTree.eq_of_displayName_eq htree hlist hp hq hname
      exact Except.ok.inj (hs.symm.trans ht)
    | config hq hfile => exact hmixed hlist hp hq hname hs ht
  | config hp hfile =>
    cases hq with
    | ruleFile hlist hq => exact (hmixed hlist hq hp hname.symm ht hs).symm
    | config hq hfile' =>
      obtain rfl := hp.trans hq.symm
      exact Except.ok.inj (hs.symm.trans ht)

/-- The document is what a file that the run looks at holds, under the display name of this file. -/
def IsLookedAt (tree : FileTree) (root : Path) (settings : Settings) (document : Document) : Prop :=
  ∃ p, LooksAt tree root settings p ∧ tree.readText p = .ok document.content ∧
    document.label = root.displayName p

theorem isLookedAt_ruleFile (hf : ruleFiles tree root settings.listExtension = .ok files)
    (hd : document ∈ files) :
    IsLookedAt tree root settings document := by
  obtain ⟨paths, hlist, hread⟩ := ruleFiles_eq_ok_iff.mp hf
  obtain ⟨p, hp, hcontent, hlabel⟩ := exists_mem_of_forall₂ hread.flip hd
  exact ⟨p, .ruleFile hlist hp, hcontent, hlabel⟩

theorem isLookedAt_config (hc : tree.isFile (root.join settings.configPath) = true)
    (hd : readDocument tree root (root.join settings.configPath) = .ok document) :
    IsLookedAt tree root settings document := by
  obtain ⟨hcontent, hlabel⟩ := readDocument_eq_ok_iff.mp hd
  exact ⟨_, .config rfl hc, hcontent, hlabel⟩

/-- Of what is said about rule files, only what is said about all together has no place. -/
theorem placed_rulesDiagnostics (h : d ∈ rulesDiagnostics files) :
    (∃ document ∈ files, d.PlacedIn document.label document.content) ∨
    (duplicateIndex files).report? = some d := by
  rcases List.mem_append.mp h with h | h
  · obtain ⟨document, hdocument, hd⟩ := List.mem_flatMap.mp h
    exact .inl ⟨document, hdocument, placedIn_ruleFileDiagnostics hd⟩
  · exact .inr (Option.mem_toList.mp h)

theorem exists_placedIn (h : Origin tree root settings prober log d) (hplace : d.location ≠ none) :
    ∃ document, IsLookedAt tree root settings document ∧
    d.PlacedIn document.label document.content := by
  cases h with
  | rules hf hd =>
    rcases placed_rulesDiagnostics hd with ⟨document, hdocument, hplaced⟩ | hreport
    · exact ⟨document, isLookedAt_ruleFile hf hdocument, hplaced⟩
    · exact (hplace (location_report? hreport)).elim
  | missing => exact (hplace rfl).elim
  | text hc hdocument hd => exact ⟨_, isLookedAt_config hc hdocument, placedIn_textDiagnostics hd⟩
  | source hc hdocument ht hr hsaid =>
    exact ⟨_, isLookedAt_config hc hdocument, Source.Checker.placedIn_said hr hsaid⟩

theorem filter_eq_nil_of_placed {ds : List Diagnostic}
    (h : ∀ d ∈ ds, ∃ file content, d.PlacedIn file content) :
    ds.filter (·.location = none) = [] := by
  rw [List.filter_eq_nil_iff]
  intro d hd
  obtain ⟨file, content, hplaced⟩ := h d hd
  simpa using hplaced.location_ne_none

theorem filter_rulesDiagnostics (files : List Document) :
    (rulesDiagnostics files).filter (·.location = none) =
      (duplicateIndex files).report?.toList := by
  have hfiles : (files.flatMap ruleFileDiagnostics).filter (·.location = none) = [] := by
    apply filter_eq_nil_of_placed
    intro d hd
    obtain ⟨document, -, hd⟩ := List.mem_flatMap.mp hd
    exact ⟨_, _, placedIn_ruleFileDiagnostics hd⟩
  have hreport : (duplicateIndex files).report?.toList.filter (·.location = none) =
      (duplicateIndex files).report?.toList := by
    rw [List.filter_eq_self]
    intro d hd
    exact decide_eq_true (location_report? (Option.mem_toList.mp hd))
  unfold rulesDiagnostics
  rw [List.filter_append, hfiles, hreport, List.nil_append]

/-- At most two diagnostics have no place: the one on rules that several files hold, and that there
is no configuration. -/
theorem filter_unplaced (h : Reports tree root settings prober report log) :
    ∃ files, ruleFiles tree root settings.listExtension = .ok files ∧
      report.diagnostics.filter (·.location = none) = (duplicateIndex files).report?.toList ++
        if tree.isFile (root.join settings.configPath) then []
          else [missingConfig (root.join settings.configPath)] := by
  cases h with
  | @missing files hf hc =>
    refine ⟨files, hf, ?_⟩
    show (rulesDiagnostics files ++ _).filter _ = _
    rw [List.filter_append, filter_rulesDiagnostics, hc]
    rfl
  | @config files document _ hf hc hd ht found _ hfound =>
    have hconfig : (textDiagnostics document ++ found).filter (·.location = none) = [] := by
      apply filter_eq_nil_of_placed
      intro d hd
      refine ⟨document.label, document.content, ?_⟩
      rcases List.mem_append.mp hd with hd | hd
      · exact placedIn_textDiagnostics hd
      · obtain rfl := congrArg Prod.fst hfound
        obtain ⟨r, hr, hsaid⟩ := Source.Checker.exists_said_of_mem_checkAll hd
        exact Source.Checker.placedIn_said hr hsaid
    refine ⟨files, hf, ?_⟩
    show (rulesDiagnostics files ++ _).filter _ = _
    rw [List.filter_append, filter_rulesDiagnostics, hconfig, hc]
    rfl

/-- What a diagnostic is, and where it is placed: in a file that the run looks at, and at a line
that this file has. Whatever the run looks at under the same display name is the same. -/
structure Anchored (tree : FileTree) (root : Path) (settings : Settings)
    (d : Diagnostic) : Prop where
  error_kind : d.severity = .error →
    d.kind ∈ [some .malformed, some .reference, some .duplicate, some .source]
  warning_kind : d.kind = some .reachability ∨ d.kind = some .style → d.severity = .warn
  config_kind : d.kind = some .config → d.severity = .warn ∨ d.severity = .info
  placed : ∀ place, d.location = some place → ∃ content,
    (∃ p, LooksAt tree root settings p ∧ root.displayName p = place.file) ∧
    (∀ p, LooksAt tree root settings p → root.displayName p = place.file →
      tree.readText p = .ok content) ∧
    ∀ n, place.line = some n → 1 ≤ n ∧ n ≤ (lines content.toList).length

/-- Every diagnostic of a report is of a kind that fits its severity and is placed in a file that
was looked at, except for at most two that have no place. -/
theorem anchored_of_run (htree : tree.top.WellFormed)
    (h : run tree root settings prober = .ok (report, log)) :
    (∀ d ∈ report.diagnostics, Anchored tree root settings d) ∧
    ∃ files, ruleFiles tree root settings.listExtension = .ok files ∧
      (report.diagnostics.filter (·.location = none) = (duplicateIndex files).report?.toList ++
        if tree.isFile (root.join settings.configPath) then []
          else [missingConfig (root.join settings.configPath)]) ∧
      ∀ d, (duplicateIndex files).report? = some d →
      d.severity = .error ∧ d.kind = some .duplicate := by
  have hreport := reports_of_run h
  constructor
  · intro d hd
    have horigin := origin_of_mem hreport hd
    have hclass := classOf_origin horigin
    have herror : ∀ c ∈ classes, c.1 = .error →
        c.2 ∈ [some .malformed, some .reference, some .duplicate, some .source] := by decide
    have hwarning : ∀ c ∈ classes, c.2 = some .reachability ∨ c.2 = some .style →
        c.1 = .warn := by decide
    have hconfig : ∀ c ∈ classes, c.2 = some .config → c.1 = .warn ∨ c.1 = .info := by decide
    refine ⟨herror _ hclass, hwarning _ hclass, hconfig _ hclass, ?_⟩
    intro place hplace
    have hne : d.location ≠ none := by
      rw [hplace]
      exact Option.some_ne_none place
    obtain ⟨document, ⟨p, hp, hcontent, hlabel⟩, line, hline, hbounds⟩ :=
      exists_placedIn horigin hne
    obtain rfl := Option.some.inj (hplace.symm.trans hline)
    refine ⟨document.content, ⟨p, hp, hlabel.symm⟩, ?_, hbounds⟩
    intro q hq hname
    obtain ⟨other, hother⟩ := readText_of_looksAt hreport hq
    rw [hother,
      content_eq_of_displayName_eq htree hp hq (hlabel.symm.trans hname.symm) hcontent hother]
  · obtain ⟨files, hf, hfilter⟩ := filter_unplaced hreport
    refine ⟨files, hf, hfilter, fun d hd => ?_⟩
    have hclass := Rule.DuplicateIndex.classOf_report? hd
    exact ⟨congrArg Prod.fst hclass, congrArg Prod.snd hclass⟩

theorem anchored_smallTree :
    let tree := smallTree "BAD\n" "ruleset=A\n"
    ∃ report log, run tree ⟨"r"⟩ smallSettings (fun _ _ => none) = .ok (report, log) ∧
      ∀ d ∈ report.diagnostics, Anchored tree ⟨"r"⟩ smallSettings d := by
  intro tree
  obtain ⟨report, log, h⟩ := run_smallTree "BAD\n" "ruleset=A\n" fun _ _ => none
  exact ⟨report, log, h, (anchored_of_run (wellFormed_smallTree _ _) h).1⟩

end Lint

end RuleLint
