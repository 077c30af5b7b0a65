import RuleLint.Proofs.FileTree.Listing
import RuleLint.Proofs.Lint.Run
import RuleLint.Proofs.Profile.Errors
import RuleLint.Proofs.Rule.Errors
import RuleLint.Proofs.Source.Accepting

namespace RuleLint.Lint

variable {tree : FileTree} {root : Path} {settings : Settings} {prober : Prober}
variable {files : List Document} {trust : Source.Trust}

/-- The rules in the listed files are well formed, and none of them is there twice. -/
structure CleanRules (contents : List String) : Prop where
  wellFormed : ∀ content ∈ contents, Rule.LinesWellFormed content
  different : (contents.flatMap Rule.rules).Nodup

/-- What a run looks at is as it should be, apart from whether URLs answer. -/
structure Clean (tree : FileTree) (root : Path) (settings : Settings) : Prop where
  rules : ∃ paths contents, tree.listFiles root settings.listExtension = .ok paths ∧
    List.Forall₂ (fun p content => tree.readText p = .ok content) paths contents ∧
    CleanRules contents
  profile : tree.isFile (root.join settings.configPath) = true →
    ∃ content trust, tree.readText (root.join settings.configPath) = .ok content ∧
      Source.Trust.ofPatterns settings.trustedSources = .ok trust ∧
      Profile.WellFormed (Source.Checker.Accepts ⟨tree, root, trust, none, .skip⟩ fun _ => none)
        content

theorem nodup_label_ruleFiles (htree : tree.top.WellFormed) {extension : String}
    (h : ruleFiles tree root extension = .ok files) : (files.map Document.label).Nodup := by
  obtain ⟨paths, hlist, hread⟩ := ruleFiles_eq_ok_iff.mp h
  have hlabels : files.map Document.label = paths.map root.displayName := by
    clear hlist h
    induction hread with
    | nil => rfl
    | cons hd _ ih => rw [List.map_cons, List.map_cons, hd.2, ih]
  rw [hlabels]
  exact FileTree.nodup_displayName_listFiles htree hlist

theorem forall₂_content {paths : List Path} {contents : List String} :
    List.Forall₂ (fun p content => tree.readText p = .ok content) paths contents ↔
      ∃ files : List Document, files.map Document.content = contents ∧
        List.Forall₂ (fun p d => tree.readText p = .ok d.content ∧ d.label = root.displayName p)
          paths files := by
  constructor
  · intro h
    induction h with
    | nil => exact ⟨[], rfl, .nil⟩
    | @cons p content _ _ hread _ ih =>
      obtain ⟨files, rfl, hfiles⟩ := ih
      exact ⟨⟨root.displayName p, content⟩ :: files, rfl, .cons ⟨hread, rfl⟩ hfiles⟩
  · rintro ⟨files, rfl, h⟩
    exact (List.forall₂_map_right_iff).mpr (h.imp fun _ _ => And.left)

theorem errorFree_rulesDiagnostics_iff (htree : tree.top.WellFormed)
    (hf : ruleFiles tree root settings.listExtension = .ok files) :
    ErrorFree (rulesDiagnostics files) ↔ CleanRules (files.map Document.content) := by
  rw [errorFree_rulesDiagnostics (nodup_label_ruleFiles htree hf)]
  constructor
  · rintro ⟨hlines, hdiff⟩
    refine ⟨List.forall_mem_map.mpr hlines, ?_⟩
    rw [List.flatMap_map]
    exact hdiff
  · rintro ⟨hlines, hdiff⟩
    rw [List.flatMap_map] at hdiff
    exact ⟨List.forall_mem_map.mp hlines, hdiff⟩

theorem exists_cleanRules_iff (hf : ruleFiles tree root settings.listExtension = .ok files) :
    (∃ paths contents, tree.listFiles root settings.listExtension = .ok paths ∧
      List.Forall₂ (fun p content => tree.readText p = .ok content) paths contents ∧
      CleanRules contents) ↔
      CleanRules (files.map Document.content) := by
  constructor
  · rintro ⟨paths, contents, hlist, hread, hclean⟩
    -- There is one list of paths and one text for each, so these contents are those of `files`.
    obtain ⟨others, rfl, hothers⟩ := forall₂_content.mp hread
    have hsame := (ruleFiles_eq_ok_iff.mpr ⟨paths, hlist, hothers⟩).symm.trans hf
    rw [← Except.ok.inj hsame]
    exact hclean
  · intro hclean
    obtain ⟨paths, hlist, hfiles⟩ := ruleFiles_eq_ok_iff.mp hf
    exact ⟨paths, _, hlist, forall₂_content.mpr ⟨files, rfl, hfiles⟩, hclean⟩

theorem accepts_checkerOf (hskip : settings.reachability = .skip) {source : String} :
    (checkerOf tree root settings prober trust).Accepts (fun _ => none) source ↔
      Source.Checker.Accepts ⟨tree, root, trust, none, .skip⟩ (fun _ => none) source := by
  unfold checkerOf
  rw [hskip]
  exact ⟨fun h => h.withProber, fun h => h.withProber⟩

theorem errorFree_profile_iff (hskip : settings.reachability = .skip) (label content : String) :
    ErrorFree (textDiagnostics ⟨label, content⟩ ++
        ((checkerOf tree root settings prober trust).checkAll label {}
          (Profile.ofText content).ruleSets).1) ↔
      Profile.WellFormed (Source.Checker.Accepts ⟨tree, root, trust, none, .skip⟩ fun _ => none)
        content := by
  have hasks : (checkerOf tree root settings prober trust).asks = false := by
    simp [Source.Checker.asks, checkerOf, hskip]
  unfold textDiagnostics
  rw [errorFree_append, errorFree_append, errorFree_append, Profile.errorFree_readingDiagnostics,
    Profile.errorFree_checkNames, Profile.nodup_name_groups_iff,
    Profile.errorFree_checkReferences_ofText, Source.Checker.errorFree_checkAll_of_not_asks hasks]
  simp only [accepts_checkerOf hskip]
  rw [Profile.forall_source_iff]
  constructor
  · rintro ⟨⟨⟨hcomplete, hdiff⟩, hresolved⟩, hsources⟩
    exact ⟨hcomplete, hdiff, hresolved, hsources⟩
  · rintro ⟨hcomplete, hdiff, hresolved, hsources⟩
    exact ⟨⟨⟨hcomplete, hdiff⟩, hresolved⟩, hsources⟩

def smallTree (rules config : String) : FileTree where
  top := Node.insert (.file config.toUTF8) ["r", "c.ini"]
    (Node.insert (.file rules.toUTF8) ["r", "a.list"] (.directory []))
  cwd := []

def smallSettings : Settings := { configPath := ⟨"c.ini"⟩, reachability := .skip }

section

variable (rules config : String)

theorem wellFormed_smallTree : (smallTree rules config).top.WellFormed :=
  .insert (.file _) (by decide) (.insert (.file _) (by decide) Node.wellFormed_empty)

theorem locate_smallTree : (smallTree rules config).locate ⟨"r"⟩ = .ok ["r"] := by
  rw [FileTree.locate_eq_ok_iff]
  refine ⟨by decide, by decide, by decide, FileTree.maxLinks, ?_⟩
  have hvalid : ∀ name ∈ ["r"], Path.ValidName name ∧ name.utf8ByteSize ≤ 255 := by decide
  exact FileTree.leads_names hvalid rfl nofun

theorem node?_smallTree_file (name : String) {content : ByteArray} (hname : Path.ValidName name)
    (hstorable : FileTree.StorableName name)
    (hentry : (smallTree rules config).top.at? ["r", name] = some (.file content))
    (hlong : (FileTree.joinNames ⟨"r"⟩ [name]).isTooLong = false) :
    (smallTree rules config).node? (FileTree.joinNames ⟨"r"⟩ [name]) = some (.file content) := by
  have hlocate :=
    FileTree.locate_joinNames (locate_smallTree rules config) (List.forall_mem_singleton.mpr hname)
      (List.forall_mem_singleton.mpr hstorable) hentry nofun hlong
  rw [FileTree.node?_of_locate hlocate]
  exact hentry

theorem node?_smallTree_root : (smallTree rules config).node? ⟨"r"⟩ =
    some (.directory [("a.list", .file rules.toUTF8), ("c.ini", .file config.toUTF8)]) :=
  FileTree.node?_of_locate (locate_smallTree rules config)

theorem node?_smallTree_rules :
    (smallTree rules config).node? ⟨"r/a.list"⟩ = some (.file rules.toUTF8) :=
  node?_smallTree_file rules config "a.list" (by decide) ⟨by decide, by decide⟩ rfl (by decide)

theorem node?_smallTree_config :
    (smallTree rules config).node? ⟨"r/c.ini"⟩ = some (.file config.toUTF8) :=
  node?_smallTree_file rules config "c.ini" (by decide) ⟨by decide, by decide⟩ rfl (by decide)

theorem search_smallTree (wanted : Path → Node.Kind → Bool) :
    FileTree.search ⟨"r"⟩
      (.directory [("a.list", .file rules.toUTF8), ("c.ini", .file config.toUTF8)]) wanted =
      (([(⟨"r/a.list"⟩, Node.Kind.file), (⟨"r/c.ini"⟩, .file)].filter fun (p, kind) =>
          wanted p kind).map
        Prod.fst).mergeSort fun p q => (p.compare q).isLE := rfl

theorem listFiles_smallTree :
    (smallTree rules config).listFiles ⟨"r"⟩ "list" = .ok [⟨"r/a.list"⟩] := by
  have hlong : ([(⟨"r/a.list"⟩, Node.Kind.file), (⟨"r/c.ini"⟩, .file)].filter fun (p, kind) =>
      kind = .directory && Path.isTooLong p) = [] := by decide
  have hfound : ([(⟨"r/a.list"⟩, Node.Kind.file), (⟨"r/c.ini"⟩, .file)].filter fun (p, kind) =>
      kind = .file && Path.extension? p = some "list") = [(⟨"r/a.list"⟩, .file)] := by decide
  rw [FileTree.listFiles_of_node? (node?_smallTree_root rules config) rfl]
  unfold FileTree.longDirectories FileTree.filesWith
  rw [search_smallTree, search_smallTree, hlong, hfound, List.map_nil, List.mergeSort_nil,
    List.map_singleton, List.mergeSort_singleton]

theorem run_smallTree (prober : Prober) :
    ∃ report log, run (smallTree rules config) ⟨"r"⟩ smallSettings prober = .ok (report, log) := by
  have hfiles : ruleFiles (smallTree rules config) ⟨"r"⟩ "list" = .ok [⟨"a.list", rules⟩] := by
    have hlabel : "a.list" = Path.displayName ⟨"r"⟩ ⟨"r/a.list"⟩ := by decide
    refine ruleFiles_eq_ok_iff.mpr ⟨_, listFiles_smallTree rules config, .cons ⟨?_, hlabel⟩ .nil⟩
    exact FileTree.readText_of_node? (node?_smallTree_rules rules config)
  have hconfig : (smallTree rules config).isFile ⟨"r/c.ini"⟩ = true :=
    FileTree.isFile_iff.mpr ⟨_, node?_smallTree_config rules config⟩
  have hlabel : "c.ini" = Path.displayName ⟨"r"⟩ ⟨"r/c.ini"⟩ := by decide
  have hdocument :
      readDocument (smallTree rules config) ⟨"r"⟩ ⟨"r/c.ini"⟩ = .ok ⟨"c.ini", config⟩ :=
    readDocument_eq_ok_iff.mpr
      ⟨FileTree.readText_of_node? (node?_smallTree_config rules config), hlabel⟩
  exact ⟨_, _, @run_of_config _ _ smallSettings _ _ _ _ hfiles hconfig hdocument rfl⟩

end

/-- A run that gives a report ends well exactly if what it looks at is as it should be. -/
theorem exitCode_eq_zero_iff (htree : tree.top.WellFormed) (hskip : settings.reachability = .skip)
    {report : Report} {log : ProbeLog} (h : run tree root settings prober = .ok (report, log)) :
    report.exitCode = 0 ↔ Clean tree root settings := by
  obtain ⟨files, hf, hc | ⟨hc, ⟨label, content⟩, trust, hd, ht⟩⟩ := run_ok h
  · rw [run_of_no_config hf hc] at h
    obtain ⟨rfl, -⟩ := Prod.mk.inj (Except.ok.inj h)
    have hmissing : ErrorFree [missingConfig (root.join settings.configPath)] :=
      errorFree_singleton.mpr nofun
    rw [exitCode_ofDiagnostics_eq_zero_iff, errorFree_append, and_iff_left hmissing,
      errorFree_rulesDiagnostics_iff htree hf, ← exists_cleanRules_iff hf]
    constructor
    · intro hrules
      exact ⟨hrules, fun hc' => Bool.noConfusion (hc.symm.trans hc')⟩
    · exact Clean.rules
  · rw [run_of_config hf hc hd ht] at h
    obtain ⟨rfl, -⟩ := Prod.mk.inj (Except.ok.inj h)
    have hread := (readDocument_eq_ok_iff.mp hd).1
    rw [exitCode_ofDiagnostics_eq_zero_iff, errorFree_append,
      errorFree_rulesDiagnostics_iff htree hf, ← exists_cleanRules_iff hf,
      errorFree_profile_iff hskip]
    constructor
    · rintro ⟨hrules, hprofile⟩
      exact ⟨hrules, fun _ => ⟨content, trust, hread, ht, hprofile⟩⟩
    · rintro ⟨hrules, hprofile⟩
      obtain ⟨content', trust', hread', ht', hprofile'⟩ := hprofile hc
      obtain rfl := Except.ok.inj (hread.symm.trans hread')
      obtain rfl := Except.ok.inj (ht.symm.trans ht')
      exact ⟨hrules, hprofile'⟩

theorem exitCode_smallTree :
    let tree := smallTree "DOMAIN,a.b\n" "ruleset=A,a.list\ncustom_proxy_group=B`[]A\n"
    ∃ report log, run tree ⟨"r"⟩ smallSettings (fun _ _ => none) = .ok (report, log) ∧
      (report.exitCode = 0 ↔ Clean tree ⟨"r"⟩ smallSettings) := by
  intro tree
  obtain ⟨report, log, h⟩ :=
    run_smallTree "DOMAIN,a.b\n" "ruleset=A,a.list\ncustom_proxy_group=B`[]A\n" fun _ _ => none
  exact ⟨report, log, h, exitCode_eq_zero_iff (wellFormed_smallTree _ _) rfl h⟩

end RuleLint.Lint
