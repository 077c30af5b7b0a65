import RuleLint.Proofs.FileTree.Names
import RuleLint.Proofs.Lint.Clean

namespace RuleLint.Lint

open Node

variable {tree : FileTree} {root : Path} {settings : Settings} {prober : Prober}
    {trust : Source.Trust}

theorem ruleFileDiagnostics_subset {files : List Document} {report : Report} {log : ProbeLog}
    (h : run tree root settings prober = .ok (report, log))
    (hfiles : ruleFiles tree root settings.listExtension = .ok files) {d : Document}
    (hd : d ∈ files) :
    ruleFileDiagnostics d ⊆ report.diagnostics := by
  have hrules : ruleFileDiagnostics d ⊆ rulesDiagnostics files :=
    fun said hsaid => List.mem_append_left _ (List.mem_flatMap.mpr ⟨d, hd, hsaid⟩)
  cases reports_of_run h with
  | missing hf | config hf =>
    obtain rfl := Except.ok.inj (hfiles.symm.trans hf)
    exact fun said hsaid => List.mem_append_left _ (hrules hsaid)

theorem checkFile_eq_nil {c : Source.Checker} {file path : String} {r : RuleSet}
    (h : c.checkFile file r path = []) :
    Path.goesDown ⟨path⟩ = true ∧ c.tree.isFile (c.root.join ⟨path⟩) = true := by
  have hfree : ErrorFree (c.checkFile file r path) := by
    rw [h]
    exact errorFree_nil
  obtain ⟨hconfined, hfile⟩ := Source.Checker.errorFree_checkFile.mp hfree
  exact ⟨(Path.confined_iff.mp hconfined).2, hfile⟩

/-- The file that an accepted local source leads to has been linted in the run if it has the
extension of rule files, the directories that its path names are looked into, and nothing that the
path names is a link. -/
theorem linted_of_checkFile (htree : tree.top.WellFormed) {report : Report} {log : ProbeLog}
    (hrun : run tree root settings prober = .ok (report, log)) {file path : String} {r : RuleSet}
    (haccepts : (checkerOf tree root settings prober trust).checkFile file r path = [])
    (hextension : Path.extension? ⟨path⟩ = some settings.listExtension)
    (hshown : ∀ name ∈ (Path.names ⟨path⟩).dropLast, ShownName name)
    (hlinks : tree.Linkless root ⟨path⟩) :
    ∃ paths q text, tree.listFiles root settings.listExtension = .ok paths ∧ q ∈ paths ∧
      q.components = (root.join ⟨path⟩).components ∧ tree.readText (root.join ⟨path⟩) = .ok text ∧
      ruleFileDiagnostics ⟨root.displayName q, text⟩ ⊆ report.diagnostics := by
  obtain ⟨hdown, hfile⟩ := checkFile_eq_nil haccepts
  obtain ⟨files, hfiles, -⟩ := run_ok hrun
  obtain ⟨paths, hlist, hread⟩ := ruleFiles_eq_ok_iff.mp hfiles
  obtain ⟨n, hroot, hn, rfl⟩ := FileTree.exists_node?_of_listFiles hlist
  obtain ⟨here, hlocate, hhere⟩ := FileTree.locate_of_node? hroot
  obtain ⟨content, hnode⟩ := FileTree.isFile_iff.mp hfile
  obtain ⟨there, hthere, hat⟩ := FileTree.locate_of_node? hnode
  -- Without a link on the way the file is where its names say.
  obtain rfl := FileTree.locate_join_of_linkless hlocate hdown hlinks hthere
  have hbelow : n.at? (Path.names ⟨path⟩) = some (.file content) := by
    have hwhole : tree.top.at? (here ++ Path.names ⟨path⟩) = some (.file content) := hat
    rwa [at?_append, hhere, Option.bind_some] at hwhole
  have hwalk : (Path.names ⟨path⟩, Kind.file) ∈ n.walk := by
    refine (FileTree.wellFormed_of_node? htree hroot).file_mem_walk_iff.mpr ⟨?_, ?_, hshown⟩
    · intro hnil
      rw [hnil] at hbelow
      rw [Option.some.inj hbelow] at hn
      contradiction
    · rw [hbelow]
      rfl
  have hlisted : FileTree.joinNames root (Path.names ⟨path⟩) ∈
      FileTree.filesWith settings.listExtension root n :=
    FileTree.mem_search.mpr
      ⟨_, _, hwalk, by simp [Path.extension?_joinNames_names hdown hextension root], rfl⟩
  have hempty : root.text ≠ "" := (FileTree.locate_eq_ok_iff.mp hlocate).1
  have hsame :
      (FileTree.joinNames root (Path.names ⟨path⟩)).components = (root.join ⟨path⟩).components :=
    (Path.components_joinNames (Path.valid_names hdown) root).trans
      (Path.components_join_of_goesDown hempty hdown).symm
  obtain ⟨⟨label, text⟩, hd, htext, hlabel⟩ := exists_mem_of_forall₂ hread hlisted
  obtain rfl : label = _ := hlabel
  exact ⟨_, _, text, hlist, hlisted, hsame,
    FileTree.readText_eq_of_components hthere htext hsame.symm,
    ruleFileDiagnostics_subset hrun hfiles hd⟩

theorem isFile_smallTree_spelled (rules config : String) :
    (smallTree rules config).isFile (Path.join ⟨"r"⟩ ⟨".//a.list"⟩) = true := by
  have hlocate :
      (smallTree rules config).locate (Path.join ⟨"r"⟩ ⟨".//a.list"⟩) = .ok ["r", "a.list"] := by
    rw [FileTree.locate_eq_ok_iff]
    refine ⟨by decide, by decide, by decide, FileTree.maxLinks, ?_⟩
    exact .cons rfl (.cons rfl (.cons rfl (.cons rfl (.nil _ _))))
  exact FileTree.isFile_iff.mpr ⟨_, FileTree.node?_of_locate hlocate⟩

theorem linted_smallTree :
    let tree := smallTree "DOMAIN,a.b\n" "ruleset=A,.//a.list\n"
    let r : RuleSet := ⟨"A", ".//a.list", [], 1⟩
    tree.top.WellFormed ∧
      (∃ report log, run tree ⟨"r"⟩ smallSettings (fun _ _ => none) = .ok (report, log)) ∧
      (checkerOf tree ⟨"r"⟩ smallSettings (fun _ _ => none) {}).checkFile "c.ini" r ".//a.list" =
        [] ∧
      Path.extension? ⟨".//a.list"⟩ = some smallSettings.listExtension ∧
      (∀ name ∈ (Path.names ⟨".//a.list"⟩).dropLast, ShownName name) ∧
      tree.Linkless ⟨"r"⟩ ⟨".//a.list"⟩ ∧ ∃ paths q, tree.listFiles ⟨"r"⟩ "list" = .ok paths ∧
        q ∈ paths ∧ q.components = (Path.join ⟨"r"⟩ ⟨".//a.list"⟩).components := by
  intro tree r
  have htree : tree.top.WellFormed := wellFormed_smallTree _ _
  obtain ⟨report, log, hrun⟩ := run_smallTree "DOMAIN,a.b\n" "ruleset=A,.//a.list\n" fun _ _ => none
  have haccepts : (checkerOf tree ⟨"r"⟩ smallSettings (fun _ _ => none) {}).checkFile "c.ini" r
      ".//a.list" = [] := by
    unfold Source.Checker.checkFile
    dsimp only
    rw [if_neg (by decide)]
    exact if_pos (isFile_smallTree_spelled _ _)
  have hextension : Path.extension? ⟨".//a.list"⟩ = some smallSettings.listExtension := by decide
  have hshown : ∀ name ∈ (Path.names ⟨".//a.list"⟩).dropLast, ShownName name := by decide
  have hlinks : tree.Linkless ⟨"r"⟩ ⟨".//a.list"⟩ := by
    intro here hhere names hnames
    obtain rfl := Except.ok.inj ((locate_smallTree _ _).symm.trans hhere)
    rw [show Path.names ⟨".//a.list"⟩ = ["a.list"] by decide, List.prefix_cons_iff] at hnames
    rcases hnames with rfl | ⟨names, rfl, hnil⟩
    · exact nofun
    · rw [List.prefix_nil.mp hnil]
      exact nofun
  obtain ⟨paths, q, text, hlist, hq, hcomponents, -⟩ :=
    linted_of_checkFile htree hrun haccepts hextension hshown hlinks
  exact ⟨htree, ⟨report, log, hrun⟩, haccepts, hextension, hshown, hlinks, paths, q, hlist, hq,
    hcomponents⟩

/-- A root `r` with a configuration that names a link to a file. -/
def linkTree : FileTree where
  top := .directory [("r", .directory [("a.list", .link "real.txt"),
    ("c.ini", .file "ruleset=A,a.list\n".toUTF8), ("real.txt", .file "no rule\n".toUTF8)])]
  cwd := []

theorem wellFormed_linkTree : linkTree.top.WellFormed := by
  refine .directory (by decide) (by decide)
    (List.forall_mem_singleton.mpr (.directory (by decide) (by decide) ?_))
  exact List.forall_mem_cons.mpr
    ⟨.link _, List.forall_mem_cons.mpr ⟨.file _, List.forall_mem_singleton.mpr (.file _)⟩⟩

theorem locate_linkTree_root : linkTree.locate ⟨"r"⟩ = .ok ["r"] := by
  rw [FileTree.locate_eq_ok_iff]
  exact ⟨by decide, by decide, by decide, FileTree.maxLinks, .cons rfl (.nil _ _)⟩

theorem locate_linkTree_config : linkTree.locate ⟨"r/c.ini"⟩ = .ok ["r", "c.ini"] := by
  rw [FileTree.locate_eq_ok_iff]
  exact ⟨by decide, by decide, by decide, FileTree.maxLinks, .cons rfl (.cons rfl (.nil _ _))⟩

theorem locate_linkTree_source : linkTree.locate ⟨"r/a.list"⟩ = .ok ["r", "real.txt"] := by
  rw [FileTree.locate_eq_ok_iff]
  exact ⟨by decide,
    by decide, by decide, FileTree.maxLinks - 1, .cons rfl (.cons rfl (.cons rfl (.nil _ _)))⟩

theorem listFiles_linkTree : linkTree.listFiles ⟨"r"⟩ "list" = .ok [] := by
  obtain ⟨n, hat, hn, hwalk⟩ : ∃ n, linkTree.top.at? ["r"] = some n ∧ n.kind = .directory ∧
      n.walk = [(["a.list"], .link), (["c.ini"], .file), (["real.txt"], .file)] :=
    ⟨_, rfl, rfl, rfl⟩
  have hsearch {wanted : Path → Kind → Bool}
      (h : ∀ e ∈ n.walk, wanted (FileTree.joinNames ⟨"r"⟩ e.1) e.2 = false) :
      FileTree.search ⟨"r"⟩ n wanted = [] := by
    rw [List.eq_nil_iff_forall_not_mem]
    intro p hp
    obtain ⟨names, kind, hmem, hwanted, rfl⟩ := FileTree.mem_search.mp hp
    exact Bool.noConfusion ((h _ hmem).symm.trans hwanted)
  rw [hwalk] at hsearch
  have hlong : FileTree.longDirectories ⟨"r"⟩ n = [] := hsearch (by decide)
  have hfound : FileTree.filesWith "list" ⟨"r"⟩ n = [] := hsearch (by decide)
  rw [FileTree.listFiles_of_node? ((FileTree.node?_of_locate locate_linkTree_root).trans hat) hn,
    hlong, hfound]

/-- A file that is reached through a link is accepted as a source but not linted, and nothing is
said about it. -/
theorem not_linted_linkTree :
    linkTree.top.WellFormed ∧ smallSettings.flaw? = none ∧
      (∃ r ∈ (Profile.ofText "ruleset=A,a.list\n").ruleSets,
        Source.ofText r.source = .file "a.list" ∧
        (checkerOf linkTree ⟨"r"⟩ smallSettings (fun _ _ => none) ⟨[]⟩).checkFile "c.ini" r
          "a.list" = []) ∧
      Path.extension? ⟨"a.list"⟩ = some smallSettings.listExtension ∧
      (∀ name ∈ (Path.names ⟨"a.list"⟩).dropLast, ShownName name) ∧
      linkTree.listFiles ⟨"r"⟩ smallSettings.listExtension = .ok [] ∧
      ∃ report log, run linkTree ⟨"r"⟩ smallSettings (fun _ _ => none) = .ok (report, log) ∧
        report.diagnostics = [] := by
  have hsets :
      (Profile.ofText "ruleset=A,a.list\n").ruleSets = [⟨"A", "a.list", [], 1⟩] := by decide +kernel
  have hsource : Source.ofText "a.list" = .file "a.list" := by decide +kernel
  have haccepts : (checkerOf linkTree ⟨"r"⟩ smallSettings (fun _ _ => none) ⟨[]⟩).checkFile "c.ini"
      ⟨"A", "a.list", [], 1⟩ "a.list" = [] := by
    unfold Source.Checker.checkFile
    dsimp only
    rw [if_neg (by decide)]
    exact if_pos (FileTree.isFile_iff.mpr ⟨_, FileTree.node?_of_locate locate_linkTree_source⟩)
  have hfiles : ruleFiles linkTree ⟨"r"⟩ "list" = .ok [] :=
    ruleFiles_eq_ok_iff.mpr ⟨_, listFiles_linkTree, .nil⟩
  have hconfig : linkTree.isFile ⟨"r/c.ini"⟩ = true :=
    FileTree.isFile_iff.mpr ⟨_, FileTree.node?_of_locate locate_linkTree_config⟩
  have hlabel : "c.ini" = Path.displayName ⟨"r"⟩ ⟨"r/c.ini"⟩ := by decide
  have hread : linkTree.readText ⟨"r/c.ini"⟩ = .ok "ruleset=A,a.list\n" :=
    FileTree.readText_of_node? (FileTree.node?_of_locate locate_linkTree_config)
  have hdocument : readDocument linkTree ⟨"r"⟩ ⟨"r/c.ini"⟩ = .ok ⟨"c.ini", "ruleset=A,a.list\n"⟩ :=
    readDocument_eq_ok_iff.mpr ⟨hread, hlabel⟩
  have hchecked :
      ((checkerOf linkTree ⟨"r"⟩ smallSettings (fun _ _ => none) ⟨[]⟩).checkAll "c.ini" {}
      [⟨"A", "a.list", [], 1⟩]).1 = [] := by
    rw [Source.Checker.checkAll_cons, Source.Checker.check, hsource]
    dsimp only
    rw [haccepts]
    rfl
  have htrust : Source.Trust.ofPatterns smallSettings.trustedSources = .ok ⟨[]⟩ := rfl
  have htext : textDiagnostics ⟨"c.ini", "ruleset=A,a.list\n"⟩ = [] := by decide +kernel
  refine ⟨wellFormed_linkTree, Option.isNone_iff_eq_none.mp (by decide +kernel),
    ⟨_, hsets ▸ List.mem_cons_self, hsource,
      haccepts⟩, by decide, by decide, listFiles_linkTree, _, _,
    @run_of_config _ _ smallSettings _ _ _ _ hfiles hconfig hdocument htrust, ?_⟩
  show rulesDiagnostics [] ++ (textDiagnostics ⟨"c.ini", "ruleset=A,a.list\n"⟩ ++ _) = []
  rw [htext, hsets, List.nil_append]
  exact congrArg (rulesDiagnostics [] ++ ·) hchecked

end RuleLint.Lint
