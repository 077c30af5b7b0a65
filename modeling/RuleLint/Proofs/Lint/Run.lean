import RuleLint.Lint
import RuleLint.Proofs.Steps

namespace RuleLint.Lint

variable {tree : FileTree} {root : Path} {settings : Settings} {prober : Prober}
variable {files : List Document} {document : Document} {trust : Source.Trust} {e : Failure}

def textDiagnostics (d : Document) : List Diagnostic :=
  Profile.readingDiagnostics d.label d.content ++ (Profile.ofText d.content).checkNames d.label ++
    (Profile.ofText d.content).checkReferences d.label

def checkerOf (tree : FileTree) (root : Path) (settings : Settings) (prober : Prober)
    (trust : Source.Trust) :
    Source.Checker :=
  ⟨tree, root, trust, some prober, settings.reachability⟩

theorem readDocument_eq_error_iff {p : Path} :
    readDocument tree root p = .error e ↔
      ∃ cause, tree.readText p = .error cause ∧ e = .unreadableFile p.text cause.message := by
  unfold readDocument
  cases tree.readText p with
  | error cause => simp [eq_comm]
  | ok s => exact iff_of_false nofun fun ⟨_, h, _⟩ => nomatch h

theorem readDocument_eq_ok_iff {p : Path} {d : Document} :
    readDocument tree root p = .ok d ↔
      tree.readText p = .ok d.content ∧ d.label = root.displayName p := by
  obtain ⟨label, content⟩ := d
  unfold readDocument
  cases tree.readText p with
  | error e => exact iff_of_false nofun fun h => nomatch h.1
  | ok s => simp [and_comm, eq_comm]

/-- The rule files are the listed ones, with their texts and display names. -/
theorem ruleFiles_eq_ok_iff {extension : String} :
    ruleFiles tree root extension = .ok files ↔ ∃ paths, tree.listFiles root extension = .ok paths ∧
      List.Forall₂ (fun p d => tree.readText p = .ok d.content ∧ d.label = root.displayName p)
        paths files := by
  unfold ruleFiles
  cases tree.listFiles root extension with
  | error e => exact iff_of_false nofun fun ⟨_, h, _⟩ => nomatch h
  | ok paths =>
    show paths.mapM (readDocument tree root) = .ok files ↔ _
    simp only [mapM_eq_ok_iff, readDocument_eq_ok_iff, Except.ok.injEq, exists_eq_left']

theorem ruleFiles_of_listFiles_error {extension : String}
    (h : tree.listFiles root extension = .error e) :
    ruleFiles tree root extension = .error e := by
  unfold ruleFiles
  rw [h]
  rfl

/-- If there is a listing, the first of its files that cannot be read stops the reading. -/
theorem ruleFiles_eq_error_iff {extension : String} {paths : List Path}
    (h : tree.listFiles root extension = .ok paths) :
    ruleFiles tree root extension = .error e ↔
      ∃ front p back cause, paths = front ++ p :: back ∧
        (∀ q ∈ front, ∃ s, tree.readText q = .ok s) ∧ tree.readText p = .error cause ∧
        e = .unreadableFile p.text cause.message := by
  have hread {q : Path} :
      (∃ d, readDocument tree root q = .ok d) ↔ ∃ s, tree.readText q = .ok s := by
    constructor
    · rintro ⟨d, hd⟩
      exact ⟨d.content, (readDocument_eq_ok_iff.mp hd).1⟩
    · rintro ⟨s, hs⟩
      exact ⟨⟨root.displayName q, s⟩, readDocument_eq_ok_iff.mpr ⟨hs, rfl⟩⟩
  have hsteps : ruleFiles tree root extension = paths.mapM (readDocument tree root) := by
    unfold ruleFiles
    rw [h]
    rfl
  rw [hsteps, mapM_eq_error_iff]
  simp only [hread, readDocument_eq_error_iff, exists_and_left]

theorem run_of_ruleFiles_error (hf : ruleFiles tree root settings.listExtension = .error e) :
    run tree root settings prober = .error e := by
  unfold run
  rw [hf]
  rfl

theorem run_of_no_config (hf : ruleFiles tree root settings.listExtension = .ok files)
    (hc : tree.isFile (root.join settings.configPath) = false) :
    run tree root settings prober =
      .ok (.ofDiagnostics root.text files.length
        (rulesDiagnostics files ++ [missingConfig (root.join settings.configPath)]), {}) := by
  unfold run
  rw [hf]
  simp only [hc]
  rfl

theorem run_of_document_error (hf : ruleFiles tree root settings.listExtension = .ok files)
    (hc : tree.isFile (root.join settings.configPath) = true)
    (hd : readDocument tree root (root.join settings.configPath) = .error e) :
    run tree root settings prober = .error e := by
  unfold run
  rw [hf]
  simp only [hc, hd]
  rfl

theorem run_of_trust_error (hf : ruleFiles tree root settings.listExtension = .ok files)
    (hc : tree.isFile (root.join settings.configPath) = true)
    (hd : readDocument tree root (root.join settings.configPath) = .ok document)
    (ht : Source.Trust.ofPatterns settings.trustedSources = .error e) :
    run tree root settings prober = .error e := by
  unfold run profileDiagnostics
  rw [hf]
  simp only [hc, hd, ht]
  rfl

theorem run_of_config (hf : ruleFiles tree root settings.listExtension = .ok files)
    (hc : tree.isFile (root.join settings.configPath) = true)
    (hd : readDocument tree root (root.join settings.configPath) = .ok document)
    (ht : Source.Trust.ofPatterns settings.trustedSources = .ok trust) :
    let checked := (checkerOf tree root settings prober trust).checkAll document.label {}
      (Profile.ofText document.content).ruleSets
    run tree root settings prober =
      .ok (.ofDiagnostics root.text (files.length + 1)
        (rulesDiagnostics files ++ (textDiagnostics document ++ checked.1)), checked.2) := by
  unfold run profileDiagnostics
  rw [hf]
  simp only [hc, hd, ht]
  rfl

theorem run_ok {result : Report × ProbeLog} (h : run tree root settings prober = .ok result) :
    ∃ files, ruleFiles tree root settings.listExtension = .ok files ∧
      (tree.isFile (root.join settings.configPath) = false ∨
        tree.isFile (root.join settings.configPath) = true ∧
          ∃ document trust, readDocument tree root (root.join settings.configPath) = .ok document ∧
            Source.Trust.ofPatterns settings.trustedSources = .ok trust) := by
  cases hf : ruleFiles tree root settings.listExtension with
  | error e =>
    rw [run_of_ruleFiles_error hf] at h
    contradiction
  | ok files =>
    refine ⟨files, rfl, ?_⟩
    cases hc : tree.isFile (root.join settings.configPath) with
    | false => exact .inl rfl
    | true =>
      right
      cases hd : readDocument tree root (root.join settings.configPath) with
      | error e =>
        rw [run_of_document_error hf hc hd] at h
        contradiction
      | ok document =>
        cases ht : Source.Trust.ofPatterns settings.trustedSources with
        | error e =>
          rw [run_of_trust_error hf hc hd ht] at h
          contradiction
        | ok trust => exact ⟨rfl, document, trust, rfl, rfl⟩

/-- The reports that runs give, and whom they asked. -/
inductive Reports (tree : FileTree) (root : Path) (settings : Settings) (prober : Prober) :
    Report → ProbeLog → Prop
  | missing {files : List Document} (hf : ruleFiles tree root settings.listExtension = .ok files)
      (hc : tree.isFile (root.join settings.configPath) = false) :
      Reports tree root settings prober
        (.ofDiagnostics root.text files.length
          (rulesDiagnostics files ++ [missingConfig (root.join settings.configPath)])) {}
  | config {files : List Document} {document : Document} {trust : Source.Trust}
      (hf : ruleFiles tree root settings.listExtension = .ok files)
      (hc : tree.isFile (root.join settings.configPath) = true)
      (hd : readDocument tree root (root.join settings.configPath) = .ok document)
      (ht : Source.Trust.ofPatterns settings.trustedSources = .ok trust)
      {found : List Diagnostic} {log : ProbeLog}
      (hfound : (checkerOf tree root settings prober trust).checkAll document.label {}
        (Profile.ofText document.content).ruleSets = (found, log)) :
      Reports tree root settings prober
        (.ofDiagnostics root.text (files.length + 1)
          (rulesDiagnostics files ++ (textDiagnostics document ++ found))) log

theorem reports_of_run {report : Report} {log : ProbeLog}
    (h : run tree root settings prober = .ok (report, log)) :
    Reports tree root settings prober report log := by
  obtain ⟨files, hf, hc | ⟨hc, document, trust, hd, ht⟩⟩ := run_ok h
  · rw [run_of_no_config hf hc] at h
    obtain ⟨rfl, rfl⟩ := Prod.mk.inj (Except.ok.inj h)
    exact .missing hf hc
  · rw [run_of_config hf hc hd ht] at h
    obtain ⟨rfl, rfl⟩ := Prod.mk.inj (Except.ok.inj h)
    exact .config hf hc hd ht rfl

end RuleLint.Lint
