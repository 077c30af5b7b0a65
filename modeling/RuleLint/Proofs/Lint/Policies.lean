import Mathlib.Data.List.Forall2
import RuleLint.Proofs.Lint.Classes
import RuleLint.Proofs.Lint.Run
import RuleLint.Proofs.Source.Asking

namespace RuleLint

open Source

variable {answer : String → Option String}

/-- The same finding under the policies `warn` and `fail`: a warning may become an error if it is
about a URL that does not answer. -/
inductive Eased (answer : String → Option String) : Diagnostic → Diagnostic → Prop
  | same {d : Diagnostic} (h : d.kind ≠ some .reachability) : Eased answer d d
  | unreachable {file : String} {r : RuleSet} {url reason message : String}
      (h : answer url = some reason)
      (hm : message = "rule-set '" ++ r.name ++ "': " ++ url ++ " is unreachable: " ++ reason) :
      Eased answer (((Diagnostic.warn message).withKind .reachability).onLine file r.line)
        ((Diagnostic.error .source message).onLine file r.line)

def withoutReachability (ds : List Diagnostic) : List Diagnostic :=
  ds.filter (·.kind ≠ some .reachability)

theorem kind_ne_of_classOf {d : Diagnostic} {classes : List (Severity × Option IssueKind)}
    (h : d.classOf ∈ classes) (hc : ∀ c ∈ classes, c.2 ≠ some .reachability) :
    d.kind ≠ some .reachability :=
  hc _ h

theorem forall₂_same {ds : List Diagnostic} (h : ∀ d ∈ ds, d.kind ≠ some .reachability) :
    List.Forall₂ (Eased answer) ds ds :=
  List.forall₂_same.mpr fun d hd => .same (h d hd)

theorem withoutReachability_eq_self {ds : List Diagnostic}
    (h : ∀ d ∈ ds, d.kind ≠ some .reachability) :
    withoutReachability ds = ds :=
  List.filter_eq_self.mpr fun d hd => decide_eq_true (h d hd)

theorem withoutReachability_append (ds ds' : List Diagnostic) :
    withoutReachability (ds ++ ds') = withoutReachability ds ++ withoutReachability ds' :=
  List.filter_append ..

namespace Source.Checker

variable {c : Checker} {file path : String} {r : RuleSet} {d : Diagnostic}

@[simp] theorem kind_sourceError (file : String) (r : RuleSet) (said : String) :
    (sourceError file r said).kind = some .source := rfl

theorem kind_checkFile (h : d ∈ c.checkFile file r path) : d.kind ≠ some .reachability := by
  unfold checkFile at h
  dsimp only at h
  split_ifs at h
  · simp [List.mem_singleton.mp h]
  · contradiction
  · simp [List.mem_singleton.mp h]

theorem found_policies (c : Checker) (file : String) (r : RuleSet)
    (answer : String → Option String) :
    List.Forall₂ (Eased answer) ({ c with policy := .warn }.found file r answer)
        ({ c with policy := .fail }.found file r answer) ∧
      { c with policy := .skip }.found file r (fun _ => none) =
        withoutReachability ({ c with policy := .warn }.found file r answer) := by
  unfold found
  cases Source.ofText r.source with
  | builtin => exact ⟨.nil, rfl⟩
  | file path =>
    have h : ∀ d ∈ c.checkFile file r path, d.kind ≠ some .reachability := fun d => kind_checkFile
    exact ⟨forall₂_same h, (withoutReachability_eq_self h).symm⟩
  | remote url =>
    dsimp only
    cases Url.ofText url with
    | error e => exact ⟨forall₂_same (by simp), rfl⟩
    | ok u =>
      dsimp only
      split_ifs with hs ht
      · cases ha : answer url with
        | none => exact ⟨.nil, rfl⟩
        | some reason => exact ⟨.cons (.unreachable ha rfl) .nil, rfl⟩
      · cases ha : answer url with
        | none => exact ⟨forall₂_same (by simp), rfl⟩
        | some reason => exact ⟨.cons (.unreachable ha rfl) (forall₂_same (by simp)), rfl⟩
      · exact ⟨forall₂_same (by simp), rfl⟩

/-- What a checker with one of the policies says whose prober answers as a function of the URL. -/
theorem checkAll_policy (c : Checker) (policy : ReachabilityPolicy) (file : String)
    (rs : List RuleSet) :
    ({ c with policy, prober := some fun _ => answer }.checkAll file {} rs).1 =
      rs.flatMap fun r => { c with policy }.found file r fun url =>
        if policy = ReachabilityPolicy.skip then none else answer url := by
  have h := checkAll_answering (c := { c with policy, prober := some fun _ => answer })
    (ProbeLog.agrees_empty answer) file rs
  refine h.trans ?_
  congr 1
  funext r
  apply found_congr
  intro url _
  cases policy <;> rfl

theorem checkAll_policies (c : Checker) (file : String) (rs : List RuleSet)
    (answer : String → Option String) :
    let under := fun policy : ReachabilityPolicy =>
      ({ c with policy, prober := some fun _ => answer }.checkAll file {} rs).1
    List.Forall₂ (Eased answer) (under .warn) (under .fail) ∧
      under .skip = withoutReachability (under .warn) := by
  dsimp only
  simp only [checkAll_policy, reduceCtorEq, if_false, if_true]
  induction rs with
  | nil => exact ⟨.nil, rfl⟩
  | cons r rs ih =>
    obtain ⟨hr, hs⟩ := found_policies c file r answer
    simp only [List.flatMap_cons]
    refine ⟨List.rel_append hr ih.1, ?_⟩
    rw [hs, ih.2, withoutReachability_append]

end Source.Checker

namespace Lint

theorem kind_rulesDiagnostics {files : List Document} {d : Diagnostic}
    (h : d ∈ rulesDiagnostics files) :
    d.kind ≠ some .reachability :=
  kind_ne_of_classOf (classOf_rulesDiagnostics h) (by decide)

theorem kind_textDiagnostics {document : Document} {d : Diagnostic}
    (h : d ∈ textDiagnostics document) :
    d.kind ≠ some .reachability := by
  rcases List.mem_append.mp h with h | h
  · rcases List.mem_append.mp h with h | h
    · exact kind_ne_of_classOf (Profile.classOf_readingDiagnostics h) (by decide)
    · exact kind_ne_of_classOf (Profile.classOf_checkNames h) (by decide)
  · exact kind_ne_of_classOf (List.mem_singleton.mpr (Profile.classOf_checkReferences h))
      (by decide)

end Lint

/-- A warning that becomes an error makes one error more, and all else is counted alike. -/
theorem errors_le_of_eased {warn fail : List Diagnostic}
    (h : List.Forall₂ (Eased answer) warn fail) :
    Summary.countOf .error warn ≤ Summary.countOf .error fail := by
  unfold Summary.countOf
  induction h with
  | nil => exact Nat.le_refl _
  | cons h _ ih =>
    rw [List.countP_cons, List.countP_cons]
    apply Nat.add_le_add ih
    cases h with
    | same => exact Nat.le_refl _
    | unreachable => exact Nat.zero_le _

theorem errors_withoutReachability {warn fail : List Diagnostic}
    (h : List.Forall₂ (Eased answer) warn fail) :
    Summary.countOf .error (withoutReachability warn) = Summary.countOf .error warn := by
  unfold Summary.countOf withoutReachability
  induction h with
  | nil => rfl
  | cons h _ ih =>
    cases h with
    | same hk =>
      rw [List.filter_cons, if_pos (by simpa using hk), List.countP_cons, List.countP_cons, ih]
    | unreachable =>
      rw [List.filter_cons, if_neg (by simp [Diagnostic.withKind, Diagnostic.onLine]),
        List.countP_cons, ih]
      rfl

theorem exitCode_le_of_errors_le {r r' : Report} (h : r.summary.errors ≤ r'.summary.errors) :
    r.exitCode ≤ r'.exitCode := by
  unfold Report.exitCode Report.hasErrors
  by_cases h0 : 0 < r.summary.errors
  · simp [h0, Nat.lt_of_lt_of_le h0 h]
  · simp [h0]

namespace Lint

/-- The report of a run under a policy; the prober answers as a function of the URL. -/
def reportUnder (tree : FileTree) (root : Path) (settings : Settings)
    (answer : String → Option String) (policy : ReachabilityPolicy) : Except Failure Report :=
  (run tree root { settings with reachability := policy } fun _ => answer).map Prod.fst

variable {tree : FileTree} {root : Path} {settings : Settings} {policy : ReachabilityPolicy}

theorem reportUnder_of_error {e : Failure}
    (h : run tree root { settings with reachability := policy } (fun _ => answer) = .error e) :
    reportUnder tree root settings answer policy = .error e := by
  unfold reportUnder
  rw [h]
  rfl

theorem reportUnder_of_ok {result : Report × ProbeLog}
    (h : run tree root { settings with reachability := policy } (fun _ => answer) = .ok result) :
    reportUnder tree root settings answer policy = .ok result.1 := by
  unfold reportUnder
  rw [h]
  rfl

/-- Whether a run fails does not depend on the policy, nor does anything but the findings on
sources. -/
theorem reportUnder_cases (tree : FileTree) (root : Path) (settings : Settings)
    (answer : String → Option String) :
    (∃ e, ∀ policy, reportUnder tree root settings answer policy = .error e) ∨
    ∃ (n : Nat) (said : ReachabilityPolicy → List Diagnostic),
      (∀ policy, reportUnder tree root settings answer policy =
        .ok (.ofDiagnostics root.text n (said policy))) ∧
      List.Forall₂ (Eased answer) (said .warn) (said .fail) ∧
      said .skip = withoutReachability (said .warn) := by
  cases hf : ruleFiles tree root settings.listExtension with
  | error e => exact .inl ⟨e, fun policy => reportUnder_of_error (run_of_ruleFiles_error hf)⟩
  | ok files =>
    have hrules : ∀ d ∈ rulesDiagnostics files, d.kind ≠ some .reachability :=
      fun d => kind_rulesDiagnostics
    cases hc : tree.isFile (root.join settings.configPath) with
    | false =>
      have hall : ∀ d ∈ rulesDiagnostics files ++ [missingConfig (root.join settings.configPath)],
          d.kind ≠ some .reachability := by
        intro d hd
        rcases List.mem_append.mp hd with hd | hd
        · exact hrules d hd
        · rw [List.mem_singleton.mp hd]
          exact fun hk => by cases hk
      refine .inr ⟨files.length,
        fun _ => rulesDiagnostics files ++ [missingConfig (root.join settings.configPath)],
        fun policy => ?_, forall₂_same hall, (withoutReachability_eq_self hall).symm⟩
      exact reportUnder_of_ok
        (@run_of_no_config _ _ { settings with reachability := policy } _ _ hf hc)
    | true =>
      cases hd : readDocument tree root (root.join settings.configPath) with
      | error e =>
        exact .inl ⟨e, fun policy => reportUnder_of_error (run_of_document_error hf hc hd)⟩
      | ok document =>
        cases ht : Source.Trust.ofPatterns settings.trustedSources with
        | error e =>
          exact .inl ⟨e, fun policy => reportUnder_of_error (run_of_trust_error hf hc hd ht)⟩
        | ok trust =>
          -- Only from here on does the policy matter.
          have htext : ∀ d ∈ textDiagnostics document, d.kind ≠ some .reachability :=
            fun d => kind_textDiagnostics
          obtain ⟨hs, hw⟩ :=
            Source.Checker.checkAll_policies ⟨tree, root, trust, none, .skip⟩ document.label
              (Profile.ofText document.content).ruleSets answer
          let checker := fun policy =>
            checkerOf tree root { settings with reachability := policy } (fun _ => answer) trust
          refine .inr ⟨files.length + 1,
            fun policy => rulesDiagnostics files ++ (textDiagnostics document ++
              ((checker policy).checkAll document.label {}
                (Profile.ofText document.content).ruleSets).1),
            fun policy => ?_,
            List.rel_append (forall₂_same hrules) (List.rel_append (forall₂_same htext) hs), ?_⟩
          · let settings' := { settings with reachability := policy }
            exact reportUnder_of_ok (@run_of_config _ _ settings' _ _ _ _ hf hc hd ht)
          · rw [withoutReachability_append, withoutReachability_append,
              withoutReachability_eq_self hrules, withoutReachability_eq_self htext]
            exact congrArg _ (congrArg _ hw)

/-- The three policies compared: the runs fail alike, or none fails and their reports have the same
findings in the same places, but for the URLs that do not answer. -/
theorem reportUnder_policies (tree : FileTree) (root : Path) (settings : Settings)
    (answer : String → Option String) :
    let under := reportUnder tree root settings answer
    (∃ e, under .fail = .error e ∧ under .warn = .error e ∧ under .skip = .error e) ∨
    ∃ fail warn skip, under .fail = .ok fail ∧ under .warn = .ok warn ∧ under .skip = .ok skip ∧
      List.Forall₂ (Eased answer) warn.diagnostics fail.diagnostics ∧
      skip.diagnostics = withoutReachability warn.diagnostics ∧
      skip.exitCode = warn.exitCode ∧ warn.exitCode ≤ fail.exitCode := by
  rcases reportUnder_cases tree root settings answer with ⟨e, h⟩ | ⟨n, said, h, heased, hskip⟩
  · exact .inl ⟨e, h .fail, h .warn, h .skip⟩
  · refine .inr ⟨_, _, _, h .fail, h .warn, h .skip, heased, hskip, ?_, ?_⟩
    · have he := errors_withoutReachability heased
      rw [← hskip] at he
      exact Nat.le_antisymm (exitCode_le_of_errors_le (Nat.le_of_eq he))
        (exitCode_le_of_errors_le (Nat.le_of_eq he.symm))
    · exact exitCode_le_of_errors_le (errors_le_of_eased heased)

end Lint

end RuleLint
