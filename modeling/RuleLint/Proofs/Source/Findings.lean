import RuleLint.Proofs.Source.Accepting

namespace RuleLint.Source

open Text

/-- The text is matched by a shape that is trusted unasked or by a pattern of the user's. -/
def Trust.Matches (t : Trust) (url : String) : Prop :=
  (∃ shape ∈ trustedShapes, hasShape shape url.toList = true) ∨
    ∃ p ∈ t.patterns, p.isMatch url = true

theorem Trust.trusts_iff {t : Trust} {url : String} : t.trusts url = true ↔ t.Matches url := by
  unfold trusts Matches
  rw [Bool.or_eq_true, List.any_eq_true, List.any_eq_true]

namespace Checker

/-- The source is an HTTPS URL that has to answer and does not, for this reason, and that is not
trusted either. -/
structure FailsTwice (c : Checker) (answer : String → Option String) (source reason : String) :
    Prop where
  not_builtin : source.toList.head? ≠ some '['
  mark : "://".toList <:+: (dropTag source).toList
  untrusted : ∃ u, Url.ofText (dropTag source) = .ok u ∧ u.scheme = "https".toList ∧
    ¬ c.trust.Matches u.text
  must_answer : c.policy = .fail
  asked : c.prober.isSome
  silent : answer (dropTag source) = some reason

variable {c : Checker} {answer verdict : String → Option String} {file reason : String}
    {r : RuleSet} {d : Diagnostic}

theorem verdictOf_of_fail (h : c.policy = .fail) (url : String) :
    c.verdictOf answer url = none ↔ (c.prober.isSome → answer url = none) := by
  unfold verdictOf asks
  rw [h]
  cases c.prober <;> simp

theorem accepts_verdictOf_iff {source : String} :
    c.Accepts (c.verdictOf answer) source ↔
      source.toList.head? = some '[' ∨
      ("://".toList <:+: (dropTag source).toList ∧
        (∃ u, Url.ofText (dropTag source) = .ok u ∧ u.scheme = "https".toList ∧
          c.trust.Matches u.text) ∧
        (c.policy = .fail → c.prober.isSome → answer (dropTag source) = none)) ∨
      (¬ "://".toList <:+: (dropTag source).toList ∧ dropTag source ≠ "" ∧
        (dropTag source).toList.head? ≠ some '/' ∧ ['.', '.'] ∉ fields '/' (dropTag source).toList ∧
        c.tree.isFile (c.root.join ⟨dropTag source⟩) = true) := by
  constructor
  · intro h
    cases h with
    | builtin bracket => exact .inl bracket
    | remote u mark parses https trusted answers =>
      refine .inr (.inl ⟨mark, ⟨u, parses, https, Trust.trusts_iff.mp trusted⟩, ?_⟩)
      intro hfail
      exact (verdictOf_of_fail hfail _).mp (answers hfail)
    | file mark named relative down found => exact .inr (.inr ⟨mark, named, relative, down, found⟩)
  · intro h
    rcases h with bracket | ⟨mark, ⟨u, parses, https, trusted⟩, answers⟩ |
      ⟨mark, named, relative, down, found⟩
    · exact .builtin bracket
    · refine .remote u mark parses https (Trust.trusts_iff.mpr trusted) ?_
      intro hfail
      exact (verdictOf_of_fail hfail _).mpr (answers hfail)
    · exact .file mark named relative down found

/-- A finding about a source is at the line of its rule-set, and an error is about a source. -/
def IsAbout (file : String) (r : RuleSet) (d : Diagnostic) : Prop :=
  d.location = some ⟨file, some r.line⟩ ∧ (d.severity = .error → d.kind = some .source)

theorem isAbout_sourceError (file : String) (r : RuleSet) (said : String) :
    IsAbout file r (sourceError file r said) :=
  ⟨rfl, fun _ => rfl⟩

theorem isAbout_unreachableDiagnostic (c : Checker) (file : String) (r : RuleSet)
    (url reason : String) :
    IsAbout file r (c.unreachableDiagnostic file r url reason) := by
  unfold unreachableDiagnostic
  cases c.policy with
  | fail => exact ⟨rfl, fun _ => rfl⟩
  | warn | skip => exact ⟨rfl, nofun⟩

theorem askedUrl?_of_https {url : String} {u : Url} (hs : Source.ofText r.source = .remote url)
    (hu : Url.ofText url = .ok u) (hscheme : u.scheme = "https".toList) :
    askedUrl? r = some url := by
  unfold askedUrl?
  simp only [hs, hu, if_pos hscheme]

theorem ofText_of_askedUrl? {url : String} (h : askedUrl? r = some url) :
    Source.ofText r.source = .remote url := by
  unfold askedUrl? at h
  split at h
  · rename_i hs
    split at h
    · split_ifs at h
      rw [hs, Option.some.inj h]
    · contradiction
  · contradiction
  · contradiction

/-- What can be said about a rule-set, given the verdict on every URL. -/
inductive Said (c : Checker) (file : String) (r : RuleSet) (verdict : String → Option String) :
    Diagnostic → Prop
  | malformed {url : String} {e : Url.UrlError} (hs : Source.ofText r.source = .remote url)
      (hu : Url.ofText url = .error e) :
      Said c file r verdict (sourceError file r ("malformed URL '" ++ url ++ "': " ++ e.message))
  | scheme {url : String} {u : Url} (hs : Source.ofText r.source = .remote url)
      (hu : Url.ofText url = .ok u) :
      Said c file r verdict
        (sourceError file r ("non-HTTPS scheme '" ++ .ofList u.scheme ++ "' in " ++ url))
  | unreachable {url reason : String} (hs : askedUrl? r = some url)
      (hv : verdict url = some reason) :
      Said c file r verdict (c.unreachableDiagnostic file r url reason)
  | untrusted {url : String} (hs : Source.ofText r.source = .remote url) :
      Said c file r verdict (sourceError file r ("untrusted source " ++ url))
  | outside {path : String} (hs : Source.ofText r.source = .file path) :
      Said c file r verdict
        (sourceError file r ("local source '" ++ path ++ "' must be a path relative to the root"))
  | missing {path : String} (hs : Source.ofText r.source = .file path) :
      Said c file r verdict
        (sourceError file r ("local file not found: " ++ (c.root.join ⟨path⟩).text))

theorem said_of_mem_found (h : d ∈ c.found file r verdict) : Said c file r verdict d := by
  unfold found at h
  cases hs : Source.ofText r.source with
  | builtin =>
    rw [hs] at h
    contradiction
  | file path =>
    rw [hs] at h
    dsimp only at h
    unfold checkFile at h
    dsimp only at h
    split_ifs at h
    · rw [List.mem_singleton.mp h]
      exact .outside hs
    · contradiction
    · rw [List.mem_singleton.mp h]
      exact .missing hs
  | remote url =>
    rw [hs] at h
    dsimp only at h
    cases hu : Url.ofText url with
    | error e =>
      rw [hu] at h
      rw [List.mem_singleton.mp h]
      exact .malformed hs hu
    | ok u =>
      rw [hu] at h
      dsimp only at h
      split_ifs at h with hscheme htrust
      · rw [List.append_nil, Option.mem_toList, Option.map_eq_some_iff] at h
        obtain ⟨reason, hv, rfl⟩ := h
        exact .unreachable (askedUrl?_of_https hs hu hscheme) hv
      · rcases List.mem_append.mp h with h | h
        · obtain ⟨reason, hv, rfl⟩ := Option.map_eq_some_iff.mp (Option.mem_toList.mp h)
          exact .unreachable (askedUrl?_of_https hs hu hscheme) hv
        · rw [List.mem_singleton.mp h]
          exact .untrusted hs
      · rw [List.mem_singleton.mp h]
        exact .scheme hs hu

theorem isAbout_said (h : Said c file r verdict d) : IsAbout file r d := by
  cases h with
  | unreachable => exact isAbout_unreachableDiagnostic c file r _ _
  | malformed | scheme | untrusted | outside | missing => exact isAbout_sourceError file r _

theorem length_checkFile_le (c : Checker) (file : String) (r : RuleSet) (path : String) :
    (c.checkFile file r path).length ≤ 1 := by
  unfold checkFile
  dsimp only
  split_ifs <;> simp

theorem unreachableDiagnostic_of_fail (h : c.policy = .fail) (url : String) :
    c.unreachableDiagnostic file r url reason =
      sourceError file r (url ++ " is unreachable: " ++ reason) := by
  unfold unreachableDiagnostic sourceError
  rw [h]
  simp only [String.append_assoc]

theorem not_isError_unreachableDiagnostic (h : c.policy ≠ .fail) (url : String) :
    (c.unreachableDiagnostic file r url reason).isError = false := by
  unfold unreachableDiagnostic
  cases hp : c.policy with
  | fail => contradiction
  | warn | skip => rfl

theorem ofText_eq_remote {source : String} (hb : source.toList.head? ≠ some '[')
    (hm : "://".toList <:+: (dropTag source).toList) :
    Source.ofText source = .remote (dropTag source) := by
  unfold Source.ofText
  rw [if_neg hb]
  exact if_pos (mentions_iff.mpr hm)

theorem eq_dropTag_of_ofText {source url : String} (h : Source.ofText source = .remote url) :
    source.toList.head? ≠ some '[' ∧ "://".toList <:+: (dropTag source).toList ∧
    url = dropTag source := by
  unfold Source.ofText at h
  dsimp only at h
  split_ifs at h with hb hm
  exact ⟨hb, mentions_iff.mp hm, (Source.remote.inj h).symm⟩

theorem FailsTwice.found (h : c.FailsTwice answer r.source reason) :
    c.found file r (c.verdictOf answer) =
      [sourceError file r (dropTag r.source ++ " is unreachable: " ++ reason),
        sourceError file r ("untrusted source " ++ dropTag r.source)] := by
  obtain ⟨u, hu, hscheme, htrust⟩ := h.untrusted
  have hasks : c.asks = true := by
    unfold asks
    rw [h.must_answer, h.asked]
    rfl
  have hverdict : c.verdictOf answer (dropTag r.source) = some reason := by
    unfold verdictOf
    rw [if_pos hasks]
    exact h.silent
  unfold Checker.found
  rw [ofText_eq_remote h.not_builtin h.mark]
  dsimp only
  rw [hu]
  dsimp only
  rw [if_pos hscheme, if_neg (mt Trust.trusts_iff.mp htrust), hverdict, Option.map_some,
    unreachableDiagnostic_of_fail h.must_answer]
  rfl

/-- Errors are counted by the early ends of the check: only the last two steps can give one each. -/
theorem errors_le_one_or_failsTwice (c : Checker) (answer : String → Option String) (file : String)
    (r : RuleSet) :
    ((c.found file r (c.verdictOf answer)).filter Diagnostic.isError).length ≤ 1 ∨
      ∃ reason, c.FailsTwice answer r.source reason := by
  have hshort {ds : List Diagnostic} (h : ds.length ≤ 1) :
      (ds.filter Diagnostic.isError).length ≤ 1 :=
    Nat.le_trans (List.length_filter_le _ _) h
  unfold found
  cases hs : Source.ofText r.source with
  | builtin => exact .inl (hshort (Nat.zero_le 1))
  | file path => exact .inl (hshort (length_checkFile_le c file r path))
  | remote url =>
    obtain ⟨hb, hm, rfl⟩ := eq_dropTag_of_ofText hs
    dsimp only
    cases hu : Url.ofText (dropTag r.source) with
    | error e => exact .inl (hshort (Nat.le_refl 1))
    | ok u =>
      dsimp only
      cases hv : c.verdictOf answer (dropTag r.source) with
      | none =>
        -- With nothing said about the answer at most one finding is left.
        refine .inl (hshort ?_)
        split_ifs <;> simp
      | some reason =>
        split_ifs with hscheme htrust
        · exact .inl (hshort (Nat.le_refl 1))
        · by_cases hp : c.policy = .fail
          · have hverdict : c.prober.isSome ∧ answer (dropTag r.source) = some reason := by
              unfold verdictOf asks at hv
              rw [hp] at hv
              split_ifs at hv with hasks
              exact ⟨by simpa using hasks, hv⟩
            exact .inr ⟨reason, hb, hm, ⟨u, hu, hscheme, mt Trust.trusts_iff.mpr htrust⟩, hp,
              hverdict.1, hverdict.2⟩
          · -- A warning is not counted.
            refine .inl ?_
            rw [Option.map_some, Option.toList_some, List.filter_append,
              List.filter_cons_of_neg (by simp [not_isError_unreachableDiagnostic hp])]
            exact hshort (Nat.le_refl 1)
        · exact .inl (hshort (Nat.le_refl 1))

theorem agrees_checkAll {log : ProbeLog} (h : log.Agrees answer) (file : String)
    (rs : List RuleSet) :
    ((c.answering answer).checkAll file log rs).2.Agrees answer := by
  induction rs generalizing log with
  | nil => exact h
  | cons r rs ih => exact ih (check_answering (c := c) h file r).2

/-- Whatever was checked before, no error is found in a source exactly if it is built in, or an
HTTPS URL that is trusted and answers if it has to, or the path of a file below the root. There is
at most one error, unless a URL fails twice: then there are two, and that it does not answer comes
first. Errors are about the source and at the line of the rule-set. -/
theorem check_after (c : Checker) (answer : String → Option String) (file file' : String)
    (earlier : List RuleSet) (r : RuleSet) :
    let found :=
      ((c.answering answer).check file r ((c.answering answer).checkAll file' {} earlier).2).1
    let target := dropTag r.source
    (ErrorFree found ↔
      r.source.toList.head? = some '[' ∨
      ("://".toList <:+: target.toList ∧
        (∃ u, Url.ofText target = .ok u ∧ u.scheme = "https".toList ∧ c.trust.Matches u.text) ∧
        (c.policy = .fail → c.prober.isSome → answer target = none)) ∨
      (¬ "://".toList <:+: target.toList ∧ target ≠ "" ∧ target.toList.head? ≠ some '/' ∧
        ['.', '.'] ∉ fields '/' target.toList ∧ c.tree.isFile (c.root.join ⟨target⟩) = true)) ∧
    ((∀ reason, ¬ c.FailsTwice answer r.source reason) →
      (found.filter Diagnostic.isError).length ≤ 1) ∧
    (∀ reason, c.FailsTwice answer r.source reason →
      found = [sourceError file r (target ++ " is unreachable: " ++ reason),
        sourceError file r ("untrusted source " ++ target)]) ∧
    ∀ d ∈ found, d.severity = .error →
      d.kind = some .source ∧ d.location = some ⟨file, some r.line⟩ := by
  intro found target
  have hfound : found = c.found file r (c.verdictOf answer) :=
    (check_answering (agrees_checkAll (ProbeLog.agrees_empty answer) file' earlier) file r).1
  rw [hfound]
  refine ⟨errorFree_found.trans accepts_verdictOf_iff, ?_, ?_, ?_⟩
  · intro hnot
    rcases errors_le_one_or_failsTwice c answer file r with h | ⟨reason, h⟩
    · exact h
    · exact (hnot reason h).elim
  · intro reason h
    exact h.found
  · intro d hd herror
    have habout := isAbout_said (said_of_mem_found hd)
    exact ⟨habout.2 herror, habout.1⟩

end Checker

end RuleLint.Source
