import RuleLint.Proofs.Path
import RuleLint.Proofs.Severity
import RuleLint.Proofs.Source.Asking

namespace RuleLint.Source.Checker

open Text

/-- The source is built in, a trusted HTTPS URL that answers if it must, or a file below the
root. -/
inductive Accepts (c : Checker) (verdict : String → Option String) (source : String) : Prop
  | builtin (bracket : source.toList.head? = some '[')
  | remote (u : Url) (mark : "://".toList <:+: (dropTag source).toList)
      (parses : Url.ofText (dropTag source) = .ok u)
      (https : u.scheme = "https".toList) (trusted : c.trust.trusts u.text = true)
      (answers : c.policy = .fail → verdict (dropTag source) = none)
  | file (mark : ¬ "://".toList <:+: (dropTag source).toList) (named : dropTag source ≠ "")
      (relative : (dropTag source).toList.head? ≠ some '/')
      (down : ['.', '.'] ∉ fields '/' (dropTag source).toList)
      (found : c.tree.isFile (c.root.join ⟨dropTag source⟩) = true)

variable {c : Checker} {verdict : String → Option String} {file source : String} {r : RuleSet}

theorem Accepts.withProber {prober : Option Prober} (h : c.Accepts verdict source) :
    Accepts { c with prober := prober } verdict source := by
  cases h with
  | builtin bracket => exact .builtin bracket
  | remote u mark parses https trusted answers => exact .remote u mark parses https trusted answers
  | file mark named relative down found => exact .file mark named relative down found

theorem not_errorFree_sourceError {said : String} : ¬ ErrorFree [sourceError file r said] :=
  fun h => h _ List.mem_cons_self rfl

theorem errorFree_unreachable {url : String} :
    ErrorFree ((verdict url).map (c.unreachableDiagnostic file r url)).toList ↔
      (c.policy = .fail → verdict url = none) := by
  cases verdict url with
  | none => exact iff_of_true errorFree_nil fun _ => rfl
  | some reason =>
    unfold unreachableDiagnostic
    cases c.policy with
    | fail => exact iff_of_false (fun h => h _ List.mem_cons_self rfl) fun h => nomatch h rfl
    | warn | skip => exact iff_of_true (errorFree_singleton.mpr nofun) nofun

/-- What is said about a local source that is refused without a look at the files. -/
def refusal (file : String) (r : RuleSet) (path : String) : Diagnostic :=
  sourceError file r ("local source '" ++ path ++ "' must be a path relative to the root")

theorem checkFile_eq {path : String} : c.checkFile file r path =
    if Path.Confined ⟨path⟩ then
      if c.tree.isFile (c.root.join ⟨path⟩) then []
      else [sourceError file r ("local file not found: " ++ (c.root.join ⟨path⟩).text)]
    else [refusal file r path] := by
  have htest : (path = "" || ! Path.goesDown ⟨path⟩) = true ↔ ¬ Path.Confined ⟨path⟩ := by
    rw [Path.confined_iff]
    by_cases hempty : path = "" <;> simp [hempty]
  unfold checkFile
  dsimp only
  by_cases h : Path.Confined ⟨path⟩
  · rw [if_pos h, if_neg (mt htest.mp (not_not.mpr h))]
  · rw [if_neg h, if_pos (htest.mpr h)]
    rfl

theorem errorFree_checkFile {path : String} :
    ErrorFree (c.checkFile file r path) ↔
      Path.Confined ⟨path⟩ ∧ c.tree.isFile (c.root.join ⟨path⟩) = true := by
  rw [checkFile_eq]
  split_ifs with hconfined hfile
  · exact iff_of_true errorFree_nil ⟨hconfined, hfile⟩
  · exact iff_of_false not_errorFree_sourceError fun h => hfile h.2
  · exact iff_of_false not_errorFree_sourceError fun h => hconfined h.1

theorem errorFree_found_of_remote {url : String} (h : Source.ofText r.source = .remote url) :
    ErrorFree (c.found file r verdict) ↔ ∃ u, Url.ofText url = .ok u ∧ u.scheme = "https".toList ∧
      c.trust.trusts u.text = true ∧ (c.policy = .fail → verdict url = none) := by
  unfold found
  rw [h]
  dsimp only
  cases hu : Url.ofText url with
  | error e => exact iff_of_false not_errorFree_sourceError fun ⟨_, h, _⟩ => nomatch h
  | ok u =>
    simp only [Except.ok.injEq, exists_eq_left']
    split_ifs with hs ht
    · rw [List.append_nil, errorFree_unreachable, and_iff_right hs, and_iff_right ht]
    · rw [errorFree_append, and_iff_right hs]
      exact iff_of_false (fun h => not_errorFree_sourceError h.2) fun h => ht h.1
    · exact iff_of_false not_errorFree_sourceError fun h => hs h.1

/-- No error is found in a source exactly if it is accepted. -/
theorem errorFree_found : ErrorFree (c.found file r verdict) ↔ c.Accepts verdict r.source := by
  by_cases hbracket : r.source.toList.head? = some '['
  · have hsource : Source.ofText r.source = .builtin := if_pos hbracket
    unfold found
    rw [hsource]
    exact iff_of_true errorFree_nil (.builtin hbracket)
  · by_cases hmark : "://".toList <:+: (dropTag r.source).toList
    · have hsource : Source.ofText r.source = .remote (dropTag r.source) := by
        unfold Source.ofText
        rw [if_neg hbracket]
        exact if_pos (mentions_iff.mpr hmark)
      rw [errorFree_found_of_remote hsource]
      constructor
      · rintro ⟨u, hu, hs, ht, ha⟩
        exact .remote u hmark hu hs ht ha
      · rintro (h | ⟨u, -, hu, hs, ht, ha⟩ | ⟨h, -⟩)
        · contradiction
        · exact ⟨u, hu, hs, ht, ha⟩
        · contradiction
    · have hsource : Source.ofText r.source = .file (dropTag r.source) := by
        unfold Source.ofText
        rw [if_neg hbracket]
        exact if_neg fun h => hmark (mentions_iff.mp h)
      unfold found
      rw [hsource]
      dsimp only
      rw [errorFree_checkFile]
      constructor
      · rintro ⟨⟨hne, hrel, hdown⟩, hfile⟩
        exact .file hmark hne hrel hdown hfile
      · rintro (h | ⟨u, h, -⟩ | ⟨-, hne, hrel, hdown, hfile⟩)
        · contradiction
        · contradiction
        · exact ⟨⟨hne, hrel, hdown⟩, hfile⟩

/-- A checker that asks nobody finds no error in a run exactly if it accepts every source. -/
theorem errorFree_checkAll_of_not_asks (h : c.asks = false) (file : String) (log : ProbeLog)
    (rs : List RuleSet) :
    ErrorFree (c.checkAll file log rs).1 ↔ ∀ r ∈ rs, c.Accepts (fun _ => none) r.source := by
  rw [checkAll_fst, errorFree_flatMap]
  simp only [unreachable?_of_not_asks h]
  exact forall₂_congr fun r _ => errorFree_found

end RuleLint.Source.Checker
