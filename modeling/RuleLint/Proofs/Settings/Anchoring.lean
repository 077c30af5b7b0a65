import Mathlib.Data.Bool.AllAny
import RuleLint.Proofs.Pattern.Anchored
import RuleLint.Proofs.Settings.Flaws

namespace RuleLint.Settings

open Pattern Text

variable {s : Settings} {pattern : String}

/-- A match of a pattern in settings without a flaw begins with `https://`, unless the last slash
may be left out or an alternative is matched that is not the first. -/
theorem prefix_https_of_isMatch (hs : s.flaw? = none) (hpattern : pattern ∈ s.trustedSources) :
    ∃ e p, Pattern.read pattern.toList = .ok e ∧ Pattern.compile pattern = .ok p ∧
      ∀ u : String, p.isMatch u = true →
        "https://".toList <+: u.toList ∨
        (∃ slash, e.leadingParts[8]? = some slash ∧ slash.isOptional = true ∧
          "https:/".toList <+: u.toList) ∨
        ∃ m ∈ p.matcher.otherAlternatives, m.matchesIn u.toList = true := by
  obtain ⟨-, -, hpatterns, -⟩ := flaw?_eq_none_iff.mp hs
  obtain ⟨⟨rest, hrest⟩, p, hp⟩ := patternFlaw?_eq_none_iff.mp (hpatterns pattern hpattern)
  have hplain : ∀ c ∈ "https:/".toList, IsPlain c := List.all_iff_forall_prop.mp (by decide)
  obtain ⟨e, he, hmatches⟩ := prefix_of_isMatch hplain (c := '/') (by decide) hrest.symm hp
  exact ⟨e, p, he, hp, hmatches⟩

theorem exists_compile_of_any {text : String} {test : Pattern → Bool}
    (h : (Pattern.compile text).toOption.any test = true) :
    ∃ p, Pattern.compile text = .ok p ∧ test p = true := by
  cases hp : Pattern.compile text with
  | error e =>
    rw [hp] at h
    contradiction
  | ok p =>
    rw [hp] at h
    exact ⟨p, rfl, h⟩

theorem prefix_https_of_rulesOnly :
    let pattern := "^https://rules\\.example\\.org/.+"
    let s : Settings := { trustedSources := [pattern] }
    s.flaw? = none ∧ ∃ p, Pattern.compile pattern = .ok p ∧
      p.isMatch "https://rules.example.org/a.list" = true ∧ ∀ u : String, p.isMatch u = true →
      "https://".toList <+: u.toList := by
  intro pattern s
  have hs : s.flaw? = none := Option.isNone_iff_eq_none.mp (by decide +kernel)
  obtain ⟨e, p, he, hp, hmatches⟩ := prefix_https_of_isMatch hs List.mem_cons_self
  have hslash : (Pattern.read pattern.toList).toOption.all
      (fun e => e.leadingParts[8]?.all fun slash => ! slash.isOptional) = true := by decide +kernel
  have hone : (Pattern.compile pattern).toOption.any (fun p =>
      p.matcher.otherAlternatives.isEmpty && p.isMatch "https://rules.example.org/a.list") =
        true := by decide +kernel
  rw [he] at hslash
  rw [hp] at hone
  obtain ⟨hothers, hmatch⟩ := (Bool.and_eq_true _ _).mp hone
  refine ⟨hs, p, hp, hmatch, fun u hu => ?_⟩
  rcases hmatches u hu with h | ⟨slash, hlast, hoptional, -⟩ | ⟨m, hm, -⟩
  · exact h
  · have hall : e.leadingParts[8]?.all (fun slash => ! slash.isOptional) = true := hslash
    rw [hlast, Option.all_some, hoptional] at hall
    contradiction
  · rw [List.isEmpty_iff.mp hothers] at hm
    contradiction

/-- A bar and a repeated slash each let a pattern through that matches what is no HTTPS URL. -/
theorem not_prefix_https :
    let s : Settings := { trustedSources := ["^https://a|b", "^https://*"] }
    s.flaw? = none ∧
      (∃ p, Pattern.compile "^https://a|b" = .ok p ∧ p.isMatch "b" = true) ∧
      (∃ p, Pattern.compile "^https://*" = .ok p ∧ p.isMatch "https:/b" = true) ∧
      ¬ "https://".toList <+: "b".toList ∧ ¬ "https://".toList <+: "https:/b".toList :=
  ⟨Option.isNone_iff_eq_none.mp (by decide +kernel), exists_compile_of_any (by decide +kernel),
    exists_compile_of_any (by decide +kernel), by decide, by decide⟩

end RuleLint.Settings
