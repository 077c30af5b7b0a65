import RuleLint.Proofs.Source.Findings
import RuleLint.Proofs.Source.TrustedText
import RuleLint.Proofs.Url.PlainDomain

namespace RuleLint.Source

open Text

variable {host : String} {front path tail : List Char}

/-- The path leads to a file the way that paths of the host do. -/
def TrustedPath (host : String) (path : List Char) : Prop :=
  ∃ front rest, PathFront host front ∧ rest ≠ [] ∧ path = front ++ rest

theorem TrustedText.exists_trustedPath {s : List Char} (h : TrustedText s) :
    ∃ host path, s = "https://".toList ++ host.toList ++ path ∧ TrustedPath host path := by
  obtain ⟨host, front, file, hfront, hne, -, rfl⟩ := h
  exact ⟨host, front ++ file, List.append_assoc _ front file, front, file, hfront, hne, rfl⟩

/-- What precedes the file lies within the path if no slash follows the path. -/
theorem TrustedPath.of_append (h : TrustedPath host (path ++ tail)) (hslash : '/' ∉ tail)
    (hlast : tail = [] ∨ path.getLast? ≠ some '/') : TrustedPath host path := by
  obtain ⟨front, rest, hfront, hne, heq⟩ := h
  obtain ⟨s, hs⟩ := hfront.ends_with_slash
  -- A path that ends with the front ends in a slash, which only an empty tail may follow.
  have hpath : path ≠ front := by
    rintro rfl
    rw [List.append_cancel_left heq, hs, List.getLast?_append_cons] at hlast
    rcases hlast with hnil | hend
    · exact hne hnil
    · exact hend rfl
  rcases List.append_eq_append_iff.mp heq with ⟨more, hmore, htail⟩ | ⟨more, hmore, -⟩
  · rcases List.eq_nil_or_concat more with rfl | ⟨t, c, rfl⟩
    · exact absurd (hmore.trans (List.append_nil path)).symm hpath
    · -- The slash that ends the front would stand behind the path.
      rw [hs, List.concat_eq_append, ← List.append_assoc] at hmore
      obtain ⟨-, hc⟩ := List.append_inj' hmore rfl
      rw [htail, List.concat_eq_append, ← hc] at hslash
      exact absurd (by simp) hslash
  · refine ⟨front, more, hfront, ?_, hmore⟩
    rintro rfl
    exact hpath (hmore.trans (List.append_nil front))

theorem TrustedPath.four_le_count (h : TrustedPath host path) : 4 ≤ path.count '/' := by
  obtain ⟨front, rest, hfront, -, rfl⟩ := h
  rw [List.count_append]
  exact Nat.le_add_right_of_le hfront.four_le_count

namespace Checker

variable {c : Checker} {file url : String} {r : RuleSet} {log : ProbeLog}

/-- Without patterns of the user's, what follows the host of a URL that no error is found in has the
shape of the host's paths, up to where the path ends if no slash stands behind it. -/
theorem trustedPath_of_check (hpatterns : c.trust.patterns = [])
    (hurl : Source.ofText r.source = .remote url) (h : ErrorFree (c.check file r log).1) :
    ∃ u host, Url.ofText url = .ok u ∧ u.host = some (.domain host.toList) ∧
      u.render = "https://".toList ++ host.toList ++ (u.path ++ u.tail) ∧
      u.path = (u.path ++ u.tail).takeWhile (· ∉ ['?', '#']) ∧
      TrustedPath host (u.path ++ u.tail) ∧
      ('/' ∉ u.tail → (u.tail = [] ∨ u.path.getLast? ≠ some '/') → TrustedPath host u.path) := by
  rw [check_eq] at h
  obtain ⟨u, hu, hscheme, htrusts, -⟩ := (errorFree_found_of_remote hurl).mp h
  have hshape : ∃ shape ∈ trustedShapes, hasShape shape u.text.toList = true := by
    rcases Trust.trusts_iff.mp htrusts with hshape | ⟨p, hp, -⟩
    · exact hshape
    · rw [hpatterns] at hp
      contradiction
  obtain ⟨host, path, hrender, hpath⟩ := (exists_hasShape_iff.mp hshape).exists_trustedPath
  rw [Url.text, String.toList_ofList] at hrender
  have hform : Url.IsNetworkForm u := Url.isNetworkForm_of_ofText hu (by rw [hscheme]; decide)
  have hpath' := hpath
  obtain ⟨front, rest, hfront, hne, hcut⟩ := hpath'
  obtain ⟨after, hafter⟩ := hfront.exists_eq_cons
  have hstart : path = '/' :: (after ++ rest) := by rw [hcut, hafter, List.cons_append]
  have hparts : u.render = u.scheme ++ "://".toList ++ (host.toList ++ '/' :: (after ++ rest)) := by
    rw [hrender, hscheme, hstart]
    simp
  -- The shape speaks of the text of the URL only: what it takes for the host has to be the host.
  obtain ⟨-, hhost, -, hrest⟩ := hform.of_render hfront.not_isDigit_host hparts
  rw [← hstart] at hrest
  rw [← hrest] at hrender hpath
  exact ⟨u, host, hu, hhost, hrender, hform.takeWhile_path_append_tail.symm, hpath, hpath.of_append⟩

theorem ofText_rawUrl {s : String} {rest : List Char}
    (h : Url.cutScheme? (Url.clean s.toList) =
      some ("https".toList, "//raw.githubusercontent.com/".toList ++ rest)) :
    Url.ofText s = .ok (Url.withTail
      { scheme := "https".toList, host := some (.domain "raw.githubusercontent.com".toList) }
      (Url.writePath "https".toList) ('/' :: rest)) :=
  Url.ofText_of_plain (by decide +kernel) (by decide +kernel) (by decide +kernel) h

def bareChecker : Checker := { tree := ⟨.directory [], []⟩, root := ⟨"."⟩, trust := {} }

def ruleSetOf (source : String) : RuleSet := ⟨"Ads", source, [], 1⟩

theorem errorFree_check_bareChecker {source : String} {u : Url}
    (hsource : Source.ofText source = .remote source) (hu : Url.ofText source = .ok u)
    (hs : u.scheme = "https".toList) (ht : ({} : Trust).trusts u.text = true) :
    ErrorFree (bareChecker.check "c.ini" (ruleSetOf source) {}).1 := by
  rw [check_eq]
  exact (errorFree_found_of_remote hsource).mpr ⟨u, hu, hs, ht, nofun⟩

theorem trustedPath_of_rawUrl :
    let r := ruleSetOf "https://raw.githubusercontent.com/u/r/main/a.list?raw=true"
    bareChecker.trust.patterns = [] ∧ Source.ofText r.source = .remote r.source ∧
      ErrorFree (bareChecker.check "c.ini" r {}).1 ∧
      ∃ u host, Url.ofText r.source = .ok u ∧ u.path = "/u/r/main/a.list".toList ∧
      TrustedPath host u.path := by
  intro r
  have hsource : Source.ofText r.source = .remote r.source := by decide +kernel
  have hread : Url.ofText r.source = .ok {
      scheme := "https".toList, host := some (.domain "raw.githubusercontent.com".toList),
      path := "/u/r/main/a.list".toList, query := some "raw=true".toList } := by
    have hcut : Url.cutScheme? (Url.clean r.source.toList) =
        some ("https".toList,
          "//raw.githubusercontent.com/".toList ++ "u/r/main/a.list?raw=true".toList) := by
      decide +kernel
    rw [ofText_rawUrl hcut]
    decide +kernel
  have hfree := errorFree_check_bareChecker hsource hread rfl (by decide +kernel)
  obtain ⟨u, host, hu, -, -, -, -, hpath⟩ := trustedPath_of_check rfl hsource hfree
  rw [hread] at hu
  obtain rfl := Except.ok.inj hu
  exact ⟨rfl, hsource, hfree, _, host, hread, rfl, hpath (by decide) (.inr (by decide))⟩

/-- Slashes in a query can stand in for those of a path. -/
theorem exists_not_trustedPath :
    let r := ruleSetOf "https://raw.githubusercontent.com/u/r?x/b/p"
    bareChecker.trust.patterns = [] ∧ Source.ofText r.source = .remote r.source ∧
      ErrorFree (bareChecker.check "c.ini" r {}).1 ∧
      ∃ u, Url.ofText r.source = .ok u ∧ u.path = "/u/r".toList ∧
      ∀ host, ¬ TrustedPath host u.path := by
  intro r
  have hsource : Source.ofText r.source = .remote r.source := by decide +kernel
  have hread : Url.ofText r.source = .ok {
      scheme := "https".toList, host := some (.domain "raw.githubusercontent.com".toList),
      path := "/u/r".toList, query := some "x/b/p".toList } := by
    have hcut : Url.cutScheme? (Url.clean r.source.toList) =
        some ("https".toList, "//raw.githubusercontent.com/".toList ++ "u/r?x/b/p".toList) := by
      decide +kernel
    rw [ofText_rawUrl hcut]
    decide +kernel
  have hfree := errorFree_check_bareChecker hsource hread rfl (by decide +kernel)
  refine ⟨rfl, hsource, hfree, _, hread, rfl, fun host hpath => ?_⟩
  exact absurd (TrustedPath.four_le_count hpath) (by decide)

end Checker

end RuleLint.Source
