import RuleLint.Proofs.Settings.Flaws
import RuleLint.Proofs.Settings.Loading

namespace RuleLint.Settings

/-- Both overrides at once; where both have a value, the second one has its way. -/
def Overrides.followedBy (o o' : Overrides) : Overrides where
  configPath := o'.configPath.or o.configPath
  reachability := o'.reachability.or o.reachability
  timeout := o'.timeout.or o.timeout

theorem merge_merge (s : Settings) (o o' : Overrides) :
    (s.merge o).merge o' = s.merge (o.followedBy o') := by
  unfold merge Overrides.followedBy
  simp only [Option.getD_or]

theorem validated_eq_ok_iff_usable {s valid : Settings} :
    s.validated = .ok valid ↔ s.Usable ∧ s = valid := by
  rw [validated_eq_ok_iff, flaw?_eq_none_iff_usable]

theorem exists_validated_eq_error_iff {s : Settings} :
    (∃ flaw, s.flaw? = some flaw ∧ s.validated = .error (.invalidSettings flaw.message)) ↔
      ¬ s.Usable := by
  rw [← flaw?_eq_none_iff_usable]
  unfold validated
  cases s.flaw? <;> simp

/-- Overrides are accepted exactly if the settings can be used where the overrides have taken the
place of what was there, and these are the settings that they give. After overrides that are
accepted, others do what both would have done together. -/
theorem withOverrides_accepts (s : Settings) (o : Overrides) :
    let m : Settings := {
      configPath := o.configPath.getD s.configPath
      reachability := o.reachability.getD s.reachability
      timeout := o.timeout.getD s.timeout
      trustedSources := s.trustedSources
      listExtension := s.listExtension }
    (∀ s', s.withOverrides o = .ok s' ↔ m.Usable ∧ s' = m) ∧
    (¬ m.Usable ↔
      ∃ flaw, m.flaw? = some flaw ∧ s.withOverrides o = .error (.invalidSettings flaw.message)) ∧
    ∀ s₁, s.withOverrides o = .ok s₁ →
    ∀ o', s₁.withOverrides o' = s.withOverrides (o.followedBy o') := by
  intro m
  have haccepts (s' : Settings) : s.withOverrides o = .ok s' ↔ m.Usable ∧ s' = m := by
    rw [eq_comm (a := s')]
    exact validated_eq_ok_iff_usable
  refine ⟨haccepts, exists_validated_eq_error_iff.symm, ?_⟩
  intro s₁ h o'
  obtain ⟨-, rfl⟩ := (haccepts s₁).mp h
  show ((s.merge o).merge o').validated = (s.merge (o.followedBy o')).validated
  rw [merge_merge]

end RuleLint.Settings
