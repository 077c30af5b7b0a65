import RuleLint.Proofs.Path
import RuleLint.Settings.Basic

namespace RuleLint.Settings

open Text

variable {s : Settings} {pattern : String} {f : Flaw}

structure Usable (s : Settings) : Prop where
  configPath : s.configPath.Confined
  timeout : 1 ≤ s.timeout ∧ s.timeout ≤ 60
  trustedSources : ∀ pattern ∈ s.trustedSources,
    "^https://".toList <+: pattern.toList ∧ ∃ p, Pattern.compile pattern = .ok p
  listExtension : s.listExtension ≠ "" ∧ '.' ∉ s.listExtension.toList ∧ '/' ∉ s.listExtension.toList

theorem flaw?_eq_none_iff :
    s.flaw? = none ↔ configPathFlaw? s.configPath = none ∧ timeoutFlaw? s.timeout = none ∧
      (∀ pattern ∈ s.trustedSources, patternFlaw? pattern = none) ∧
      extensionFlaw? s.listExtension = none := by
  unfold flaw?
  simp only [Option.or_eq_none_iff, List.findSome?_eq_none_iff]

theorem patternFlaw?_eq_none_iff :
    patternFlaw? pattern = none ↔
      "^https://".toList <+: pattern.toList ∧ ∃ p, Pattern.compile pattern = .ok p := by
  unfold patternFlaw?
  cases hrest : rest? "^https://".toList pattern.toList with
  | none =>
    refine iff_of_false nofun ?_
    rintro ⟨⟨rest, hstarts⟩, -⟩
    rw [rest?_eq_some_iff.mpr hstarts.symm] at hrest
    contradiction
  | some rest =>
    have hstarts : "^https://".toList <+: pattern.toList :=
      ⟨rest, (rest?_eq_some_iff.mp hrest).symm⟩
    cases Pattern.compile pattern with
    | ok p => simpa using hstarts
    | error e => simp

theorem configPathFlaw?_eq_none_iff {path : Path} :
    configPathFlaw? path = none ↔ path.Confined := by
  rw [Path.confined_iff]
  unfold configPathFlaw?
  split_ifs <;> simp [*]

theorem timeoutFlaw?_eq_none_iff {seconds : Nat} :
    timeoutFlaw? seconds = none ↔ 1 ≤ seconds ∧ seconds ≤ 60 := by
  unfold timeoutFlaw?
  split_ifs <;> simp [*]

theorem extensionFlaw?_eq_none_iff {extension : String} :
    extensionFlaw? extension = none ↔
      extension ≠ "" ∧ '.' ∉ extension.toList ∧ '/' ∉ extension.toList := by
  unfold extensionFlaw?
  rw [Ne, ← not_or, ← not_or]
  split_ifs with h <;> simp [h]

theorem flaw?_eq_none_iff_usable : s.flaw? = none ↔ s.Usable := by
  rw [flaw?_eq_none_iff, configPathFlaw?_eq_none_iff, timeoutFlaw?_eq_none_iff,
    extensionFlaw?_eq_none_iff]
  simp only [patternFlaw?_eq_none_iff]
  exact ⟨fun ⟨h, h', h'', hx⟩ => ⟨h, h', h'', hx⟩, fun ⟨h, h', h'', hx⟩ => ⟨h, h', h'', hx⟩⟩

def Flaw.isOfConfigPath : Flaw → Bool
  | .emptyConfigPath | .configPathOutside _ => true
  | .timeoutOutOfRange _ | .patternNotAnchored _ | .badPattern .. | .badExtension _ => false

theorem isOfConfigPath_of_configPathFlaw? {path : Path} (h : configPathFlaw? path = some f) :
    f.isOfConfigPath = true := by
  unfold configPathFlaw? at h
  split_ifs at h <;> cases h <;> rfl

theorem isOfConfigPath_of_timeoutFlaw? {seconds : Nat} (h : timeoutFlaw? seconds = some f) :
    f.isOfConfigPath = false := by
  unfold timeoutFlaw? at h
  split_ifs at h
  cases h
  rfl

theorem isOfConfigPath_of_patternFlaw? {pattern : String} (h : patternFlaw? pattern = some f) :
    f.isOfConfigPath = false := by
  unfold patternFlaw? at h
  split_ifs at h
  · cases h
    rfl
  · split at h <;> cases h
    rfl

theorem isOfConfigPath_of_extensionFlaw? {extension : String}
    (h : extensionFlaw? extension = some f) :
    f.isOfConfigPath = false := by
  unfold extensionFlaw? at h
  split_ifs at h
  cases h
  rfl

/-- Whatever else is wrong with settings, the path of the configuration is looked at first. -/
theorem exists_flaw_of_configPath_iff :
    (∃ f, s.flaw? = some f ∧ f.isOfConfigPath = true) ↔ ¬ s.configPath.Confined := by
  rw [← configPathFlaw?_eq_none_iff]
  unfold flaw?
  cases hpath : configPathFlaw? s.configPath with
  | some f => simpa using isOfConfigPath_of_configPathFlaw? hpath
  | none =>
    refine iff_of_false ?_ (by simp)
    rintro ⟨f, hf, hof⟩
    rw [Option.none_or, Option.or_eq_some_iff, Option.or_eq_some_iff] at hf
    rcases hf with h | ⟨-, h | ⟨-, h⟩⟩
    · simp [isOfConfigPath_of_timeoutFlaw? h] at hof
    · obtain ⟨pattern, -, hpattern⟩ := List.exists_of_findSome?_eq_some h
      simp [isOfConfigPath_of_patternFlaw? hpattern] at hof
    · simp [isOfConfigPath_of_extensionFlaw? h] at hof

end RuleLint.Settings
