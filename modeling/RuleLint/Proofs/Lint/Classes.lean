import RuleLint.Lint

namespace RuleLint

def Diagnostic.classOf (d : Diagnostic) : Severity × Option IssueKind := (d.severity, d.kind)

namespace Diagnostic

variable (d : Diagnostic) (kind : IssueKind) (message file : String) (line : Nat)

@[simp] theorem classOf_error : (error kind message).classOf = (.error, some kind) := rfl

@[simp] theorem classOf_warn : ((warn message).withKind kind).classOf = (.warn, some kind) := rfl

@[simp] theorem classOf_info : ((info message).withKind kind).classOf = (.info, some kind) := rfl

@[simp] theorem classOf_onLine : (d.onLine file line).classOf = d.classOf := rfl

@[simp] theorem classOf_inFile : (d.inFile file).classOf = d.classOf := rfl

end Diagnostic

theorem Rule.Finding.classOf_diagnostic (rule : String) (f : Finding) :
    (f.diagnostic rule).classOf =
      match f with
      | .unknownType | .malformedBlock | .truncatedAddress => (.error, some .malformed)
      | .outOfRange => (.warn, some .malformed)
      | .trailingBlank => (.warn, some .style) := by
  cases f <;> rfl

theorem Rule.classOf_checkFile {file content : String} {d : Diagnostic}
    (h : d ∈ checkFile file content) :
    d.classOf ∈ [(.error, some .malformed), (.warn, some .malformed), (.warn, some .style)] := by
  obtain ⟨l, -, hl⟩ := List.mem_flatMap.mp h
  obtain ⟨f, -, rfl⟩ := List.mem_map.mp hl
  rw [Diagnostic.classOf_onLine, Finding.classOf_diagnostic]
  cases f <;> decide

theorem Rule.classOf_repeatedDiagnostic? {file content : String} {d : Diagnostic}
    (h : repeatedDiagnostic? file content = some d) : d.classOf = (.error, some .duplicate) := by
  unfold repeatedDiagnostic? at h
  split at h
  · contradiction
  · rw [← Option.some.inj h]
    rfl

theorem Rule.DuplicateIndex.classOf_report? {index : DuplicateIndex} {d : Diagnostic}
    (h : index.report? = some d) : d.classOf = (.error, some .duplicate) := by
  unfold report? at h
  split at h
  · contradiction
  · rw [← Option.some.inj h]
    rfl

theorem Lint.classOf_rulesDiagnostics {files : List Document} {d : Diagnostic}
    (h : d ∈ rulesDiagnostics files) :
    d.classOf ∈ [(.error, some .malformed), (.warn, some .malformed), (.warn, some .style),
      (.error, some .duplicate)] := by
  rcases List.mem_append.mp h with h | h
  · obtain ⟨file, -, hf⟩ := List.mem_flatMap.mp h
    rcases List.mem_append.mp hf with hf | hf
    · exact List.mem_append_left [_] (Rule.classOf_checkFile hf)
    · rw [Rule.classOf_repeatedDiagnostic? (Option.mem_toList.mp hf)]
      decide
  · rw [Rule.DuplicateIndex.classOf_report? (Option.mem_toList.mp h)]
    decide

namespace Profile

theorem classOf_item {file : String} {marker : Option Nat} {item : Item} {d : Diagnostic}
    (h : d ∈ item.diagnostics file marker) :
    d.classOf ∈ [(.info, some .config), (.error, some .malformed), (.warn, some .malformed)] := by
  unfold Item.diagnostics at h
  obtain ⟨said, hs, rfl⟩ := List.mem_map.mp h
  rw [Diagnostic.classOf_onLine]
  cases hi : item.statement with
  | nodeMarker =>
    simp only [hi] at hs
    cases marker with
    | none => contradiction
    | some first =>
      dsimp only at hs
      split at hs
      · rw [List.mem_singleton.mp hs]
        simp
      · contradiction
  | group name fields =>
    simp only [hi] at hs
    obtain ⟨position, -, rfl⟩ := List.mem_map.mp hs
    simp
  | unsourced | unnamedRuleSet | unnamedGroup =>
    simp only [hi, List.mem_singleton] at hs
    rw [hs]
    simp
  | ruleSet | other => simp [hi] at hs

theorem classOf_markerDiagnostics {file : String} {p : Profile} {d : Diagnostic}
    (h : d ∈ markerDiagnostics file p) : d.classOf = (.warn, some .config) := by
  unfold markerDiagnostics at h
  split at h
  · split at h
    · rw [List.mem_singleton.mp h]
      rfl
    · contradiction
  · contradiction

theorem classOf_readingDiagnostics {file content : String} {d : Diagnostic}
    (h : d ∈ readingDiagnostics file content) :
    d.classOf ∈ [(.info, some .config), (.error, some .malformed), (.warn, some .malformed),
      (.warn, some .config)] := by
  rcases List.mem_append.mp h with h | h
  · obtain ⟨item, -, hi⟩ := List.mem_flatMap.mp h
    exact List.mem_append_left [_] (classOf_item hi)
  · rw [classOf_markerDiagnostics h]
    decide

theorem classOf_checkNames {file : String} {p : Profile} {d : Diagnostic}
    (h : d ∈ p.checkNames file) :
    d.classOf ∈ [(.info, none), (.error, some .duplicate)] := by
  rcases List.mem_append.mp h with h | h
  · obtain ⟨_, -, rfl⟩ := List.mem_map.mp h
    exact List.mem_cons_self
  · obtain ⟨_, -, rfl⟩ := List.mem_map.mp h
    exact List.mem_cons_of_mem _ List.mem_cons_self

theorem classOf_checkReferences {file : String} {p : Profile} {d : Diagnostic}
    (h : d ∈ p.checkReferences file) :
    d.classOf = (.error, some .reference) := by
  obtain ⟨g, -, hg⟩ := List.mem_flatMap.mp h
  obtain ⟨name, -, rfl⟩ := List.mem_map.mp hg
  rfl

end Profile

end RuleLint
