import RuleLint.Profile.Reading
import RuleLint.Proofs.Rule.Comments

namespace RuleLint

open Text Rule

variable {a b content : String}

/-- As rule files and as profiles, two texts say the same, and the same is said about them. -/
structure ReadAlike (a b : String) : Prop where
  entries : entries a = entries b
  checkFile : ∀ file, checkFile file a = checkFile file b
  repeated : repeated a = repeated b
  add : ∀ (index : DuplicateIndex) (file : String), index.add file a = index.add file b
  profile : Profile.ofText a = Profile.ofText b
  readingDiagnostics : ∀ file, Profile.readingDiagnostics file a = Profile.readingDiagnostics file b

theorem readAlike_of_lines (h : lines a.toList = lines b.toList) : ReadAlike a b := by
  have hnumbered : numberedLines a = numberedLines b := by
    unfold numberedLines
    rw [h]
  have hentries : entries a = entries b := by
    unfold entries
    rw [hnumbered]
  have hitems : Profile.items a = Profile.items b := by
    unfold Profile.items
    rw [hnumbered]
  have halike := alikeButStyle_of_entries hentries
  refine ⟨hentries, fun file => ?_, halike.repeated, halike.add, ?_, fun file => ?_⟩
  · unfold checkFile
    rw [hnumbered]
  · unfold Profile.ofText
    rw [hitems]
  · unfold Profile.readingDiagnostics
    rw [hitems]

/-- Carriage returns before the line feeds of a text without any make no difference. -/
theorem readAlike_withReturns (h : '\r' ∉ content.toList) :
    ReadAlike (.ofList (withReturns content.toList)) content := by
  apply readAlike_of_lines
  rw [String.toList_ofList, lines_withReturns h]

theorem readAlike_trailingBlank :
    '\r' ∉ "DOMAIN,a \n# b\n\nDOMAIN,a".toList ∧
      ReadAlike "DOMAIN,a \r\n# b\r\n\r\nDOMAIN,a" "DOMAIN,a \n# b\n\nDOMAIN,a" := by
  have h : '\r' ∉ "DOMAIN,a \n# b\n\nDOMAIN,a".toList := by decide
  exact ⟨h, readAlike_withReturns h⟩

end RuleLint
