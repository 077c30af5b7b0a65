import RuleLint.Proofs.Json.Decoding
import RuleLint.Proofs.Json.Reading
import RuleLint.ReportReading

namespace RuleLint

open Json

theorem Severity.ofJson_word (s : Severity) : Severity.ofJson (.string s.word) = .ok s := by
  cases s <;> rfl

theorem IssueKind.ofJson_word (k : IssueKind) : IssueKind.ofJson (.string k.word) = .ok k := by
  cases k <;> rfl

theorem Summary.ofJson_toJson (s : Summary) : Summary.ofJson s.toJson = .ok s := rfl

theorem Location.ofJson_toJson (place : Location) : Location.ofJson place.toJson = .ok place := by
  obtain ⟨file, _ | line⟩ := place <;> rfl

namespace Diagnostic

def members (d : Diagnostic) : List (String × Json) :=
  ("severity", .string d.severity.word) ::
    (d.kind.map fun kind => ("kind", .string kind.word)).toList ++ ("message", .string d.message) ::
      (d.location.map fun place => ("location", place.toJson)).toList

theorem toJson_eq_object (d : Diagnostic) : d.toJson = .object d.members := rfl

theorem nodup_names (d : Diagnostic) : (d.members.map Prod.fst).Nodup := by
  obtain ⟨severity, _ | kind, message, _ | place⟩ := d <;> simp [members]

theorem ofJson_toJson (d : Diagnostic) : ofJson d.toJson = .ok d := by
  have hseverity : decodeMember Severity.ofJson d.members "severity" = .ok (some d.severity) :=
    decodeMember_of_mem d.nodup_names (by simp [members]) (Severity.ofJson_word d.severity)
  have hkind :
      decodeMember (decodeOption IssueKind.ofJson) d.members "kind" = .ok (d.kind.map some) :=
    decodeMember_option (fun kind => .string kind.word) d.nodup_names (fun v => by simp [members])
      (fun _ => Json.noConfusion) IssueKind.ofJson_word
  have hmessage : decodeMember decodeText d.members "message" = .ok (some d.message) :=
    decodeMember_of_mem d.nodup_names (v := .string d.message) (by simp [members]) rfl
  have hlocation : decodeMember (decodeOption Location.ofJson) d.members "location" =
      .ok (d.location.map some) :=
    decodeMember_option Location.toJson d.nodup_names (fun v => by simp [members])
      (fun _ => Json.noConfusion)
      Location.ofJson_toJson
  rw [toJson_eq_object]
  unfold ofJson
  dsimp only
  rw [hkind, hlocation, hmessage, hseverity]
  -- A part that was left out is absent again.
  obtain ⟨severity, _ | kind, message, _ | place⟩ := d <;> rfl

end Diagnostic

namespace Report

def members (r : Report) : List (String × Json) :=
  [("version", .string r.version), ("timestamp", .string r.timestamp), ("root", .string r.root),
    ("summary", r.summary.toJson), ("diagnostics", .array (r.diagnostics.map Diagnostic.toJson))]

theorem toJson_eq_object (r : Report) : r.toJson = .object r.members := rfl

theorem nodup_names (r : Report) : (r.members.map Prod.fst).Nodup := by simp [members]

theorem ofJson_toJson (r : Report) : ofJson r.toJson = .ok r := by
  have hdiagnostics : decodeMember (decodeList Diagnostic.ofJson) r.members "diagnostics" =
      .ok (some r.diagnostics) :=
    decodeMember_of_mem r.nodup_names (by simp [members])
      (decodeList_map Diagnostic.ofJson_toJson r.diagnostics)
  have hroot : decodeMember decodeText r.members "root" = .ok (some r.root) :=
    decodeMember_of_mem r.nodup_names (v := .string r.root) (by simp [members]) rfl
  have hsummary : decodeMember Summary.ofJson r.members "summary" = .ok (some r.summary) :=
    decodeMember_of_mem r.nodup_names (by simp [members]) (Summary.ofJson_toJson r.summary)
  have htimestamp : decodeMember decodeText r.members "timestamp" = .ok (some r.timestamp) :=
    decodeMember_of_mem r.nodup_names (v := .string r.timestamp) (by simp [members]) rfl
  have hversion : decodeMember decodeText r.members "version" = .ok (some r.version) :=
    decodeMember_of_mem r.nodup_names (v := .string r.version) (by simp [members]) rfl
  rw [toJson_eq_object]
  unfold ofJson
  dsimp only
  rw [hdiagnostics, hroot, hsummary, htimestamp, hversion]
  rfl

/-- The JSON text of a report is read as that report. -/
theorem ofText?_renderJson (r : Report) : ofText? r.renderJson = some r := by
  unfold ofText? renderJson
  rw [ofText?_pretty, Option.bind_some, ofJson_toJson]
  rfl

theorem renderJson_injective : Function.Injective renderJson := by
  intro r r' h
  have hread := congrArg ofText? h
  simpa only [ofText?_renderJson, Option.some.injEq] using hread

/-- What is read back from the JSON of a report has its version, root, summary and diagnostics. Its
text shows the diagnostics that were read back and then the summary that was read back, each
followed by a line feed. -/
theorem formats_agree (r : Report) :
    ∃ back, ofText? r.renderJson = some back ∧ back.version = r.version ∧ back.root = r.root ∧
      back.summary = r.summary ∧ back.diagnostics = r.diagnostics ∧
      r.renderText = .join (back.diagnostics.map fun d => d.render ++ "\n") ++
        back.summary.render ++ "\n" :=
  ⟨r, ofText?_renderJson r, rfl, rfl, rfl, rfl, rfl⟩

end Report

end RuleLint
