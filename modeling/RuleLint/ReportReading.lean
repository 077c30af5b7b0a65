import RuleLint.Report
import RuleLint.Json.Decoding
import RuleLint.Json.Reading

namespace RuleLint

open Json

def Severity.all : List Severity := [.info, .warn, .error]

def IssueKind.all : List IssueKind :=
  [.malformed, .reference, .duplicate, .source, .reachability, .style, .config]

def Severity.ofJson : Json → Except DecodeError Severity :=
  decodeWord (Severity.all.map fun s => (s.word, s))

def IssueKind.ofJson : Json → Except DecodeError IssueKind :=
  decodeWord (IssueKind.all.map fun k => (k.word, k))

def Location.ofJson : Json → Except DecodeError Location
  | .object members => do
    let file ← decodeMember decodeText members "file"
    let line ← decodeMember (decodeOption (decodeNat "usize")) members "line"
    return ⟨← required "file" file, line.join⟩
  | .array items => do
    let record := "struct Location with 2 elements"
    let file ← decodeItem decodeText record items 0
    let line ← decodeItem (decodeOption (decodeNat "usize")) record items 1
    checkLength items 2
    return ⟨file, line⟩
  | v => .error (.invalidType v.found "struct Location")

/-- Members are read in the order of their names; what is missing shows after that. -/
def Diagnostic.ofJson : Json → Except DecodeError Diagnostic
  | .object members => do
    let kind ← decodeMember (decodeOption IssueKind.ofJson) members "kind"
    let location ← decodeMember (decodeOption Location.ofJson) members "location"
    let message ← decodeMember decodeText members "message"
    let severity ← decodeMember Severity.ofJson members "severity"
    return ⟨← required "severity" severity, kind.join, ← required "message" message, location.join⟩
  | .array items => do
    let record := "struct Diagnostic with 4 elements"
    let severity ← decodeItem Severity.ofJson record items 0
    let kind ← decodeItem (decodeOption IssueKind.ofJson) record items 1
    let message ← decodeItem decodeText record items 2
    let location ← decodeItem (decodeOption Location.ofJson) record items 3
    checkLength items 4
    return ⟨severity, kind, message, location⟩
  | v => .error (.invalidType v.found "struct Diagnostic")

def Summary.ofJson : Json → Except DecodeError Summary
  | .object members => do
    let errors ← decodeMember (decodeNat "usize") members "errors"
    let filesChecked ← decodeMember (decodeNat "usize") members "files_checked"
    let infos ← decodeMember (decodeNat "usize") members "infos"
    let warnings ← decodeMember (decodeNat "usize") members "warnings"
    return ⟨← required "files_checked" filesChecked, ← required "errors" errors,
      ← required "warnings" warnings, ← required "infos" infos⟩
  | .array items => do
    let record := "struct Summary with 4 elements"
    let filesChecked ← decodeItem (decodeNat "usize") record items 0
    let errors ← decodeItem (decodeNat "usize") record items 1
    let warnings ← decodeItem (decodeNat "usize") record items 2
    let infos ← decodeItem (decodeNat "usize") record items 3
    checkLength items 4
    return ⟨filesChecked, errors, warnings, infos⟩
  | v => .error (.invalidType v.found "struct Summary")

namespace Report

def ofJson : Json → Except DecodeError Report
  | .object members => do
    let diagnostics ← decodeMember (decodeList Diagnostic.ofJson) members "diagnostics"
    let root ← decodeMember decodeText members "root"
    let summary ← decodeMember Summary.ofJson members "summary"
    let timestamp ← decodeMember decodeText members "timestamp"
    let version ← decodeMember decodeText members "version"
    return ⟨← required "version" version, ← required "timestamp" timestamp, ← required "root" root,
      ← required "summary" summary, ← required "diagnostics" diagnostics⟩
  | .array items => do
    let record := "struct Report with 5 elements"
    let version ← decodeItem decodeText record items 0
    let timestamp ← decodeItem decodeText record items 1
    let root ← decodeItem decodeText record items 2
    let summary ← decodeItem Summary.ofJson record items 3
    let diagnostics ← decodeItem (decodeList Diagnostic.ofJson) record items 4
    checkLength items 5
    return ⟨version, timestamp, root, summary, diagnostics⟩
  | v => .error (.invalidType v.found "struct Report")

def ofText? (text : String) : Option Report := (Json.ofText? text).bind fun v => (ofJson v).toOption

end Report

end RuleLint
