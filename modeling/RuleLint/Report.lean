import RuleLint.Diagnostic
import RuleLint.Text.Basic
import RuleLint.Json.Value

namespace RuleLint

structure Summary where
  filesChecked : Nat
  errors : Nat
  warnings : Nat
  infos : Nat
deriving DecidableEq, Repr

namespace Summary

def countOf (severity : Severity) (diagnostics : List Diagnostic) : Nat :=
  diagnostics.countP (·.severity = severity)

def ofDiagnostics (filesChecked : Nat) (diagnostics : List Diagnostic) : Summary :=
  ⟨filesChecked, countOf .error diagnostics, countOf .warn diagnostics, countOf .info diagnostics⟩

def render (s : Summary) : String :=
  "Summary: " ++ toString s.filesChecked ++ " file(s) checked, " ++ toString s.errors ++
    " error(s), " ++ toString s.warnings ++ " warning(s), " ++ toString s.infos ++ " info"

end Summary

inductive OutputFormat where
  | text
  | json
deriving DecidableEq, Repr

def OutputFormat.ofText (s : String) : Except String OutputFormat :=
  if Text.spells "text" s then .ok .text
  else if Text.spells "json" s then .ok .json
  else .error ("Invalid format '" ++ s ++ "'. Valid values: text, json")

structure Report where
  version : String := "1.0"
  /-- When the run took place; the start of 1970 until someone sets it. -/
  timestamp : String := "1970-01-01T00:00:00Z"
  root : String
  summary : Summary
  diagnostics : List Diagnostic
deriving DecidableEq, Repr

def Severity.word : Severity → String
  | .info => "info"
  | .warn => "warn"
  | .error => "error"

def IssueKind.word : IssueKind → String
  | .malformed => "syntax"
  | .reference => "reference"
  | .duplicate => "duplicate"
  | .source => "source"
  | .reachability => "reachability"
  | .style => "style"
  | .config => "config"

/-- What is absent is left out. -/
def Location.toJson (place : Location) : Json :=
  .object (("file", .string place.file) :: (place.line.map fun n => ("line", .number n)).toList)

def Diagnostic.toJson (d : Diagnostic) : Json :=
  .object (("severity", .string d.severity.word) ::
    (d.kind.map fun kind => ("kind", .string kind.word)).toList ++
    ("message", .string d.message) ::
    (d.location.map fun place => ("location", place.toJson)).toList)

def Summary.toJson (s : Summary) : Json :=
  .object [("files_checked", .number s.filesChecked), ("errors", .number s.errors),
    ("warnings", .number s.warnings), ("infos", .number s.infos)]

namespace Report

def ofDiagnostics (root : String) (filesChecked : Nat) (diagnostics : List Diagnostic) :
    Report where
  root := root
  summary := .ofDiagnostics filesChecked diagnostics
  diagnostics := diagnostics

def hasErrors (r : Report) : Bool := 0 < r.summary.errors

def worst? (r : Report) : Option Severity :=
  [.error, .warn, .info].find? fun s => r.diagnostics.any (·.severity = s)

/-- Two if there is an error, else zero: warnings do not fail a run. -/
def exitCode (r : Report) : Nat := if r.hasErrors then 2 else 0

def toJson (r : Report) : Json :=
  .object
    [("version", .string r.version), ("timestamp", .string r.timestamp), ("root", .string r.root),
      ("summary", r.summary.toJson), ("diagnostics", .array (r.diagnostics.map Diagnostic.toJson))]

/-- Every diagnostic and then the summary, each followed by a line feed. -/
def renderText (r : Report) : String :=
  .join (r.diagnostics.map fun d => d.render ++ "\n") ++ r.summary.render ++ "\n"

def renderJson (r : Report) : String := r.toJson.pretty 0

def render (r : Report) : OutputFormat → String
  | .text => r.renderText
  | .json => r.renderJson

end Report

end RuleLint
