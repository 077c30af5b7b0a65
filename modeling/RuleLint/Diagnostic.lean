namespace RuleLint

/-- Ordered from harmless to serious; only errors make a run fail. -/
inductive Severity where
  | info
  | warn
  | error
deriving DecidableEq, Repr, Ord

def Severity.tag : Severity → String
  | .info => "INFO"
  | .warn => "WARN"
  | .error => "ERROR"

inductive IssueKind where
  | malformed
  | reference
  | duplicate
  /-- A rule-set source is missing, not HTTPS, untrusted or must answer and does not. -/
  | source
  /-- A remote rule-set does not answer, and need not. -/
  | reachability
  | style
  | config
deriving DecidableEq, Repr

/-- A file by its label, and a line of it if the finding is about one line. -/
structure Location where
  file : String
  line : Option Nat := none
deriving DecidableEq, Repr

def Location.render (place : Location) : String :=
  match place.line with
  | some n => place.file ++ ":" ++ toString n
  | none => place.file

structure Diagnostic where
  severity : Severity
  kind : Option IssueKind := none
  message : String
  location : Option Location := none
deriving DecidableEq, Repr

namespace Diagnostic

def error (kind : IssueKind) (message : String) : Diagnostic := ⟨.error, some kind, message, none⟩

def warn (message : String) : Diagnostic := ⟨.warn, none, message, none⟩

def info (message : String) : Diagnostic := ⟨.info, none, message, none⟩

def withKind (d : Diagnostic) (kind : IssueKind) : Diagnostic := { d with kind := some kind }

def onLine (d : Diagnostic) (file : String) (line : Nat) : Diagnostic :=
  { d with location := some ⟨file, some line⟩ }

def inFile (d : Diagnostic) (file : String) : Diagnostic := { d with location := some ⟨file, none⟩ }

def isError (d : Diagnostic) : Bool := d.severity = .error

def render (d : Diagnostic) : String :=
  "[" ++ d.severity.tag ++ "] " ++ (d.location.elim "" fun place => place.render ++ ": ") ++
    d.message

end Diagnostic

/-- Conditions that stop a whole run. Findings in the files that are checked are never failures. -/
inductive Failure where
  | rootNotFound (path : String)
  /-- The cause may have causes in turn. -/
  | unreadableRoot (path cause : String) (further : List String := [])
  | unreadableFile (path cause : String)
  | invalidSettings (reason : String)
  | httpClient (reason : String)
deriving DecidableEq, Repr

def Failure.message : Failure → String
  | .rootNotFound path => "Root directory not found: " ++ path
  | .unreadableRoot path cause _ => "Cannot read root directory " ++ path ++ ": " ++ cause
  | .unreadableFile path cause => "Cannot read file " ++ path ++ ": " ++ cause
  | .invalidSettings reason => "Invalid settings: " ++ reason
  | .httpClient reason => "HTTP client error: " ++ reason

end RuleLint
