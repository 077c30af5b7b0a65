import RuleLint.Text.Basic

namespace RuleLint

inductive ReachabilityPolicy where
  | fail
  | warn
  | skip
deriving DecidableEq, Repr

namespace ReachabilityPolicy

def word : ReachabilityPolicy → String
  | .fail => "fail"
  | .warn => "warn"
  | .skip => "skip"

def all : List ReachabilityPolicy := [.fail, .warn, .skip]

def words : List (String × ReachabilityPolicy) := all.map fun p => (p.word, p)

/-- Reads the word of a policy in any case; a text that is none is told what would be. -/
def ofText (s : String) : Except String ReachabilityPolicy :=
  match all.find? fun p => Text.spells p.word s with
  | some p => .ok p
  | none => .error ("Invalid reachability policy '" ++ s ++ "'. Valid values: fail, warn, skip")

end ReachabilityPolicy

/-- Tells why a URL does not answer, or nothing if it does. The answer may depend on the URLs asked
for before. -/
abbrev Prober := (earlier : List String) → (url : String) → Option String

structure ProbeLog where
  entries : List (String × Option String) := []
deriving DecidableEq, Repr

namespace ProbeLog

def urls (log : ProbeLog) : List String := log.entries.map Prod.fst

/-- The answer about a URL: the one in the log, or else the prober's, which goes into the log. -/
def ask (prober : Prober) (url : String) (log : ProbeLog) : Option String × ProbeLog :=
  match log.entries.lookup url with
  | some verdict => (verdict, log)
  | none =>
    let verdict := prober log.urls url
    (verdict, ⟨log.entries ++ [(url, verdict)]⟩)

end ProbeLog

end RuleLint
