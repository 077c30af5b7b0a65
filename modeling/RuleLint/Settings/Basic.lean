import RuleLint.Diagnostic
import RuleLint.Path
import RuleLint.Pattern.Basic
import RuleLint.Reachability
import RuleLint.Text.Basic

namespace RuleLint

structure Settings where
  /-- Where the configuration is, as seen from the root. -/
  configPath : Path := ⟨"config/custom.ini"⟩
  reachability : ReachabilityPolicy := .warn
  /-- How many seconds a remote source has to answer. -/
  timeout : Nat := 8
  /-- Patterns of URLs that are trusted beside the usual ones. -/
  trustedSources : List String := []
  /-- What the names of rule files end in, without the dot. -/
  listExtension : String := "list"
deriving DecidableEq, Repr

namespace Settings

def fileName : String := "rulecheck.yaml"

inductive Flaw where
  | emptyConfigPath
  | configPathOutside (path : Path)
  | timeoutOutOfRange (seconds : Nat)
  | patternNotAnchored (pattern : String)
  | badPattern (pattern : String) (error : Pattern.CompileError)
  | badExtension (extension : String)
deriving Repr

def Flaw.message : Flaw → String
  | .emptyConfigPath => "config_path cannot be empty"
  | .configPathOutside path =>
    "config_path must be relative to the root without '..': " ++ path.text
  | .timeoutOutOfRange seconds =>
    "probe_timeout_secs must be between 1 and 60, got " ++ toString seconds
  | .patternNotAnchored pattern =>
    "trusted source pattern must be anchored with '^https://': " ++ pattern
  | .badPattern pattern error =>
    "bad trusted source pattern '" ++ pattern ++ "': " ++ error.message pattern
  | .badExtension extension =>
    "list_extension must be a bare extension like 'list', got '" ++ extension ++ "'"

def configPathFlaw? (path : Path) : Option Flaw :=
  if path.text = "" then some .emptyConfigPath
  else if path.goesDown then none
  else some (.configPathOutside path)

def timeoutFlaw? (seconds : Nat) : Option Flaw :=
  if 1 ≤ seconds ∧ seconds ≤ 60 then none else some (.timeoutOutOfRange seconds)

def patternFlaw? (pattern : String) : Option Flaw :=
  if (Text.rest? "^https://".toList pattern.toList).isNone then some (.patternNotAnchored pattern)
  else
    match Pattern.compile pattern with
    | .ok _ => none
    | .error e => some (.badPattern pattern e)

def extensionFlaw? (extension : String) : Option Flaw :=
  if extension = "" ∨ '.' ∈ extension.toList ∨
    '/' ∈ extension.toList then some (.badExtension extension)
  else none

def flaw? (s : Settings) : Option Flaw :=
  (configPathFlaw? s.configPath).or <| (timeoutFlaw? s.timeout).or <|
    (s.trustedSources.findSome? patternFlaw?).or (extensionFlaw? s.listExtension)

def validated (s : Settings) : Except Failure Settings :=
  match s.flaw? with
  | none => .ok s
  | some flaw => .error (.invalidSettings flaw.message)

/-- What takes the place of some of the settings. -/
structure Overrides where
  configPath : Option Path := none
  reachability : Option ReachabilityPolicy := none
  timeout : Option Nat := none
deriving DecidableEq, Repr

def merge (s : Settings) (o : Overrides) : Settings :=
  { s with
    configPath := o.configPath.getD s.configPath
    reachability := o.reachability.getD s.reachability
    timeout := o.timeout.getD s.timeout }

def withOverrides (s : Settings) (o : Overrides) : Except Failure Settings := (s.merge o).validated

end Settings

end RuleLint
