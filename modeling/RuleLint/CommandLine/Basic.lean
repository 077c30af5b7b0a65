import RuleLint.Path
import RuleLint.Reachability
import RuleLint.Report
import RuleLint.Settings.Basic

namespace RuleLint.CommandLine

inductive Switch where
  | root
  | config
  | settings
  | reachability
  | timeout
  | format
  | quiet
  | verbose
  | help
  | version
deriving DecidableEq, Repr

namespace Switch

def all : List Switch :=
  [.root, .config, .settings, .reachability, .timeout, .format, .quiet, .verbose, .help, .version]

def name : Switch → String
  | .root => "root"
  | .config => "config"
  | .settings => "settings"
  | .reachability => "reachability"
  | .timeout => "timeout"
  | .format => "format"
  | .quiet => "quiet"
  | .verbose => "verbose"
  | .help => "help"
  | .version => "version"

def letter? : Switch → Option Char
  | .config => some 'c'
  | .format => some 'f'
  | .quiet => some 'q'
  | .verbose => some 'v'
  | .help => some 'h'
  | .version => some 'V'
  | _ => none

def valueName? : Switch → Option String
  | .root => some "ROOT"
  | .config => some "CONFIG"
  | .settings => some "SETTINGS"
  | .reachability => some "REACHABILITY"
  | .timeout => some "TIMEOUT"
  | .format => some "FORMAT"
  | _ => none

def takesValue (s : Switch) : Bool := s.valueName?.isSome

def usage (s : Switch) : String := "--" ++ s.name ++ s.valueName?.elim "" fun v => " <" ++ v ++ ">"

def ofName? (s : List Char) : Option Switch := all.find? (·.name.toList = s)

def ofLetter? (c : Char) : Option Switch := all.find? (·.letter? = some c)

end Switch

structure Options where
  root : Option Path := none
  config : Option Path := none
  settings : Option Path := none
  reachability : Option ReachabilityPolicy := none
  timeout : Option Nat := none
  format : Option OutputFormat := none
  quiet : Bool := false
  verbose : Bool := false
deriving DecidableEq, Repr

def Options.reportFormat (o : Options) : OutputFormat := o.format.getD .text

def Options.overrides (o : Options) : Settings.Overrides := ⟨o.config, o.reachability, o.timeout⟩

inductive UsageError where
  | noValue (s : Switch)
  | repeated (s : Switch)
  | needlessValue (s : Switch) (value : String)
  | badValue (s : Switch) (value reason : String)
  | unknown (argument : String)
deriving DecidableEq, Repr

def UsageError.message : UsageError → String
  | .noValue s => "error: a value is required for '" ++ s.usage ++ "' but none was supplied"
  | .repeated s => "error: the argument '" ++ s.usage ++ "' cannot be used multiple times"
  | .needlessValue s value =>
    "error: unexpected value '" ++ value ++ "' for '" ++ s.usage ++ "' found; no more were expected"
  | .badValue s value reason =>
    "error: invalid value '" ++ value ++ "' for '" ++ s.usage ++ "': " ++ reason
  | .unknown argument => "error: unexpected argument '" ++ argument ++ "' found"

inductive Stop where
  | help
  | version
  | misused (e : UsageError)
deriving DecidableEq, Repr

end RuleLint.CommandLine
