import RuleLint.CommandLine.Help
import RuleLint.CommandLine.Reading
import RuleLint.FileTree.Listing
import RuleLint.Lint
import RuleLint.Settings.Loading
import RuleLint.Timestamp

namespace RuleLint.Program

structure Start where
  arguments : List String
  rootVariable : Option String := none
  tree : FileTree
  directory : Option Path := none
  /-- Whom to ask whether a URL answers, or why there is nobody. -/
  client : Except String Prober
  now : Timestamp := ⟨0, 0⟩

structure Outcome where
  exitCode : Nat
  output : String
  complaint : String := ""
deriving DecidableEq, Repr

inductive Fatal where
  | settings (e : Settings.LoadError)
  | failure (f : Failure)

/-- A failure and what caused it, once more, and what caused that. -/
def chain (f : Failure) : String :=
  match f with
  | .unreadableRoot _ cause further => ": ".intercalate (f.message :: cause :: further)
  | .unreadableFile _ cause => f.message ++ ": " ++ cause
  | f => f.message

def Fatal.message : Fatal → String
  | .settings (.invalid f) | .failure f => chain f
  | .settings e => e.message

def rootOf (start : Start) (o : CommandLine.Options) : Path :=
  o.root.getD (start.tree.discoverRoot start.directory (o.config.getD ({} : Settings).configPath))

/-- The settings in the file that is asked for, or else in the one of the root. -/
def loadSettings (start : Start) (o : CommandLine.Options) : Except Settings.LoadError Settings :=
  match o.settings with
  | some path => Settings.load start.tree path
  | none => Settings.loadFromRoot start.tree (rootOf start o)

def effectiveSettings (start : Start) (o : CommandLine.Options) : Except Fatal Settings := do
  let loaded ← (loadSettings start o).mapError .settings
  (loaded.withOverrides o.overrides).mapError .failure

def report (start : Start) (o : CommandLine.Options) : Except Fatal Report := do
  let settings ← effectiveSettings start o
  let outcome := Lint.runBuilding start.tree (rootOf start o) settings start.client
  let (report, _) ← outcome.mapError .failure
  return { report with timestamp := start.now.render }

def print (format : OutputFormat) (r : Report) : String :=
  match format with
  | .text => r.renderText
  | .json => r.renderJson ++ "\n"

/-- What becomes of options that are well formed. A run that fails prints one message and exits with
one. -/
def runWith (start : Start) (o : CommandLine.Options) : Outcome :=
  match report start o with
  | .ok r => { exitCode := r.exitCode, output := print o.reportFormat r }
  | .error e => { exitCode := 1, output := "[ERROR] fatal: " ++ e.message ++ "\n" }

/-- Misuse of the command line is complained about; the output stays empty and the exit code is
two. -/
def run (start : Start) : Outcome :=
  match CommandLine.read start.arguments start.rootVariable with
  | .ok o => runWith start o
  | .error .help => { exitCode := 0, output := CommandLine.helpText start.rootVariable }
  | .error .version => { exitCode := 0, output := CommandLine.versionText }
  | .error (.misused e) => ⟨2, "", e.message ++ "\n"⟩

end RuleLint.Program
