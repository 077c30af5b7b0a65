import RuleLint.FileTree.Listing
import RuleLint.Profile.Checks
import RuleLint.Profile.Reading
import RuleLint.Report
import RuleLint.Rule.Check
import RuleLint.Rule.DuplicateIndex
import RuleLint.Rule.Line
import RuleLint.Settings.Basic
import RuleLint.Source.Check

namespace RuleLint.Lint

/-- A file under the name that diagnostics give it. -/
structure Document where
  label : String
  content : String
deriving DecidableEq, Repr

def readDocument (tree : FileTree) (root p : Path) : Except Failure Document :=
  match tree.readText p with
  | .ok content => .ok ⟨root.displayName p, content⟩
  | .error e => .error (.unreadableFile p.text e.message)

def ruleFiles (tree : FileTree) (root : Path) (extension : String) :
    Except Failure (List Document) := do
  (← tree.listFiles root extension).mapM (readDocument tree root)

def ruleFileDiagnostics (d : Document) : List Diagnostic :=
  Rule.checkFile d.label d.content ++ (Rule.repeatedDiagnostic? d.label d.content).toList

def duplicateIndex (files : List Document) : Rule.DuplicateIndex :=
  files.foldl (fun index d => index.addFile d.label d.content) .empty

/-- What is said about rule files, first about each, then about all together. -/
def rulesDiagnostics (files : List Document) : List Diagnostic :=
  files.flatMap ruleFileDiagnostics ++ (duplicateIndex files).report?.toList

def profileDiagnostics (tree : FileTree) (root : Path) (settings : Settings) (prober : Prober)
    (d : Document) :
    Except Failure (List Diagnostic × ProbeLog) := do
  let profile := Profile.ofText d.content
  let trust ← Source.Trust.ofPatterns settings.trustedSources
  let checker : Source.Checker := ⟨tree, root, trust, some prober, settings.reachability⟩
  let (sources, log) := checker.checkAll d.label {} profile.ruleSets
  return (Profile.readingDiagnostics d.label d.content ++ profile.checkNames d.label ++
    profile.checkReferences d.label ++ sources, log)

def missingConfig (path : Path) : Diagnostic :=
  (Diagnostic.warn ("config file not found: " ++ path.text ++
    "; rule-set and proxy group checks skipped")).withKind .config

/-- The report of a run, and whom it asked. Whatever is wrong with the contents of files goes into
the report; a run fails only if it cannot read them or a pattern does not compile. -/
def run (tree : FileTree) (root : Path) (settings : Settings) (prober : Prober) :
    Except Failure (Report × ProbeLog) := do
  let files ← ruleFiles tree root settings.listExtension
  let rules := rulesDiagnostics files
  let config := root.join settings.configPath
  if tree.isFile config then
    let document ← readDocument tree root config
    let (found, log) ← profileDiagnostics tree root settings prober document
    return (.ofDiagnostics root.text (files.length + 1) (rules ++ found), log)
  else
    return (.ofDiagnostics root.text files.length (rules ++ [missingConfig config]), {})

/-- A run for which the client that asks has to be built first. It is built only if there is a
profile whose sources are asked for, and after all else that can stop the run. -/
def runBuilding (tree : FileTree) (root : Path) (settings : Settings)
    (client : Except String Prober) :
    Except Failure (Report × ProbeLog) :=
  match client with
  | .ok prober => run tree root settings prober
  | .error reason => do
    let outcome ← run tree root { settings with reachability := .skip } fun _ _ => none
    if settings.reachability = .skip ∨ ! tree.isFile (root.join settings.configPath) then
      return outcome
    else throw (.httpClient reason)

end RuleLint.Lint
