import RuleLint.FileTree.Basic
import RuleLint.Settings.OfYaml
import RuleLint.Text.Quoted

namespace RuleLint.Settings

inductive LoadError where
  | unreadable (path : Path) (cause : IoError)
  | malformed (path : Path) (cause : Yaml.Error)
  | invalid (failure : Failure)

def LoadError.message : LoadError → String
  | .unreadable path cause =>
    "Failed to read settings file: " ++ Text.quotedPath path.text ++ ": " ++ cause.message
  | .malformed path cause =>
    "Failed to parse settings file: " ++ Text.quotedPath path.text ++ ": " ++ cause.message
  | .invalid failure => failure.message

def load (tree : FileTree) (path : Path) : Except LoadError Settings :=
  match tree.readText path with
  | .error e => .error (.unreadable path e)
  | .ok text =>
    match ofYaml text with
    | .error e => .error (.malformed path e)
    | .ok s => s.validated.mapError .invalid

/-- Loads the settings file of a root, if there is one. -/
def loadFromRoot (tree : FileTree) (root : Path) : Except LoadError Settings :=
  let path := root.join ⟨fileName⟩
  if tree.isFile path then load tree path else .ok {}

end RuleLint.Settings
