import RuleLint.CommandLine.Basic

namespace RuleLint.CommandLine

def programName : String := "rulecheck"

def rootVariableName : String := "RULECHECK_ROOT"

def versionText : String := programName ++ " 0.1.0\n"

/-- What a switch does. The value of the variable for the root is shown if there is one. -/
def Switch.explanation (rootVariable : Option String) : Switch → String
  | .root =>
    "Root directory holding the .list files and the config " ++
      "(default: discovered from the executable or current directory) " ++
      "[env: " ++ rootVariableName ++ "=" ++ rootVariable.getD "" ++ "]"
  | .config => "Config file path, relative to the root"
  | .settings => "Settings file (default: <root>/rulecheck.yaml when present)"
  | .reachability => "What an unreachable remote rule-set is: fail, warn, skip"
  | .timeout => "Reachability probe timeout in seconds"
  | .format => "Output format (text, json) [default: text]"
  | .quiet => "Quiet mode (errors only in logs)"
  | .verbose => "Verbose mode (debug output)"
  | .help => "Print help"
  | .version => "Print version"

def Switch.forms (s : Switch) : String :=
  (match s.letter? with
    | some c => .ofList ['-', c, ',', ' ']
    | none => "    ") ++ s.usage

def helpLine (rootVariable : Option String) (s : Switch) : String :=
  let width := (Switch.all.map fun s => s.forms.length).foldr max 0
  "  " ++ .ofList (s.forms.toList.rightpad width ' ') ++ "  " ++ s.explanation rootVariable ++ "\n"

def helpText (rootVariable : Option String) : String :=
  "Lint proxy rule lists and rule-set/proxy-group configuration\n\nUsage: " ++ programName ++
    " [OPTIONS]\n\nOptions:\n" ++ .join (Switch.all.map (helpLine rootVariable))

end RuleLint.CommandLine
