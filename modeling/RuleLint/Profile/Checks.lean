import RuleLint.Diagnostic
import RuleLint.Profile.Basic
import RuleLint.Text.Basic

namespace RuleLint.Profile

def ruleSetLines (p : Profile) : LineIndex := .ofList (p.ruleSets.map fun r => (r.name, r.line))

def groupLines (p : Profile) : LineIndex := .ofList (p.groups.map fun g => (g.name, g.line))

/-- Shared rule-set names by name, then repeated group names by name. -/
def checkNames (file : String) (p : Profile) : List Diagnostic :=
  p.ruleSetLines.repeated.map (fun (name, lines) =>
    (Diagnostic.info ("rule-set name '" ++ name ++ "' is used by " ++ toString lines.length ++
      " ruleset lines (" ++ LineIndex.showLines lines ++ ")")).inFile file) ++
  p.groupLines.repeated.map (fun (name, lines) =>
    (Diagnostic.error .duplicate
      ("proxy group '" ++ name ++ "' is defined " ++ toString lines.length ++ " times (lines " ++
        LineIndex.showLines lines ++ ")")).inFile file)

def reservedActions : List String := ["DIRECT", "REJECT", "NULL", "FINAL"]

structure KnownNames where
  nodeGroups : Std.ExtTreeSet String := ∅
  ruleSets : Std.ExtTreeSet String := ∅

def knownNames (p : Profile) : KnownNames :=
  ⟨.ofList (p.nodes.map ProxyGroup.name), .ofList (p.ruleSets.map RuleSet.name)⟩

def KnownNames.resolves (known : KnownNames) (name : String) : Bool :=
  name ∈ reservedActions || known.nodeGroups.contains name || known.ruleSets.contains name

/-- One error for every reference of a selector group to a name that is not known. -/
def checkReferences (file : String) (p : Profile) : List Diagnostic :=
  let known := p.knownNames
  p.selectors.flatMap fun g =>
    (g.references.filter (! known.resolves ·)).map fun name =>
      (Diagnostic.error .reference
        ("proxy group '" ++ g.name ++ "' references unknown name '" ++ name ++ "' (line " ++
          toString g.line ++ ")")).onLine file g.line

end RuleLint.Profile
