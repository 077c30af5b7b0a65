import RuleLint.Diagnostic
import RuleLint.Profile.Statement

namespace RuleLint.Profile

open Text

structure Item where
  line : Nat
  statement : Statement
deriving DecidableEq, Repr

def items (content : String) : List Item :=
  (numberedLines content).map fun l => ⟨l.number, .ofLine l.text⟩

def markerLine (items : List Item) : Option Nat :=
  (items.find? (·.statement = .nodeMarker)).map Item.line

def kindAt (marker : Option Nat) (line : Nat) : GroupKind :=
  if marker.any (· < line) then .node else .selector

def Item.ruleSet? (item : Item) : Option RuleSet :=
  match item.statement with
  | .ruleSet name source extra =>
    some ⟨.ofList name, .ofList source, extra.map String.ofList, item.line⟩
  | _ => none

/-- Empty fields are no options. -/
def Item.group? (marker : Option Nat) (item : Item) : Option ProxyGroup :=
  match item.statement with
  | .group name fields =>
    some ⟨.ofList name, (fields.filter (· ≠ [])).map optionOfField, item.line,
      kindAt marker item.line⟩
  | _ => none

def ofItems (items : List Item) : Profile :=
  let marker := markerLine items
  ⟨items.filterMap Item.ruleSet?, items.filterMap (Item.group? marker), marker⟩

def ofText (content : String) : Profile := ofItems (items content)

def emptyFields (fields : List (List Char)) : List Nat :=
  ((fields.zipIdx 1).filter fun (field, _) => field = []).map Prod.snd

/-- What is wrong with an item by itself, or with a marker that is not the first. -/
def Item.diagnostics (file : String) (marker : Option Nat) (item : Item) : List Diagnostic :=
  let said : List Diagnostic :=
    match item.statement with
    | .nodeMarker =>
      match marker with
      | some first =>
        if first < item.line then
          [(Diagnostic.info
            ("additional node section marker ignored, node section already started at line " ++
              toString first)).withKind .config]
        else []
      | none => []
    | .unsourced name => [.error .malformed ("ruleset '" ++ .ofList name ++ "' has no source")]
    | .unnamedRuleSet => [.error .malformed "ruleset without a name"]
    | .unnamedGroup => [.error .malformed "proxy group without a name"]
    | .group name fields =>
      (emptyFields fields).map fun position =>
        (Diagnostic.warn
          ("empty field #" ++ toString position ++ " in proxy group '" ++ .ofList name ++
            "' skipped")).withKind .malformed
    | .ruleSet .. | .other => []
  said.map (·.onLine file item.line)

/-- A warning if the node section leaves no group to be checked. -/
def markerDiagnostics (file : String) (p : Profile) : List Diagnostic :=
  match p.nodeMarker with
  | some marker =>
    if p.groups ≠ [] ∧ p.selectors = [] then
      [((Diagnostic.warn ("node section marker at line " ++ toString marker ++
        " precedes every proxy group; no group is reference-checked")).withKind .config).onLine
          file marker]
    else []
  | none => []

/-- What reading a profile brings to light, line by line, and the warning on its sections last. -/
def readingDiagnostics (file content : String) : List Diagnostic :=
  let items := items content
  let p := ofItems items
  items.flatMap (Item.diagnostics file p.nodeMarker) ++ markerDiagnostics file p

end RuleLint.Profile
