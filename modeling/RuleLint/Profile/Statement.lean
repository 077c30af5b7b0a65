import RuleLint.Text.Basic
import RuleLint.Profile.Basic

namespace RuleLint.Profile

open Text

inductive Statement where
  /-- A comment that mentions `Node`. -/
  | nodeMarker
  | ruleSet (name source : List Char) (extra : List (List Char))
  /-- A rule-set that has a name, perhaps an empty one, and no source. -/
  | unsourced (name : List Char)
  | unnamedRuleSet
  | group (name : List Char) (fields : List (List Char))
  | unnamedGroup
  /-- Anything else, which is left alone. -/
  | other
deriving DecidableEq, Repr

/-- Separates the fields of a group; there is no way to write it inside a field. -/
def groupSeparator : Char := '`'

def groupFields (payload : List Char) : List (List Char) := (fields groupSeparator payload).map trim

def splitFields (payload : String) : List String := (groupFields payload.toList).map String.ofList

namespace Statement

/-- Reads what follows `ruleset=`. A source that starts with a bracket keeps its commas. -/
def ofRuleSet (payload : List Char) : Statement :=
  match cut? ',' payload with
  | none => .unsourced (trim payload)
  | some (name, value) =>
    let name := trim name
    let value := trim value
    if name = [] then .unnamedRuleSet
    else if value.head? = some '[' then .ruleSet name value []
    else
      match (fields ',' value).map trim with
      | [] | [] :: _ => .unsourced name
      | source :: extra => .ruleSet name source extra

def ofGroup (payload : List Char) : Statement :=
  match groupFields payload with
  | [] | [] :: _ => .unnamedGroup
  | name :: options => .group name options

def isComment (line : List Char) : Bool := line.head? = some ';' || line.head? = some '#'

def ofLine (line : List Char) : Statement :=
  let line := trim line
  if isComment line then
    if mentions "Node".toList line then .nodeMarker else .other
  else
    match rest? "ruleset=".toList line, rest? "custom_proxy_group=".toList line with
    | some payload, _ => ofRuleSet payload
    | none, some payload => ofGroup payload
    | none, none => .other

end Statement

def optionOfField (field : List Char) : GroupOption :=
  match rest? ['[', ']'] field with
  | some name => .reference (.ofList name)
  | none => .literal (.ofList field)

end RuleLint.Profile
