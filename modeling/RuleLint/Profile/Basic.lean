namespace RuleLint

inductive GroupKind where
  /-- Before the node section: a choice between names, each of which must be known. -/
  | selector
  /-- In the node section: an endpoint, whose options are not looked up. -/
  | node
deriving DecidableEq, Repr

structure RuleSet where
  name : String
  /-- A built-in tag such as `[]GEOIP,CN`, a URL or a path below the root. -/
  source : String
  extra : List String
  line : Nat
deriving DecidableEq, Repr

def RuleSet.isBuiltin (r : RuleSet) : Bool := r.source.toList.head? = some '['

inductive GroupOption where
  | reference (name : String)
  | literal (text : String)
deriving DecidableEq, Repr

def GroupOption.reference? : GroupOption → Option String
  | .reference name => some name
  | .literal _ => none

structure ProxyGroup where
  name : String
  options : List GroupOption
  line : Nat
  kind : GroupKind
deriving DecidableEq, Repr

def ProxyGroup.references (g : ProxyGroup) : List String :=
  g.options.filterMap GroupOption.reference?

structure Profile where
  ruleSets : List RuleSet
  groups : List ProxyGroup
  /-- The line that opens the node section. -/
  nodeMarker : Option Nat
deriving DecidableEq, Repr

namespace Profile

def selectors (p : Profile) : List ProxyGroup := p.groups.filter (·.kind = .selector)

def nodes (p : Profile) : List ProxyGroup := p.groups.filter (·.kind = .node)

end Profile

end RuleLint
