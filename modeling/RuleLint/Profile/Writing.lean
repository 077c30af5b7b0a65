import RuleLint.Profile.Statement

namespace RuleLint

def GroupOption.field : GroupOption → List Char
  | .reference name => '[' :: ']' :: name.toList
  | .literal text => text.toList

namespace Profile

inductive Entry where
  | ruleSet (name source : String) (extra : List String)
  | group (name : String) (options : List GroupOption)
deriving DecidableEq, Repr

namespace Entry

def line : Entry → List Char
  | .ruleSet name source extra =>
    "ruleset=".toList ++ [','].intercalate ((name :: source :: extra).map String.toList)
  | .group name options =>
    "custom_proxy_group=".toList ++
      [groupSeparator].intercalate (name.toList :: options.map GroupOption.field)

def ruleSet? (line : Nat) : Entry → Option RuleSet
  | .ruleSet name source extra => some ⟨name, source, extra, line⟩
  | .group .. => none

def group? (kind : GroupKind) (line : Nat) : Entry → Option ProxyGroup
  | .ruleSet .. => none
  | .group name options => some ⟨name, options, line, kind⟩

end Entry

/-- The entries of a profile that is to be written. -/
structure Draft where
  entries : List Entry
  nodeEntries : Option (List Entry) := none
deriving DecidableEq, Repr

namespace Draft

/-- The line of the comment, which is also there if nobody writes it. -/
def markerLine (d : Draft) : Nat := d.entries.length + 1

def lines (d : Draft) : List (List Char) :=
  d.entries.map Entry.line ++
    match d.nodeEntries with
    | some entries => "; Node".toList :: entries.map Entry.line
    | none => []

/-- The written profile: every line ends with a line feed, but the last may go without. -/
def text (d : Draft) (ended : Bool) : String :=
  let written := d.lines.flatMap (· ++ ['\n'])
  .ofList (if ended then written else written.dropLast)

def placed (d : Draft) : List (Entry × GroupKind × Nat) :=
  ((d.entries.zipIdx 1).map fun (e, line) => (e, .selector, line)) ++
    ((d.nodeEntries.getD []).zipIdx (d.markerLine + 1)).map fun (e, line) => (e, .node, line)

def profile (d : Draft) : Profile where
  ruleSets := d.placed.filterMap fun (e, _, line) => e.ruleSet? line
  groups := d.placed.filterMap fun (e, kind, line) => e.group? kind line
  nodeMarker := d.nodeEntries.map fun _ => d.markerLine

end Draft

end Profile

end RuleLint
