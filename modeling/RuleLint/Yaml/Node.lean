import RuleLint.Yaml.Fault
import RuleLint.Yaml.Token

namespace RuleLint.Yaml

inductive Node where
  | scalar (mark : Mark) (tag : Option String) (content : ScalarText)
  | sequence (mark : Mark) (tag : Option String) (items : List Node)
  | mapping (mark : Mark) (tag : Option String) (entries : List (Node × Node))
  /-- In place of the node with an anchor, which is given by its number. -/
  | alias (mark : Mark) (target : Nat)
  /-- There would be more, had the text been read. -/
  | cut
deriving Repr, Inhabited

structure Document where
  /-- A text of blanks and comments has no root. -/
  root : Option Node
  /-- The nodes with anchors, by the numbers of these. -/
  anchored : List (Nat × Node) := []
  fault : Option Fault := none
  /-- Whether another document follows. -/
  isFollowed : Bool := false
deriving Repr

mutual

def Node.isWhole : Node → Bool
  | .scalar .. | .alias .. => true
  | .sequence _ _ items => areWhole items
  | .mapping _ _ entries => entriesAreWhole entries
  | .cut => false

def Node.areWhole : List Node → Bool
  | [] => true
  | n :: rest => n.isWhole && areWhole rest

def Node.entriesAreWhole : List (Node × Node) → Bool
  | [] => true
  | (k, v) :: rest => k.isWhole && v.isWhole && entriesAreWhole rest

end

end RuleLint.Yaml
