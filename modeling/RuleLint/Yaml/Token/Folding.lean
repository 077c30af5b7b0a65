import RuleLint.Yaml.Cursor

namespace RuleLint.Yaml

/-- Spaces and breaks between two words, the last one first. -/
structure Gap where
  spaces : List Char := []
  breaks : List Char := []
  broken : Bool := false
deriving Repr

namespace Gap

/-- With one more space or tab; those behind a break are dropped. -/
def addSpace (g : Gap) (c : Char) : Gap :=
  if g.broken then g else { g with spaces := c :: g.spaces }

def addBreak (g : Gap) (c : Char) : Gap :=
  { g with breaks := breakText c :: g.breaks, broken := true }

/-- The gap behind a break that does not count. -/
def afterBreak : Gap := { broken := true }

/-- Breaks in their order, when the first of them is to be folded. -/
def foldBreaks : List Char → List Char
  | ['\n'] => [' ']
  | '\n' :: more => more
  | breaks => breaks

/-- The text of a gap. A break that does not count is not folded with those behind it. -/
def text (g : Gap) (joined : Bool := false) : List Char :=
  if joined then g.breaks.reverse
  else if g.broken then foldBreaks g.breaks.reverse
  else g.spaces.reverse

end Gap

end RuleLint.Yaml
