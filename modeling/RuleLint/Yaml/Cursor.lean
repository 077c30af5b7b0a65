namespace RuleLint.Yaml

/-- A place in a text. All counts start at zero; shown, they start at one. -/
structure Mark where
  index : Nat := 0
  line : Nat := 0
  column : Nat := 0
deriving DecidableEq, Repr

namespace Mark

def right (m : Mark) (count : Nat := 1) : Mark :=
  { m with index := m.index + count, column := m.column + count }

/-- The start of the next line, behind a break of so many characters. -/
def down (m : Mark) (count : Nat := 1) : Mark := ⟨m.index + count, m.line + 1, 0⟩

def isStart (m : Mark) : Bool := m.line = 0 && m.column = 0

def render (m : Mark) : String :=
  "line " ++ toString (m.line + 1) ++ " column " ++ toString (m.column + 1)

end Mark

def isBreak (c : Char) : Bool := c ∈ ['\n', '\r', '\u0085', '\u2028', '\u2029']

def isSpaceOrTab (c : Char) : Bool := c = ' ' || c = '\t'

/-- What a line break is in the text of a scalar: the two separators stay, all others become a line
feed. -/
def breakText (c : Char) : Char := if c = '\u2028' || c = '\u2029' then c else '\n'

def isNameChar (c : Char) : Bool := c.isAlphanum || c = '_' || c = '-'

structure Cursor where
  rest : List Char
  mark : Mark := {}
deriving Repr

namespace Cursor

def skip (c : Cursor) (count : Nat := 1) : Cursor := ⟨c.rest.drop count, c.mark.right count⟩

def skipBreak (c : Cursor) : Cursor :=
  match c.rest with
  | '\r' :: '\n' :: cs => ⟨cs, c.mark.down 2⟩
  | x :: cs => if isBreak x then ⟨cs, c.mark.down⟩ else c
  | [] => c

def sees (c : Cursor) (x : Char) : Bool := c.rest.head? = some x

/-- Whether the character so many places ahead is a space, a tab, a break or missing. -/
def isGap (c : Cursor) (ahead : Nat := 0) : Bool :=
  (c.rest[ahead]?).all fun x => isSpaceOrTab x || isBreak x

def isLineEnd (c : Cursor) : Bool := c.rest.head?.all isBreak

def takeWhile (c : Cursor) (p : Char → Bool) : List Char × Cursor :=
  let taken := c.rest.takeWhile fun x => p x && ! isBreak x
  (taken, c.skip taken.length)

def skipSpace (c : Cursor) : Cursor := (c.takeWhile isSpaceOrTab).2

def skipComment (c : Cursor) : Cursor :=
  let c := c.skipSpace
  if c.sees '#' then (c.takeWhile fun _ => true).2 else c

def isDocumentSign (c : Cursor) : Bool :=
  c.mark.column = 0 && (c.rest.take 3 = ['-', '-', '-'] || c.rest.take 3 = ['.', '.', '.']) &&
    c.isGap 3

end Cursor

end RuleLint.Yaml
