import RuleLint.Yaml.Fault
import RuleLint.Yaml.Token

namespace RuleLint.Yaml.Block

inductive Chomping where
  | clip
  | strip
  | keep
deriving DecidableEq, Repr

structure Header where
  chomping : Chomping := .clip
  increment : Option Nat := none
deriving DecidableEq, Repr

def fail {α : Type} (problem : Problem) (mark start : Mark) : Except Fault α :=
  .error (.malformed problem mark (some (.blockScalar, start)))

def chomping? : Option Char → Option Chomping
  | some '+' => some .keep
  | some '-' => some .strip
  | _ => none

def readIncrement (start : Mark) (c : Cursor) : Except Fault (Option Nat × Cursor) :=
  match c.rest.head? with
  | some d =>
    if d = '0' then fail .zeroIndent c.mark start
    else if d.isDigit then .ok (some (d.toNat - 0x30), c.skip)
    else .ok (none, c)
  | none => .ok (none, c)

/-- Reads the signs behind the indicator, in either order. -/
def readHeader (start : Mark) (c : Cursor) : Except Fault (Header × Cursor) := do
  match chomping? c.rest.head? with
  | some chomping =>
    let (increment, c) ← readIncrement start c.skip
    return (⟨chomping, increment⟩, c)
  | none =>
    match ← readIncrement start c with
    | (none, c) => return ({}, c)
    | (some n, c) =>
      match chomping? c.rest.head? with
      | some chomping => return (⟨chomping, some n⟩, c.skip)
      | none => return (⟨.clip, some n⟩, c)

/-- Passes over leading empty lines and the spaces before the first word. The answer is the greatest
column on the way, the breaks, the last first, and what is left. -/
def leadIn (start : Mark) (widest : Nat) (breaks : List Char) (c : Cursor) :
    Except Fault (Nat × List Char × Cursor) :=
  let widest := max widest c.mark.column
  match _h : c.rest with
  | '\r' :: '\n' :: cs => leadIn start widest ('\n' :: breaks) ⟨cs, c.mark.down 2⟩
  | x :: cs =>
    if x = ' ' then leadIn start widest breaks ⟨cs, c.mark.right⟩
    else if x = '\t' then fail .tabAsIndent c.mark start
    else if isBreak x then leadIn start widest (breakText x :: breaks) ⟨cs, c.mark.down⟩
    else .ok (widest, breaks, c)
  | [] => .ok (widest, breaks, c)
termination_by c.rest.length
decreasing_by all_goals (simp only [_h, List.length_cons]; omega)

/-- A block that is being read: its text from the end, and what is behind that. -/
structure State where
  text : List Char := []
  lineBreak : Option Char := none
  /-- The breaks of empty lines behind it, the last first. -/
  breaks : List Char := []
  spaced : Bool := false

def State.startLine (s : State) (folded : Bool) (c : Char) : State :=
  let between :=
    if folded ∧ s.lineBreak = some '\n' ∧ ¬ s.spaced ∧ ¬ isSpaceOrTab c then
      if s.breaks = [] then [' '] else s.breaks
    else s.breaks ++ s.lineBreak.toList
  { text := c :: between ++ s.text, spaced := isSpaceOrTab c }

/-- At a line break, which ends a line or is the whole of an empty one. -/
def State.endLine (s : State) (inLine : Bool) (c : Char) : State :=
  if inLine then { s with lineBreak := some c } else { s with breaks := c :: s.breaks }

def State.finish (s : State) : Chomping → String
  | .strip => .ofList s.text.reverse
  | .clip => .ofList (s.lineBreak.toList ++ s.text).reverse
  | .keep => .ofList (s.breaks ++ s.lineBreak.toList ++ s.text).reverse

/-- Reads the lines of a block; `inLine` tells whether one has started. -/
def readLines (folded : Bool) (indent : Nat) (start : Mark) (inLine : Bool) (s : State)
    (c : Cursor) :
    Except Fault (State × Cursor) :=
  match _h : c.rest with
  | [] => .ok (s, c)
  | '\r' :: '\n' :: cs =>
    readLines folded indent start false (s.endLine inLine '\n') ⟨cs, c.mark.down 2⟩
  | x :: cs =>
    if isBreak x then
      readLines folded indent start false (s.endLine inLine (breakText x)) ⟨cs, c.mark.down⟩
    else if inLine then
      readLines folded indent start true { s with text := x :: s.text } ⟨cs, c.mark.right⟩
    else if c.mark.column < indent ∧ x = ' ' then
      readLines folded indent start false s ⟨cs, c.mark.right⟩
    else if c.mark.column < indent ∧ x = '\t' then fail .tabAsIndent c.mark start
    else if c.mark.column = indent then
      readLines folded indent start true (s.startLine folded x) ⟨cs, c.mark.right⟩
    else .ok (s, c)
termination_by c.rest.length
decreasing_by all_goals (simp only [_h, List.length_cons]; omega)

/-- Reads a block scalar from its indicator on. `outer` is the column of the block around it, if
there is one. -/
def read (folded : Bool) (outer : Option Nat) (c : Cursor) : Except Fault (String × Cursor) := do
  let start := c.mark
  let (header, c) ← readHeader start c.skip
  let c := c.skipComment
  if ! c.isLineEnd then fail .noCommentOrBreak c.mark start
  let c := c.skipBreak
  let (indent, s, c) ← show Except Fault (Nat × State × Cursor) from
    match header.increment with
    | some n => .ok (outer.getD 0 + n, {}, c)
    | none => do
      let (widest, breaks, c) ← leadIn start 0 [] c
      return (max widest (max 1 (outer.elim 0 (· + 1))), { breaks := breaks }, c)
  let (s, c) ← readLines folded indent start false s c
  return (s.finish header.chomping, c)

end RuleLint.Yaml.Block
