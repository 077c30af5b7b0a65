import RuleLint.Pattern.Expr
import RuleLint.Text.Basic

namespace RuleLint.Pattern

structure Reader where
  rest : List Char
  pos : Position := {}
  verbose : Bool := false
  names : List (List Char × Span) := []

/-- Reading a part of a pattern moves the reader, unless something is wrong. -/
abbrev Reading := StateT Reader (Except Fault)

namespace Reader

def atEnd (r : Reader) : Bool := r.rest.isEmpty

def bump (r : Reader) : Reader :=
  match r.rest with
  | [] => r
  | c :: cs => { r with rest := cs, pos := r.pos.next c }

def point (r : Reader) : Span := ⟨r.pos, r.pos⟩

def charSpan (r : Reader) : Span := ⟨r.pos, r.bump.pos⟩

def sees (r : Reader) (c : Char) : Bool := r.rest.head? = some c

def seesText (r : Reader) (word : String) : Bool := (Text.rest? word.toList r.rest).isSome

/-- What is left behind blanks and comments, and where. A comment goes on to the end of its line. -/
def afterSpace : (inComment : Bool) → List Char → Position → List Char × Position
  | _, [], p => ([], p)
  | false, c :: cs, p =>
    if Text.isBlank c then afterSpace false cs (p.next c)
    else if c = '#' then afterSpace true cs (p.next c)
    else (c :: cs, p)
  | true, c :: cs, p => afterSpace (c ≠ '\n') cs (p.next c)

def skipSpace (r : Reader) : Reader :=
  if r.verbose then
    let (rest, pos) := afterSpace false r.rest r.pos
    { r with rest, pos }
  else r

def bumpSpace (r : Reader) : Reader := r.bump.skipSpace

def peek? (r : Reader) : Option Char := r.rest[1]?

def firstSolid? : (inComment : Bool) → List Char → Option Char
  | _, [] => none
  | inComment, c :: cs =>
    if Text.isBlank c then firstSolid? inComment cs
    else if c = '#' && ! inComment then firstSolid? true cs
    else some c

/-- The character after the next one, with a look past space in verbose mode; if there is only
space, its first character. -/
def peekSolid? (r : Reader) : Option Char :=
  if r.verbose then (firstSolid? false r.rest.tail).or r.peek? else r.peek?

def skipWhile (p : Char → Bool) : List Char → Position → List Char × Position
  | [], q => ([], q)
  | c :: cs, q => if p c then skipWhile p cs (q.next c) else (c :: cs, q)

def dropWhile (r : Reader) (p : Char → Bool) : Reader :=
  let (rest, pos) := skipWhile p r.rest r.pos
  { r with rest, pos }

end Reader

def fail {α : Type} (kind : FaultKind) (span : Span) (earlier : Option Span := none) : Reading α :=
  throw ⟨kind, span, earlier⟩

def since (start : Position) : Reading Span := return ⟨start, (← get).pos⟩

/-- Takes up to `count` characters off one at a time, with the space behind each, as long as `p`
holds. -/
def takeUpTo (p : Char → Bool) : (count : Nat) → Reading (List Char)
  | 0 => return []
  | count + 1 => do
    match (← get).rest with
    | [] => return []
    | c :: _ =>
      if p c then
        modify Reader.bumpSpace
        return c :: (← takeUpTo p count)
      else return []

def takeSpaced (p : Char → Bool) : Reading (List Char) := do takeUpTo p (← get).rest.length

end RuleLint.Pattern
