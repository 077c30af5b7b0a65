import RuleLint.Yaml.Token.Block
import RuleLint.Yaml.Token.Plain
import RuleLint.Yaml.Token.Quoted
import RuleLint.Yaml.Token.Tag

namespace RuleLint.Yaml

/-- Something that may turn out to be a key. That shows only at the colon behind it; until then the
place is remembered where the tokens of a mapping have to be put in. -/
structure SimpleKey where
  number : Nat
  /-- Whether nothing else can stand there. -/
  required : Bool
  mark : Mark
deriving Repr

structure Scanner where
  cursor : Cursor
  /-- The column of the innermost block; none outside of all blocks. -/
  indent : Option Nat := none
  outerIndents : List (Option Nat) := []
  keyAllowed : Bool := true
  key : Option SimpleKey := none
  /-- The possible keys of the levels around the brackets and braces that are open. -/
  outerKeys : List (Option SimpleKey) := []
  queue : List Token := []
  /-- How many tokens there were before those. -/
  taken : Nat := 0

namespace Scanner

def inFlow (s : Scanner) : Bool := s.outerKeys ≠ []

def emit (s : Scanner) (kind : TokenKind) (mark : Mark) : Scanner :=
  { s with queue := s.queue ++ [⟨kind, mark⟩] }

def emitAt (s : Scanner) (number : Nat) (kind : TokenKind) (mark : Mark) : Scanner :=
  { s with queue := s.queue.insertIdx (number - s.taken) ⟨kind, mark⟩ }

def emitSign (s : Scanner) (kind : TokenKind) (width : Nat := 1) : Scanner :=
  { s.emit kind s.cursor.mark with cursor := s.cursor.skip width }

def fault (s : Scanner) (problem : Problem) (activity : Option (Activity × Mark) := none) : Fault :=
  .malformed problem s.cursor.mark activity

/-- Whether it is too late for a colon: a simple key is on one line and not longer than 1024
characters. -/
def isStale (s : Scanner) (k : SimpleKey) : Bool :=
  k.mark.line < s.cursor.mark.line || k.mark.index + 1024 < s.cursor.mark.index

def dropStale (s : Scanner) : Except Fault Scanner :=
  match (s.key :: s.outerKeys).findSome? fun k => k.filter fun k => s.isStale k && k.required with
  | some k => .error (s.fault .keyWithoutColon (some (.simpleKey, k.mark)))
  | none =>
    let current := Option.filter fun k => ! s.isStale k
    .ok { s with key := current s.key, outerKeys := s.outerKeys.map current }

def dropKey (s : Scanner) : Except Fault Scanner :=
  match s.key with
  | some k =>
    if k.required then .error (s.fault .keyWithoutColon (some (.simpleKey, k.mark)))
    else .ok { s with key := none }
  | none => .ok s

def saveKey (s : Scanner) : Except Fault Scanner := do
  if s.keyAllowed then
    let required := ! s.inFlow && s.indent = some s.cursor.mark.column
    let s ← s.dropKey
    return { s with key := some ⟨s.taken + s.queue.length, required, s.cursor.mark⟩ }
  else return s

/-- Opens a block if this column is further right than the one of the innermost block. -/
def openBlock (s : Scanner) (kind : TokenKind) (mark : Mark) (number : Option Nat := none) :
    Scanner :=
  if ! s.inFlow && s.indent.all (· < mark.column) then
    let s := { s with indent := some mark.column, outerIndents := s.indent :: s.outerIndents }
    match number with
    | some n => s.emitAt n kind mark
    | none => s.emit kind mark
  else s

/-- Whether a block at this indentation ends at a column; at no column all do. -/
def endsBlock (indent column : Option Nat) : Bool := indent.any fun i => column.all (· < i)

/-- Closes the blocks that are further right than a column, given the columns of the blocks
around. -/
def closeBlocks (s : Scanner) (column : Option Nat) : List (Option Nat) → Scanner
  | [] => { s with outerIndents := [] }
  | outer :: rest =>
    if endsBlock s.indent column then
      closeBlocks ({ s with indent := outer }.emit .blockEnd s.cursor.mark) column rest
    else { s with outerIndents := outer :: rest }

def unroll (s : Scanner) (column : Option Nat) : Scanner :=
  if s.inFlow then s else s.closeBlocks column s.outerIndents

/-- Passes over spaces, comments and empty lines. Tabs are space where no block can start. -/
def skipToToken (inFlow keyAllowed : Bool) (c : Cursor) : Cursor × Bool :=
  match _h : c.rest with
  | [] => (c, keyAllowed)
  | '\r' :: '\n' :: cs => skipToToken inFlow (keyAllowed || ! inFlow) ⟨cs, c.mark.down 2⟩
  | x :: cs =>
    if x = ' ' ∨ x = '\t' ∧ (inFlow ∨ ¬ keyAllowed) ∨ x = '\uFEFF' ∧ c.mark.column = 0 then
      skipToToken inFlow keyAllowed ⟨cs, c.mark.right⟩
    else if isBreak x then skipToToken inFlow (keyAllowed || ! inFlow) ⟨cs, c.mark.down⟩
    else if x = '#' then
      let comment := cs.takeWhile (! isBreak ·)
      skipToToken inFlow keyAllowed ⟨cs.drop comment.length, c.mark.right (comment.length + 1)⟩
    else (c, keyAllowed)
termination_by c.rest.length
decreasing_by all_goals (simp only [_h, List.length_cons, List.length_drop]; omega)

def readEnd (s : Scanner) : Except Fault Scanner := do
  let mark := s.cursor.mark
  let atStart := if mark.column = 0 then mark else { mark with line := mark.line + 1, column := 0 }
  let s := { s with cursor.mark := atStart }
  let s ← (s.unroll none).dropKey
  return { s.emit .streamEnd s.cursor.mark with keyAllowed := false }

def readDirective (s : Scanner) : Except Fault Scanner := do
  let s ← (s.unroll none).dropKey
  let (kind, c) ← Directive.read s.cursor
  return { s.emit kind s.cursor.mark with cursor := c, keyAllowed := false }

def readDocumentSign (s : Scanner) (kind : TokenKind) : Except Fault Scanner := do
  let s ← (s.unroll none).dropKey
  return { s.emitSign kind 3 with keyAllowed := false }

def openFlow (s : Scanner) (kind : TokenKind) : Except Fault Scanner := do
  let s ← s.saveKey
  return { s.emitSign kind with key := none, outerKeys := s.key :: s.outerKeys, keyAllowed := true }

def closeFlow (s : Scanner) (kind : TokenKind) : Except Fault Scanner := do
  let s ← s.dropKey
  let s := { s.emitSign kind with keyAllowed := false }
  match s.outerKeys with
  | key :: outer => return { s with key, outerKeys := outer }
  | [] => return s

def readFlowEntry (s : Scanner) : Except Fault Scanner := do
  return { (← s.dropKey).emitSign .flowEntry with keyAllowed := true }

def readBlockEntry (s : Scanner) : Except Fault Scanner := do
  if ! s.inFlow && ! s.keyAllowed then throw (s.fault .entryNotAllowed)
  let s ← (s.openBlock .blockSequenceStart s.cursor.mark).dropKey
  return { s.emitSign .blockEntry with keyAllowed := true }

def readKey (s : Scanner) : Except Fault Scanner := do
  if ! s.inFlow && ! s.keyAllowed then throw (s.fault .keyNotAllowed)
  let s ← (s.openBlock .blockMappingStart s.cursor.mark).dropKey
  return { s.emitSign .key with keyAllowed := ! s.inFlow }

/-- At a colon what was a possible key is one. -/
def readValue (s : Scanner) : Except Fault Scanner := do
  match s.key with
  | some k =>
    let s := (s.emitAt k.number .key k.mark).openBlock .blockMappingStart k.mark (some k.number)
    return { s.emitSign .value with key := none, keyAllowed := false }
  | none =>
    if ! s.inFlow && ! s.keyAllowed then throw (s.fault .valueNotAllowed)
    let s := s.openBlock .blockMappingStart s.cursor.mark
    return { s.emitSign .value with keyAllowed := ! s.inFlow }

/-- Reads a token that may be a key or stand before one. -/
def readWith (s : Scanner) (read : Cursor → Except Fault (TokenKind × Cursor)) :
    Except Fault Scanner := do
  let s ← s.saveKey
  let (kind, c) ← read s.cursor
  return { s.emit kind s.cursor.mark with cursor := c, keyAllowed := false }

def readQuoted (style : ScalarStyle) (quote : Char) (c : Cursor) :
    Except Fault (TokenKind × Cursor) := do
  let (text, after) ← Quoted.read quote c.mark {} c.skip
  return (.scalar ⟨style, text⟩, after)

def readBlock (s : Scanner) (style : ScalarStyle) : Except Fault Scanner := do
  let s ← s.dropKey
  let (text, c) ← Block.read (style = .folded) s.indent s.cursor
  return { s.emit (.scalar ⟨style, text⟩) s.cursor.mark with cursor := c, keyAllowed := true }

/-- Behind a plain scalar that ends on another line a key may follow. -/
def readPlain (s : Scanner) : Except Fault Scanner := do
  let s ← s.saveKey
  let around : Plain.Surroundings := ⟨s.inFlow, s.indent.elim 0 (· + 1), s.cursor.mark⟩
  let (text, c, broken) ← Plain.read around [] {} false s.cursor
  return { s.emit (.scalar ⟨.plain, text⟩) s.cursor.mark with cursor := c, keyAllowed := broken }

def signs : List Char :=
  ['-', '?', ':', ',', '[', ']', '{', '}', '#', '&', '*', '!', '|', '>', '\'', '"', '%', '@', '`']

def startsPlain (s : Scanner) : Bool :=
  let c := s.cursor
  ! c.isGap && c.rest.head?.all (· ∉ signs) || c.sees '-' && (c.rest[1]?).all (! isSpaceOrTab ·) ||
    ! s.inFlow && (c.sees '?' || c.sees ':') && ! c.isGap 1

def readToken (s : Scanner) (x : Char) : Except Fault Scanner :=
  let c := s.cursor
  let alone := c.isGap 1
  if c.mark.column = 0 ∧ x = '%' then s.readDirective
  else if c.isDocumentSign ∧ x = '-' then s.readDocumentSign .documentStart
  else if c.isDocumentSign ∧ x = '.' then s.readDocumentSign .documentEnd
  else if x = '[' then s.openFlow .flowSequenceStart
  else if x = '{' then s.openFlow .flowMappingStart
  else if x = ']' then s.closeFlow .flowSequenceEnd
  else if x = '}' then s.closeFlow .flowMappingEnd
  else if x = ',' then s.readFlowEntry
  else if x = '-' ∧ alone then s.readBlockEntry
  else if x = '?' ∧ (s.inFlow ∨ alone) then s.readKey
  else if x = ':' ∧ (s.inFlow ∨ alone) then s.readValue
  else if x = '*' then s.readWith (readName .alias .alias)
  else if x = '&' then s.readWith (readName .anchor .anchor)
  else if x = '!' then s.readWith (Tag.read s.inFlow)
  else if x = '|' ∧ ¬ s.inFlow then s.readBlock .literal
  else if x = '>' ∧ ¬ s.inFlow then s.readBlock .folded
  else if x = '\'' then s.readWith (readQuoted .singleQuoted '\'')
  else if x = '"' then s.readWith (readQuoted .doubleQuoted '"')
  else if s.startsPlain then s.readPlain
  else .error (s.fault .noToken (some (.nextToken, c.mark)))

def next (s : Scanner) : Except Fault Scanner := do
  let (cursor, keyAllowed) := skipToToken s.inFlow s.keyAllowed s.cursor
  let s ← { s with cursor, keyAllowed }.dropStale
  match s.cursor.rest with
  | [] => s.readEnd
  | x :: _ => (s.unroll (some s.cursor.mark.column)).readToken x

/-- The tokens that nothing can be put before any more, and the scanner without them. -/
def release (s : Scanner) : List Token × Scanner :=
  let held :=
    ((s.key :: s.outerKeys).filterMap fun k => k.map SimpleKey.number).foldl min
      (s.taken + s.queue.length)
  let count := held - s.taken
  (s.queue.take count, { s with queue := s.queue.drop count, taken := s.taken + count })

/-- Reads on until the end or a fault; every step takes a character, but for the last. -/
def run : (fuel : Nat) → Scanner → List Token × Option Fault
  | 0, _ => ([], none)
  | fuel + 1, s =>
    match s.next.bind dropStale with
    | .error f => ([], some f)
    | .ok s =>
      let (released, s) := s.release
      if released.getLast?.any (·.kind = .streamEnd) then (released, none)
      else
        let (more, fault) := run fuel s
        (released ++ more, fault)

end Scanner

def isAllowed (c : Char) : Bool :=
  let n := c.toNat
  n = 0x09 || n = 0x0A || n = 0x0D || 0x20 ≤ n && n ≤ 0x7E || n = 0x85 || 0xA0 ≤ n && n ≤ 0xD7FF ||
    0xE000 ≤ n && n ≤ 0xFFFD || 0x10000 ≤ n

def forbidden? (offset : Nat) : List Char → Option Nat
  | [] => none
  | c :: cs => if isAllowed c then forbidden? (offset + c.utf8Size) cs else some offset

/-- The tokens of a text up to its end or to a fault, which is given beside them. -/
def tokens (text : String) : List Token × Option Fault :=
  match forbidden? 0 text.toList with
  | some offset => ([], some (.controlChar offset))
  | none => Scanner.run (text.length + 2) ⟨⟨text.toList, {}⟩, none, [], true, none, [], [], 0⟩

end RuleLint.Yaml
