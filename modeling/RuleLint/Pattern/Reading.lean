import RuleLint.Pattern.Class
import RuleLint.Text.Digits
import RuleLint.Unicode.Category
import RuleLint.Unicode.PropertyTables

namespace RuleLint.Pattern

def flagOfLetter? : Char → Option Flag
  | 'i' => some .ignoreCase
  | 'm' => some .multiLine
  | 's' => some .dotAll
  | 'U' => some .swapGreed
  | 'u' => some .unicode
  | 'R' => some .carriageReturn
  | 'x' => some .verbose
  | _ => none

/-- Reads flags up to a colon or a closing parenthesis; `items` are those before, the last first. -/
def readFlagItems (items : List (FlagItem × Span)) : (count : Nat) → Reading (List FlagItem)
  | 0 => return (items.map Prod.fst).reverse
  | count + 1 => do
    let r ← get
    match r.rest with
    | [] => fail .flagEnd r.point
    | c :: _ =>
      if c = ':' || c = ')' then
        match items with
        | (.minus, span) :: _ => fail .flagDanglingMinus span
        | _ => return (items.map Prod.fst).reverse
      else if c = '-' then
        match items.lookup .minus with
        | some earlier => fail .flagRepeatedMinus r.charSpan (some earlier)
        | none =>
          set r.bump
          readFlagItems ((.minus, r.charSpan) :: items) count
      else
        match flagOfLetter? c with
        | none => fail .flagUnknown r.charSpan
        | some f =>
          match items.lookup (.flag f) with
          | some earlier => fail .flagRepeated r.charSpan (some earlier)
          | none =>
            set r.bump
            readFlagItems ((.flag f, r.charSpan) :: items) count

def readFlags : Reading (List FlagItem) := do readFlagItems [] ((← get).rest.length + 1)

def isAlphabetic (c : Char) : Bool := Unicode.inRanges Unicode.alphabetic c.toNat

def isNumeric (c : Char) : Bool := Unicode.category c ∈ ["Nd", "Nl", "No"]

/-- The characters of a group's name; the first may not be a digit, a dot or a bracket. -/
def isNameChar (isFirst : Bool) (c : Char) : Bool :=
  c = '_' || isAlphabetic c || ! isFirst && (isNumeric c || c = '.' || c = '[' || c = ']')

def readName : Reading Unit := do
  let r ← get
  if r.atEnd then fail .nameUnclosed r.point
  let name := r.rest.takeWhile (· ≠ '>')
  let valid := name.zipIdx.takeWhile fun (c, i) => isNameChar (i = 0) c
  let atFault := valid.foldl (fun r _ => r.bump) r
  if valid.length < name.length then fail .nameInvalid atFault.charSpan
  if atFault.atEnd then fail .nameUnclosed atFault.point
  let span : Span := ⟨r.pos, atFault.pos⟩
  if name = [] then fail .nameEmpty span
  match r.names.lookup name with
  | some earlier => fail .nameRepeated span (some earlier)
  | none => set { atFault.bump with names := (name, span) :: r.names }

inductive Opening where
  | flags (items : List FlagItem)
  | group (flags : List FlagItem)

def readOpening (paren : Span) : Reading Opening := do
  modify Reader.skipSpace
  let r ← get
  for look in ["?=", "?!", "?<=", "?<!"] do
    if r.seesText look then
      fail .lookAround ⟨paren.start, (look.toList.foldl Position.next r.pos)⟩
  if r.seesText "?P<" then
    set r.bump.bump.bump
    readName
    return .group []
  else if r.seesText "?<" then
    set r.bump.bump
    readName
    return .group []
  else if r.sees '?' then
    set r.bump
    if (← get).atEnd then fail .groupUnclosed paren
    let items ← readFlags
    let closed := (← get).sees ')'
    modify Reader.bump
    if closed then
      if items = [] then fail .repetitionMissing r.point
      return .flags items
    else return .group items
  else return .group []

/-- What can be repeated: the last part that was read, if it stands for text. -/
def repeatable (done : List Expr) : Reading (Expr × List Expr) := do
  match done with
  | [] | .empty _ :: _ | .flags .. :: _ => fail .repetitionMissing (← get).point
  | e :: before => return (e, before)

def skipLazy : Reading Unit := do if (← get).sees '?' then modify Reader.bump

def readDecimal : Reading (Except Fault Nat) := do
  modify (·.dropWhile Text.isBlank)
  let start := (← get).pos
  let digits ← takeSpaced Char.isDigit
  let span ← since start
  modify (·.dropWhile Text.isBlank)
  match Text.number? digits with
  | none => return .error ⟨.decimalInvalid, span, none⟩
  | some n =>
    if digits = [] then return .error ⟨.countDecimal, span, none⟩
    else if n < UInt32.size then return .ok n
    else return .error ⟨.decimalInvalid, span, none⟩

def readCounts : Reading (Nat × Option Nat) := do
  let start := (← get).pos
  let unclosed {α : Type} : Reading α := do fail .countUnclosed (← since start)
  modify Reader.bumpSpace
  if (← get).atEnd then unclosed
  let least ← readDecimal
  if (← get).atEnd then unclosed
  let counts ← (do
    if (← get).sees ',' then
      modify Reader.bumpSpace
      if (← get).atEnd then unclosed
      if (← get).sees '\x7d' then return (← liftExcept least, none)
      else
        let least ← liftExcept least
        let most ← liftExcept (← readDecimal)
        return (least, some most)
    else
      let n ← liftExcept least
      return (n, some n) : Reading (Nat × Option Nat))
  if ! (← get).sees '\x7d' then unclosed
  modify Reader.bumpSpace
  skipLazy
  if counts.2.any (· < counts.1) then fail .countRange (← since start)
  return counts
where
  liftExcept (x : Except Fault Nat) : Reading Nat :=
    match x with
    | .ok n => return n
    | .error fault => throw fault

def readRepetition (c : Char) (done : List Expr) : Reading (List Expr) := do
  let (e, before) ← repeatable done
  let (least, most) ←
    if c = '\x7b' then readCounts
    else
      modify Reader.bump
      skipLazy
      pure (if c = '?' then (0, some 1) else if c = '*' then (0, none) else (1, none))
  return .repetition (← since e.span.start) least most e :: before

def Primitive.expr : Primitive → Expr
  | .literal l => .literal l
  | .assertion span kind => .assertion span kind
  | .dot span => .dot span
  | .escaped e => .escaped e

def concatOf (span : Span) (done : List Expr) : Expr :=
  match done with
  | [] => .empty span
  | [e] => e
  | done => .concat span done.reverse

mutual

/-- Reads alternatives up to a closing parenthesis or the end; `done` are those before, the last
first. -/
def readAlternatives (start : Position) (done : List Expr) : (fuel : Nat) → Reading Expr
  | 0 => do fail .groupUnclosed (← get).point
  | fuel + 1 => do
    let branch ← readConcat (← get).pos [] fuel
    if (← get).sees '|' then
      modify Reader.bump
      readAlternatives start (branch :: done) fuel
    else if done = [] then return branch
    else return .alternation (← since start) (branch :: done).reverse

def readConcat (start : Position) (done : List Expr) : (fuel : Nat) → Reading Expr
  | 0 => do fail .groupUnclosed (← get).point
  | fuel + 1 => do
    modify Reader.skipSpace
    let r ← get
    match r.rest with
    | [] => return concatOf (← since start) done
    | c :: _ =>
      if c = '|' || c = ')' then return concatOf (← since start) done
      else if c = '(' then readConcat start ((← readGroup fuel) :: done) fuel
      else if c = '[' then
        let (span, negated, set) ← readClass r.rest.length.succ
        readConcat start (.bracketed span negated set :: done) fuel
      else if c = '?' || c = '*' || c = '+' || c = '\x7b' then
        readConcat start (← readRepetition c done) fuel
      else readConcat start ((← readPrimitive).expr :: done) fuel

/-- Reads a group at its opening parenthesis. Verbose mode is as before behind it. -/
def readGroup : (fuel : Nat) → Reading Expr
  | 0 => do fail .groupUnclosed (← get).point
  | fuel + 1 => do
    let r ← get
    let paren := r.charSpan
    modify Reader.bump
    match ← readOpening paren with
    | .flags items =>
      modify fun s => { s with verbose := (flagState? .verbose true items).getD s.verbose }
      return .flags (← since r.pos) items
    | .group items =>
      modify fun s => { s with verbose := (flagState? .verbose true items).getD s.verbose }
      let e ← readAlternatives (← get).pos [] fuel
      if (← get).atEnd then fail .groupUnclosed paren
      modify fun s => { s.bump with verbose := r.verbose }
      return .group (← since r.pos) items e

end

mutual

/-- The first part that is nested too deep, when `depth` more levels are allowed. -/
def Expr.tooDeep? (depth : Nat) : Expr → Option Span
  | .bracketed span _ set => if depth = 0 then some span else set.tooDeep? (depth - 1)
  | .repetition span _ _ e | .group span _ e => if depth = 0 then some span
      else e.tooDeep? (depth - 1)
  | .alternation span es | .concat span es => if depth = 0 then some span
      else anyTooDeep? (depth - 1) es
  | .empty _ | .flags .. | .literal _ | .dot _ | .assertion .. | .escaped _ => none

def anyTooDeep? (depth : Nat) : List Expr → Option Span
  | [] => none
  | e :: es => (e.tooDeep? depth).or (anyTooDeep? depth es)

def ClassSet.tooDeep? (depth : Nat) : ClassSet → Option Span
  | .bracketed span _ set => if depth = 0 then some span else set.tooDeep? (depth - 1)
  | .union span sets => if depth = 0 then some span else anySetTooDeep? (depth - 1) sets
  | .binary span _ left right =>
    if depth = 0 then some span else (left.tooDeep? (depth - 1)).or (right.tooDeep? (depth - 1))
  | .empty _ | .literal _ | .range .. | .posix .. | .escaped _ => none

def anySetTooDeep? (depth : Nat) : List ClassSet → Option Span
  | [] => none
  | s :: ss => (s.tooDeep? depth).or (anySetTooDeep? depth ss)

end

def read (pattern : List Char) : Except Fault Expr := do
  let (e, r) ← (readAlternatives {} [] (3 * pattern.length + 3)).run { rest := pattern }
  if ! r.atEnd then throw ⟨.groupUnopened, r.charSpan, none⟩
  match e.tooDeep? nestLimit with
  | some span => throw ⟨.nestedTooDeep, span, none⟩
  | none => return e

end RuleLint.Pattern
