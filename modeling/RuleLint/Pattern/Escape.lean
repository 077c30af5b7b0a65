import RuleLint.Pattern.Reader
import RuleLint.Text.Digits

namespace RuleLint.Pattern

inductive Primitive where
  | literal (l : Literal)
  | assertion (span : Span) (kind : AssertionKind)
  | dot (span : Span)
  | escaped (e : Escaped)
deriving Repr

def Primitive.span : Primitive → Span
  | .literal l => l.span
  | .assertion s _ | .dot s => s
  | .escaped e => e.span

def isMeta (c : Char) : Bool := c ∈ "\\.+*?()|[]\x7b\x7d^$#&-~".toList

/-- Characters that a backslash leaves as they are: the meta characters and the other ASCII
signs. -/
def isEscapable (c : Char) : Bool :=
  isMeta c || c.toNat < 0x80 && ! c.isAlphanum && c ≠ '<' && c ≠ '>'

def hexChar? (digits : List Char) : Option Char :=
  ((Text.hexNumber? digits).filter (·.isValidChar)).map Char.ofNat

def readHexBraced (start : Position) : Reading Literal := do
  let brace := (← get).pos
  let first := (← get).bump.pos
  modify Reader.bumpSpace
  let digits ← takeSpaced Text.isHexDigit
  let r ← get
  if r.atEnd then fail .escapeEnd (← since brace)
  if ! r.sees '\x7d' then fail .hexDigit r.charSpan
  let stop := r.pos
  modify Reader.bumpSpace
  if digits = [] then fail .hexEmpty (← since brace)
  match hexChar? digits with
  | some c => return ⟨← since start, c, false⟩
  | none => fail .hexInvalid ⟨first, stop⟩

def readHexDigits : (more : Nat) → Reading (List Char)
  | 0 => return []
  | more + 1 => do
    modify Reader.bumpSpace
    let r ← get
    match r.rest with
    | [] => fail .escapeEnd r.point
    | c :: _ =>
      if Text.isHexDigit c then return c :: (← readHexDigits more) else fail .hexDigit r.charSpan

/-- Reads a hexadecimal escape at its letter: two, four or eight digits, or any number of them in
braces. -/
def readHex (start : Position) (letter : Char) : Reading Literal := do
  modify Reader.bumpSpace
  let r ← get
  match r.rest with
  | [] => fail .escapeEnd r.point
  | c :: _ =>
    if c = '\x7b' then readHexBraced start
    else if ! Text.isHexDigit c then fail .hexDigit r.charSpan
    else
      let digits :=
        c :: (← readHexDigits (if letter = 'x' then 1 else if letter = 'u' then 3 else 7))
      modify Reader.bumpSpace
      match hexChar? digits with
      | some d => return ⟨← since start, d, letter = 'x'⟩
      | none => fail .hexInvalid (← since r.pos)

/-- Splits the text of a property class at the first `!=`, else at the first colon, else at the
first equals sign. -/
def splitProperty (text : List Char) : PropertyName × Bool :=
  match unequal text, Text.cut? ':' text, Text.cut? '=' text with
  | some (name, value), _, _ => (.value name value, true)
  | none, some (name, value), _ => (.value name value, false)
  | none, none, some (name, value) => (.value name value, false)
  | none, none, none => (.alone text, false)
where
  unequal : List Char → Option (List Char × List Char)
    | [] => none
    | '!' :: '=' :: cs => some ([], cs)
    | c :: cs => (unequal cs).map fun (name, value) => (c :: name, value)

def readProperty (start : Position) (negated : Bool) : Reading Escaped := do
  modify Reader.bumpSpace
  let r ← get
  match r.rest with
  | [] => fail .escapeEnd r.point
  | c :: _ =>
    if c = '\x7b' then
      modify Reader.bumpSpace
      let text ← takeSpaced (· ≠ '\x7d')
      if (← get).atEnd then fail .escapeEnd (← get).point
      modify Reader.bump
      let (name, unequal) := splitProperty text
      return .property (← since start) name (negated != unequal)
    else if c = '\\' then fail .propertyInvalid r.charSpan
    else
      modify Reader.bumpSpace
      return .property (← since start) (.alone [c]) negated

def boundaryWords : List (String × AssertionKind) :=
  [("start", .boundaryStart), ("end", .boundaryEnd), ("start-half", .boundaryStartHalf),
    ("end-half", .boundaryEndHalf)]

/-- Reads the braces behind a `\b`, unless they look like those of a repetition. -/
def readBoundaryKind? (start : Position) : Reading (Option AssertionKind) := do
  let before ← get
  let isWordChar (c : Char) : Bool := c.isAlpha || c = '-'
  modify Reader.bumpSpace
  let r ← get
  match r.rest with
  | [] => fail .boundaryOrCountEnd (← since start)
  | c :: _ =>
    if isWordChar c then
      let word ← takeSpaced isWordChar
      let close ← get
      if ! close.sees '\x7d' then fail .boundaryUnclosed (← since before.pos)
      modify Reader.bump
      match boundaryWords.lookup (.ofList word) with
      | some kind => return some kind
      | none => fail .boundaryUnknown ⟨r.pos, close.pos⟩
    else
      set before
      return none

def readShort (start : Position) (c : Char) : Reading Primitive := do
  modify Reader.bump
  let span ← since start
  if isEscapable c then return .literal ⟨span, c, false⟩
  match c with
  | 'a' => return .literal ⟨span, '\x07', false⟩
  | 'f' => return .literal ⟨span, '\x0c', false⟩
  | 't' => return .literal ⟨span, '\t', false⟩
  | 'n' => return .literal ⟨span, '\n', false⟩
  | 'r' => return .literal ⟨span, '\r', false⟩
  | 'v' => return .literal ⟨span, '\x0b', false⟩
  | 'A' => return .assertion span .startText
  | 'z' => return .assertion span .endText
  | 'B' => return .assertion span .notBoundary
  | '<' => return .assertion span .boundaryStart
  | '>' => return .assertion span .boundaryEnd
  | 'b' =>
    if (← get).sees '\x7b' then
      match ← readBoundaryKind? start with
      | some kind => return .assertion (← since start) kind
      | none => return .assertion span .boundary
    else return .assertion span .boundary
  | _ => fail .escapeUnknown span

def readShorthand (start : Position) (kind : Shorthand) (negated : Bool) : Reading Primitive := do
  modify Reader.bump
  return .escaped (.shorthand (← since start) kind negated)

def readEscape : Reading Primitive := do
  let start := (← get).pos
  modify Reader.bump
  let r ← get
  match r.rest with
  | [] => fail .escapeEnd (← since start)
  | c :: _ =>
    if c.isDigit then fail .backreference ⟨start, r.charSpan.stop⟩
    else
      match c with
      | 'x' | 'u' | 'U' => return .literal (← readHex start c)
      | 'p' | 'P' => return .escaped (← readProperty start (c = 'P'))
      | 'd' | 'D' => readShorthand start .digit (c = 'D')
      | 's' | 'S' => readShorthand start .space (c = 'S')
      | 'w' | 'W' => readShorthand start .word (c = 'W')
      | c => readShort start c

def readPrimitive : Reading Primitive := do
  let r ← get
  match r.rest with
  | [] => fail .escapeEnd r.point
  | '\\' :: _ => readEscape
  | c :: _ =>
    set r.bump
    let span := r.charSpan
    match c with
    | '.' => return .dot span
    | '^' => return .assertion span .startLine
    | '$' => return .assertion span .endLine
    | c => return .literal ⟨span, c, false⟩

end RuleLint.Pattern
