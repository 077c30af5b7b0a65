import RuleLint.Text.Basic

namespace RuleLint.Pattern

/-- A place between characters; lines and columns count from one. -/
structure Position where
  offset : Nat := 0
  line : Nat := 1
  column : Nat := 1
deriving DecidableEq, Repr

def Position.next (p : Position) (c : Char) : Position :=
  if c = '\n' then ⟨p.offset + 1, p.line + 1, 1⟩ else ⟨p.offset + 1, p.line, p.column + 1⟩

structure Span where
  start : Position
  stop : Position
deriving DecidableEq, Repr

def Span.isOneLine (s : Span) : Bool := s.start.line = s.stop.line

inductive FaultKind where
  | classEscape
  | classRange
  | classBoundary
  | classUnclosed
  | decimalEmpty
  | decimalInvalid
  | hexEmpty
  | hexInvalid
  | hexDigit
  | escapeEnd
  | escapeUnknown
  | flagDanglingMinus
  | flagRepeated
  | flagRepeatedMinus
  | flagEnd
  | flagUnknown
  | nameRepeated
  | nameEmpty
  | nameInvalid
  | nameUnclosed
  | groupUnclosed
  | groupUnopened
  | nestedTooDeep
  | countRange
  | countDecimal
  | countUnclosed
  | repetitionMissing
  | boundaryUnclosed
  | boundaryUnknown
  | boundaryOrCountEnd
  | propertyInvalid
  | backreference
  | lookAround
  | unicodeNotAllowed
  | invalidUtf8
  | propertyUnknown
  | propertyValueUnknown
deriving DecidableEq, Repr

def nestLimit : Nat := 250

def FaultKind.message : FaultKind → String
  | .classEscape => "invalid escape sequence found in character class"
  | .classRange => "invalid character class range, the start must be <= the end"
  | .classBoundary => "invalid range boundary, must be a literal"
  | .classUnclosed => "unclosed character class"
  | .decimalEmpty => "decimal literal empty"
  | .decimalInvalid => "decimal literal invalid"
  | .hexEmpty => "hexadecimal literal empty"
  | .hexInvalid => "hexadecimal literal is not a Unicode scalar value"
  | .hexDigit => "invalid hexadecimal digit"
  | .escapeEnd => "incomplete escape sequence, reached end of pattern prematurely"
  | .escapeUnknown => "unrecognized escape sequence"
  | .flagDanglingMinus => "dangling flag negation operator"
  | .flagRepeated => "duplicate flag"
  | .flagRepeatedMinus => "flag negation operator repeated"
  | .flagEnd => "expected flag but got end of regex"
  | .flagUnknown => "unrecognized flag"
  | .nameRepeated => "duplicate capture group name"
  | .nameEmpty => "empty capture group name"
  | .nameInvalid => "invalid capture group character"
  | .nameUnclosed => "unclosed capture group name"
  | .groupUnclosed => "unclosed group"
  | .groupUnopened => "unopened group"
  | .nestedTooDeep =>
    "exceed the maximum number of nested parentheses/brackets (" ++ toString nestLimit ++ ")"
  | .countRange => "invalid repetition count range, the start must be <= the end"
  | .countDecimal => "repetition quantifier expects a valid decimal"
  | .countUnclosed => "unclosed counted repetition"
  | .repetitionMissing => "repetition operator missing expression"
  | .boundaryUnclosed =>
    "special word boundary assertion is either unclosed or contains an invalid character"
  | .boundaryUnknown =>
    "unrecognized special word boundary assertion, valid choices are: " ++
      "start, end, start-half or end-half"
  | .boundaryOrCountEnd =>
    "found either the beginning of a special word boundary or a bounded repetition on a \\b " ++
      "with an opening brace, but no closing brace"
  | .propertyInvalid => "invalid Unicode character class"
  | .backreference => "backreferences are not supported"
  | .lookAround => "look-around, including look-ahead and look-behind, is not supported"
  | .unicodeNotAllowed => "Unicode not allowed here"
  | .invalidUtf8 => "pattern can match invalid UTF-8"
  | .propertyUnknown => "Unicode property not found"
  | .propertyValueUnknown => "Unicode property value not found"

/-- What is wrong and where, and perhaps the earlier place that it clashes with. -/
structure Fault where
  kind : FaultKind
  span : Span
  earlier : Option Span := none
deriving DecidableEq, Repr

namespace Fault

def precedes (a b : Span) : Bool :=
  a.start.offset < b.start.offset ||
    a.start.offset = b.start.offset && a.stop.offset ≤ b.stop.offset

def spans (f : Fault) : List Span :=
  match f.earlier with
  | none => [f.span]
  | some e => if precedes e f.span then [e, f.span] else [f.span, e]

/-- Carets under the given spans of one line, the first caret being at `column` or further right. -/
def carets (column : Nat) : List Span → List Char
  | [] => []
  | s :: rest =>
    let marks := max 1 (s.stop.column - s.start.column)
    List.replicate (s.start.column - column) ' ' ++ List.replicate marks '^' ++
      carets (max column s.start.column + marks) rest

def showLine (margin : String) (padding : Nat) (marked : List Span) (line : List Char) : String :=
  margin ++ .ofList line ++ "\n" ++
    if marked = [] then "" else .ofList (List.replicate padding ' ' ++ carets 1 marked) ++ "\n"

/-- The lines of a pattern, numbered if there are several. -/
def showPattern (f : Fault) (pattern : List Char) : String :=
  let lines := Text.lines pattern
  let count := lines.length + if pattern.getLast? = some '\n' then 1 else 0
  let width := (toString count).length
  let marked (number : Nat) := f.spans.filter fun s => s.isOneLine && s.start.line = number
  .join ((lines.zipIdx 1).map fun (line, number) =>
    if count ≤ 1 then showLine "    " 4 (marked number) line
    else showLine (.ofList ((toString number).toList.leftpad width ' ') ++ ": ") (width + 2)
      (marked number) line)

def showSpread (s : Span) : String :=
  "on line " ++ toString s.start.line ++ " (column " ++ toString s.start.column ++
    ") through line " ++ toString s.stop.line ++ " (column " ++ toString (s.stop.column - 1) ++ ")"

def render (f : Fault) (pattern : List Char) : String :=
  let shown := f.showPattern pattern
  let spread := f.spans.filter (! ·.isOneLine)
  let framed :=
    if '\n' ∈ pattern then
      let rule := String.ofList (List.replicate 79 '~') ++ "\n"
      rule ++ shown ++ rule ++ if spread = [] then ""
        else "\n".intercalate (spread.map showSpread) ++ "\n"
    else shown
  "regex parse error:\n" ++ framed ++ "error: " ++ f.kind.message

end Fault

end RuleLint.Pattern
