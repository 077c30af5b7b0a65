import RuleLint.Pattern.Matcher
import RuleLint.Pattern.Reading

namespace RuleLint.Pattern

structure Flags where
  ignoreCase : Bool := false
  multiLine : Bool := false
  dotAll : Bool := false
  unicode : Bool := true
  carriageReturn : Bool := false
deriving DecidableEq, Repr

namespace Flags

def apply (f : Flags) (items : List FlagItem) : Flags where
  ignoreCase := (flagState? .ignoreCase true items).getD f.ignoreCase
  multiLine := (flagState? .multiLine true items).getD f.multiLine
  dotAll := (flagState? .dotAll true items).getD f.dotAll
  unicode := (flagState? .unicode true items).getD f.unicode
  carriageReturn := (flagState? .carriageReturn true items).getD f.carriageReturn

def foldSet (f : Flags) (s : CharSet) : CharSet :=
  if f.ignoreCase then if f.unicode then .folded s else .foldedAscii s else s

/-- Turns a set around if it is negated. Sets of bytes hold ASCII only, so their complements hold
bytes that are no characters. -/
def negateSet (f : Flags) (span : Span) (negated : Bool) (s : CharSet) : Except Fault CharSet :=
  if ! negated then .ok s
  else if f.unicode then .ok (.compl s)
  else .error ⟨.invalidUtf8, span, none⟩

/-- The character of a literal, which may not be a byte beyond ASCII where patterns are about
bytes. -/
def literalChar (f : Flags) (l : Literal) : Except Fault Char :=
  if ! f.unicode && l.isByte && 0x7F < l.char.toNat then .error ⟨.invalidUtf8, l.span, none⟩
    else .ok l.char

def classChar (f : Flags) (l : Literal) : Except Fault Char := do
  let c ← f.literalChar l
  if ! f.unicode && 0x7F < c.toNat then throw ⟨.unicodeNotAllowed, l.span, none⟩
  return c

def dot (f : Flags) (span : Span) : Except Fault CharSet :=
  if ! f.unicode then .error ⟨.invalidUtf8, span, none⟩
  else if f.dotAll then .ok .all
  else if f.carriageReturn then .ok (.minus .all (.union (.single '\r') (.single '\n')))
  else .ok (.minus .all (.single '\n'))

def assertion (f : Flags) : AssertionKind → Look
  | .startLine => if f.multiLine then .startLine f.carriageReturn else .start
  | .endLine => if f.multiLine then .endLine f.carriageReturn else .stop
  | .startText => .start
  | .endText => .stop
  | .boundary => .boundary f.unicode
  | .notBoundary => .notBoundary f.unicode
  | .boundaryStart => .boundaryStart f.unicode
  | .boundaryEnd => .boundaryEnd f.unicode
  | .boundaryStartHalf => .boundaryStartHalf f.unicode
  | .boundaryEndHalf => .boundaryEndHalf f.unicode

def escapedSet (f : Flags) : Escaped → Except Fault CharSet
  | .shorthand span kind negated =>
    f.negateSet span negated (if f.unicode then .shorthand kind else .asciiShorthand kind)
  | .property span name negated =>
    if ! f.unicode then .error ⟨.unicodeNotAllowed, span, none⟩
    else
      match CharSet.ofProperty name with
      | .error kind => .error ⟨kind, span, none⟩
      | .ok s => f.negateSet span negated (f.foldSet s)

mutual

def classSet (f : Flags) : ClassSet → Except Fault CharSet
  | .empty _ => .ok .empty
  | .literal l => return .single (← f.classChar l)
  | .range _ first last => return .interval (← f.classChar first) (← f.classChar last)
  | .posix span kind negated => f.negateSet span negated (f.foldSet (.posix kind))
  | .escaped e => f.escapedSet e
  | .bracketed span negated set => do f.negateSet span negated (f.foldSet (← f.classSet set))
  | .union _ sets => f.classSets sets
  | .binary _ op left right => do
    let a ← f.classSet left
    let b ← f.classSet right
    return .combine op (f.foldSet a) (f.foldSet b)

def classSets (f : Flags) : List ClassSet → Except Fault CharSet
  | [] => .ok .empty
  | s :: ss => do
    let a ← f.classSet s
    let b ← f.classSets ss
    return .union a b

end

end Flags

mutual

/-- The meaning of an expression and the flags in force behind it. -/
def Expr.matcher (f : Flags) : Expr → Except Fault (Matcher × Flags)
  | .empty _ => .ok (.empty, f)
  | .flags _ items => .ok (.empty, f.apply items)
  | .literal l => return (.chars (f.foldSet (.single (← f.literalChar l))), f)
  | .dot span => return (.chars (← f.dot span), f)
  | .assertion _ kind => return (.look (f.assertion kind), f)
  | .escaped e => return (.chars (← f.escapedSet e), f)
  | .bracketed span negated set => do
    return (.chars (← f.negateSet span negated (f.foldSet (← f.classSet set))), f)
  | .repetition _ least most e => do
    let (m, f) ← e.matcher f
    return (.repetition least most m, f)
  | .group _ items e => do
    let (m, _) ← e.matcher (f.apply items)
    return (m, f)
  | .alternation _ es => do
    let (ms, f) ← matchers f es
    return (.choice ms, f)
  | .concat _ es => do
    let (ms, f) ← matchers f es
    return (.concat ms, f)

def matchers (f : Flags) : List Expr → Except Fault (List Matcher × Flags)
  | [] => .ok ([], f)
  | e :: es => do
    let (m, f) ← e.matcher f
    let (ms, f) ← matchers f es
    return (m :: ms, f)

end

def meaning (pattern : List Char) : Except Fault Matcher := do
  let (m, _) ← (← read pattern).matcher {}
  return m

end RuleLint.Pattern
