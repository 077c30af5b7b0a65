import RuleLint.Pattern.Fault

namespace RuleLint.Pattern

inductive Flag where
  | ignoreCase
  | multiLine
  | dotAll
  | swapGreed
  | unicode
  | carriageReturn
  | verbose
deriving DecidableEq, Repr

inductive FlagItem where
  | minus
  | flag (f : Flag)
deriving DecidableEq, Repr

def flagState? (f : Flag) : (on : Bool) → List FlagItem → Option Bool
  | _, [] => none
  | _, .minus :: items => flagState? f false items
  | on, .flag g :: items => if g = f then some on else flagState? f on items

inductive AssertionKind where
  | startLine
  | endLine
  | startText
  | endText
  | boundary
  | notBoundary
  | boundaryStart
  | boundaryEnd
  | boundaryStartHalf
  | boundaryEndHalf
deriving DecidableEq, Repr

/-- A single character. One that is spelled by two hexadecimal digits may stand for a byte. -/
structure Literal where
  span : Span
  char : Char
  isByte : Bool := false
deriving DecidableEq, Repr

inductive Shorthand where
  | digit
  | space
  | word
deriving DecidableEq, Repr

inductive PropertyName where
  | alone (name : List Char)
  | value (name value : List Char)
deriving DecidableEq, Repr

inductive PosixKind where
  | alnum | alpha | ascii | blank | cntrl | digit | graph | lower | print | punct | space | upper |
      word | xdigit
deriving DecidableEq, Repr

inductive Escaped where
  | shorthand (span : Span) (kind : Shorthand) (negated : Bool)
  | property (span : Span) (name : PropertyName) (negated : Bool)
deriving DecidableEq, Repr

inductive ClassOp where
  | intersection
  | difference
  | symmetricDifference
deriving DecidableEq, Repr

inductive ClassSet where
  | empty (span : Span)
  | literal (l : Literal)
  | range (span : Span) (first last : Literal)
  | posix (span : Span) (kind : PosixKind) (negated : Bool)
  | escaped (e : Escaped)
  | bracketed (span : Span) (negated : Bool) (set : ClassSet)
  | union (span : Span) (sets : List ClassSet)
  | binary (span : Span) (op : ClassOp) (left right : ClassSet)
deriving Repr

def Escaped.span : Escaped → Span
  | .shorthand s .. | .property s .. => s

def ClassSet.span : ClassSet → Span
  | .empty s | .range s .. | .posix s .. | .bracketed s .. | .union s _ | .binary s .. => s
  | .literal l => l.span
  | .escaped e => e.span

inductive Expr where
  | empty (span : Span)
  | flags (span : Span) (items : List FlagItem)
  | literal (l : Literal)
  | dot (span : Span)
  | assertion (span : Span) (kind : AssertionKind)
  | escaped (e : Escaped)
  | bracketed (span : Span) (negated : Bool) (set : ClassSet)
  | repetition (span : Span) (least : Nat) (most : Option Nat) (expr : Expr)
  | group (span : Span) (flags : List FlagItem) (expr : Expr)
  | alternation (span : Span) (exprs : List Expr)
  | concat (span : Span) (exprs : List Expr)
deriving Repr

def Expr.span : Expr → Span
  | .empty s | .flags s _ | .dot s | .assertion s _ | .bracketed s .. | .repetition s ..
  | .group s .. | .alternation s _ | .concat s _ => s
  | .literal l => l.span
  | .escaped e => e.span

end RuleLint.Pattern
