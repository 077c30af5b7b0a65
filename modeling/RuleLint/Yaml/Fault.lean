import RuleLint.Yaml.Cursor

namespace RuleLint.Yaml

inductive Problem where
  | noToken
  | keyWithoutColon
  | entryNotAllowed
  | keyNotAllowed
  | valueNotAllowed
  | unknownDirective
  | noDirectiveName
  | directiveNameChar
  | noCommentOrBreak
  | noVersionDot
  | versionTooLong
  | noVersionNumber
  | noSpace
  | noSpaceOrBreak
  | noNameChar
  | noAngle
  | noExclamation
  | noTagUri
  | noOctet
  | badLeadingOctet
  | badTrailingOctet
  | zeroIndent
  | tabAsIndent
  | tabBreaksIndent
  | colonInFlow
  | documentSign
  | endOfStream
  | unknownEscape
  | noHexDigit
  | badCodePoint
  | noDocumentStart
  | undefinedHandle
  | noContent
  | noDash
  | noKey
  | noCommaOrBracket
  | noCommaOrBrace
  | repeatedVersion
  | badVersion
  | repeatedHandle
deriving DecidableEq, Repr

def Problem.message : Problem → String
  | .noToken => "found character that cannot start any token"
  | .keyWithoutColon => "could not find expected ':'"
  | .entryNotAllowed => "block sequence entries are not allowed in this context"
  | .keyNotAllowed => "mapping keys are not allowed in this context"
  | .valueNotAllowed => "mapping values are not allowed in this context"
  | .unknownDirective => "found unknown directive name"
  | .noDirectiveName => "could not find expected directive name"
  | .directiveNameChar => "found unexpected non-alphabetical character"
  | .noCommentOrBreak => "did not find expected comment or line break"
  | .noVersionDot => "did not find expected digit or '.' character"
  | .versionTooLong => "found extremely long version number"
  | .noVersionNumber => "did not find expected version number"
  | .noSpace => "did not find expected whitespace"
  | .noSpaceOrBreak => "did not find expected whitespace or line break"
  | .noNameChar => "did not find expected alphabetic or numeric character"
  | .noAngle => "did not find the expected '>'"
  | .noExclamation => "did not find expected '!'"
  | .noTagUri => "did not find expected tag URI"
  | .noOctet => "did not find URI escaped octet"
  | .badLeadingOctet => "found an incorrect leading UTF-8 octet"
  | .badTrailingOctet => "found an incorrect trailing UTF-8 octet"
  | .zeroIndent => "found an indentation indicator equal to 0"
  | .tabAsIndent => "found a tab character where an indentation space is expected"
  | .tabBreaksIndent => "found a tab character that violates indentation"
  | .colonInFlow => "found unexpected ':'"
  | .documentSign => "found unexpected document indicator"
  | .endOfStream => "found unexpected end of stream"
  | .unknownEscape => "found unknown escape character"
  | .noHexDigit => "did not find expected hexdecimal number"
  | .badCodePoint => "found invalid Unicode character escape code"
  | .noDocumentStart => "did not find expected <document start>"
  | .undefinedHandle => "found undefined tag handle"
  | .noContent => "did not find expected node content"
  | .noDash => "did not find expected '-' indicator"
  | .noKey => "did not find expected key"
  | .noCommaOrBracket => "did not find expected ',' or ']'"
  | .noCommaOrBrace => "did not find expected ',' or '\x7d'"
  | .repeatedVersion => "found duplicate %YAML directive"
  | .badVersion => "found incompatible YAML document"
  | .repeatedHandle => "found duplicate %TAG directive"

inductive Activity where
  | nextToken
  | simpleKey
  | directive
  | versionDirective
  | tagDirective
  | tagDirectiveHandle
  | tagDirectiveHandleEnd
  | tagDirectiveUri
  | anchor
  | alias
  | tag
  | tagUri
  | blockScalar
  | quotedScalar
  | quotedEscape
  | plainScalar
  | node
  | blockNode
  | flowNode
  | blockSequence
  | blockMapping
  | flowSequence
  | flowMapping
deriving DecidableEq, Repr

def Activity.message : Activity → String
  | .nextToken => "while scanning for the next token"
  | .simpleKey => "while scanning a simple key"
  | .directive => "while scanning a directive"
  | .versionDirective => "while scanning a %YAML directive"
  | .tagDirective => "while scanning a %TAG directive"
  | .tagDirectiveHandle => "while scanning a tag directive"
  | .tagDirectiveHandleEnd => "while parsing a tag directive"
  | .tagDirectiveUri => "while parsing a %TAG directive"
  | .anchor => "while scanning an anchor"
  | .alias => "while scanning an alias"
  | .tag => "while scanning a tag"
  | .tagUri => "while parsing a tag"
  | .blockScalar => "while scanning a block scalar"
  | .quotedScalar => "while scanning a quoted scalar"
  | .quotedEscape => "while parsing a quoted scalar"
  | .plainScalar => "while scanning a plain scalar"
  | .node => "while parsing a node"
  | .blockNode => "while parsing a block node"
  | .flowNode => "while parsing a flow node"
  | .blockSequence => "while parsing a block collection"
  | .blockMapping => "while parsing a block mapping"
  | .flowSequence => "while parsing a flow sequence"
  | .flowMapping => "while parsing a flow mapping"

inductive Fault where
  | malformed (problem : Problem) (mark : Mark) (activity : Option (Activity × Mark))
  /-- A character that no YAML text may hold, so many bytes from the start. -/
  | controlChar (offset : Nat)
  | unknownAnchor (mark : Mark)
deriving DecidableEq, Repr

/-- Where something is. The start of the text goes without saying. -/
def showPlace (m : Mark) : String := if m.isStart then "" else " at " ++ m.render

/-- The place of the activity is left out where it is the place of the problem. -/
def Fault.message : Fault → String
  | .malformed problem mark activity =>
    problem.message ++ showPlace mark ++
      match activity with
      | none => ""
      | some (a, start) =>
        ", " ++ a.message ++
          if start.line = mark.line ∧ start.column = mark.column then "" else showPlace start
  | .controlChar offset =>
    "control characters are not allowed" ++ if offset = 0 then ""
      else " at position " ++ toString offset
  | .unknownAnchor mark => "unknown anchor" ++ showPlace mark

end RuleLint.Yaml
