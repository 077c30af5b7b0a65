import RuleLint.Diagnostic
import RuleLint.Rule.Line
import RuleLint.Rule.Address

namespace RuleLint.Rule

def types : List String := ["DOMAIN", "DOMAIN-SUFFIX", "DOMAIN-KEYWORD", "IP-CIDR"]

def hasType (rule : List Char) : Bool :=
  types.any fun type => (Text.rest? (type ++ ",").toList rule).isSome

inductive Finding where
  | unknownType
  | malformedBlock
  | outOfRange
  | truncatedAddress
  | trailingBlank
deriving DecidableEq, Repr

namespace Finding

def diagnostic (rule : String) : Finding → Diagnostic
  | .unknownType =>
    .error .malformed ("invalid rule '" ++ rule ++ "' (expected " ++ " | ".intercalate types ++
      " followed by a comma)")
  | .malformedBlock => .error .malformed ("malformed IP-CIDR value in '" ++ rule ++ "'")
  | .outOfRange =>
    (Diagnostic.warn ("address out of range in '" ++ rule ++ "'")).withKind .malformed
  | .truncatedAddress => .error .malformed ("truncated address literal in '" ++ rule ++ "'")
  | .trailingBlank => (Diagnostic.warn "trailing whitespace").withKind .style

def isError : Finding → Bool
  | .unknownType | .malformedBlock | .truncatedAddress => true
  | .outOfRange | .trailingBlank => false

end Finding

def shapeFinding? (rule : List Char) : Option Finding :=
  if hasType rule then
    match Text.rest? "IP-CIDR,".toList rule with
    | none => none
    | some value =>
      match AddressBlock.read? value with
      | none => some .malformedBlock
      | some block => if block.inRange then none else some .outOfRange
  else some .unknownType

/-- A rule whose shape has an error is not looked at for a truncated address. -/
def findings (rule : List Char) : List Finding :=
  let shape := shapeFinding? rule
  if shape.any Finding.isError then shape.toList
  else shape.toList ++ if isTruncated rule then [.truncatedAddress] else []

/-- All findings on a line, the one on its end last. -/
def lineFindings (line : List Char) : List Finding :=
  let rule := ofLine line
  if rule = [] then [] else findings rule ++ if Text.endsBlank line then [.trailingBlank] else []

def checkLine (file : String) (number : Nat) (line : List Char) : List Diagnostic :=
  (lineFindings line).map fun f => (f.diagnostic (.ofList (ofLine line))).onLine file number

def checkFile (file content : String) : List Diagnostic :=
  (Text.numberedLines content).flatMap fun l => checkLine file l.number l.text

end RuleLint.Rule
