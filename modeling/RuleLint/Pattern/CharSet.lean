import RuleLint.Unicode.CaseFolding
import RuleLint.Unicode.PropertyTables
import RuleLint.Unicode.PropertyName
import RuleLint.Unicode.Script
import RuleLint.Pattern.Expr

namespace RuleLint.Pattern

inductive CharSet where
  | ranges (rs : List (Nat × Nat))
  | category (names : List String)
  | script (code : String)
  | union (a b : CharSet)
  | inter (a b : CharSet)
  | compl (a : CharSet)
  | folded (a : CharSet)
  /-- With the case variants of ASCII letters that are ASCII letters. -/
  | foldedAscii (a : CharSet)
deriving DecidableEq, Repr

namespace CharSet

def contains (s : CharSet) (c : Char) : Bool :=
  match s with
  | ranges rs => Unicode.inRanges rs c.toNat
  | category names => Unicode.category c ∈ names
  | script code => Unicode.script c = code
  | union a b => a.contains c || b.contains c
  | inter a b => a.contains c && b.contains c
  | compl a => ! a.contains c
  | folded a => (Unicode.caseVariants c.toNat).any fun code => a.contains (.ofNat code)
  | foldedAscii a => a.contains c || a.contains c.toLower || a.contains c.toUpper

def single (c : Char) : CharSet := .ranges [(c.toNat, c.toNat)]

def interval (a b : Char) : CharSet := .ranges [(a.toNat, b.toNat)]

def empty : CharSet := .ranges []

def all : CharSet := .ranges [(0, 0x10FFFF)]

def minus (a b : CharSet) : CharSet := .inter a (.compl b)

def combine : ClassOp → CharSet → CharSet → CharSet
  | .intersection, a, b => .inter a b
  | .difference, a, b => minus a b
  | .symmetricDifference, a, b => .union (minus a b) (minus b a)

def shorthand : Shorthand → CharSet
  | .digit => .category ["Nd"]
  | .space => .ranges (Unicode.readRanges Unicode.whiteSpaceTable)
  | .word => .union (.ranges ((0x200C, 0x200D) :: Unicode.alphabetic))
      (.category ["Mn", "Mc", "Me", "Nd", "Pc"])

def posix : PosixKind → CharSet
  | .alnum => .ranges [(0x30, 0x39), (0x41, 0x5A), (0x61, 0x7A)]
  | .alpha => .ranges [(0x41, 0x5A), (0x61, 0x7A)]
  | .ascii => .ranges [(0, 0x7F)]
  | .blank => .ranges [(0x09, 0x09), (0x20, 0x20)]
  | .cntrl => .ranges [(0, 0x1F), (0x7F, 0x7F)]
  | .digit => .ranges [(0x30, 0x39)]
  | .graph => .ranges [(0x21, 0x7E)]
  | .lower => .ranges [(0x61, 0x7A)]
  | .print => .ranges [(0x20, 0x7E)]
  | .punct => .ranges [(0x21, 0x2F), (0x3A, 0x40), (0x5B, 0x60), (0x7B, 0x7E)]
  | .space => .ranges [(0x09, 0x0D), (0x20, 0x20)]
  | .upper => .ranges [(0x41, 0x5A)]
  | .word => .ranges [(0x30, 0x39), (0x41, 0x5A), (0x5F, 0x5F), (0x61, 0x7A)]
  | .xdigit => .ranges [(0x30, 0x39), (0x41, 0x46), (0x61, 0x66)]

def asciiShorthand : Shorthand → CharSet
  | .digit => posix .digit
  | .space => posix .space
  | .word => posix .word

open Unicode

def hasName (wanted : List Char) (names : List String) : Bool :=
  names.any fun n => normalizeName n.toList = wanted

def binary? (name : List Char) : Option CharSet :=
  (binaryNames.find? fun (n, others) => hasName name (n :: others)).bind fun (n, _) =>
    (property? n).map .ranges

def category? (name : List Char) : Option CharSet :=
  if name = "any".toList then some all
  else if name = "ascii".toList then some (posix .ascii)
  else if name = "assigned".toList then some (.compl (.category ["Cn"]))
  else (categoryNames.find? fun (names, _) => hasName name names).map fun (_, members) =>
    .category members

def script? (name : List Char) : Option CharSet :=
  (scriptNames.find? fun names => name ∈ names.map normalizeName).map fun names =>
    .script (.ofList (names.headD []))

/-- The set that a name alone stands for. Three names that properties share with categories stand
for the categories. -/
def ofPropertyName (name : List Char) : Except FaultKind CharSet :=
  let name := normalizeName name
  let shared := name ∈ ["cf".toList, "sc".toList, "lc".toList]
  let isValued := valuedNames.any fun (n, others) => hasName name (n :: others)
  match if shared then none else binary? name with
  | some s => .ok s
  | none =>
    if isValued && ! shared then .error .propertyUnknown
    else
      match (category? name).or (script? name) with
      | some s => .ok s
      | none => .error .propertyUnknown

def ofPropertyValue (name value : List Char) : Except FaultKind CharSet :=
  let name := normalizeName name
  let value := normalizeName value
  let orUnknown (s : Option CharSet) : Except FaultKind CharSet :=
    match s with
    | some s => .ok s
    | none => .error .propertyValueUnknown
  match (binaryNames ++ valuedNames).find? fun (n, others) => hasName name (n :: others) with
  | none => .error .propertyUnknown
  | some ("General_Category", _) => orUnknown (category? value)
  | some ("Script", _) | some ("Script_Extensions", _) => orUnknown (script? value)
  | some _ => .error .propertyValueUnknown

def ofProperty : PropertyName → Except FaultKind CharSet
  | .alone name => ofPropertyName name
  | .value name value => ofPropertyValue name value

end CharSet

end RuleLint.Pattern
