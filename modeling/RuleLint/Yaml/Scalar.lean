import RuleLint.Decimal.Double
import RuleLint.Decoding
import RuleLint.Text.Digits
import RuleLint.Yaml.Token

namespace RuleLint.Yaml.Scalar

def isNull (s : String) : Bool := s ∈ ["null", "Null", "NULL", "~"]

def bool? (s : String) : Option Bool :=
  if s ∈ ["true", "True", "TRUE"] then some true
  else if s ∈ ["false", "False", "FALSE"] then some false
  else none

def digits? (base : Nat) : List Char → Option Nat
  | [] => none
  | s => Text.numberIn? base s

/-- A number in base sixteen, eight or two, which is told by its first two characters. -/
def based? : List Char → Option Nat
  | '0' :: 'x' :: s => digits? 16 s
  | '0' :: 'o' :: s => digits? 8 s
  | '0' :: 'b' :: s => digits? 2 s
  | _ => none

def dropSign : List Char → List Char
  | '-' :: s | '+' :: s => s
  | s => s

/-- Whether a text is made of digits, perhaps with a sign, and starts with a zero that a number
would not have. -/
def isPaddedNumber (s : List Char) : Bool :=
  match dropSign s with
  | '0' :: c :: rest => (c :: rest).all Char.isDigit
  | _ => false

def natural? (s : List Char) : Option Nat :=
  let unsigned := if s.head? = some '+' then s.tail else s
  (based? unsigned).or <| if isPaddedNumber s then none else digits? 10 unsigned

def negative? : List Char → Option Nat
  | '-' :: s => (based? s).or <| if isPaddedNumber ('-' :: s) then none else digits? 10 s
  | _ => none

/-- A whole number of at most 128 bits. -/
def integer? (s : List Char) : Option Found :=
  match natural? s, negative? s with
  | some n, _ =>
    if n < UInt64.size then some (.integer n)
    else if n < 1 <<< 128 then some (.wideInteger n "u128")
    else none
  | none, some n =>
    if n ≤ 1 <<< 63 then some (.integer (-n))
    else if n ≤ 1 <<< 127 then some (.wideInteger (-n) "i128")
    else none
  | none, none => none

def decimal? (s : List Char) : Option String :=
  let text := String.ofList s
  let unsigned := if s.head? = some '+' then s.tail else s
  if String.ofList unsigned ∈ [".inf", ".Inf", ".INF"] then some "inf"
  else if text ∈ ["-.inf", "-.Inf", "-.INF"] then some "-inf"
  else if text ∈ [".nan", ".NaN", ".NAN"] then some "NaN"
  else
    let (sign, digits) := if s.head? = some '-' then ("-", s.tail) else ("", unsigned)
    ((Decimal.ofText? digits).bind Double.ofDecimal?).map fun x => sign ++ x.render

def ofPlain (s : String) : Found :=
  if s = "" ∨ isNull s then .nothing
  else
    match bool? s, integer? s.toList with
    | some b, _ => .bool b
    | none, some n => n
    | none, none =>
      match if isPaddedNumber s.toList then none else decimal? s.toList with
      | some spelling => .decimal spelling
      | none => .string s

def coreTag (name : String) : String := "tag:yaml.org,2002:" ++ name

/-- What a scalar stands for. A text that is not of the type of its tag is an error. -/
def found (tag : Option String) (content : ScalarText) : Except DecodeError Found :=
  let s := content.text
  let typed (x : Option Found) (expected : String) : Except DecodeError Found :=
    match x with
    | some x => .ok x
    | none => .error (.invalidValue (.string s) expected)
  match tag with
  | none => .ok (if content.style = .plain then ofPlain s else .string s)
  | some tag =>
    if tag = coreTag "bool" then typed ((bool? s).map .bool) "a boolean"
    else if tag = coreTag "int" then typed (integer? s.toList) "an integer"
    else if tag = coreTag "float" then typed ((decimal? s.toList).map .decimal) "a float"
    else if tag = coreTag "null" then typed (if isNull s then some .nothing else none) "null"
    else .ok (if tag.toList.head? = some '!' ∧ content.style = .plain then ofPlain s else .string s)

end RuleLint.Yaml.Scalar
