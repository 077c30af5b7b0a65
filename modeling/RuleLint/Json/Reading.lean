import RuleLint.Json.Value
import RuleLint.Text.Basic
import RuleLint.Text.Digits

namespace RuleLint.Json

def isBlank (c : Char) : Bool := c = ' ' || c = '\n' || c = '\r' || c = '\t'

def skipBlanks (s : List Char) : List Char := s.dropWhile isBlank

def unescape? : Char → Option Char
  | '"' => some '"'
  | '\\' => some '\\'
  | '/' => some '/'
  | 'b' => some '\x08'
  | 'f' => some '\x0c'
  | 'n' => some '\n'
  | 'r' => some '\r'
  | 't' => some '\t'
  | _ => none

def isHighUnit (n : Nat) : Bool := 0xD800 ≤ n && n < 0xDC00

def isLowUnit (n : Nat) : Bool := 0xDC00 ≤ n && n < 0xE000

def joinUnits (high low : Nat) : Char := .ofNat (0x10000 + 0x400 * (high - 0xD800) + (low - 0xDC00))

/-- Reads up to and with the closing quote. Control characters have to be escaped; a character
beyond four digits is escaped as two units. -/
def readChars : List Char → Option (List Char × List Char)
  | [] => none
  | '"' :: s => some ([], s)
  | '\\' :: 'u' :: a :: b :: c :: d :: '\\' :: 'u' :: e :: f :: g :: h :: s =>
    match Text.hexNumber? [a, b, c, d], Text.hexNumber? [e, f, g, h] with
    | some high, some low =>
      if isHighUnit high then
        if isLowUnit low then (readChars s).map fun (text, s) =>
          (joinUnits high low :: text, s) else none
      else if isLowUnit high then none
      else (readChars ('\\' :: 'u' :: e :: f :: g :: h :: s)).map fun (text, s) =>
        (.ofNat high :: text, s)
    | _, _ => none
  | '\\' :: 'u' :: a :: b :: c :: d :: s =>
    match Text.hexNumber? [a, b, c, d] with
    | some n =>
      if isHighUnit n || isLowUnit n then none else (readChars s).map fun (text, s) =>
        (.ofNat n :: text, s)
    | none => none
  | '\\' :: x :: s =>
    match unescape? x with
    | some c => (readChars s).map fun (text, s) => (c :: text, s)
    | none => none
  | c :: s => if c.toNat < 0x20 || c = '\\' then none else (readChars s).map fun (text, s) =>
    (c :: text, s)

def readString? (s : List Char) : Option (String × List Char) :=
  match s with
  | '"' :: s => (readChars s).map fun (text, s) => (.ofList text, s)
  | _ => none

def readNumber? (s : List Char) : Option (Int × List Char) :=
  let negative := s.head? = some '-'
  let s := if negative then s.tail else s
  let digits := s.takeWhile Char.isDigit
  let rest := s.dropWhile Char.isDigit
  if digits = [] || 1 < digits.length && digits.head? =
    some '0' || rest.head?.any (· ∈ ['.', 'e', 'E']) then none
  else (Text.number? digits).map fun n => (if negative then -n else n, rest)

def readPlain? (s : List Char) : Option (Json × List Char) :=
  match Text.rest? "null".toList s, Text.rest? "true".toList s, Text.rest? "false".toList s with
  | some s, _, _ => some (.null, s)
  | none, some s, _ => some (.bool true, s)
  | none, none, some s => some (.bool false, s)
  | none, none, none =>
    match readString? s with
    | some (text, s) => some (.string text, s)
    | none => (readNumber? s).map fun (n, s) => (.number n, s)

def readName? (s : List Char) : Option (String × List Char) := do
  let (name, s) ← readString? (skipBlanks s)
  let s ← Text.rest? [':'] (skipBlanks s)
  return (name, s)

mutual

def readValue : (fuel : Nat) → List Char → Option (Json × List Char)
  | 0, _ => none
  | fuel + 1, s =>
    match skipBlanks s with
    | '[' :: s =>
      match skipBlanks s with
      | ']' :: s => some (.array [], s)
      | s => (readItems fuel s).map fun (items, s) => (.array items, s)
    | '\x7b' :: s =>
      match skipBlanks s with
      | '\x7d' :: s => some (.object [], s)
      | s => (readMembers fuel s).map fun (members, s) => (.object members, s)
    | s => readPlain? s

def readItems : (fuel : Nat) → List Char → Option (List Json × List Char)
  | 0, _ => none
  | fuel + 1, s => do
    let (item, s) ← readValue fuel s
    match skipBlanks s with
    | ',' :: s =>
      let (items, s) ← readItems fuel s
      return (item :: items, s)
    | ']' :: s => return ([item], s)
    | _ => none

def readMembers : (fuel : Nat) → List Char → Option (List (String × Json) × List Char)
  | 0, _ => none
  | fuel + 1, s => do
    let (name, s) ← readName? s
    let (value, s) ← readValue fuel s
    match skipBlanks s with
    | ',' :: s =>
      let (members, s) ← readMembers fuel s
      return ((name, value) :: members, s)
    | '\x7d' :: s => return ([(name, value)], s)
    | _ => none

end

/-- The value that a text holds; none if there is not just one. -/
def ofText? (text : String) : Option Json := do
  let s := text.toList
  let (v, rest) ← readValue (s.length + 1) s
  if skipBlanks rest = [] then some v else none

end RuleLint.Json
