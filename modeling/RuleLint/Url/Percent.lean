import RuleLint.Text.Digits

namespace RuleLint.Url

open Text

def escapeByte (b : UInt8) : List Char :=
  ['%', upperHexDigit (b.toNat / 16), upperHexDigit (b.toNat % 16)]

/-- A character as it is, or its bytes escaped if it is a control, beyond ASCII or one of
`escaped`. -/
def percentEncode (escaped : List Char) (c : Char) : List Char :=
  if c.toNat < 0x20 || 0x7F ≤ c.toNat || c ∈ escaped then
    (String.utf8EncodeChar c).flatMap escapeByte else [c]

def fragmentEscapes : List Char := [' ', '"', '<', '>', '`']

def pathEscapes : List Char := fragmentEscapes ++ ['#', '?', '\x7b', '\x7d']

def userEscapes : List Char := pathEscapes ++ ['/', ':', ';', '=', '@', '[', '\\', ']', '^', '|']

def queryEscapes : List Char := [' ', '"', '#', '<', '>']

def escapedByte? : List Char → Option UInt8
  | '%' :: a :: b :: _ => (hexNumber? [a, b]).map UInt8.ofNat
  | _ => none

/-- The bytes of a text with its escapes undone; `skip` characters belong to an escape already
undone. -/
def percentBytes : (skip : Nat) → List Char → List UInt8
  | _, [] => []
  | skip + 1, _ :: cs => percentBytes skip cs
  | 0, c :: cs =>
    match escapedByte? (c :: cs) with
    | some b => b :: percentBytes 2 cs
    | none => String.utf8EncodeChar c ++ percentBytes 0 cs

/-- A text with its escapes undone, if that gives a text. -/
def percentDecode? (s : List Char) : Option (List Char) :=
  (String.fromUTF8? ⟨(percentBytes 0 s).toArray⟩).map String.toList

end RuleLint.Url
