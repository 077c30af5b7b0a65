namespace RuleLint

/-- The number `digits * 10 ^ exponent`. -/
structure Decimal where
  digits : Nat
  exponent : Int
deriving DecidableEq, Repr

namespace Decimal

def power (n : Nat) : Nat := Nat.pow 10 n

def digitsValue (s : List Char) : Nat := s.foldl (fun n c => 10 * n + (c.toNat - 0x30)) 0

def exponent? : List Char → Option Int
  | [] => some 0
  | c :: rest =>
    let (negative, digits) :=
      match rest with
      | '-' :: digits => (true, digits)
      | '+' :: digits => (false, digits)
      | digits => (false, digits)
    if (c = 'e' ∨ c = 'E') ∧ digits ≠ [] ∧ digits.all Char.isDigit then
      some (if negative then -digitsValue digits else digitsValue digits)
    else none

/-- Reads digits with a point among them, before them or behind them, or without one, and then an
exponent. -/
def ofText? (s : List Char) : Option Decimal :=
  let whole := s.takeWhile Char.isDigit
  let (fraction, rest) :=
    match s.drop whole.length with
    | '.' :: rest => (rest.takeWhile Char.isDigit, rest.dropWhile Char.isDigit)
    | rest => ([], rest)
  if whole = [] ∧ fraction = [] then none
  else (exponent? rest).map fun e => ⟨digitsValue (whole ++ fraction), e - fraction.length⟩

def positionalDigits (d : Decimal) : List Char × Int :=
  let digits := (toString d.digits).toList
  let zeros := (digits.reverse.takeWhile (· = '0')).length
  (digits.take (digits.length - zeros), d.exponent + zeros)

def positional (d : Decimal) : String :=
  if d.digits = 0 then "0.0"
  else
    let (digits, exponent) := d.positionalDigits
    match exponent with
    | .ofNat zeros => .ofList (digits ++ List.replicate zeros '0') ++ ".0"
    | .negSucc n =>
      let places := n + 1
      if places < digits.length then
        .ofList
          (digits.take (digits.length - places) ++ '.' :: digits.drop (digits.length - places))
      else .ofList ('0' :: '.' :: List.replicate (places - digits.length) '0' ++ digits)

end Decimal

end RuleLint
