import RuleLint.Decimal.Basic

namespace RuleLint

/-- The number `mantissa * 2 ^ exponent`. The mantissa has 53 bits, or less with the least
exponent. -/
structure Double where
  mantissa : Nat
  exponent : Int
deriving DecidableEq, Repr

namespace Double

def leastExponent : Int := -1074

def greatestExponent : Int := 971

def scale (num den : Nat) : (power : Int) → Nat × Nat
  | .ofNat n => (num <<< n, den)
  | .negSucc n => (num, den <<< (n + 1))

/-- A quotient rounded to the nearest whole number, a half to the even one. -/
def roundDiv (num den : Nat) : Nat :=
  let q := num / den
  let r := num % den
  if den < 2 * r ∨ den = 2 * r ∧ q % 2 = 1 then q + 1 else q

def ofFraction? (num den : Nat) : Option Double :=
  let guess := max leastExponent ((num.log2 : Int) - den.log2 - 52)
  let (n, d) := scale num den (-guess)
  let exponent := if n / d < 1 <<< 52 ∧ leastExponent < guess then guess - 1 else guess
  let (n, d) := scale num den (-exponent)
  let m := roundDiv n d
  let x : Double := if m = 1 <<< 53 then ⟨1 <<< 52, exponent + 1⟩ else ⟨m, exponent⟩
  if greatestExponent < x.exponent then none else some x

def ofDecimal? (d : Decimal) : Option Double :=
  let magnitude := (toString d.digits).length + d.exponent
  if d.digits = 0 ∨ magnitude ≤ -324 then some ⟨0, leastExponent⟩
  else if 310 ≤ magnitude then none
  else
    match d.exponent with
    | .ofNat n => ofFraction? (d.digits * Decimal.power n) 1
    | .negSucc n => ofFraction? d.digits (Decimal.power (n + 1))

def magnitude (num den : Nat) : Int :=
  if den ≤ num then (toString (num / den)).length - 1
  else -(((List.range 400).find? fun i => den ≤ num * Decimal.power i).getD 0 : Nat)

/-- The decimal fractions with `count` digits beside a number, if the number is the nearest one to
them; of two the nearer, and of two as near the greater. -/
def withDigits? (x : Double) (count : Nat) : Option Decimal :=
  let (num, den) := scale (4 * x.mantissa) 1 (x.exponent - 2)
  let (unit, _) := scale 1 1 (x.exponent - 2)
  let low := num - (if x.mantissa = 1 <<< 52 ∧ leastExponent < x.exponent then 1 else 2) * unit
  let high := num + 2 * unit
  let power := magnitude num den - count + 1
  let (up, down) :=
    match power with
    | .ofNat n => (Decimal.power n, 1)
    | .negSucc n => (1, Decimal.power (n + 1))
  let below := num * down / (den * up)
  let place (digits : Nat) := digits * up * den
  let closed := x.mantissa % 2 = 0
  let fitsBelow := low * down < place below ∨ closed ∧ low * down = place below
  let fitsAbove := place (below + 1) < high * down ∨ closed ∧ place (below + 1) = high * down
  if fitsAbove ∧ (¬ fitsBelow ∨ place below + place (below + 1) ≤ 2 * num * down) then
    some ⟨below + 1, power⟩
  else if fitsBelow then some ⟨below, power⟩
  else none

/-- The decimal fraction with the fewest digits that this is the nearest number to. -/
def shortest (x : Double) : Decimal :=
  if x.mantissa = 0 then ⟨0, 0⟩
    else ((List.range 17).findSome? fun n => x.withDigits? (n + 1)).getD ⟨0, 0⟩

def render (x : Double) : String := x.shortest.positional

end Double

end RuleLint
