import RuleLint.Text.Basic
import RuleLint.Text.Digits

namespace RuleLint.Rule

open Text

/-- The digit runs of an address block as they are spelled. -/
structure AddressBlock where
  octets : List (List Char)
  length : List Char
deriving DecidableEq, Repr

namespace AddressBlock

def octets? : (n : Nat) → List Char → Option (List (List Char) × List Char)
  | 0, s => some ([], s)
  | n + 1, s => do
    let s ← rest? ['.'] s
    let (octet, s) ← digits? 3 s
    let (octets, s) ← octets? n s
    return (octet :: octets, s)

/-- Four octets of up to three digits, a slash, a length of up to two digits; then the end or a
comma and parameters on the same line. -/
def read? (s : List Char) : Option AddressBlock := do
  let (first, s) ← digits? 3 s
  let (others, s) ← octets? 3 s
  let s ← rest? ['/'] s
  let (length, s) ← digits? 2 s
  match s with
  | [] => return ⟨first :: others, length⟩
  | ',' :: parameters => if '\n' ∈ parameters then none else return ⟨first :: others, length⟩
  | _ => none

/-- Octets up to 255 and a length up to 32, all in ASCII digits. -/
def inRange (b : AddressBlock) : Bool :=
  b.octets.all (fun octet => (number? octet).any (· ≤ 255)) && (number? b.length).any (· ≤ 32)

end AddressBlock

def dropGroup? : List Char → Option (List Char)
  | '.' :: s => (digits? s.length s).map Prod.snd
  | _ => none

/-- Whether a rule ends in three groups of digits, a dot after each, as an address does that was cut
off. -/
def isTruncated (rule : List Char) : Bool :=
  (do dropGroup? (← dropGroup? (← dropGroup? rule.reverse))).isSome

end RuleLint.Rule
