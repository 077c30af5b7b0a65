import RuleLint.Url.Domain
import RuleLint.Url.Percent

namespace RuleLint.Url

inductive UrlError where
  | relative
  | emptyHost
  | badDomain
  | badIpv4
  | badIpv6
  | badHostCharacter
  | badPort
deriving DecidableEq, Repr

def UrlError.message : UrlError → String
  | .relative => "relative URL without a base"
  | .emptyHost => "empty host"
  | .badDomain => "invalid international domain name"
  | .badIpv4 => "invalid IPv4 address"
  | .badIpv6 => "invalid IPv6 address"
  | .badHostCharacter => "invalid domain character"
  | .badPort => "invalid port number"

inductive Host where
  | domain (name : List Char)
  | ipv4 (address : Nat)
  | ipv6 (pieces : List Nat)
deriving DecidableEq, Repr

open Text

/-- A part of an address: base 16 behind `0x`, base 8 behind a zero, else base 10. -/
def ipv4Number? : List Char → Option Nat
  | [] => none
  | '0' :: 'x' :: s | '0' :: 'X' :: s => numberIn? 16 s
  | '0' :: s => numberIn? 8 s
  | s => numberIn? 10 s

/-- The parts of a name between dots, not counting an empty one behind a last dot. -/
def dotParts (name : List Char) : List (List Char) :=
  let parts := fields '.' name
  if 1 < parts.length && parts.getLast? = some [] then parts.dropLast else parts

/-- Whether a name has to be an address because its last part is a number. -/
def endsInNumber (name : List Char) : Bool :=
  (dotParts name).getLast?.any fun part =>
    part ≠ [] && part.all Char.isDigit || (ipv4Number? part).isSome

/-- Up to four numbers, of which the last fills the bytes that the others leave. -/
def readIpv4? (name : List Char) : Option Nat := do
  let numbers ← (dotParts name).mapM ipv4Number?
  let last ← numbers.getLast?
  let others := numbers.dropLast
  if 4 < numbers.length || others.any (255 < ·) || 1 <<< (8 * (4 - others.length)) ≤ last then none
  else some (others.zipIdx.foldl (fun sum (n, i) => sum + n <<< (8 * (3 - i))) last)

def showIpv4 (address : Nat) : List Char :=
  ".".toList.intercalate ([3, 2, 1, 0].map fun i => (toString (address >>> (8 * i) % 256)).toList)

def ipv6Piece? (s : List Char) : Option (List Nat) :=
  if s = [] || 4 < s.length then none else (numberIn? 16 s).map ([·])

def byteNumber? (s : List Char) : Option Nat :=
  if s = [] || 1 < s.length && s.head? = some '0' then none
  else (numberIn? 10 s).bind fun n => if n ≤ 255 then some n else none

def dottedPieces? (s : List Char) : Option (List Nat) :=
  match (fields '.' s).mapM byteNumber? with
  | some [a, b, c, d] => some [256 * a + b, 256 * c + d]
  | _ => none

/-- Pieces with colons between them. The last may be a dotted address if `dotted` says so. -/
def ipv6Pieces? (dotted : Bool) : List (List Char) → Option (List Nat)
  | [] => some []
  | [s] => (ipv6Piece? s).or (if dotted then dottedPieces? s else none)
  | s :: rest => do return (← ipv6Piece? s) ++ (← ipv6Pieces? dotted rest)

def cutDoubleColon? : List Char → Option (List Char × List Char)
  | ':' :: ':' :: cs => some ([], cs)
  | c :: cs => (cutDoubleColon? cs).map fun (l, r) => (c :: l, r)
  | [] => none

def ipv6Side? (dotted : Bool) (s : List Char) : Option (List Nat) :=
  if s = [] then some [] else ipv6Pieces? dotted (fields ':' s)

/-- Eight pieces, a double colon standing for as many zeros as are missing. -/
def readIpv6? (s : List Char) : Option (List Nat) := do
  match cutDoubleColon? s with
  | none =>
    let pieces ← ipv6Side? true s
    if pieces.length = 8 then some pieces else none
  | some (left, right) =>
    let front ← ipv6Side? false left
    let back ← ipv6Side? true right
    let given := front.length + back.length
    if 7 < given then none else some (front ++ List.replicate (8 - given) 0 ++ back)

def leadingZeros (pieces : List Nat) : Nat := (pieces.takeWhile (· = 0)).length

/-- The longest stretch of at least two zeros, the first of several: where it starts and how long it
is. -/
def zeroStretch? (pieces : List Nat) : Option (Nat × Nat) :=
  let lengths := (List.range pieces.length).map fun i => (i, leadingZeros (pieces.drop i))
  lengths.foldl (fun best (i, n) =>
    if n < 2 then best
    else
      match best with
      | some (_, m) => if m < n then some (i, n) else best
      | none => some (i, n)) none

def showPieces (pieces : List Nat) : List Char :=
  ":".toList.intercalate (pieces.map (Nat.toDigits 16))

def showIpv6 (pieces : List Nat) : List Char :=
  '[' :: (match zeroStretch? pieces with
    | none => showPieces pieces
    | some (i, n) =>
      showPieces (pieces.take i) ++ [':', ':'] ++ showPieces (pieces.drop (i + n))) ++ [']']

namespace Host

def render : Host → List Char
  | .domain name => name
  | .ipv4 address => showIpv4 address
  | .ipv6 pieces => showIpv6 pieces

def ofBrackets? (s : List Char) : Option (Except UrlError Host) :=
  match s with
  | '[' :: rest =>
    some (if rest.getLast? = some ']' then
      match readIpv6? rest.dropLast with
      | some pieces => .ok (.ipv6 pieces)
      | none => .error .badIpv6
    else .error .badIpv6)
  | _ => none

def ofNetworkText (s : List Char) : Except UrlError Host :=
  match ofBrackets? s with
  | some host => host
  | none =>
    match (percentDecode? s).bind Domain.toAscii? with
    | none => .error .badDomain
    | some [] => .error .emptyHost
    | some name =>
      if endsInNumber name then
        match readIpv4? name with
        | some address => .ok (.ipv4 address)
        | none => .error .badIpv4
      else .ok (.domain name)

def forbidden : List Char := "\x00\t\n\r #/:<>?@[\\]^|".toList

/-- The host of any other scheme, which is taken as it is. -/
def ofText (s : List Char) : Except UrlError Host :=
  match ofBrackets? s with
  | some host => host
  | none =>
    if s.any (· ∈ forbidden) then .error .badHostCharacter
    else .ok (.domain (s.flatMap (percentEncode [])))

end Host

end RuleLint.Url
