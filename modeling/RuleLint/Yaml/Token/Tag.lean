import RuleLint.Text.Digits
import RuleLint.Yaml.Fault
import RuleLint.Yaml.Token

namespace RuleLint.Yaml

namespace Tag

def uriSigns : List Char :=
  [';', '/', '?', ':', '@', '&', '=', '+', '$', '.', '%', '!', '~', '*', '\'', '(', ')']

/-- Whether a character may stand in a tag; in full tags and directives three more signs may. -/
def isUriChar (full : Bool) (c : Char) : Bool :=
  isNameChar c || c ∈ uriSigns || full && c ∈ [',', '[', ']']

def octetCount? (n : Nat) : Option Nat :=
  if n < 0x80 then some 1
  else if 0xC0 ≤ n ∧ n < 0xE0 then some 2
  else if 0xE0 ≤ n ∧ n < 0xF0 then some 3
  else if 0xF0 ≤ n ∧ n < 0xF8 then some 4
  else none

def octet? : List Char → Option Nat
  | '%' :: a :: b :: _ => Text.hexNumber? [a, b]
  | _ => none

def readOctets (fail : Problem → Mark → Fault) (left : Nat) (c : Cursor) :
    Except Fault (List UInt8) :=
  match left with
  | 0 => .ok []
  | left + 1 =>
    match octet? c.rest with
    | none => .error (fail .noOctet c.mark)
    | some n =>
      if 0x80 ≤ n ∧ n < 0xC0 then (UInt8.ofNat n :: ·) <$> readOctets fail left (c.skip 3)
      else .error (fail .badTrailingOctet c.mark)

def readEncoded (fail : Problem → Mark → Fault) (c : Cursor) : Except Fault (List UInt8) :=
  match octet? c.rest with
  | none => .error (fail .noOctet c.mark)
  | some n =>
    match octetCount? n with
    | none => .error (fail .badLeadingOctet c.mark)
    | some count => (UInt8.ofNat n :: ·) <$> readOctets fail (count - 1) (c.skip 3)

/-- The characters that octets stand for; those that stand for none are replaced by U+FFFD. -/
def decode (octets : List UInt8) : List Char :=
  match String.fromUTF8? ⟨octets.toArray⟩ with
  | some s => s.toList
  | none => ['\uFFFD']

/-- Reads the characters of a tag, the last of those read being first. Problems are about what
started at `start`. -/
def readUri (full : Bool) (activity : Activity) (start : Mark) (read : List Char) (c : Cursor) :
    Except Fault (List Char × Cursor) :=
  match _h : c.rest with
  | [] => .ok (read.reverse, c)
  | x :: cs =>
    if ! isUriChar full x then .ok (read.reverse, c)
    else if x ≠ '%' then readUri full activity start (x :: read) ⟨cs, c.mark.right⟩
    else
      let fail := fun problem mark => Fault.malformed problem mark (some (activity, start))
      match readEncoded fail c with
      | .error f => .error f
      | .ok octets =>
        let width := 3 * octets.length
        readUri full activity start ((decode octets).reverse ++ read)
          ⟨cs.drop (width - 1), c.mark.right width⟩
termination_by c.rest.length
decreasing_by all_goals (simp only [_h, List.length_cons, List.length_drop]; omega)

/-- Reads the suffix of a tag, which must not be empty unless something of it has been read
before. -/
def readSuffix (full : Bool) (activity : Activity) (start : Mark) (before : Option (List Char))
    (c : Cursor) :
    Except Fault (String × Cursor) := do
  let (suffix, after) ← readUri full activity start (before.getD []).reverse c
  if before.isNone ∧ after.rest.length = c.rest.length then
    throw (.malformed .noTagUri after.mark (some (activity, start)))
  return (.ofList suffix, after)

/-- Reads an exclamation mark, a name, and another exclamation mark if there is one. -/
def readHandle (c : Cursor) : List Char × Cursor :=
  let (name, c) := c.skip.takeWhile isNameChar
  if c.sees '!' then ('!' :: name ++ ['!'], c.skip) else ('!' :: name, c)

/-- Whether what has been read is a handle, and not the start of a tag without one. -/
def isHandle (s : List Char) : Bool := 2 ≤ s.length && s.getLast? = some '!'

def readParts (c : Cursor) : Except Fault ((String × String) × Cursor) := do
  let start := c.mark
  if (c.skip).sees '<' then
    let (suffix, c) ← readSuffix true .tagUri start none (c.skip 2)
    if ! c.sees '>' then throw (.malformed .noAngle c.mark (some (.tag, start)))
    return (("", suffix), c.skip)
  else
    let (handle, c) := readHandle c
    if isHandle handle then
      let (suffix, c) ← readSuffix false .tagUri start none c
      return ((.ofList handle, suffix), c)
    else
      let (suffix, c) ← readSuffix false .tagUri start (some handle.tail) c
      return (if suffix = "" then ("", "!") else ("!", suffix), c)

/-- Reads a tag. A space or break has to follow, or a comma inside of brackets and braces. -/
def read (inFlow : Bool) (c : Cursor) : Except Fault (TokenKind × Cursor) := do
  let ((handle, suffix), after) ← readParts c
  if after.isGap || inFlow && after.sees ',' then return (.tag handle suffix, after)
  throw (.malformed .noSpaceOrBreak after.mark (some (.tag, c.mark)))

end Tag

/-- Reads an anchor or an alias: a sign and a name, behind which only some signs may follow at
once. -/
def readName (kind : String → TokenKind) (activity : Activity) (c : Cursor) :
    Except Fault (TokenKind × Cursor) :=
  let (name, after) := c.skip.takeWhile isNameChar
  if name ≠ [] ∧
    (after.isGap ∨ after.rest.head?.any (· ∈ ['?', ':', ',', ']', '}', '%', '@', '`'])) then
    .ok (kind (.ofList name), after)
  else .error (.malformed .noNameChar after.mark (some (activity, c.mark)))

namespace Directive

def maxDigits : Nat := 9

def readNumber (start : Mark) (c : Cursor) : Except Fault (Nat × Cursor) :=
  let (digits, after) := c.takeWhile Char.isDigit
  let fail (problem : Problem) (mark : Mark) : Except Fault (Nat × Cursor) :=
    .error (.malformed problem mark (some (.versionDirective, start)))
  if digits = [] then fail .noVersionNumber c.mark
  else if maxDigits < digits.length then fail .versionTooLong (c.mark.right maxDigits)
  else .ok (digits.foldl (fun n d => 10 * n + (d.toNat - 0x30)) 0, after)

def readVersion (start : Mark) (c : Cursor) : Except Fault (TokenKind × Cursor) := do
  let (major, c) ← readNumber start c.skipSpace
  if ! c.sees '.' then throw (.malformed .noVersionDot c.mark (some (.versionDirective, start)))
  let (minor, c) ← readNumber start c.skip
  return (.version major minor, c)

def readTagHandle (start : Mark) (c : Cursor) : Except Fault (TokenKind × Cursor) := do
  let c := c.skipSpace
  if ! c.sees '!' then throw (.malformed .noExclamation c.mark (some (.tagDirectiveHandle, start)))
  let (handle, c) := Tag.readHandle c
  if handle ≠ ['!'] ∧ ! Tag.isHandle handle then
    throw (.malformed .noExclamation c.mark (some (.tagDirectiveHandleEnd, start)))
  if c.rest.head?.all (! isSpaceOrTab ·) then
    throw (.malformed .noSpace c.mark (some (.tagDirective, start)))
  let (stem, c) ← Tag.readSuffix true .tagDirectiveUri start none c.skipSpace
  if ! c.isGap then throw (.malformed .noSpaceOrBreak c.mark (some (.tagDirective, start)))
  return (.tagHandle (.ofList handle) stem, c)

def read (c : Cursor) : Except Fault (TokenKind × Cursor) := do
  let start := c.mark
  let fail (problem : Problem) (c : Cursor) : Fault :=
    .malformed problem c.mark (some (.directive, start))
  let (name, c) := c.skip.takeWhile isNameChar
  if name = [] then throw (fail .noDirectiveName c)
  if ! c.isGap then throw (fail .directiveNameChar c)
  let (kind, c) ←
    if name = "YAML".toList then readVersion start c
    else if name = "TAG".toList then readTagHandle start c
    else throw (fail .unknownDirective c)
  let c := c.skipComment
  if ! c.isLineEnd then throw (fail .noCommentOrBreak c)
  return (kind, c.skipBreak)

end Directive

end RuleLint.Yaml
