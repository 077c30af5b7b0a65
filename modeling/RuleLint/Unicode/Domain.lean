import RuleLint.Unicode.CaseFolding
import RuleLint.Unicode.Category
import RuleLint.Unicode.CompositionTables
import RuleLint.Unicode.DirectionTables
import RuleLint.Unicode.DomainTables

namespace RuleLint.Unicode

def domainStatuses : Array Run := (readRuns 1 domainStatusRuns).toArray

/-- V for valid, I for ignored, M for mapped, X for refused. -/
def domainStatus (c : Char) : String := (lookUp domainStatuses c.toNat).getD "X"

def domainShifts : List FoldingRow := (words domainShiftTable).map readFoldingRow

def readNumbers (word : List Char) : List Nat := (word.splitOn ',').map number36

def domainExpansions : List (List Nat) := (words domainExpansionTable).map readNumbers

def domainMapping (c : Char) : List Char :=
  match domainShifts.find? (·.covers c.toNat) with
  | some row => [.ofNat ((c.toNat : Int) + row.distance).toNat]
  | none =>
    match domainExpansions.find? fun entry => entry.head? = some c.toNat with
    | some entry => entry.tail.map Char.ofNat
    | none => [c]

def compositions : List (List Nat) := (words compositionTable).map readNumbers

def combiningStretches : List (List Nat) := (words combiningTable).map readNumbers

def combiningClass (c : Char) : Nat :=
  match combiningStretches.find? fun entry =>
      match entry with
      | [first, count, _] => first ≤ c.toNat && c.toNat < first + count
      | _ => false with
  | some [_, _, value] => value
  | _ => 0

/-- The one character that stands for two, in Hangul by computation and else by the table. -/
def compose? (a b : Char) : Option Char :=
  let x := a.toNat
  let y := b.toNat
  if 0x1100 ≤ x && x ≤ 0x1112 && 0x1161 ≤ y && y ≤ 0x1175 then
    some (.ofNat (0xAC00 + ((x - 0x1100) * 21 + (y - 0x1161)) * 28))
  else if 0xAC00 ≤ x && x ≤ 0xD7A3 && (x - 0xAC00) % 28 = 0 && 0x11A8 ≤ y && y ≤ 0x11C2 then
    some (.ofNat (x + (y - 0x11A7)))
  else
    match compositions.find? fun entry => entry.take 2 = [x, y] with
    | some [_, _, z] => some (.ofNat z)
    | _ => none

def decompose? (c : Char) : Option (Char × Char) :=
  match compositions.find? fun entry => entry.getLast? = some c.toNat with
  | some [a, b, _] => some (.ofNat a, .ofNat b)
  | _ => none

def decompose : (depth : Nat) → Char → List Char
  | 0, c => [c]
  | depth + 1, c =>
    match decompose? c with
    | some (a, b) => decompose depth a ++ [b]
    | none => [c]

/-- Puts a mark before the marks of a higher class that end the reversed text. -/
def insertMark (c : Char) : List Char → List Char
  | [] => [c]
  | d :: ds =>
    if combiningClass c ≠ 0 && combiningClass c < combiningClass d then d :: insertMark c ds
      else c :: d :: ds

def canonicalOrder (s : List Char) : List Char :=
  ((s.flatMap (decompose 4)).foldl (fun reversed c => insertMark c reversed) []).reverse

/-- Puts the characters behind a starter together with it, where nothing blocks them: `marks` are
those that stay on their own, the last first. -/
def composeFrom (starter : Char) (marks : List Char) : List Char → List Char
  | [] => starter :: marks.reverse
  | c :: cs =>
    let blocked :=
      match marks with
      | [] => false
      | m :: _ => combiningClass c ≤ combiningClass m
    match if blocked then none else compose? starter c with
    | some d => composeFrom d marks cs
    | none =>
      if combiningClass c = 0 then starter :: marks.reverse ++ composeFrom c [] cs
      else composeFrom starter (c :: marks) cs

def composed (s : List Char) : List Char :=
  let ordered := canonicalOrder s
  let isMark (c : Char) : Bool := combiningClass c ≠ 0
  ordered.takeWhile isMark ++
    match ordered.dropWhile isMark with
    | [] => []
    | c :: cs => composeFrom c [] cs

def directions : Array Run := (readRuns 3 directionRuns).toArray

def direction (c : Char) : String := (lookUp directions c.toNat).getD "L__"

def joinings : Array Run := (readRuns 1 joiningRuns).toArray

def joining (c : Char) : String := (lookUp joinings c.toNat).getD "U"

/-- Vowel killers, behind which joiners make sense. -/
def isVirama (c : Char) : Bool := combiningClass c = 9

def isMark (c : Char) : Bool := category c ∈ ["Mn", "Mc", "Me"]

end RuleLint.Unicode
