import RuleLint.Text.Basic
import RuleLint.Unicode.Domain
import RuleLint.Url.Punycode

namespace RuleLint.Url.Domain

open Unicode

/-- Puts what they become in place of characters; none if one is refused. -/
def prepare? (s : List Char) : Option (List Char) :=
  (s.mapM fun c =>
    match domainStatus c with
    | "V" => some [c]
    | "I" => some []
    | "M" => some (domainMapping c)
    | _ => none).map List.flatten

/-- Whether a joiner stands where it may: behind a vowel killer, or, if it keeps letters apart,
between letters that would join. -/
def joinerFits (before : List Char) (c : Char) (after : List Char) : Bool :=
  let skipTransparent (s : List Char) : Option Char := s.find? (joining · ≠ "T")
  if c = '\u200C' then
    before.head?.any isVirama ||
      (skipTransparent before).any (joining · ∈ ["L", "D"]) &&
        (skipTransparent after).any (joining · ∈ ["R", "D"])
  else if c = '\u200D' then before.head?.any isVirama
  else true

def joinersFit (before : List Char) : List Char → Bool
  | [] => true
  | c :: cs => joinerFits before c cs && joinersFit (c :: before) cs

def isValidLabel (label : List Char) : Bool :=
  label.all (domainStatus · = "V") && ! label.head?.any isMark && joinersFit [] label &&
    composed label = label

/-- The labels of a prepared name in full; none if one in ASCII form stands for nothing valid. -/
def readLabel? (label : List Char) : Option (List Char) :=
  match Text.rest? "xn--".toList label with
  | none => if label.all (·.toNat < 0x80) || isValidLabel label then some label else none
  | some s => do
    if label.any (0x80 ≤ ·.toNat) then none
    let full ← Punycode.decode? s
    if full.any (0x80 ≤ ·.toNat) && isValidLabel full then some full else none

def isRightToLeft (labels : List (List Char)) : Bool :=
  labels.any fun label => label.any fun c => direction c ∈ ["R__", "AL_", "AN_"]

def directionsFit (label : List Char) : Bool :=
  let classes := label.map direction
  let shared := ["EN_", "ES_", "CS_", "ET_", "ON_", "BN_", "NSM"]
  let last := (classes.reverse.find? (· ≠ "NSM")).getD ""
  match classes with
  | [] => true
  | first :: _ =>
    if first = "L__" then classes.all (· ∈ "L__" :: shared) && last ∈ ["L__", "EN_"]
    else if first ∈ ["R__", "AL_"] then
      classes.all (· ∈ ["R__", "AL_", "AN_"] ++ shared) && last ∈ ["R__", "AL_", "EN_", "AN_"] &&
        ! ("EN_" ∈ classes && "AN_" ∈ classes)
    else false

def isForbidden (c : Char) : Bool :=
  c.toNat ≤ 0x20 || c = '\x7f' || c ∈ "%#/:<>?@[\\]^|".toList

def writeLabel (label : List Char) : List Char :=
  if label.all (·.toNat < 0x80) then label else "xn--".toList ++ Punycode.encode label

/-- A domain name in ASCII, or none if it is not one. Long and empty labels are no fault. -/
def toAscii? (s : List Char) : Option (List Char) := do
  let prepared ← prepare? s
  let labels ← (Text.fields '.' (composed prepared)).mapM readLabel?
  if isRightToLeft labels && ! labels.all directionsFit then none
  let ascii := ['.'].intercalate (labels.map writeLabel)
  if ascii.any isForbidden then none else some ascii

end RuleLint.Url.Domain
