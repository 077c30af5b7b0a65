import RuleLint.Pattern.CharSet

namespace RuleLint.Pattern

inductive Look where
  | start
  | stop
  | startLine (carriageReturn : Bool)
  | endLine (carriageReturn : Bool)
  | boundary (unicode : Bool)
  | notBoundary (unicode : Bool)
  | boundaryStart (unicode : Bool)
  | boundaryEnd (unicode : Bool)
  | boundaryStartHalf (unicode : Bool)
  | boundaryEndHalf (unicode : Bool)
deriving DecidableEq, Repr

inductive Matcher where
  | empty
  | chars (set : CharSet)
  | look (l : Look)
  | repetition (least : Nat) (most : Option Nat) (m : Matcher)
  | concat (ms : List Matcher)
  | choice (ms : List Matcher)
deriving Repr

def isWordChar (unicode : Bool) (c : Option Char) : Bool :=
  c.any (if unicode then CharSet.shorthand .word else CharSet.asciiShorthand .word).contains

def Look.holds (before after : Option Char) : Look → Bool
  | .start => before = none
  | .stop => after = none
  | .startLine false => before = none || before = some '\n'
  | .startLine true =>
    before = none || before = some '\n' || before = some '\r' && after ≠ some '\n'
  | .endLine false => after = none || after = some '\n'
  | .endLine true => after = none || after = some '\r' || after = some '\n' && before ≠ some '\r'
  | .boundary u => isWordChar u before != isWordChar u after
  | .notBoundary u => isWordChar u before == isWordChar u after
  | .boundaryStart u => ! isWordChar u before && isWordChar u after
  | .boundaryEnd u => isWordChar u before && ! isWordChar u after
  | .boundaryStartHalf u => ! isWordChar u before
  | .boundaryEndHalf u => ! isWordChar u after

/-- A set of places in a text: one truth value for the place before each character and one for the
end. -/
abbrev Places := List Bool

namespace Places

def afterChar (set : CharSet) (text : List Char) (places : Places) : Places :=
  false :: List.zipWith (fun here c => here && set.contains c) places text

def filterLook (l : Look) : (before : Option Char) → List Char → Places → Places
  | _, _, [] => []
  | before, [], here :: _ => [here && l.holds before none]
  | before, c :: text, here :: places =>
    (here && l.holds before (some c)) :: filterLook l (some c) text places

def union (a b : Places) : Places := List.zipWith (· || ·) a b

def isEmpty (a : Places) : Bool := ! a.any id

/-- Applies `step` a number of times, or until nothing changes. -/
def iterate (step : Places → Places) : (times : Nat) → Places → Places
  | 0, places => places
  | times + 1, places =>
    let next := step places
    if next = places then places else iterate step times next

def closure (step : Places → Places) : (times : Nat) → Places → Places
  | 0, places => places
  | times + 1, places =>
    let next := union places (step places)
    if next = places then places else closure step times next

end Places

mutual

/-- The places where a match may end that starts at one of the given places. -/
def Matcher.ends (text : List Char) (places : Places) : Matcher → Places
  | .empty => places
  | .chars set => places.afterChar set text
  | .look l => places.filterLook l none text
  | .concat ms => concatEnds text places ms
  | .choice ms => choiceEnds text places ms
  | .repetition least most m =>
    let step := fun places => m.ends text places
    Places.closure step ((most.map (· - least)).getD (text.length + 1))
      (Places.iterate step least places)

def concatEnds (text : List Char) (places : Places) : List Matcher → Places
  | [] => places
  | m :: ms => concatEnds text (m.ends text places) ms

def choiceEnds (text : List Char) (places : Places) : List Matcher → Places
  | [] => places.map fun _ => false
  | m :: ms => (m.ends text places).union (choiceEnds text places ms)

end

def Matcher.matchesIn (m : Matcher) (text : List Char) : Bool :=
  ! (m.ends text (List.replicate (text.length + 1) true)).isEmpty

end RuleLint.Pattern
