import RuleLint.Pattern.Meaning

namespace RuleLint

structure Pattern where
  text : String
  matcher : Pattern.Matcher

namespace Pattern

/-- The estimated bytes of a step on one byte of text. -/
def stepSize : Nat := 32

/-- A set within ASCII takes a step; one beyond it takes steps for every byte of every run of
characters. -/
def CharSet.size : CharSet → Nat
  | .ranges rs =>
    if rs.all fun (_, last) => last < 0x80 then stepSize + 8 * rs.length
    else if rs.length = 1 then 3 * stepSize
    else 60 * rs.length
  | .category _ => 45000
  | .script _ => 4500
  | .union a b => a.size + b.size
  | .inter a b => a.size + b.size
  | .compl a => a.size + 20 * stepSize
  | .folded a => 2 * a.size
  | .foldedAscii a => a.size

mutual

def Matcher.isVoid : Matcher → Bool
  | .empty | .look _ => true
  | .chars _ => false
  | .repetition _ most m => most = some 0 || m.isVoid
  | .concat ms | .choice ms => areVoid ms

def areVoid : List Matcher → Bool
  | [] => true
  | m :: ms => m.isVoid && areVoid ms

end

mutual

/-- An estimate of the bytes that a pattern takes when all its repetitions are written out; what
uses up no text is written out once. The regular expression library measures the program that it
compiles, so that a pattern near the limit may be accepted here and refused there, or the other way
about. -/
def Matcher.size : Matcher → Nat
  | .empty => stepSize
  | .chars set => set.size
  | .look _ => stepSize
  | .repetition least most m =>
    let most := if m.isVoid then some 1 else most
    let least := if m.isVoid then min 1 least else least
    match most with
    | some most => least * m.size + (most - least) * (m.size + 2 * stepSize)
    | none => max 1 least * m.size + 2 * stepSize
  | .concat ms => sizeOfAll ms
  | .choice ms => stepSize + sizeOfAll ms

def sizeOfAll : List Matcher → Nat
  | [] => 0
  | m :: ms => m.size + sizeOfAll ms

end

/-- The most that a pattern may take. The limit keeps nested counts from growing without bound. -/
def sizeLimit : Nat := 10 <<< 20

inductive CompileError where
  | fault (f : Fault)
  | tooBig
deriving Repr

def CompileError.message (pattern : String) : CompileError → String
  | .fault f => f.render pattern.toList
  | .tooBig => "Compiled regex exceeds size limit of " ++ toString sizeLimit ++ " bytes."

def compile (text : String) : Except CompileError Pattern :=
  match meaning text.toList with
  | .error f => .error (.fault f)
  | .ok m => if sizeLimit < m.size then .error .tooBig else .ok ⟨text, m⟩

def isMatch (p : Pattern) (text : String) : Bool := p.matcher.matchesIn text.toList

end Pattern

end RuleLint
