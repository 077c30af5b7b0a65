import RuleLint.Yaml.Fault
import RuleLint.Yaml.Token.Folding

namespace RuleLint.Yaml.Plain

structure Surroundings where
  inFlow : Bool
  /-- The column that its further lines have to reach outside of those. -/
  indent : Nat
  start : Mark

def flowSigns : List Char := [',', '[', ']', '{', '}']

/-- Whether a colon here is pressed against a sign of the flow style, which is not allowed. -/
def isPressedColon (c : Cursor) : Bool :=
  c.sees ':' && (c.rest[1]?).any fun x => x = '?' || x ∈ flowSigns

/-- Whether the scalar ends before the next line: it is not indented enough, starts with a comment
or is the sign of another document. `inGap` tells whether there is a space or break before. -/
def endsInGap (around : Surroundings) (inGap : Bool) (c : Cursor) : Bool :=
  inGap && (! around.inFlow && c.mark.column < around.indent || c.sees '#') || c.isDocumentSign

def endsAtSign (around : Surroundings) (c : Cursor) : Bool :=
  c.sees ':' && c.isGap 1 || around.inFlow && c.rest.head?.any (· ∈ flowSigns)

/-- Reads on behind `text`, which is there from the end, and a gap. The answer is the text, what is
behind the gap at its end, and whether that is on another line. -/
def read (around : Surroundings) (text : List Char) (gap : Gap) (inGap : Bool) (c : Cursor) :
    Except Fault (String × Cursor × Bool) :=
  let done : Except Fault (String × Cursor × Bool) := .ok (.ofList text.reverse, c, gap.broken)
  match _h : c.rest with
  | [] => done
  | '\r' :: '\n' :: cs => read around text (gap.addBreak '\n') true ⟨cs, c.mark.down 2⟩
  | x :: cs =>
    if isBreak x then read around text (gap.addBreak x) true ⟨cs, c.mark.down⟩
    else if isSpaceOrTab x then
      if x = '\t' ∧ gap.broken ∧ c.mark.column < around.indent then
        .error (.malformed .tabBreaksIndent c.mark (some (.plainScalar, around.start)))
      else read around text (gap.addSpace x) true ⟨cs, c.mark.right⟩
    else if endsInGap around inGap c then done
    else if around.inFlow ∧ isPressedColon c then
      .error (.malformed .colonInFlow c.mark (some (.plainScalar, around.start)))
    else if endsAtSign around c then done
    else read around (x :: (gap.text.reverse ++ text)) {} false ⟨cs, c.mark.right⟩
termination_by c.rest.length
decreasing_by all_goals (simp only [_h, List.length_cons]; omega)

end RuleLint.Yaml.Plain
