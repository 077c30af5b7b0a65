import RuleLint.Text.Digits
import RuleLint.Yaml.Fault
import RuleLint.Yaml.Token.Folding

namespace RuleLint.Yaml.Quoted

def escaped? : Char → Option Char
  | '0' => some '\x00'
  | 'a' => some '\x07'
  | 'b' => some '\x08'
  | 't' | '\t' => some '\t'
  | 'n' => some '\n'
  | 'v' => some '\x0b'
  | 'f' => some '\x0c'
  | 'r' => some '\r'
  | 'e' => some '\x1b'
  | ' ' => some ' '
  | '"' => some '"'
  | '/' => some '/'
  | '\\' => some '\\'
  | 'N' => some '\u0085'
  | '_' => some '\u00a0'
  | 'L' => some '\u2028'
  | 'P' => some '\u2029'
  | _ => none

def hexLength? : Char → Option Nat
  | 'x' => some 2
  | 'u' => some 4
  | 'U' => some 8
  | _ => none

def codePoint (count : Nat) (digits : List Char) : Except Problem Char :=
  match Text.hexNumber? (digits.take count) with
  | some n =>
    if digits.length < count then .error .noHexDigit
    else if h : n.isValidChar then .ok (.ofNatAux n h)
    else .error .badCodePoint
  | none => .error .noHexDigit

/-- What a backslash and so many characters behind it stand for: a character, or no break of the
line. -/
inductive Escape where
  | char (c : Char) (length : Nat)
  | lineBreak (length : Nat)

/-- Reads what is behind a backslash. A problem comes with its distance from the backslash. -/
def Escape.ofText : List Char → Except (Problem × Nat) Escape
  | [] => .error (.unknownEscape, 0)
  | '\r' :: '\n' :: _ => .ok (.lineBreak 2)
  | e :: cs =>
    if isBreak e then .ok (.lineBreak 1)
    else
      match escaped? e, hexLength? e with
      | some c, _ => .ok (.char c 1)
      | none, some count =>
        match codePoint count cs with
        | .ok c => .ok (.char c (1 + count))
        | .error problem => .error (problem, 2)
      | none, none => .error (.unknownEscape, 0)

structure State where
  text : List Char := []
  gap : Gap := {}
  /-- Whether the gap starts with an escaped line break. -/
  joined : Bool := false

def State.add (s : State) (c : Char) : State :=
  { text := c :: (s.gap.text s.joined).reverse ++ s.text }

/-- Behind an escaped line break: the gap before it stays, what is behind it is not folded. -/
def State.joinLines (s : State) : State :=
  { text := (s.gap.text s.joined).reverse ++ s.text, gap := .afterBreak, joined := true }

def State.finish (s : State) : String := .ofList (s.text.reverse ++ s.gap.text s.joined)

def read (quote : Char) (start : Mark) (s : State) (c : Cursor) : Except Fault (String × Cursor) :=
  if c.isDocumentSign then .error (.malformed .documentSign c.mark (some (.quotedScalar, start)))
  else
    match _h : c.rest with
    | [] => .error (.malformed .endOfStream c.mark (some (.quotedScalar, start)))
    | '\r' :: '\n' :: cs =>
      read quote start { s with gap := s.gap.addBreak '\n' } ⟨cs, c.mark.down 2⟩
    | x :: cs =>
      if isBreak x then read quote start { s with gap := s.gap.addBreak x } ⟨cs, c.mark.down⟩
      else if isSpaceOrTab x then
        read quote start { s with gap := s.gap.addSpace x } ⟨cs, c.mark.right⟩
      else if x = quote then
        if quote = '\'' ∧ cs.head? = some '\'' then
          read quote start (s.add '\'') ⟨cs.tail, c.mark.right 2⟩
        else .ok (s.finish, c.skip)
      else if x = '\\' ∧ quote = '"' then
        match Escape.ofText cs with
        | .ok (.char y length) =>
          read quote start (s.add y) ⟨cs.drop length, c.mark.right (1 + length)⟩
        | .ok (.lineBreak length) =>
          read quote start s.joinLines ⟨cs.drop length, c.mark.right.down length⟩
        | .error (problem, ahead) =>
          .error (.malformed problem (c.mark.right ahead) (some (.quotedEscape, start)))
      else read quote start (s.add x) ⟨cs, c.mark.right⟩
termination_by c.rest.length
decreasing_by all_goals
  (simp only [_h, List.length_cons, List.length_drop, List.length_tail]; omega)

end RuleLint.Yaml.Quoted
