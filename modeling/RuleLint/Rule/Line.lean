import RuleLint.Diagnostic
import RuleLint.Text.Basic

namespace RuleLint.Rule

/-- The rule that a line holds. -/
def ofLine (line : List Char) : List Char := Text.trim (line.takeWhile (· ≠ '#'))

def normalize (line : String) : String := .ofList (ofLine line.toList)

structure Entry where
  line : Nat
  rule : String
deriving DecidableEq, Repr

/-- The rules of a file in order, with no entry for a line that has none. -/
def entries (content : String) : List Entry :=
  (Text.numberedLines content).filterMap fun l =>
    let rule := ofLine l.text
    if rule = [] then none else some ⟨l.number, .ofList rule⟩

structure Repeated where
  rule : String
  lines : List Nat
deriving DecidableEq, Repr

/-- The rules on at least two lines, by their first line. -/
def repeated (content : String) : List Repeated :=
  let rules := entries content
  let index := LineIndex.ofList (rules.map fun e => (e.rule, e.line))
  rules.filterMap fun e =>
    let lines := index.linesOf e.rule
    if lines.head? = some e.line ∧ 2 ≤ lines.length then some ⟨e.rule, lines⟩ else none

def Repeated.render (r : Repeated) : String :=
  "'" ++ r.rule ++ "' (lines " ++ LineIndex.showLines r.lines ++ ")"

def repeatedDiagnostic? (file content : String) : Option Diagnostic :=
  match repeated content with
  | [] => none
  | found =>
    some ((Diagnostic.error .duplicate
      (toString found.length ++ " duplicate rule(s) within file: " ++
        ", ".intercalate (found.map Repeated.render))).inFile file)

end RuleLint.Rule
