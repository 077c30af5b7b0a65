import RuleLint.Unicode.Category
import RuleLint.Unicode.PropertyTables

namespace RuleLint.Text

/-- Characters that leave a mark of their own: no controls, no separators but the space, nothing
unassigned. -/
def isPrintable (c : Char) : Bool :=
  c = ' ' || Unicode.category c ∉ ["Cc", "Cf", "Cs", "Co", "Cn", "Zl", "Zp", "Zs"]

def escapeVisibly (marks : List Char) (c : Char) : List Char :=
  match c with
  | '\x00' => ['\\', '0']
  | '\t' => ['\\', 't']
  | '\r' => ['\\', 'r']
  | '\n' => ['\\', 'n']
  | '\\' => ['\\', '\\']
  | c =>
    if c ∈ marks then ['\\', c]
    else if isPrintable c && ! Unicode.inRanges Unicode.graphemeExtend c.toNat then [c]
    else ['\\', 'u', '\x7b'] ++ Nat.toDigits 16 c.toNat ++ ['\x7d']

def quoted (s : String) : String := .ofList ('"' :: s.toList.flatMap (escapeVisibly ['"']) ++ ['"'])

/-- A path in double quotes, where single quotes are escaped too. -/
def quotedPath (s : String) : String :=
  .ofList ('"' :: s.toList.flatMap (escapeVisibly ['"', '\u0027']) ++ ['"'])

end RuleLint.Text
