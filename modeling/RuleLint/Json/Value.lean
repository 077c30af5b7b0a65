import RuleLint.Text.Digits

namespace RuleLint

inductive Json where
  | null
  | bool (b : Bool)
  | number (n : Int)
  | string (s : String)
  | array (items : List Json)
  | object (members : List (String × Json))
deriving Repr, Inhabited

namespace Json

/-- Quotes, backslashes and control characters are escaped, five controls by a letter of their
own. -/
def escape (c : Char) : List Char :=
  match c with
  | '"' => ['\\', '"']
  | '\\' => ['\\', '\\']
  | '\x08' => ['\\', 'b']
  | '\x0c' => ['\\', 'f']
  | '\n' => ['\\', 'n']
  | '\r' => ['\\', 'r']
  | '\t' => ['\\', 't']
  | c =>
    if c.toNat < 0x20 then
      ['\\', 'u', '0', '0', Text.lowerHexDigit (c.toNat / 16), Text.lowerHexDigit (c.toNat % 16)]
    else [c]

def quote (s : String) : String := .ofList ('"' :: s.toList.flatMap escape ++ ['"'])

def newline (depth : Nat) : String := "\n" ++ .ofList (List.replicate (2 * depth) ' ')

mutual

/-- The text of a value that starts at the given depth: each item and member on a line of its own,
empty arrays and objects closed at once. -/
def pretty (depth : Nat) : Json → String
  | .null => "null"
  | .bool b => if b then "true" else "false"
  | .number n => toString n
  | .string s => quote s
  | .array [] => "[]"
  | .array (x :: xs) => "[" ++ newline (depth + 1) ++ pretty (depth + 1) x ++ prettyItems depth xs
  | .object [] => "\x7b\x7d"
  | .object ((k, v) :: ms) =>
    "\x7b" ++ newline (depth + 1) ++ quote k ++ ": " ++ pretty (depth + 1) v ++
      prettyMembers depth ms

def prettyItems (depth : Nat) : List Json → String
  | [] => newline depth ++ "]"
  | x :: xs => "," ++ newline (depth + 1) ++ pretty (depth + 1) x ++ prettyItems depth xs

def prettyMembers (depth : Nat) : List (String × Json) → String
  | [] => newline depth ++ "\x7d"
  | (k, v) :: ms =>
    "," ++ newline (depth + 1) ++ quote k ++ ": " ++ pretty (depth + 1) v ++ prettyMembers depth ms

end

end Json

end RuleLint
