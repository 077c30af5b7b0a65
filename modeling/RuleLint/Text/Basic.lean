import Std.Data.ExtTreeMap
import Std.Data.ExtTreeSet

namespace RuleLint.Text

/-- The lines of a text. A line feed ends a line and takes one carriage return before it along;
what follows the last line feed is a line of its own unless it is empty. -/
def lines : List Char → List (List Char)
  | [] => []
  | '\n' :: cs => [] :: lines cs
  | '\r' :: '\n' :: cs => [] :: lines cs
  | c :: cs =>
    match lines cs with
    | [] => [[c]]
    | l :: ls => (c :: l) :: ls

/-- The fields between separators; there is one more of them than there are separators. -/
def fields (sep : Char) : List Char → List (List Char)
  | [] => [[]]
  | c :: cs =>
    if c = sep then [] :: fields sep cs
    else
      match fields sep cs with
      | [] => [[c]]
      | f :: fs => (c :: f) :: fs

def cut? (sep : Char) : List Char → Option (List Char × List Char)
  | [] => none
  | c :: cs => if c = sep then some ([], cs) else (cut? sep cs).map fun (l, r) => (c :: l, r)

def rest? : (word s : List Char) → Option (List Char)
  | [], s => some s
  | _ :: _, [] => none
  | w :: ws, c :: cs => if w = c then rest? ws cs else none

def mentions (word : List Char) : List Char → Bool
  | [] => word.isEmpty
  | c :: cs => (rest? word (c :: cs)).isSome || mentions word cs

theorem rest?_eq_some_iff {word s t : List Char} : rest? word s = some t ↔ s = word ++ t := by
  induction word generalizing s with
  | nil => simp [rest?]
  | cons w ws ih =>
    cases s with
    | nil => simp [rest?]
    | cons c cs => by_cases h : w = c <;> simp [rest?, h, ih, eq_comm]

structure Line where
  number : Nat
  text : List Char
deriving DecidableEq, Repr

def numberedLines (content : String) : List Line :=
  ((lines content.toList).zipIdx 1).map fun (text, number) => ⟨number, text⟩

theorem map_text_numberedLines (content : String) :
    (numberedLines content).map Line.text = lines content.toList := by
  unfold numberedLines
  rw [List.map_map]
  exact List.zipIdx_map_fst 1 _

/-- White_Space: the five ASCII controls from tab to carriage return, the spaces, the two line
separators. -/
def isBlank (c : Char) : Bool :=
  let n := c.toNat
  (0x09 ≤ n && n ≤ 0x0D) || n == 0x20 || n == 0x85 || n == 0xA0 || n == 0x1680 ||
    (0x2000 ≤ n && n ≤ 0x200A) || n == 0x2028 || n == 0x2029 || n == 0x202F ||
      n == 0x205F || n == 0x3000

def trimStart (s : List Char) : List Char := s.dropWhile isBlank

def trimEnd (s : List Char) : List Char := (s.reverse.dropWhile isBlank).reverse

def trim (s : List Char) : List Char := trimEnd (trimStart s)

/-- Whether the last character is blank; an empty text has none. -/
def endsBlank (s : List Char) : Bool := s.getLast?.any isBlank

/-- Lower case as far as ASCII words can tell: an ASCII capital, or the Kelvin sign, which is a
`k`. -/
def lowerLetter (c : Char) : Char := if c = '\u212A' then 'k' else c.toLower

/-- Whether a text is the lower-case ASCII `word` in some mixture of cases. -/
def spells (word text : String) : Bool := text.toList.map lowerLetter = word.toList

end RuleLint.Text

namespace RuleLint

abbrev LineIndex := Std.ExtTreeMap String (List Nat)

namespace LineIndex

def ofList (places : List (String × Nat)) : LineIndex :=
  places.foldr
    (fun (text, line) index => index.alter text fun lines => some (line :: lines.getD [])) ∅

def linesOf (index : LineIndex) (text : String) : List Nat := index.getD text []

/-- The texts on more than one line, sorted, with their lines. -/
def repeated (index : LineIndex) : List (String × List Nat) :=
  index.toList.filter fun (_, lines) => 2 ≤ lines.length

def showLines (lines : List Nat) : String := ", ".intercalate (lines.map toString)

end LineIndex

end RuleLint
