namespace RuleLint.Unicode

def digit36 (c : Char) : Nat :=
  if c.isDigit then c.toNat - 0x30 else if c.isLower then c.toNat - 0x57 else 0

def number36 (s : List Char) : Nat := s.foldl (fun n c => 36 * n + digit36 c) 0

/-- The entries of a table, which has blanks between them. Numbers in entries are in base 36. -/
def words (table : List String) : List (List Char) :=
  table.flatMap fun line => line.toList.splitOn ' '

structure Run where
  first : Nat
  last : Nat
  label : String
deriving Repr

def runsFrom (first : Nat) : List (String × Nat) → List Run
  | [] => []
  | (label, length) :: rest => ⟨first, first + length - 1, label⟩ :: runsFrom (first + length) rest

/-- The runs of a table whose entries are a label of `width` letters and a length. -/
def readRuns (width : Nat) (table : List String) : List Run :=
  runsFrom 0 ((words table).map fun w => (.ofList (w.take width), number36 (w.drop width)))

/-- The value that sorted runs give a code point, found by halving `[low, high)`. -/
def labelAt (runs : Array Run) (code : Nat) : (steps low high : Nat) → Option String
  | 0, _, _ => none
  | steps + 1, low, high =>
    let middle := (low + high) / 2
    match runs[middle]? with
    | none => none
    | some run =>
      if code < run.first then labelAt runs code steps low middle
      else if run.last < code then labelAt runs code steps (middle + 1) high
      else some run.label

def lookUp (runs : Array Run) (code : Nat) : Option String :=
  labelAt runs code (runs.size + 1) 0 runs.size

/-- Turns pairs of a gap and a length less one into ranges of code points. -/
def rangesFrom (next : Nat) : List (Nat × Nat) → List (Nat × Nat)
  | [] => []
  | (gap, more) :: rest =>
    (next + gap, next + gap + more) :: rangesFrom (next + gap + more + 1) rest

/-- A gap, then a plus sign and a length less one unless that is zero. -/
def readGap (word : List Char) : Nat × Nat :=
  (number36 (word.takeWhile (· ≠ '+')), number36 ((word.dropWhile (· ≠ '+')).drop 1))

def readRanges (table : List String) : List (Nat × Nat) := rangesFrom 0 ((words table).map readGap)

end RuleLint.Unicode
