namespace RuleLint.Url.Punycode

def digitChar (d : Nat) : Char := if d < 26 then .ofNat (0x61 + d) else .ofNat (0x16 + d)

def digitValue? (c : Char) : Option Nat :=
  if c.isLower then some (c.toNat - 0x61)
  else if c.isUpper then some (c.toNat - 0x41)
  else if c.isDigit then some (c.toNat - 0x16)
  else none

def threshold (k bias : Nat) : Nat := if k ≤ bias then 1 else min 26 (k - bias)

theorem threshold_pos (k bias : Nat) : 1 ≤ threshold k bias := by
  unfold threshold; split <;> omega

/-- Divides until what is left is small; the first component counts the divisions. -/
def reduce (delta : Nat) : Nat × Nat :=
  if delta ≤ 455 then (0, delta)
  else
    let (times, rest) := reduce (delta / 35)
    (times + 1, rest)
termination_by delta

/-- The bias after a distance has been written, when there are `count` characters by then. -/
def adapt (delta count : Nat) (isFirst : Bool) : Nat :=
  let delta := if isFirst then delta / 700 else delta / 2
  let (times, rest) := reduce (delta + delta / count)
  36 * times + 36 * rest / (rest + 38)

def writeDelta (k bias q : Nat) : List Char :=
  let t := threshold k bias
  if q < t then [digitChar q]
  else digitChar (t + (q - t) % (36 - t)) :: writeDelta (k + 36) bias ((q - t) / (36 - t))
termination_by q
decreasing_by
  have := threshold_pos k bias
  exact Nat.lt_of_le_of_lt (Nat.div_le_self _ _) (by omega)

structure Writer where
  delta : Nat
  bias : Nat
  count : Nat
  isFirst : Bool
  written : List Char

/-- Passes over a character of the label on the round for the code point `code`. -/
def Writer.pass (code : Nat) (w : Writer) (c : Char) : Writer :=
  if c.toNat < code then { w with delta := w.delta + 1 }
  else if c.toNat = code then
    { delta := 0
      bias := adapt w.delta (w.count + 1) w.isFirst
      count := w.count + 1
      isFirst := false
      written := (writeDelta 36 w.bias w.delta).reverse ++ w.written }
  else w

/-- The rounds for the code points beyond ASCII, which are given in ascending order; `next` is the
least that may come. -/
def Writer.rounds (label : List Char) (next : Nat) (w : Writer) : List Nat → Writer
  | [] => w
  | code :: codes =>
    let w := { w with delta := w.delta + (code - next) * (w.count + 1) }
    let w := label.foldl (Writer.pass code) w
    rounds label (code + 1) { w with delta := w.delta + 1 } codes

/-- A label in ASCII, without the tag in front. The characters beyond ASCII are written behind the
others as numbers, in ascending order of code points, each number being the distance from the one
before. -/
def encode (label : List Char) : List Char :=
  let basic := label.filter (·.toNat < 0x80)
  let codes := ((label.map Char.toNat).filter (0x80 ≤ ·)).mergeSort.eraseDups
  let w := Writer.rounds label 0x80 ⟨0, 72, basic.length, true, []⟩ codes
  basic ++ (if basic = [] then [] else ['-']) ++ w.written.reverse

def readDelta (k bias weight sum : Nat) : List Char → Option (Nat × List Char)
  | [] => none
  | c :: cs => do
    let d ← digitValue? c
    let t := threshold k bias
    if d < t then some (sum + d * weight, cs)
    else readDelta (k + 36) bias (weight * (36 - t)) (sum + d * weight) cs

/-- Reads distances and puts the characters they lead to where they belong. -/
def readAll (code position bias : Nat) (isFirst : Bool) (out : List Char) :
    (fuel : Nat) → List Char → Option (List Char)
  | _, [] => some out
  | 0, _ :: _ => none
  | fuel + 1, cs => do
    let (delta, cs) ← readDelta 36 bias 1 0 cs
    let count := out.length + 1
    let sum := position + delta
    let code := code + sum / count
    let position := sum % count
    if code.isValidChar then
      readAll code (position + 1) (adapt delta count isFirst) false
        (out.take position ++ .ofNat code :: out.drop position) fuel cs
    else none

def decode? (s : List Char) : Option (List Char) :=
  let digits := (s.reverse.takeWhile (· ≠ '-')).reverse
  let basic := (s.take (s.length - digits.length)).dropLast
  if basic.any (0x80 ≤ ·.toNat) then none else readAll 0x80 0 72 true basic digits.length digits

end RuleLint.Url.Punycode
