import RuleLint.Diagnostic
import RuleLint.Pattern.Basic
import RuleLint.Text.Basic

namespace RuleLint.Source

open Text

inductive ShapePart where
  | exact (s : String)
  /-- One or more characters up to the first of these. -/
  | segment (stops : List Char)
  /-- All that is left, which may not be empty or hold a line feed. -/
  | remainder
deriving DecidableEq, Repr

def hasShape : List ShapePart → List Char → Bool
  | [], s => s.isEmpty
  | .exact word :: parts, s =>
    match rest? word.toList s with
    | some s => hasShape parts s
    | none => false
  | .segment stops :: parts, s =>
    s.takeWhile (· ∉ stops) ≠ [] && hasShape parts (s.dropWhile (· ∉ stops))
  | .remainder :: parts, s => s ≠ [] && '\n' ∉ s && hasShape parts []

/-- The shapes that are trusted without being asked for. -/
def trustedShapes : List (List ShapePart) := [
  [.exact "https://raw.githubusercontent.com/", .segment ['/'], .exact "/",
    .segment ['/'], .exact "/", .segment ['/'], .exact "/", .remainder],
  [.exact "https://github.com/", .segment ['/'], .exact "/", .segment ['/'], .exact "/raw/",
    .segment ['/'], .exact "/", .remainder],
  [.exact "https://cdn.jsdelivr.net/gh/", .segment ['/'], .exact "/",
    .segment ['/', '@'], .exact "@", .segment ['/'], .exact "/", .remainder],
  [.exact "https://gist.githubusercontent.com/", .segment ['/'], .exact "/", .segment ['/'],
    .exact "/raw/", .remainder]]

structure Trust where
  patterns : List Pattern := []

namespace Trust

/-- Compiles the patterns of the user; the first that does not compile is reported. -/
def ofPatterns (patterns : List String) : Except Failure Trust := do
  let compiled ← patterns.mapM fun p =>
    match Pattern.compile p with
    | .ok c => .ok c
    | .error e =>
      .error (.invalidSettings ("bad trusted source pattern '" ++ p ++ "': " ++ e.message p))
  return ⟨compiled⟩

def trusts (t : Trust) (url : String) : Bool :=
  trustedShapes.any (hasShape · url.toList) || t.patterns.any (·.isMatch url)

end Trust

end RuleLint.Source
