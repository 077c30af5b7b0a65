import Std.Data.ExtTreeMap
import Std.Data.ExtTreeSet
import RuleLint.Diagnostic
import RuleLint.Rule.Line

namespace RuleLint.Rule

structure DuplicateIndex where
  /-- The names of the files that hold a rule. -/
  files : Std.ExtTreeMap String (Std.ExtTreeSet String)

namespace DuplicateIndex

def empty : DuplicateIndex := ⟨∅⟩

def insert (index : DuplicateIndex) (file rule : String) : DuplicateIndex :=
  ⟨index.files.alter rule fun names => some ((names.getD ∅).insert file)⟩

def addFile (index : DuplicateIndex) (file content : String) : DuplicateIndex :=
  (entries content).foldl (fun index e => index.insert file e.rule) index

/-- Adds a file and says what it repeats by itself. -/
def add (index : DuplicateIndex) (file content : String) : Option Diagnostic × DuplicateIndex :=
  (repeatedDiagnostic? file content, index.addFile file content)

def addAll (index : DuplicateIndex) : List (String × String) →
    List (Option Diagnostic) × DuplicateIndex
  | [] => ([], index)
  | (file, content) :: rest =>
    let (said, index) := index.add file content
    let (others, index) := index.addAll rest
    (said :: others, index)

def size (index : DuplicateIndex) : Nat := index.files.size

def isEmpty (index : DuplicateIndex) : Bool := index.files.isEmpty

/-- The rules in at least two files, sorted, each with its files, sorted. -/
def duplicates (index : DuplicateIndex) : List (String × List String) :=
  index.files.toList.filterMap fun (rule, names) =>
    if 2 ≤ names.size then some (rule, names.toList) else none

/-- A rule and its files, with the arrow `width` characters and two blanks from the rule's first. -/
def row (width : Nat) (rule : String) (names : List String) : String :=
  "\n    " ++ .ofList (rule.toList.rightpad width ' ') ++ "  ->  " ++ ", ".intercalate names

/-- One error with a table of all rules that several files hold. -/
def report? (index : DuplicateIndex) : Option Diagnostic :=
  match index.duplicates with
  | [] => none
  | found =>
    let width := (found.map (·.1.length)).foldr max 0
    some (.error .duplicate (toString found.length ++ " rule(s) appear in more than one file:" ++
      .join (found.map fun (rule, names) => row width rule names)))

end DuplicateIndex

end RuleLint.Rule
