import RuleLint.Path

namespace RuleLint

inductive Node where
  | file (content : ByteArray)
  | link (target : String)
  /-- The entries have different names, none of them empty, `.`, `..` or with a slash. Names are
  texts: a name whose bytes are not UTF-8 is left out, and so are special files and permissions. -/
  | directory (entries : List (String × Node))

/-- A file system as seen from a working directory, which is given by the names that lead to it. -/
structure FileTree where
  top : Node
  cwd : List String

inductive IoError where
  | notFound
  | notDirectory
  | isDirectory
  | tooManyLinks
  | nameTooLong
  | zeroByte
  | notText
deriving DecidableEq, Repr

def IoError.message : IoError → String
  | .notFound => "No such file or directory (os error 2)"
  | .notDirectory => "Not a directory (os error 20)"
  | .isDirectory => "Is a directory (os error 21)"
  | .tooManyLinks => "Too many levels of symbolic links (os error 40)"
  | .nameTooLong => "File name too long (os error 36)"
  | .zeroByte => "file name contained an unexpected NUL byte"
  | .notText => "stream did not contain valid UTF-8"

namespace Node

def entry? (name : String) : Node → Option Node
  | .directory entries => entries.lookup name
  | _ => none

def at? (n : Node) : List String → Option Node
  | [] => some n
  | name :: names => (n.entry? name).bind (·.at? names)

def setEntry (name : String) (n : Node) : List (String × Node) → List (String × Node)
  | [] => [(name, n)]
  | (other, m) :: rest => if other = name then (name, n) :: rest
      else (other, m) :: setEntry name n rest

/-- Puts a node where names lead, making directories on the way. A directory does not take the place
of one that is there. -/
def insert (new : Node) : List String → Node → Node
  | [], old =>
    match new, old with
    | .directory [], .directory entries => .directory entries
    | new, _ => new
  | name :: names, .directory entries =>
    .directory
      (setEntry name (insert new names ((entries.lookup name).getD (.directory []))) entries)
  | name :: names, _ => .directory [(name, insert new names (.directory []))]

end Node

/-- Whether a path has more bytes than a system call takes. -/
def Path.isTooLong (p : Path) : Bool := 4096 ≤ p.text.utf8ByteSize

namespace FileTree

open Text

def maxLinks : Nat := 40

/-- Follows segments from the directory `here`, following at most `links` links. A link puts the
segments of its target in front of what is left. An empty segment asks for a directory like a `.`
does. -/
def follow (top : Node) (links : Nat) (here : List String) :
    List (List Char) → Except IoError (List String)
  | [] => .ok here
  | s :: rest =>
    match top.at? here with
    | some (.directory entries) =>
      if s = [] ∨ s = ['.'] then follow top links here rest
      else if s = ['.', '.'] then follow top links here.dropLast rest
      else if 255 < (String.ofList s).utf8ByteSize then .error .nameTooLong
      else
        match entries.lookup (.ofList s) with
        | none => .error .notFound
        | some (.link target) =>
          if 0 < links then
            if target = "" then .error .notFound
            else
              follow top (links - 1) (if target.toList.head? = some '/' then [] else here)
                (fields '/' target.toList ++ rest)
          else .error .tooManyLinks
        | some _ => follow top links (here ++ [.ofList s]) rest
    | _ => .error .notDirectory
termination_by segments => (links, segments.length)

def locate (tree : FileTree) (p : Path) : Except IoError (List String) :=
  if p.text = "" then .error .notFound
  else if '\x00' ∈ p.text.toList then .error .zeroByte
  else if p.isTooLong then .error .nameTooLong
  else follow tree.top maxLinks (if p.isAbsolute then [] else tree.cwd) (fields '/' p.text.toList)

def node? (tree : FileTree) (p : Path) : Option Node :=
  match tree.locate p with
  | .ok names => tree.top.at? names
  | .error _ => none

def isFile (tree : FileTree) (p : Path) : Bool :=
  match tree.node? p with
  | some (.file _) => true
  | _ => false

def isDirectory (tree : FileTree) (p : Path) : Bool :=
  match tree.node? p with
  | some (.directory _) => true
  | _ => false

def readText (tree : FileTree) (p : Path) : Except IoError String := do
  match tree.top.at? (← tree.locate p) with
  | some (.file content) =>
    match String.fromUTF8? content with
    | some s => return s
    | none => throw .notText
  | some (.directory _) => throw .isDirectory
  | _ => throw .notFound

def workingDirectory (tree : FileTree) : Path := ⟨"/" ++ "/".intercalate tree.cwd⟩

end FileTree

end RuleLint
