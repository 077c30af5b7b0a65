import RuleLint.Diagnostic
import RuleLint.FileTree.Basic

namespace RuleLint

namespace Node

inductive Kind where
  | file
  | link
  | directory
deriving DecidableEq, Repr

def kind : Node → Kind
  | .file _ => .file
  | .link _ => .link
  | .directory _ => .directory

def isSkipped (name : String) : Bool := name.toList.head? = some '.' || name = "target"

/-- Whether an entry is passed over with all that is in it. -/
def isPassedOver (name : String) (n : Node) : Bool := n.kind = .directory && isSkipped name

mutual

def walk : Node → List (List String × Kind)
  | .file _ | .link _ => []
  | .directory entries => walkEntries entries

def walkEntries : List (String × Node) → List (List String × Kind)
  | [] => []
  | (name, n) :: rest =>
    (if isPassedOver name n then []
      else ([name], n.kind) :: n.walk.map fun (names, kind) => (name :: names, kind)) ++
        walkEntries rest

end

end Node

namespace FileTree

def joinNames (root : Path) (names : List String) : Path :=
  names.foldl (fun p name => p.join ⟨name⟩) root

def search (root : Path) (n : Node) (wanted : Path → Node.Kind → Bool) : List Path :=
  let reached := n.walk.map fun (names, kind) => (joinNames root names, kind)
  ((reached.filter fun (p, kind) => wanted p kind).map Prod.fst).mergeSort fun p q =>
    (p.compare q).isLE

def unreadableDirectory (p : Path) : Failure :=
  .unreadableRoot p.text
    ("IO error for operation on " ++ p.text ++ ": " ++ IoError.nameTooLong.message)
    [IoError.nameTooLong.message]

/-- The files below `root` that have the extension, in path order, as paths that start with `root`.
Links are not followed below the root; a directory whose path is too long ends the search. -/
def listFiles (tree : FileTree) (root : Path) (extension : String) : Except Failure (List Path) :=
  match tree.node? root with
  | some (.directory entries) =>
    let search := search root (.directory entries)
    match search fun p kind => kind = .directory && p.isTooLong with
    | p :: _ => .error (unreadableDirectory p)
    | [] => .ok (search fun p kind => kind = .file && p.extension? = some extension)
  | _ => .error (.rootNotFound root.text)

/-- The nearest ancestor, of the first start that has one, below which `config` is a file. -/
def findRoot (tree : FileTree) (starts : List Path) (config : Path) : Option Path :=
  starts.findSome? fun start => start.ancestors.find? fun dir => tree.isFile (dir.join config)

/-- Looks from the directory of the program, if it is known, and then from the working directory,
which is the root if nothing is found. -/
def discoverRoot (tree : FileTree) (programDirectory : Option Path) (config : Path) : Path :=
  (tree.findRoot (programDirectory.toList ++ [tree.workingDirectory]) config).getD
    tree.workingDirectory

end FileTree

end RuleLint
