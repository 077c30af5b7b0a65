import RuleLint.Text.Basic

namespace RuleLint

/-- A path as it is spelled, which is a text. Joining and taking ancestors work on the spelling;
comparing and stripping work on components. -/
structure Path where
  text : String
deriving DecidableEq, Repr

namespace Path

open Text

inductive Component where
  | root
  | here
  | up
  | name (s : List Char)
deriving DecidableEq, Repr

def Component.ofSegment? : List Char → Option Component
  | [] | ['.'] => none
  | ['.', '.'] => some .up
  | s => some (.name s)

def Component.text : Component → List Char
  | .root => ['/']
  | .here => ['.']
  | .up => ['.', '.']
  | .name s => s

def segmentEnds (start : Nat) : List (List Char) → List (List Char × Nat)
  | [] => []
  | s :: rest => (s, start + s.length) :: segmentEnds (start + s.length + 1) rest

def markOf? : List Char × Nat → Option (Component × Nat)
  | (s, stop) => (Component.ofSegment? s).map fun c => (c, stop)

/-- The components of a path with the position in its text where each ends. Empty segments and inner
`.` segments are no components. -/
def marks (s : List Char) : List (Component × Nat) :=
  match segmentEnds 0 (fields '/' s) with
  | ([], _) :: second :: rest => (.root, 1) :: (second :: rest).filterMap markOf?
  | (['.'], stop) :: rest => (.here, stop) :: rest.filterMap markOf?
  | segments => segments.filterMap markOf?

def components (p : Path) : List Component := (marks p.text.toList).map Prod.fst

def isAbsolute (p : Path) : Bool := p.text.toList.head? = some '/'

def goesDown (p : Path) : Bool :=
  p.components.all fun
    | .name _ | .here => true
    | .root | .up => false

/-- A path read from another one. An absolute path stands for itself; else a slash comes between the
two where it is missing. -/
def join (base p : Path) : Path :=
  if p.isAbsolute then p
  else
    match base.text.toList.getLast? with
    | none => p
    | some '/' => ⟨base.text ++ p.text⟩
    | some _ => ⟨base.text ++ "/" ++ p.text⟩

/-- What is left when components are taken off one at a time, the nearest first: down to the root,
or to the empty path. -/
def parents (p : Path) : List Path :=
  let stops := (marks p.text.toList).map Prod.snd
  let shorter := if p.isAbsolute then stops.dropLast else 0 :: stops.dropLast
  if stops = [] then [] else shorter.reverse.map fun stop => ⟨.ofList (p.text.toList.take stop)⟩

def ancestors (p : Path) : List Path := p :: p.parents

def below? (base p : Path) : Option (List Component) :=
  if base.components <+: p.components then some (p.components.drop base.components.length) else none

/-- The path below `root` with a slash between components; a path elsewhere as it is spelled. -/
def displayName (root p : Path) : String :=
  match below? root p with
  | some rest => "/".intercalate (rest.map fun c => .ofList c.text)
  | none => p.text

/-- What follows the last dot of a name, provided that something precedes the dot. -/
def extensionOf? (name : List Char) : Option (List Char) :=
  match cut? '.' name.reverse with
  | some (_, []) | none => none
  | some (reversed, _ :: _) => some reversed.reverse

def extension? (p : Path) : Option String :=
  match p.components.getLast? with
  | some (.name s) => (extensionOf? s).map String.ofList
  | _ => none

def Component.rank : Component → Nat
  | .root => 0
  | .here => 1
  | .up => 2
  | .name _ => 3

/-- Component order: the root, `.`, `..`, then names by code points. -/
def Component.compare (a b : Component) : Ordering :=
  (Ord.compare a.rank b.rank).then (Ord.compare a.text b.text)

def compare (p q : Path) : Ordering := List.compareLex Component.compare p.components q.components

end Path

end RuleLint
