import Std.Time.DateTime.Timestamp
import RuleLint.Probe.Http
import RuleLint.Program

namespace RuleLint.Looking

def segmentsOf (path : String) : List String :=
  ((Text.fields '/' path.toList).map String.ofList).filter fun s => s ≠ "" ∧ s ≠ "."

def placeOf (names : List String) : IO.FS.DirEntry := ⟨"/", "/".intercalate names⟩

/-- What there is at a place. A link is left as it is, with an empty target if it leads nowhere; a
directory is shown with its entries if they are wanted. -/
partial def look (entriesToo : Bool) (place : IO.FS.DirEntry) : IO (Option Node) := do
  try
    match (← place.path.symlinkMetadata).type with
    | .dir =>
      let mut entries : List (String × Node) := []
      if entriesToo then
        for entry in ← place.path.readDir do
          if let some n ← look true entry then entries := (entry.fileName, n) :: entries
      return some (.directory entries)
    | .symlink =>
      let target ← try pure (toString (← IO.FS.realPath place.path)) catch _ => pure ""
      return some (.link target)
    | .file => return some (.file (← IO.FS.readBinFile place.path))
    | .other => return none
  catch _ => return none

partial def targets : Node → List String
  | .file _ => []
  | .link target => [target]
  | .directory entries => entries.flatMap fun (_, n) => targets n

structure Sight where
  top : Node
  known : List (List String) := []

/-- Follows a path segment by segment and adds what it leads to. A directory is added with all that
is below it and all that links there lead to, if `whole` holds. -/
partial def follow (whole : Bool) (names segments : List String) (s : Sight) : IO Sight := do
  match segments with
  | [] =>
    if s.known.any (·.isPrefixOf names) then return s
    let some n ← look whole (placeOf names) | return s
    let s :=
      { s with top := n.insert names s.top, known := if whole then names :: s.known else s.known }
    (targets n).foldlM (fun s target => follow whole [] (segmentsOf target) s) s
  | ".." :: rest => follow whole names.dropLast rest s
  | segment :: rest =>
    let next := names ++ [segment]
    match ← look false (placeOf next) with
    | some (.link target) =>
      let top := (Node.link target).insert next s.top
      follow whole [] (segmentsOf target ++ rest) { s with top }
    | _ => follow whole next rest s

def addPath (whole : Bool) (cwd : List String) (s : Sight) (p : Path) : IO Sight :=
  follow whole (if p.isAbsolute then [] else cwd) (segmentsOf p.text) s

/-- The files that a run with these options may look at: where the root may be found, the settings,
the root. -/
def filesFor (start : Program.Start) (o : CommandLine.Options) : IO FileTree := do
  let cwd := start.tree.cwd
  let config := o.config.getD ({} : Settings).configPath
  let starts := start.directory.toList ++ [start.tree.workingDirectory]
  let wanted := (starts.flatMap Path.ancestors).map (·.join config) ++ o.settings.toList
  let s ← wanted.foldlM (addPath false cwd) { top := start.tree.top }
  let root := Program.rootOf { start with tree.top := s.top } o
  return ⟨(← addPath true cwd s root).top, cwd⟩

end RuleLint.Looking

open RuleLint

def main (arguments : List String) : IO UInt32 := do
  let cwd := Looking.segmentsOf (toString (← IO.currentDir))
  let now ← Std.Time.Timestamp.now
  let start : Program.Start := {
    arguments
    rootVariable := ← IO.getEnv CommandLine.rootVariableName
    tree := ⟨Node.insert (.directory []) cwd (.directory []), cwd⟩
    directory := (← IO.appPath).parent.map fun dir => ⟨toString dir⟩
    client := .ok fun _ url => (Http.probe .offline url).failure
    now.seconds := now.toSecondsSinceUnixEpoch.val.toNat
    now.nanoseconds := (now.toNanosecondsSinceUnixEpoch.val % 1000000000).toNat }
  let tree ←
    match CommandLine.read arguments start.rootVariable with
    | .ok o => Looking.filesFor start o
    | .error _ => pure start.tree
  let outcome := Program.run { start with tree }
  IO.print outcome.output
  IO.eprint outcome.complaint
  return outcome.exitCode.toUInt32
