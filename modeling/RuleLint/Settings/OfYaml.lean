import RuleLint.Settings.Basic
import RuleLint.Yaml.Decoding

namespace RuleLint.Settings

open Yaml (Document Mark)

structure Given where
  configPath : Option Path := none
  reachability : Option ReachabilityPolicy := none
  timeout : Option Nat := none
  trustedSources : Option (List String) := none
  listExtension : Option String := none

def Given.complete (g : Given) : Settings :=
  let usual : Settings := {}
  { configPath := g.configPath.getD usual.configPath
    reachability := g.reachability.getD usual.reachability
    timeout := g.timeout.getD usual.timeout
    trustedSources := g.trustedSources.getD usual.trustedSources
    listExtension := g.listExtension.getD usual.listExtension }

/-- Fails if a setting is given a second time, to a mapping that starts at `start`. -/
def once {α : Type} (start : Mark) (name : String) : Option α → Except Yaml.Error Unit
  | some _ => .error (.value "" (.duplicateField name) start)
  | none => .ok ()

/-- Reads an entry of a mapping that starts at `start`. Entries that are no settings only have to be
whole. -/
def decodeEntry (d : Document) (start : Mark) (g : Given) (key value : Yaml.Node) :
    Except Yaml.Error Given := do
  let name ← d.decodeText "field identifier" "" key
  let path := Document.keyPath key
  match name with
  | "config_path" =>
    once start name g.configPath
    return { g with configPath := some ⟨← d.decodeText "path string" path value⟩ }
  | "reachability" =>
    once start name g.reachability
    let policy ← d.decodeWord ReachabilityPolicy.words start path value
    return { g with reachability := some policy }
  | "probe_timeout_secs" =>
    once start name g.timeout
    return { g with timeout := some (← d.decodeNat path value) }
  | "trusted_sources" =>
    once start name g.trustedSources
    return { g with trustedSources := some (← d.decodeList (d.decodeText "a string") path value) }
  | "list_extension" =>
    once start name g.listExtension
    return { g with listExtension := some (← d.decodeText "a string" path value) }
  | _ => if value.isWhole then return g else throw d.cutOff

def ofNode (d : Document) (n : Yaml.Node) : Except Yaml.Error Settings :=
  match n with
  | .mapping start _ entries =>
    Given.complete <$> entries.foldlM (fun g (key, value) => decodeEntry d start g key value) {}
  | n => if Document.isUnwritten n then .ok {} else d.unexpected "" "struct Settings" n

/-- Reads the settings in a text, which may hold one document at most. -/
def ofYaml (text : String) : Except Yaml.Error Settings := do
  let d := Document.ofText text
  let s ← d.root.elim (.ok {}) (ofNode d)
  if let some f := d.fault then throw (.fault f)
  if d.isFollowed then throw .severalDocuments
  return s

end RuleLint.Settings
