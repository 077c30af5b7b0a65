import RuleLint.Json.Decoding
import RuleLint.Settings.Basic

namespace RuleLint.Settings

open Json

def decodePath : Json → Except DecodeError Path
  | .string s => .ok ⟨s⟩
  | v => .error (.invalidType v.found "path string")

def decodePolicy : Json → Except DecodeError ReachabilityPolicy :=
  decodeWord ReachabilityPolicy.words

def decodeTexts : Json → Except DecodeError (List String) := decodeList decodeText

def ofJson : Json → Except DecodeError Settings
  | .object members => do
    let usual : Settings := {}
    let configPath ← decodeMember decodePath members "config_path"
    let listExtension ← decodeMember decodeText members "list_extension"
    let timeout ← decodeMember decodeWord64 members "probe_timeout_secs"
    let reachability ← decodeMember decodePolicy members "reachability"
    let trustedSources ← decodeMember decodeTexts members "trusted_sources"
    return {
      configPath := configPath.getD usual.configPath
      reachability := reachability.getD usual.reachability
      timeout := timeout.getD usual.timeout
      trustedSources := trustedSources.getD usual.trustedSources
      listExtension := listExtension.getD usual.listExtension }
  | .array items => do
    let usual : Settings := {}
    let configPath ← items[0]?.elim (.ok usual.configPath) decodePath
    let reachability ← items[1]?.elim (.ok usual.reachability) decodePolicy
    let timeout ← items[2]?.elim (.ok usual.timeout) decodeWord64
    let trustedSources ← items[3]?.elim (.ok usual.trustedSources) decodeTexts
    let listExtension ← items[4]?.elim (.ok usual.listExtension) decodeText
    checkLength items 5
    return { configPath, reachability, timeout, trustedSources, listExtension }
  | v => .error (.invalidType v.found "struct Settings")

end RuleLint.Settings
