import RuleLint.Yaml.Composing
import RuleLint.Yaml.Scalar

namespace RuleLint.Yaml

inductive Error where
  | value (path : String) (error : DecodeError) (mark : Mark)
  | fault (f : Fault)
  | severalDocuments
deriving Repr

def Error.message : Error → String
  | .value path error mark =>
    (if path = "" then "" else path ++ ": ") ++ error.message ++ showPlace mark
  | .fault f => f.message
  | .severalDocuments =>
    "deserializing from YAML containing more than one document is not supported"

namespace Document

/-- The error of a value that is cut off; a document that is cut off has a fault. -/
def cutOff (d : Document) : Error :=
  match d.fault with
  | some f => .fault f
  | none => .fault (.malformed .endOfStream {} none)

/-- The node that is meant: an alias stands for another node. -/
def resolve (d : Document) : Node → Node
  | .alias _ target => (d.anchored.lookup target).getD .cut
  | n => n

def unexpected {α : Type} (d : Document) (path expected : String) : Node → Except Error α
  | .scalar mark tag content =>
    match Scalar.found tag content with
    | .ok x => .error (.value path (.invalidType x expected) mark)
    | .error e => .error (.value path e mark)
  | .sequence mark .. => .error (.value path (.invalidType .sequence expected) mark)
  | .mapping mark .. => .error (.value path (.invalidType .map expected) mark)
  | .alias .. | .cut => .error d.cutOff

def decodeText (d : Document) (expected path : String) (n : Node) : Except Error String :=
  match d.resolve n with
  | .scalar _ _ content => .ok content.text
  | n => d.unexpected path expected n

def decodeNat (d : Document) (path : String) (n : Node) : Except Error Nat :=
  match d.resolve n with
  | .scalar mark tag content =>
    let isNumber :=
      content.style = .plain ∨ content.style = .literal ∧ tag = some (Scalar.coreTag "int")
    match (Scalar.natural? content.text.toList).filter fun n => isNumber ∧ n < UInt64.size with
    | some n => .ok n
    | none => d.unexpected path "u64" (.scalar mark tag content)
  | n => d.unexpected path "u64" n

def variantName? (tag : Option String) : Option String :=
  match tag.map String.toList with
  | some ['!'] => some "!"
  | some ('!' :: name) => some (.ofList name)
  | _ => none

/-- Reads one of the `known` words, which is the text of a scalar or the tag of an empty one. A tag
that is none of them is put down to the mapping around the value, which starts at `around`. -/
def decodeWord {α : Type} (d : Document) (known : List (String × α)) (around : Mark) (path : String)
    (n : Node) : Except Error α :=
  let pick (path : String) (mark : Mark) (s : String) : Except Error α :=
    match known.lookup s with
    | some x => .ok x
    | none => .error (.value path (.unknownVariant s (known.map Prod.fst)) mark)
  let collection (mark : Mark) (tag : Option String) (found : Found) : Except Error α := do
    match variantName? tag with
    | none => throw (.value path (.invalidType found "a YAML tag starting with '!'") mark)
    | some name =>
      let _ ← pick "" around name
      throw (.value path (.invalidType found "unit") mark)
  match d.resolve n with
  | .scalar mark tag content =>
    match variantName? tag with
    | none => pick path mark content.text
    | some name => do
      let x ← pick "" around name
      if content.style = .plain ∧ (content.text = "" ∨ Scalar.isNull content.text) then return x
      throw (.value path (.invalidValue (.string content.text) "null") mark)
  | .sequence mark tag _ => collection mark tag .sequence
  | .mapping mark tag _ => collection mark tag .map
  | .alias .. | .cut => .error d.cutOff

def isUnwritten : Node → Bool
  | .scalar _ _ content => content.style = .plain && content.text = ""
  | _ => false

/-- Reads a sequence; a scalar that is not written is an empty one. -/
def decodeList {α : Type} (d : Document) (decode : (path : String) → Node → Except Error α)
    (path : String) (n : Node) : Except Error (List α) :=
  match d.resolve n with
  | .sequence _ _ items => items.zipIdx.mapM fun (item, i) =>
    decode (path ++ "[" ++ toString i ++ "]") item
  | n => if isUnwritten n then .ok [] else d.unexpected path "a sequence" n

/-- How the values behind a key are called in paths. -/
def keyPath : Node → String
  | .scalar _ _ content => content.text
  | _ => "?"

end Document

end RuleLint.Yaml
