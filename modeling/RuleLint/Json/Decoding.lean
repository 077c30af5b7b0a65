import RuleLint.Decimal.Double
import RuleLint.Decoding
import RuleLint.Json.Value

namespace RuleLint.Json

/-- A whole number that 64 bits cannot hold is read as a number of double precision. -/
def foundNumber (n : Int) : Found :=
  if -0x8000000000000000 ≤ n ∧ n < 0x10000000000000000 then .integer n
  else
    match Double.ofDecimal? ⟨n.natAbs, 0⟩ with
    | some x => .decimal ((if n < 0 then "-" else "") ++ x.render)
    | none => .integer n

def found : Json → Found
  | .null => .null
  | .bool b => .bool b
  | .number n => foundNumber n
  | .string s => .string s
  | .array _ => .sequence
  | .object _ => .map

def decodeText : Json → Except DecodeError String
  | .string s => .ok s
  | v => .error (.invalidType v.found "a string")

/-- Reads a count, which `type` is the word for in messages. No report counts up to the bound of a
word. -/
def decodeNat (type : String) : Json → Except DecodeError Nat
  | .number (.ofNat n) => .ok n
  | .number n => .error (.invalidValue (.integer n) type)
  | v => .error (.invalidType v.found type)

def decodeWord64 (v : Json) : Except DecodeError Nat :=
  match v.found with
  | .integer (.ofNat n) => .ok n
  | .integer n => .error (.invalidValue (.integer n) "u64")
  | other => .error (.invalidType other "u64")

def decodeOption {α : Type} (decode : Json → Except DecodeError α) : Json →
    Except DecodeError (Option α)
  | .null => .ok none
  | v => some <$> decode v

def decodeList {α : Type} (decode : Json → Except DecodeError α) : Json →
    Except DecodeError (List α)
  | .array xs => xs.mapM decode
  | v => .error (.invalidType v.found "a sequence")

/-- Reads one of the `known` words: the word itself, or an object with it as its only name and
nothing as its value. -/
def decodeWord {α : Type} (known : List (String × α)) : Json → Except DecodeError α
  | .string s => pick s
  | .object [(s, v)] => do
    let x ← pick s
    match v with
    | .null => return x
    | v => throw (.invalidType v.found "unit")
  | .object _ => .error (.invalidValue .map "map with a single key")
  | v => .error (.invalidType v.found "string or map")
where
  pick (s : String) : Except DecodeError α :=
    match known.lookup s with
    | some x => .ok x
    | none => .error (.unknownVariant s (known.map Prod.fst))

/-- Reads a member of an object if it is there; of two with one name the last counts. -/
def decodeMember {α : Type} (decode : Json → Except DecodeError α) (members : List (String × Json))
    (name : String) : Except DecodeError (Option α) :=
  match members.reverse.lookup name with
  | none => .ok none
  | some v => some <$> decode v

def required {α : Type} (name : String) : Option α → Except DecodeError α
  | some x => .ok x
  | none => .error (.missingField name)

def decodeItem {α : Type} (decode : Json → Except DecodeError α) (record : String)
    (items : List Json) (position : Nat) : Except DecodeError α :=
  match items[position]? with
  | some v => decode v
  | none => .error (.invalidLength position record)

def checkLength (items : List Json) (size : Nat) : Except DecodeError Unit :=
  if items.length ≤ size then .ok ()
    else .error (.invalidLength items.length "fewer elements in array")

end RuleLint.Json
