import RuleLint.Text.Quoted

namespace RuleLint

inductive Found where
  | null
  | nothing
  | bool (b : Bool)
  | integer (n : Int)
  /-- An integer too long for 64 bits, with the width it was read in. -/
  | wideInteger (n : Int) (width : String)
  /-- A number with a fraction or an exponent, in its shortest spelling. -/
  | decimal (spelling : String)
  | string (s : String)
  | sequence
  | map
deriving Repr

def Found.describe : Found → String
  | .null => "null"
  | .nothing => "unit value"
  | .bool b => "boolean `" ++ (if b then "true" else "false") ++ "`"
  | .integer n => "integer `" ++ toString n ++ "`"
  | .wideInteger n width => "integer `" ++ toString n ++ "` as " ++ width
  | .decimal spelling => "floating point `" ++ spelling ++ "`"
  | .string s => "string " ++ Text.quoted s
  | .sequence => "sequence"
  | .map => "map"

inductive DecodeError where
  | invalidType (found : Found) (expected : String)
  | invalidValue (found : Found) (expected : String)
  | invalidLength (length : Nat) (expected : String)
  | unknownVariant (name : String) (known : List String)
  | missingField (name : String)
  | duplicateField (name : String)
deriving Repr

def DecodeError.message : DecodeError → String
  | .invalidType found expected => "invalid type: " ++ found.describe ++ ", expected " ++ expected
  | .invalidValue found expected => "invalid value: " ++ found.describe ++ ", expected " ++ expected
  | .invalidLength length expected =>
    "invalid length " ++ toString length ++ ", expected " ++ expected
  | .unknownVariant name known =>
    "unknown variant `" ++ name ++ "`, expected one of " ++
      ", ".intercalate (known.map fun k => "`" ++ k ++ "`")
  | .missingField name => "missing field `" ++ name ++ "`"
  | .duplicateField name => "duplicate field `" ++ name ++ "`"

end RuleLint
