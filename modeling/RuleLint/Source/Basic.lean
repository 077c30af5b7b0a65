import RuleLint.Text.Basic

namespace RuleLint

inductive Source where
  | builtin
  | remote (url : String)
  | file (path : String)
deriving DecidableEq, Repr

namespace Source

open Text

/-- Converter tags that may stand before a source. -/
def typeTags : List String :=
  ["clash-domain:", "clash-ipcidr:", "clash-classic:", "surge:", "quanx:"]

/-- A source without its converter tag; at most one is taken off. -/
def dropTag (source : String) : String :=
  match typeTags.findSome? fun tag => rest? tag.toList source.toList with
  | some s => .ofList s
  | none => source

/-- A bracket starts a built-in source; what holds `://` is remote, all else is local. -/
def ofText (source : String) : Source :=
  if source.toList.head? = some '[' then .builtin
  else
    let s := dropTag source
    if mentions "://".toList s.toList then .remote s else .file s

end Source

end RuleLint
