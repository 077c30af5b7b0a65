namespace RuleLint.Unicode

/-- What counts of a name. -/
def normalizeName (name : List Char) : List Char :=
  let strip (s : List Char) : List Char :=
    (s.filter fun c => c.toNat < 0x80 && c ≠ ' ' && c ≠ '_' && c ≠ '-').map Char.toLower
  match name with
  | a :: b :: rest =>
    if a.toLower = 'i' && b.toLower = 's' then
      if strip rest = ['c'] then ['i', 's', 'c'] else strip rest
    else strip name
  | _ => strip name

def binaryNames : List (String × List String) := [
  ("ASCII_Hex_Digit", ["AHex"]), ("Alphabetic", ["Alpha"]), ("Bidi_Control", ["Bidi_C"]),
  ("Case_Ignorable", ["CI"]), ("Cased", []), ("Changes_When_Casefolded", ["CWCF"]),
  ("Changes_When_Casemapped", ["CWCM"]), ("Changes_When_Lowercased", ["CWL"]),
  ("Changes_When_Titlecased", ["CWT"]), ("Changes_When_Uppercased", ["CWU"]), ("Dash", []),
  ("Default_Ignorable_Code_Point", ["DI"]), ("Deprecated", ["Dep"]), ("Diacritic", ["Dia"]),
  ("Emoji", []), ("Emoji_Component", ["EComp"]), ("Emoji_Modifier", ["EMod"]),
  ("Emoji_Modifier_Base", ["EBase"]), ("Emoji_Presentation", ["EPres"]),
  ("Extended_Pictographic", ["ExtPict"]), ("Extender", ["Ext"]), ("Grapheme_Base", ["Gr_Base"]),
  ("Grapheme_Extend", ["Gr_Ext"]), ("Hex_Digit", ["Hex"]), ("IDS_Binary_Operator", ["IDSB"]),
  ("IDS_Trinary_Operator", ["IDST"]), ("ID_Continue", ["IDC"]), ("ID_Start", ["IDS"]),
  ("Ideographic", ["Ideo"]), ("Join_Control", ["Join_C"]), ("Logical_Order_Exception", ["LOE"]),
  ("Lowercase", ["Lower"]), ("Math", []), ("Noncharacter_Code_Point", ["NChar"]),
  ("Pattern_Syntax", ["Pat_Syn"]), ("Pattern_White_Space", ["Pat_WS"]),
  ("Quotation_Mark", ["QMark"]), ("Radical", []), ("Regional_Indicator", ["RI"]),
  ("Sentence_Terminal", ["STerm"]), ("Soft_Dotted", ["SD"]), ("Terminal_Punctuation", ["Term"]),
  ("Unified_Ideograph", ["UIdeo"]), ("Uppercase", ["Upper"]), ("Variation_Selector", ["VS"]),
  ("White_Space", ["WSpace", "space"]), ("XID_Continue", ["XIDC"]), ("XID_Start", ["XIDS"])]

/-- Properties with more values than two, of which only categories and scripts can be asked for. -/
def valuedNames : List (String × List String) := [
  ("Age", []), ("Bidi_Class", ["bc"]), ("Block", ["blk"]), ("Canonical_Combining_Class", ["ccc"]),
  ("Case_Folding", ["cf"]), ("Decomposition_Type", ["dt"]), ("East_Asian_Width", ["ea"]),
  ("General_Category", ["gc"]), ("Grapheme_Cluster_Break", ["GCB"]), ("Line_Break", ["lb"]),
  ("Lowercase_Mapping", ["lc"]), ("Name", ["na"]), ("Numeric_Type", ["nt"]),
  ("Numeric_Value", ["nv"]), ("Script", ["sc"]), ("Script_Extensions", ["scx"]),
  ("Sentence_Break", ["SB"]), ("Word_Break", ["WB"])]

def categoryNames : List (List String × List String) := [
  (["Lu", "Uppercase_Letter"], ["Lu"]), (["Ll", "Lowercase_Letter"], ["Ll"]),
  (["Lt", "Titlecase_Letter"], ["Lt"]), (["LC", "Cased_Letter"], ["Lu", "Ll", "Lt"]),
  (["Lm", "Modifier_Letter"], ["Lm"]), (["Lo", "Other_Letter"], ["Lo"]),
  (["L", "Letter"], ["Lu", "Ll", "Lt", "Lm", "Lo"]), (["Mn", "Nonspacing_Mark"], ["Mn"]),
  (["Mc", "Spacing_Mark"], ["Mc"]), (["Me", "Enclosing_Mark"], ["Me"]),
  (["M", "Mark", "Combining_Mark"], ["Mn", "Mc", "Me"]),
  (["Nd", "Decimal_Number", "digit"], ["Nd"]), (["Nl", "Letter_Number"], ["Nl"]),
  (["No", "Other_Number"], ["No"]), (["N", "Number"], ["Nd", "Nl", "No"]),
  (["Pc", "Connector_Punctuation"], ["Pc"]), (["Pd", "Dash_Punctuation"], ["Pd"]),
  (["Ps", "Open_Punctuation"], ["Ps"]), (["Pe", "Close_Punctuation"], ["Pe"]),
  (["Pi", "Initial_Punctuation"], ["Pi"]), (["Pf", "Final_Punctuation"], ["Pf"]),
  (["Po", "Other_Punctuation"], ["Po"]),
  (["P", "Punctuation", "punct"], ["Pc", "Pd", "Ps", "Pe", "Pi", "Pf", "Po"]),
  (["Sm", "Math_Symbol"], ["Sm"]), (["Sc", "Currency_Symbol"], ["Sc"]),
  (["Sk", "Modifier_Symbol"], ["Sk"]), (["So", "Other_Symbol"], ["So"]),
  (["S", "Symbol"], ["Sm", "Sc", "Sk", "So"]), (["Zs", "Space_Separator"], ["Zs"]),
  (["Zl", "Line_Separator"], ["Zl"]), (["Zp", "Paragraph_Separator"], ["Zp"]),
  (["Z", "Separator"], ["Zs", "Zl", "Zp"]), (["Cc", "Control", "cntrl"], ["Cc"]),
  (["Cf", "Format"], ["Cf"]), (["Co", "Private_Use"], ["Co"]), (["Cn", "Unassigned"], ["Cn"]),
  (["C", "Other"], ["Cc", "Cf", "Cs", "Co", "Cn"])]

end RuleLint.Unicode
