namespace RuleLint.Text

/-- The digit zero of every script that has decimal digits. -/
def zeros : List Nat := [
    0x30, 0x660, 0x6F0, 0x7C0, 0x966, 0x9E6, 0xA66, 0xAE6, 0xB66, 0xBE6, 0xC66, 0xCE6, 0xD66, 0xDE6,
    0xE50, 0xED0, 0xF20, 0x1040, 0x1090, 0x17E0, 0x1810, 0x1946, 0x19D0, 0x1A80, 0x1A90, 0x1B50,
    0x1BB0, 0x1C40, 0x1C50, 0xA620, 0xA8D0, 0xA900, 0xA9D0, 0xA9F0, 0xAA50, 0xABF0, 0xFF10, 0x104A0,
    0x10D30, 0x10D40, 0x11066, 0x110F0, 0x11136, 0x111D0, 0x112F0, 0x11450, 0x114D0, 0x11650,
    0x116C0, 0x116D0, 0x116DA, 0x11730, 0x118E0, 0x11950, 0x11BF0, 0x11C50, 0x11D50, 0x11DA0,
    0x11DE0, 0x11F50, 0x16130, 0x16A60, 0x16AC0, 0x16B50, 0x16D70, 0x1CCF0, 0x1D7CE, 0x1D7D8,
    0x1D7E2, 0x1D7EC, 0x1D7F6, 0x1E140, 0x1E2F0, 0x1E4F0, 0x1E5F1, 0x1E950, 0x1FBF0]

def digitValue? (c : Char) : Option Nat :=
  (zeros.find? fun z => z ≤ c.toNat && c.toNat < z + 10).map (c.toNat - ·)

def isDigit (c : Char) : Bool := (digitValue? c).isSome

/-- The digits at the front of a text, if there are some and at most `most`, and what follows
them. -/
def digits? (most : Nat) (s : List Char) : Option (List Char × List Char) :=
  let run := s.takeWhile isDigit
  if run ≠ [] ∧ run.length ≤ most then some (run, s.dropWhile isDigit) else none

/-- The number that ASCII digits spell; none if another character is among them. -/
def number? (run : List Char) : Option Nat :=
  run.foldlM (fun n c => if c.isDigit then some (10 * n + (c.toNat - 0x30)) else none) 0

def lowerHexDigit (n : Nat) : Char := if n < 10 then .ofNat (0x30 + n) else .ofNat (0x57 + n)

def upperHexDigit (n : Nat) : Char := if n < 10 then .ofNat (0x30 + n) else .ofNat (0x37 + n)

def hexDigit? (c : Char) : Option Nat :=
  if c.isDigit then some (c.toNat - 0x30)
  else if 'a' ≤ c ∧ c ≤ 'f' then some (c.toNat - 0x57)
  else if 'A' ≤ c ∧ c ≤ 'F' then some (c.toNat - 0x37)
  else none

def isHexDigit (c : Char) : Bool := (hexDigit? c).isSome

/-- The number that digits spell in a base up to 16; none if another character is among them. -/
def numberIn? (base : Nat) (digits : List Char) : Option Nat :=
  digits.foldlM (fun n c => ((hexDigit? c).filter (· < base)).map (base * n + ·)) 0

def hexNumber? (digits : List Char) : Option Nat := numberIn? 16 digits

end RuleLint.Text
