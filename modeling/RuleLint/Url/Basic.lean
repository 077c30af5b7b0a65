import RuleLint.Url.Host

namespace RuleLint

structure Url where
  scheme : List Char
  /-- User name and password as they are written, with the `@` behind them. -/
  userinfo : List Char := []
  /-- The host; none where the scheme is followed by a path. -/
  host : Option Url.Host := none
  port : Option Nat := none
  path : List Char := []
  query : Option (List Char) := none
  fragment : Option (List Char) := none
deriving DecidableEq, Repr

namespace Url

open Text

def render (u : Url) : List Char :=
  u.scheme ++ [':'] ++
    (match u.host with
      | none => []
      | some host => ['/', '/'] ++ u.userinfo ++ host.render ++
          (u.port.map fun n => ':' :: (toString n).toList).getD []) ++
    u.path ++ (u.query.map ('?' :: ·)).getD [] ++ (u.fragment.map ('#' :: ·)).getD []

def text (u : Url) : String := .ofList u.render

/-- The schemes whose URLs have a domain, with the port that goes without saying. -/
def networkPorts : List (List Char × Nat) :=
  [("http".toList, 80), ("https".toList, 443), ("ws".toList, 80), ("wss".toList, 443),
    ("ftp".toList, 21)]

def isNetwork (scheme : List Char) : Bool := networkPorts.any fun (s, _) => s = scheme

def isFile (scheme : List Char) : Bool := scheme = "file".toList

def takesBackslash (scheme : List Char) : Bool := isNetwork scheme || isFile scheme

def isSlash (scheme : List Char) (c : Char) : Bool := c = '/' || c = '\\' && takesBackslash scheme

/-- Takes off controls and blanks at both ends, and tabs and line breaks anywhere. -/
def clean (s : List Char) : List Char :=
  let isEdge (c : Char) : Bool := c.toNat ≤ 0x20
  (((s.dropWhile isEdge).reverse.dropWhile isEdge).reverse).filter fun c =>
    c ≠ '\t' && c ≠ '\n' && c ≠ '\r'

/-- The scheme in lower case and what follows its colon. -/
def cutScheme? (s : List Char) : Option (List Char × List Char) := do
  let (scheme, rest) ← cut? ':' s
  if scheme.head?.any Char.isAlpha && scheme.all fun c => c.isAlphanum || c ∈ ['+', '-', '.'] then
    some (scheme.map Char.toLower, rest)
  else none

def endsAuthority (scheme : List Char) (c : Char) : Bool := isSlash scheme c || c = '?' || c = '#'

def writeUserinfo (s : List Char) : List Char :=
  let (user, password) := (cut? ':' s).getD (s, [])
  if user = [] && password = [] then []
  else
    user.flatMap (percentEncode userEscapes) ++
      (if password = [] then [] else ':' :: password.flatMap (percentEncode userEscapes)) ++ ['@']

/-- What precedes the last `@` before the path, and what follows it. -/
def cutUserinfo (scheme s : List Char) : Option (List Char) × List Char :=
  let authority := s.takeWhile (! endsAuthority scheme ·)
  match cut? '@' authority.reverse with
  | none => (none, s)
  | some (_, reversed) => (some reversed.reverse, s.drop (reversed.length + 1))

/-- The host and what follows it; a colon inside brackets belongs to the host. -/
def cutHost (scheme : List Char) (inBrackets : Bool) : List Char → List Char × List Char
  | [] => ([], [])
  | c :: cs =>
    if endsAuthority scheme c || c = ':' && ! inBrackets then ([], c :: cs)
    else
      let (host, rest) := cutHost scheme (c = '[' || inBrackets && c ≠ ']') cs
      (c :: host, rest)

/-- The port behind a colon, none if it goes without saying, and what follows it. -/
def readPort (scheme s : List Char) : Except UrlError (Option Nat × List Char) :=
  match s with
  | ':' :: s =>
    let digits := s.takeWhile Char.isDigit
    let rest := s.dropWhile Char.isDigit
    let n := digits.foldl (fun n c => 10 * n + (c.toNat - 0x30)) 0
    if 0xFFFF < n || rest.head?.any (· ∉ ['/', '\\', '?', '#']) then .error .badPort
    else .ok (if digits = [] || networkPorts.lookup scheme = some n then none else some n, rest)
  | s => .ok (none, s)

def isDot (s : List Char) : Bool := s = ['.'] || s.map Char.toLower = "%2e".toList

def isDoubleDot (s : List Char) : Bool :=
  ["..".toList, ".%2e".toList, "%2e.".toList, "%2e%2e".toList].contains (s.map Char.toLower)

/-- Whether a segment names a drive, which two dots do not leave. -/
def isDrive : List Char → Bool
  | [a, b] => a.isAlpha && (b = ':' || b = '|')
  | _ => false

def leave (reversed : List (List Char)) : List (List Char) :=
  match reversed with
  | [] => []
  | s :: rest => if isDrive s then s :: rest else rest

/-- Works off segments one by one; a dot at the very end leaves an empty segment. -/
def resolve (reversed : List (List Char)) : List (List Char) → List (List Char)
  | [] => reversed
  | s :: rest =>
    if isDoubleDot s then resolve (if rest = [] then [] :: leave reversed else leave reversed) rest
    else if isDot s then resolve (if rest = [] then [] :: reversed else reversed) rest
    else resolve (s :: reversed) rest

def segments (scheme s : List Char) : List (List Char) :=
  fields '/' (s.map fun c => if isSlash scheme c then '/' else c)

/-- A path in normal form. Only where backslashes count does an empty path become a slash. -/
def writePath (scheme s : List Char) : List Char :=
  if s = [] && ! takesBackslash scheme then []
  else
    let body := if s.head?.any (isSlash scheme) then s.tail else s
    let resolved := (resolve [] (segments scheme body)).reverse
    resolved.flatMap fun s => '/' :: s.flatMap (percentEncode pathEscapes)

def cutTail (s : List Char) : List Char × Option (List Char) × Option (List Char) :=
  let front := (cut? '#' s).getD (s, [])
  let fragment := (cut? '#' s).map Prod.snd
  match cut? '?' front.1 with
  | some (path, query) => (path, some query, fragment)
  | none => (front.1, none, fragment)

def withTail (u : Url) (write : List Char → List Char) (s : List Char) : Url :=
  let (path, query, fragment) := cutTail s
  let escapes := if takesBackslash u.scheme then '\'' :: queryEscapes else queryEscapes
  { u with
    path := write path
    query := query.map (·.flatMap (percentEncode escapes))
    fragment := fragment.map (·.flatMap (percentEncode fragmentEscapes)) }

def readAuthority (scheme s : List Char) : Except UrlError Url := do
  let (userinfo, s) := cutUserinfo scheme s
  if userinfo = some [] && s.head?.any (endsAuthority scheme) then throw .emptyHost
  let written := writeUserinfo (userinfo.getD [])
  let (name, s) := cutHost scheme false s
  if isNetwork scheme && name = [] then throw .emptyHost
  let host ← if isNetwork scheme then Host.ofNetworkText name else Host.ofText name
  if host = .domain [] && (s.head? = some ':' || written ≠ []) then throw .emptyHost
  let (port, s) ← readPort scheme s
  return withTail { scheme, userinfo := written, host := some host, port } (writePath scheme) s

def readFile (scheme s : List Char) : Except UrlError Url := do
  match s with
  | a :: b :: rest =>
    if isSlash scheme a && isSlash scheme b then
      let name := rest.takeWhile (! endsAuthority scheme ·)
      let after := rest.dropWhile (! endsAuthority scheme ·)
      if isDrive name then
        return withTail { scheme, host := some (.domain []) } (writePath scheme) rest
      else
        let host ← if name = [] then pure (.domain []) else Host.ofNetworkText name
        let host := if host = .domain "localhost".toList then .domain [] else host
        return withTail { scheme, host := some host } (writePath scheme) after
    else return withTail { scheme, host := some (.domain []) } (writePath scheme) s
  | s => return withTail { scheme, host := some (.domain []) } (writePath scheme) s

/-- Reads a URL that says all about itself. -/
def read (input : List Char) : Except UrlError Url :=
  match cutScheme? (clean input) with
  | none => .error .relative
  | some (scheme, s) =>
    if isNetwork scheme then readAuthority scheme (s.dropWhile (isSlash scheme))
    else if isFile scheme then readFile scheme s
    else
      match s with
      | '/' :: '/' :: s => readAuthority scheme s
      | '/' :: _ => .ok (withTail { scheme } (writePath scheme) s)
      | s => .ok (withTail { scheme } (·.flatMap (percentEncode [])) s)

def ofText (input : String) : Except UrlError Url := read input.toList

end Url

end RuleLint
