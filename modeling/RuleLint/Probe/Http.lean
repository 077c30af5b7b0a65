import RuleLint.Url.Basic

namespace RuleLint.Http

inductive Method where
  | head
  | get
deriving DecidableEq, Repr

def Method.name : Method → String
  | .head => "HEAD"
  | .get => "GET"

structure Response where
  status : Nat
  location : Option String := none
deriving DecidableEq, Repr

/-- How requests are carried: a response, or why none came. -/
abbrev Transport := Method → (url : String) → Except String Response

def Transport.offline : Transport :=
  fun _ _ =>
    .error "client error (Connect): tcp connect error: Network is unreachable (os error 101)"

def Response.redirect? (r : Response) : Option String :=
  if r.status ∈ [301, 302, 303, 307, 308] then r.location else none

structure Exchange where
  requests : List (Method × String)
  outcome : Except String Nat

/-- Sends a request and follows up to `left` redirects with the same method. -/
def send (transport : Transport) (method : Method) : (left : Nat) → (url : String) → Exchange
  | left, url =>
    match transport method url with
    | .error cause => ⟨[], .error ("error sending request for url (" ++ url ++ "): " ++ cause)⟩
    | .ok response =>
      match response.redirect?, left with
      | none, _ => ⟨[(method, url)], .ok response.status⟩
      | some _, 0 =>
        ⟨[(method, url)],
          .error ("error following redirect for url (" ++ url ++ "): too many redirects")⟩
      | some target, left + 1 =>
        let rest := send transport method left target
        ⟨(method, url) :: rest.requests, rest.outcome⟩

def maxRedirects : Nat := 10

def refusesHead (status : Nat) : Bool := status ∈ [403, 405, 501]

def isSuccess (status : Nat) : Bool := 200 ≤ status && status < 300

def reasons : List (Nat × String) := [
  (100, "Continue"), (101, "Switching Protocols"), (102, "Processing"), (103, "Early Hints"),
  (200, "OK"), (201, "Created"), (202, "Accepted"), (203, "Non Authoritative Information"),
  (204, "No Content"), (205, "Reset Content"), (206, "Partial Content"), (207, "Multi-Status"),
  (208, "Already Reported"), (226, "IM Used"), (300, "Multiple Choices"),
  (301, "Moved Permanently"), (302, "Found"), (303, "See Other"), (304, "Not Modified"),
  (305, "Use Proxy"), (307, "Temporary Redirect"), (308, "Permanent Redirect"),
  (400, "Bad Request"), (401, "Unauthorized"), (402, "Payment Required"), (403, "Forbidden"),
  (404, "Not Found"), (405, "Method Not Allowed"), (406, "Not Acceptable"),
  (407, "Proxy Authentication Required"), (408, "Request Timeout"), (409, "Conflict"),
  (410, "Gone"), (411, "Length Required"), (412, "Precondition Failed"), (413, "Payload Too Large"),
  (414, "URI Too Long"), (415, "Unsupported Media Type"), (416, "Range Not Satisfiable"),
  (417, "Expectation Failed"), (418, "I'm a teapot"), (421, "Misdirected Request"),
  (422, "Unprocessable Entity"), (423, "Locked"), (424, "Failed Dependency"), (425, "Too Early"),
  (426, "Upgrade Required"), (428, "Precondition Required"), (429, "Too Many Requests"),
  (431, "Request Header Fields Too Large"), (451, "Unavailable For Legal Reasons"),
  (500, "Internal Server Error"), (501, "Not Implemented"), (502, "Bad Gateway"),
  (503, "Service Unavailable"), (504, "Gateway Timeout"), (505, "HTTP Version Not Supported"),
  (506, "Variant Also Negotiates"), (507, "Insufficient Storage"), (508, "Loop Detected"),
  (510, "Not Extended"), (511, "Network Authentication Required")]

def showStatus (status : Nat) : String :=
  toString status ++ " " ++ (reasons.lookup status).getD "<unknown status code>"

structure Result where
  requests : List (Method × String)
  failure : Option String
deriving DecidableEq, Repr

def Exchange.result (e : Exchange) (earlier : List (Method × String)) : Result :=
  ⟨earlier ++ e.requests,
    match e.outcome with
    | .error cause => some cause
    | .ok status => if isSuccess status then none else some ("HTTP " ++ showStatus status)⟩

/-- Asks for the head of a URL, and for all of it if the server refuses the head. -/
def probeUrl (transport : Transport) (url : String) : Result :=
  let head := send transport .head maxRedirects url
  match head.outcome with
  | .ok status =>
    if refusesHead status then (send transport .get maxRedirects url).result head.requests
      else head.result []
  | .error _ => head.result []

def probe (transport : Transport) (url : String) : Result :=
  match Url.ofText url with
  | .ok u => probeUrl transport u.text
  | .error e => ⟨[], some ("builder error: " ++ e.message)⟩

end RuleLint.Http
