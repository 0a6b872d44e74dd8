import TermTape.Fault
import TermTape.Url.Reading

/-!
# The network

A network answers requests for URLs, or does not. A request follows the answers that redirect it, up
to a limit, and gives the last answer with the URL that it came from.
-/
namespace TermTape

/-- An answer to a request. -/
structure Response where
  status : Nat
  contentType : Option Bytes
  redirection : Option Bytes
  body : Bytes

/-- The answers to requests by the text of their URLs, which have no fragment. -/
abbrev Network := String → Option Response

/-- A network that answers nothing. -/
def Network.silent : Network := fun _ => none

namespace Response

/-- The statuses that have a name of their own. -/
def reasons : List (Nat × String) :=
  [(100, "Continue"), (101, "Switching Protocols"), (102, "Processing"), (103, "Early Hints"),
   (200, "OK"), (201, "Created"), (202, "Accepted"), (203, "Non Authoritative Information"),
   (204, "No Content"), (205, "Reset Content"), (206, "Partial Content"), (207, "Multi-Status"),
   (208, "Already Reported"), (226, "IM Used"), (300, "Multiple Choices"),
   (301, "Moved Permanently"), (302, "Found"), (303, "See Other"), (304, "Not Modified"),
   (305, "Use Proxy"), (307, "Temporary Redirect"), (308, "Permanent Redirect"),
   (400, "Bad Request"), (401, "Unauthorized"), (402, "Payment Required"), (403, "Forbidden"),
   (404, "Not Found"), (405, "Method Not Allowed"), (406, "Not Acceptable"),
   (407, "Proxy Authentication Required"), (408, "Request Timeout"), (409, "Conflict"),
   (410, "Gone"), (411, "Length Required"), (412, "Precondition Failed"),
   (413, "Payload Too Large"), (414, "URI Too Long"), (415, "Unsupported Media Type"),
   (416, "Range Not Satisfiable"), (417, "Expectation Failed"), (418, "I'm a teapot"),
   (421, "Misdirected Request"), (422, "Unprocessable Entity"), (423, "Locked"),
   (424, "Failed Dependency"), (425, "Too Early"), (426, "Upgrade Required"),
   (428, "Precondition Required"), (429, "Too Many Requests"),
   (431, "Request Header Fields Too Large"), (451, "Unavailable For Legal Reasons"),
   (500, "Internal Server Error"), (501, "Not Implemented"), (502, "Bad Gateway"),
   (503, "Service Unavailable"), (504, "Gateway Timeout"), (505, "HTTP Version Not Supported"),
   (506, "Variant Also Negotiates"), (507, "Insufficient Storage"), (508, "Loop Detected"),
   (510, "Not Extended"), (511, "Network Authentication Required")]

/-- The status with its name. -/
def statusLine (response : Response) : String :=
  wholeText response.status ++ " " ++ (reasons.lookup response.status).getD "<unknown status code>"

/-- The request succeeded. -/
def isSuccess (response : Response) : Bool := 200 ≤ response.status && response.status < 300

/-- The bytes of a field without the blanks around them. -/
def fieldValue (bytes : Bytes) : Bytes :=
  let isGap (b : UInt8) := b == 0x20 || b == 0x09
  ((bytes.dropWhile isGap).reverse.dropWhile isGap).reverse

/-- The type of a page. -/
def pageType : String := "text/html"

/-- The body is a page: its type is visible ASCII and begins with that of pages. -/
def isPage (response : Response) : Bool :=
  match response.contentType with
  | none => false
  | some bytes =>
    let value := fieldValue bytes
    value.all (fun b => b == 0x09 || (0x20 ≤ b && b ≤ 0x7e)) &&
      (textBytes pageType).isPrefixOf value

/-- The statuses that redirect. -/
def redirections : List Nat := [301, 302, 303, 307, 308]

/-- The characters of a host that no request carries. -/
def unsendable : List Char := ['"', '\x60', '\x7b', '\x7d']

/-- The most characters of a URL that a request carries. -/
def longestUrl : Nat := 65534

/-- A request can carry the URL: it is not too long, and its host has no sign that is refused. -/
def isSendable (url : Url) : Bool :=
  url.text.length ≤ longestUrl &&
    match url.authority with
    | some authority => !authority.host.text.any unsendable.contains
    | none => true

/-- The URL that an answer from a URL redirects to. -/
def redirection? (response : Response) (url : Url) : Option Url := do
  if redirections.contains response.status then
    let link ← Utf8.text? (fieldValue (← response.redirection))
    let target ← (url.join link).toOption
    if isSendable target then some target else none
  else none

end Response

namespace Network

/-- The most redirections that a request follows. -/
def longestTrail : Nat := 10

/-- Ask for a URL, and after so many redirections for no other. -/
def ask (network : Network) (left : Nat) (url : Url) : Except NetworkFault (Url × Response) :=
  if url.scheme = Url.http ∨ url.scheme = Url.https then
    match network url.withoutFragment.text with
    | none => .error (.unreachable url.text)
    | some response =>
      match response.redirection? url, left with
      | none, _ => .ok (url, response)
      | some _, 0 => .error (.redirect url.text)
      | some target, left + 1 => ask network left target
  else .error (.refusedScheme url.text)

/-- The bytes of a part of a URL are a text. -/
def isText (part : List Char) : Bool := (Utf8.decode? (Url.unescape part)).isSome

/-- A request can name itself by the user and password of the authority: the user is a text, and
without a user the password is one. -/
def isSignable (authority : Url.Authority) : Bool :=
  isText authority.user &&
    (!authority.user.isEmpty || (!authority.password.isEmpty && isText authority.password))

/-- The URL that a request shows: user and password are taken out of it if the request can name
itself by them. -/
def requested (url : Url) : Url :=
  match url.authority with
  | some authority => if isSignable authority then url.withoutUser else url
  | none => url

/-- The answer to a request for a URL, and the URL that it came from. -/
def fetch (network : Network) (url : Url) : Except NetworkFault (Url × Response) :=
  let shown := requested url
  if Response.isSendable shown then do
    let (final, response) ← network.ask longestTrail shown
    if response.isSuccess then .ok (final, response)
    else .error (.status response.statusLine url.text)
  else .error (.refusedScheme shown.text)

end Network
end TermTape
