import TermTape.Url.Host
import TermTape.Url.Path

/-!
# URLs

A URL in its normal form: a scheme in small letters, the authority with user, host and port, a path,
a query and a fragment. Parts are kept as they are shown, so equal texts are equal URLs.
-/
namespace TermTape

namespace Url

/-- Who is asked for a resource. A port that is the usual one of its scheme is left out. -/
structure Authority where
  user : List Char
  password : List Char
  host : Host
  port : Option Nat
  deriving DecidableEq

/-- Where a resource is: a list of segments, or a text that means something to its scheme alone. -/
inductive Path where
  | bare (text : List Char)
  | segments (path : List (List Char))
  deriving DecidableEq

end Url

/-- A URL. -/
structure Url where
  scheme : List Char
  authority : Option Url.Authority
  path : Url.Path
  query : Option (List Char)
  fragment : Option (List Char)
  deriving DecidableEq

namespace Url

/-! ## Schemes -/

/-- The scheme of pages. -/
def http : List Char := ['h', 't', 't', 'p']

/-- The scheme of pages over a secure connection. -/
def https : List Char := ['h', 't', 't', 'p', 's']

/-- The scheme of local files. -/
def fileScheme : List Char := ['f', 'i', 'l', 'e']

/-- The schemes of the web with their usual ports. -/
def webPorts : List (List Char × Nat) :=
  [(http, 80), (https, 443), (['w', 's'], 80), (['w', 's', 's'], 443), (['f', 't', 'p'], 21)]

/-- The scheme is one of the web. -/
def isWeb (scheme : List Char) : Bool := webPorts.any fun (name, _) => name == scheme

/-! ## Text -/

/-- The user of an authority, with the sign after it. -/
def Authority.userText (authority : Authority) : List Char :=
  if authority.user.isEmpty && authority.password.isEmpty then []
  else
    authority.user ++ (if authority.password.isEmpty then [] else ':' :: authority.password) ++
      ['@']

/-- An authority as a URL shows it. -/
def Authority.text (authority : Authority) : List Char :=
  authority.userText ++ authority.host.text ++
    match authority.port with
    | some port => ':' :: Nat.toDigits 10 port
    | none => []

/-- A path as a URL shows it. Without an authority two slashes at its start are kept apart. -/
def pathPart (url : Url) : List Char :=
  match url.path with
  | .bare text => text
  | .segments path =>
    if url.authority.isNone && path.head? == some [] && 1 < path.length then
      ['/', '.'] ++ pathText path
    else pathText path

/-- A part after its sign. -/
def marked (sign : Char) : Option (List Char) → List Char
  | some part => sign :: part
  | none => []

/-- The text of a URL. -/
def chars (url : Url) : List Char :=
  url.scheme ++ [':'] ++
    (match url.authority with
      | some authority => ['/', '/'] ++ authority.text
      | none => []) ++
    url.pathPart ++ marked '?' url.query ++ marked '#' url.fragment

/-- The text of a URL. -/
def text (url : Url) : String := String.ofList url.chars

/-- The URL without its fragment. -/
def withoutFragment (url : Url) : Url := { url with fragment := none }

/-- The URL without a user. -/
def withoutUser (url : Url) : Url :=
  { url with
    authority := url.authority.map fun authority => { authority with user := [], password := [] } }

end Url
end TermTape
