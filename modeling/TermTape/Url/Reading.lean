import TermTape.Text.Basic
import TermTape.Url.Basic

/-!
# Reading URLs

A text is a URL by itself when it begins with a scheme; any other text is one against a base. The
reader takes away outer blanks, tabs and line ends, cuts off fragment and query, and reads authority
and path by the rules of the scheme: those of the web take a backslash for a slash and need a host.
-/
namespace TermTape.Url

/-! ## Cutting a text -/

/-- The character is a control or the space. -/
def isOuterBlank (c : Char) : Bool := c.toNat ≤ 0x20

/-- A text without controls and spaces around it, and without tabs and line ends. -/
def tidy (text : List Char) : List Char :=
  ((text.dropWhile isOuterBlank).reverse.dropWhile isOuterBlank).reverse.filter fun c =>
    c != '\t' && c != '\n' && c != '\r'

/-- The character belongs to the name of a scheme. -/
def isSchemeChar (c : Char) : Bool := c.isAlphanum || c == '+' || c == '-' || c == '.'

/-- The scheme that a text begins with in small letters, and the text after its colon. -/
def scheme? (text : List Char) : Option (List Char × List Char) :=
  match text.takeWhile isSchemeChar, text.dropWhile isSchemeChar with
  | first :: name, ':' :: rest =>
    if first.isAlpha then some ((first :: name).map Char.toLower, rest) else none
  | _, _ => none

/-- A text cut into what comes before its query, its query and its fragment. -/
structure Cut where
  body : List Char
  query : Option (List Char)
  fragment : Option (List Char)

/-- The text before the first of a sign, and the text after it. -/
def cutAt (sign : Char) (text : List Char) : List Char × Option (List Char) :=
  match text.dropWhile (· != sign) with
  | [] => (text, none)
  | _ :: after => (text.takeWhile (· != sign), some after)

/-- The parts of a text after its scheme. -/
def cut (text : List Char) : Cut :=
  let (front, fragment) := cutAt '#' text
  let (body, query) := cutAt '?' front
  ⟨body, query, fragment⟩

/-- The escaped query of a URL of a scheme. -/
def Cut.queryFor (cut : Cut) (scheme : List Char) : Option (List Char) :=
  let reserved :=
    if isWeb scheme || scheme == fileScheme then '\x27' :: queryReserved else queryReserved
  cut.query.map (escape reserved)

/-- The escaped fragment of a URL. -/
def Cut.fragmentText (cut : Cut) : Option (List Char) :=
  cut.fragment.map (escape fragmentReserved)

/-- The character separates segments in a scheme. -/
def isSlash (scheme : List Char) (c : Char) : Bool :=
  c == '/' || (c == '\\' && (isWeb scheme || scheme == fileScheme))

/-! ## Authorities -/

/-- A port; the usual one of its scheme is left out, and so is one without digits. -/
def portOf (scheme digits : List Char) : Except Fault (Option Nat) :=
  match numberIn? 10 digits with
  | none => .error .badPort
  | some port =>
    if 65535 < port then .error .badPort
    else if digits.isEmpty || webPorts.contains (scheme, port) then .ok none
    else .ok (some port)

/-- A text cut at the first colon outside brackets. -/
def cutHost (inBrackets : Bool) : List Char → List Char × Option (List Char)
  | [] => ([], none)
  | c :: rest =>
    if c == ':' && !inBrackets then ([], some rest)
    else
      let (host, port) := cutHost (c == '[' || (inBrackets && c != ']')) rest
      (c :: host, port)

/-- The host and the port of a text. -/
def hostAndPort (scheme text : List Char) : Except Fault (Host × Option Nat) := do
  let (hostText, portText) := cutHost false text
  let host ← if isWeb scheme then webHost hostText else plainHost hostText
  match portText with
  | none => .ok (host, none)
  | some digits =>
    if host == .empty then .error .emptyHost
    else .ok (host, ← portOf scheme digits)

/-- The authority of a text; the last `@` ends the user. -/
def authorityOf (scheme text : List Char) : Except Fault Authority := do
  let hostText := (text.reverse.takeWhile (· != '@')).reverse
  let userText := text.take (text.length - hostText.length - 1)
  let (user, password) := cutAt ':' userText
  if text.contains '@' && hostText.isEmpty then .error .emptyHost
  else
    let (host, port) ← hostAndPort scheme hostText
    let user := escape userReserved user
    let password := escape userReserved (password.getD [])
    if host == .empty && !(user.isEmpty && password.isEmpty) then .error .emptyHost
    else .ok ⟨user, password, host, port⟩

/-! ## Absolute URLs -/

/-- The segments of a text after a path. -/
def segmentsFrom (scheme : List Char) (path : List (List Char)) (text : List Char) :
    List (List Char) :=
  walk (scheme == fileScheme) path (splitAt (isSlash scheme) text)

/-- The segments of a text that begins with a slash; a URL of the web has one at least. -/
def rootedSegments (scheme text : List Char) : List (List Char) :=
  match text with
  | [] => if isWeb scheme then [[]] else []
  | _ :: rest => segmentsFrom scheme [] rest

/-- The URL whose authority is at the start of a text. -/
def afterSlashes (scheme text : List Char) : Except Fault Url := do
  let cut := cut text
  let authority ← authorityOf scheme (cut.body.takeWhile fun c => !isSlash scheme c)
  .ok {
    scheme
    authority := some authority
    path := .segments (rootedSegments scheme (cut.body.dropWhile fun c => !isSlash scheme c))
    query := cut.queryFor scheme
    fragment := cut.fragmentText }

/-- The host of a local file; the own host has no name. -/
def fileHost (text : List Char) : Except Fault Host :=
  if text.isEmpty then .ok .empty
  else do
    let host ← webHost text
    .ok (if host == .name ['l', 'o', 'c', 'a', 'l', 'h', 'o', 's', 't'] then .empty else host)

/-- The segments of a local file, of which none at the start is empty. -/
def fileSegments (text : List Char) : List (List Char) :=
  match (segmentsFrom fileScheme [] text).dropWhile (·.isEmpty) with
  | [] => [[]]
  | path => path

/-- The URL of a local file. -/
def fileUrl (text : List Char) : Except Fault Url := do
  let cut := cut text
  let slash := isSlash fileScheme
  let (host, path) ← match cut.body with
    | a :: b :: rest =>
      if slash a && slash b then
        let name := rest.takeWhile fun c => !slash c
        if isDrive (asDrive name) then pure (Host.empty, rest)
        else pure (← fileHost name, (rest.dropWhile fun c => !slash c).drop 1)
      else pure (.empty, if slash a then b :: rest else cut.body)
    | body => pure (.empty, body.dropWhile slash)
  let path := fileSegments path
  let host := if (path.head?.map isDrive).getD false then .empty else host
  .ok {
    scheme := fileScheme
    authority := some ⟨[], [], host, none⟩
    path := .segments path
    query := cut.queryFor fileScheme
    fragment := cut.fragmentText }

/-- A URL of a scheme without an authority. -/
def withoutAuthority (scheme text : List Char) : Url :=
  let cut := cut text
  let path := match cut.body with
    | '/' :: rest => Path.segments (segmentsFrom scheme [] rest)
    | body => .bare (escape [] body)
  ⟨scheme, none, path, cut.queryFor scheme, cut.fragmentText⟩

/-! ## URLs against a base -/

/-- The segments of the base of a URL. -/
def segmentsOf (url : Url) : List (List Char) :=
  match url.path with
  | .segments path => path
  | .bare _ => []

/-- The URL of a text without a scheme. -/
def against (base : Url) (text : List Char) : Except Fault Url := do
  let cut := cut text
  let scheme := base.scheme
  let withPath (path : List (List Char)) : Url :=
    { base with
      path := .segments path
      query := cut.queryFor scheme
      fragment := cut.fragmentText }
  match cut.body with
  | [] =>
    .ok { base with
      query := if cut.query.isSome then cut.queryFor scheme else base.query
      fragment := cut.fragmentText }
  | c :: rest =>
    if c == '/' || c == '\\' then
      match rest with
      | d :: rest₂ =>
        if c == '/' && d == '/' then afterSlashes scheme (text.drop 2)
        else if d == '/' || d == '\\' then
          afterSlashes scheme (text.dropWhile fun c => c == '/' || c == '\\')
        else .ok (withPath (segmentsFrom scheme [] (d :: rest₂)))
      | [] => .ok (withPath [[]])
    else .ok (withPath (segmentsFrom scheme base.segmentsOf.dropLast (c :: rest)))

/-! ## Any text -/

/-- The URL of a scheme and the text after it. -/
def ofScheme (base : Option Url) (scheme text : List Char) : Except Fault Url :=
  let slashes := text.takeWhile fun c => c == '/' || c == '\\'
  if scheme == fileScheme then fileUrl text
  else if isWeb scheme then
    match base with
    | some base =>
      if slashes.length < 2 && base.scheme == scheme then against base text
      else afterSlashes scheme (text.drop slashes.length)
    | none => afterSlashes scheme (text.drop slashes.length)
  else
    match text with
    | '/' :: '/' :: rest => afterSlashes scheme rest
    | text => .ok (withoutAuthority scheme text)

/-- The path of a URL is not a list of segments. -/
def isBare (url : Url) : Bool :=
  match url.path with
  | .bare _ => true
  | .segments _ => false

/-- The URL of a text, against a base if there is one. -/
def readAgainst (base : Option Url) (text : String) : Except Fault Url :=
  let text := tidy text.toList
  match scheme? text with
  | some (scheme, rest) => ofScheme base scheme rest
  | none =>
    match base with
    | none => .error .relativeWithoutBase
    | some base =>
      if base.isBare && text.head? != some '#' then .error .relativeToOpaque
      else against base text

/-- The URL of a text. -/
def read (text : String) : Except Fault Url := readAgainst none text

/-- The URL of a link on the page of a URL. -/
def join (page : Url) (link : String) : Except Fault Url := readAgainst (some page) link

end TermTape.Url
