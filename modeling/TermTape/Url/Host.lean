import TermTape.Text.Basic
import TermTape.Text.Utf8
import TermTape.Url.Address
import TermTape.Url.Label

/-!
# Hosts

The host of a URL: none at all, a name, or an address. In schemes of the web a host is a domain name
or an address and cannot be empty; in other schemes it is any name without signs of URLs. A domain
name is kept in ASCII and in small letters: its labels one by one, with those outside ASCII in
Punycode. A URL may be faulty in more than its host, so the faults here are those of all its parts.
-/
namespace TermTape.Url

/-! ## Faults -/

/-- Why a text is no URL. -/
inductive Fault where
  | emptyHost
  | badDomain
  | badPort
  | badIpv4
  | badIpv6
  | badDomainCharacter
  | relativeWithoutBase
  | relativeToOpaque
  deriving DecidableEq, Repr

/-- The wording of a fault. -/
def Fault.message : Fault → String
  | .emptyHost => "empty host"
  | .badDomain => "invalid international domain name"
  | .badPort => "invalid port number"
  | .badIpv4 => "invalid IPv4 address"
  | .badIpv6 => "invalid IPv6 address"
  | .badDomainCharacter => "invalid domain character"
  | .relativeWithoutBase => "relative URL without a base"
  | .relativeToOpaque => "relative URL with a cannot-be-a-base base"

/-! ## Domain names -/

/-- The labels of a name. If one of them holds characters that are written to the left, all of them
keep to one direction. -/
def nameLabels? (text : List Char) : Option (List (List Char)) := do
  let labels ← (splitAt (· == '.') (← foldName? text)).mapM label?
  if labels.any (·.any isLeftward) && !labels.all keepsDirection then none
  else some labels

/-- The bytes of a name in ASCII. -/
def asciiName (bytes : Bytes) : Except Fault (List Char) :=
  match (Utf8.decode? bytes).bind nameLabels? with
  | some labels => .ok (List.intercalate ['.'] (labels.map asciiLabel))
  | none => .error .badDomain

/-! ## Hosts -/

/-- The host of a URL. -/
inductive Host where
  | empty
  | name (text : List Char)
  | ipv4 (address : Nat)
  | ipv6 (pieces : List Nat)
  deriving DecidableEq

/-- The host as a URL shows it. -/
def Host.text : Host → List Char
  | .empty => []
  | .name text => text
  | .ipv4 address => ipv4Text address
  | .ipv6 pieces => '[' :: ipv6Text pieces ++ [']']

/-- The host of a text that opens with a bracket. -/
def bracketedHost (rest : List Char) : Except Fault Host :=
  if rest.getLast? == some ']' then
    match ipv6Of? rest.dropLast with
    | some pieces => .ok (.ipv6 pieces)
    | none => .error .badIpv6
  else .error .badIpv6

/-- The host of a name in ASCII. -/
def hostOfName (name : List Char) : Except Fault Host :=
  if name.isEmpty then .error .emptyHost
  else if endsInNumber name then
    match ipv4Of? name with
    | some address => .ok (.ipv4 address)
    | none => .error .badIpv4
  else .ok (.name name)

/-- A host in a scheme of the web. -/
def webHost (text : List Char) : Except Fault Host :=
  match text with
  | [] => .error .emptyHost
  | '[' :: rest => bracketedHost rest
  | text => do hostOfName (← asciiName (unescape text))

/-- Signs of URLs that stand in no host. -/
def hostSigns : List Char :=
  ['\x00', '\t', '\n', '\r', ' ', '#', '/', ':', '<', '>', '?', '@', '[', '\\', ']', '^', '|']

/-- A host in any other scheme. -/
def plainHost (text : List Char) : Except Fault Host :=
  match text with
  | [] => .ok .empty
  | '[' :: rest => bracketedHost rest
  | text =>
    if text.any hostSigns.contains then .error .badDomainCharacter
    else .ok (.name (escape [] text))

end TermTape.Url
