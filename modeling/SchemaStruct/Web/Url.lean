import SchemaStruct.Fault
import SchemaStruct.Text.Case
import SchemaStruct.Web.Address

/-!
# Addresses of the Web

The parts of an address that matter here: its scheme, its host and its path. Controls and blanks in
front do not count, and tabulators and line breaks are taken out wherever they stand. A host in
brackets has to be a numeric address, and no character of a host may stand for a delimiter.
-/

namespace SchemaStruct

/-- The parts of an address. -/
structure Url where
  /-- The scheme, in small letters; empty if there is none. -/
  scheme : String
  /-- The host with everything that belongs to it; empty if there is none. -/
  host : String
  /-- The path. -/
  path : String
  deriving DecidableEq, Repr, Inhabited

namespace Url

/-- The text without controls and blanks in front and without tabulators and line breaks. -/
def tidy (cs : List Char) : List Char :=
  (cs.dropWhile fun c => c.toNat ≤ 32).filter fun c => c != '\t' && c != '\r' && c != '\n'

/-- Whether a character may stand in a scheme. -/
def isSchemeChar (c : Char) : Bool := c.isAlphanum || c = '+' || c = '-' || c = '.'

/-- The scheme in front of the first colon, in small letters, and the text behind the colon; all of
the text if there is no scheme. -/
def splitScheme (cs : List Char) : List Char × List Char :=
  let front := cs.takeWhile (· != ':')
  match cs.drop front.length with
  | ':' :: rest =>
    if front.head?.any Char.isAlpha && front.all isSchemeChar then (front.map Char.toLower, rest)
    else ([], cs)
  | _ => ([], cs)

/-- The host behind two slashes, and the text behind it. -/
def splitHost (cs : List Char) : List Char × List Char :=
  match cs with
  | '/' :: '/' :: rest =>
    let host := rest.takeWhile fun c => c != '/' && c != '?' && c != '#'
    (host, rest.drop host.length)
  | _ => ([], cs)

/-- The characters that become, or contain, a delimiter in their plain form. -/
def delimiterLike : Text.CharSet :=
  ⟨[(0x2047, 0x2049), (0x2100, 0x2101), (0x2105, 0x2106), (0x2A74, 0x2A74), (0xFE13, 0xFE13),
    (0xFE16, 0xFE16), (0xFE55, 0xFE56), (0xFE5F, 0xFE5F), (0xFE6B, 0xFE6B), (0xFF03, 0xFF03),
    (0xFF0F, 0xFF0F), (0xFF1A, 0xFF1A), (0xFF1F, 0xFF20)]⟩

/-- Checks a name that stands in brackets: it has to be a numeric address, and none of the old
version. -/
def checkNumeric (name : List Char) : Except ValueFault Unit :=
  if name.head? = some 'v' then
    if Address.isFuture name then .ok () else .error .futureAddress
  else if Address.isFour name then .error .oldAddress
  else if Address.isSix name then .ok ()
  else .error (.hostAddress (String.ofList (Text.quoted name)))

/-- The name of a host, without its port. Brackets stand around all of it, and nothing but a port
behind them. -/
def hostName (host : List Char) : Except ValueFault (List Char) :=
  if host.contains '[' then
    let name := (host.drop 1).takeWhile (· != ']')
    let port := host.drop (name.length + 2)
    if host.head? = some '[' && (port.isEmpty || port.head? = some ':') then .ok name
    else .error .brackets
  else .ok (host.takeWhile (· != ':'))

/-- Checks the brackets of a host. If there are some of both kinds, even in the credentials, then
the name of the host counts as one in brackets. -/
def checkBrackets (host : List Char) : Except ValueFault Unit :=
  match host.contains '[', host.contains ']' with
  | false, false => .ok ()
  | true, true => do
    -- credentials end with the last at sign
    checkNumeric (← hostName (host.reverse.takeWhile (· != '@')).reverse)
  | _, _ => .error .brackets

/-- Checks that no character of a host stands for a delimiter. -/
def checkDelimiters (host : List Char) : Except ValueFault Unit :=
  if host.any delimiterLike.contains then .error (.hostDelimiter (String.ofList host)) else .ok ()

/-- The path without the parameters behind a semicolon in its last part. -/
def withoutParameters (cs : List Char) : List Char :=
  let last := (cs.reverse.takeWhile (· != '/')).reverse
  cs.take (cs.length - last.length) ++ last.takeWhile (· != ';')

/-- The parts of a text as an address. Of an address of the web, the parameters in its path do not
count. -/
def parse (s : String) : Except Fault Url :=
  let (scheme, rest) := splitScheme (tidy s.toList)
  let (host, rest) := splitHost rest
  let path := (rest.takeWhile (· != '#')).takeWhile (· != '?')
  match checkBrackets host, checkDelimiters host with
  | .error f, _ => .error (.value f)
  | _, .error f => .error (.value f)
  | .ok _, .ok _ =>
    let scheme := String.ofList scheme
    -- only the schemes of the web have parameters in their paths
    let path := if scheme = "http" || scheme = "https" then withoutParameters path else path
    .ok { scheme, host := String.ofList host, path := String.ofList path }

/-- Whether the address is one of the web: it has a host and one of the two schemes. -/
def isWeb (u : Url) : Bool := (u.scheme == "http" || u.scheme == "https") && !u.host.isEmpty

end Url

/-- Whether a text is an address of the web. -/
def isWebAddress (s : String) : Except Fault Bool := do return (← Url.parse s).isWeb

end SchemaStruct
