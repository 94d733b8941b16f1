import OperatorConsole.Disk.Path
import OperatorConsole.Text.LowerCase
import OperatorConsole.Text.Percent
import OperatorConsole.Text.Quoted
import OperatorConsole.Text.Ranges
import OperatorConsole.Web.HostNumber

/-!
Locators: texts that say where content is. A locator is a path of the local disk, a `file` address
of one, or an address of the web. An address is split into scheme, host and path; query and fragment
do not matter here.
-/
namespace OperatorConsole.Locator

/-! ### Parts of an address -/

/-- The scheme, host and path of an address; a part that is missing is empty. -/
structure Parts where
  scheme : List Char
  host : List Char
  path : List Char
  deriving DecidableEq, Repr

/-- Why a locator cannot be used. -/
inductive Fault where
  | brackets
  /-- What stands between brackets is no number of a host. -/
  | noHostNumber (host : String)
  /-- A host of four numbers stands between brackets. -/
  | bracketedIpv4
  /-- What stands between brackets claims to be a number of a later version. -/
  | badVersion
  | badHost (host : String)
  | badScheme (scheme : String)
  deriving DecidableEq, Repr

/-- The report on a locator. -/
def Fault.message : Fault → String
  | .brackets => "Invalid IPv6 URL"
  | .noHostNumber host => s!"{quoted host} does not appear to be an IPv4 or IPv6 address"
  | .bracketedIpv4 => "An IPv4 address cannot be in brackets"
  | .badVersion => "IPvFuture address is invalid"
  | .badHost host => s!"netloc '{host}' contains invalid characters under NFKC normalization"
  | .badScheme scheme => s!"Unsupported locator scheme '{scheme}'"

/-- The text without blanks and controls in front and without tabs and line ends anywhere. -/
def clean (cs : List Char) : List Char :=
  (cs.dropWhile (·.toNat ≤ 0x20)).filter fun c => c != '\t' && c != '\n' && c != '\r'

/-- A character of a scheme. -/
def isSchemeChar (c : Char) : Bool := c.isAlphanum || c == '+' || c == '-' || c == '.'

/-- The scheme in front of a colon, in small letters, and what follows; a scheme begins with a
letter. -/
def takeScheme (cs : List Char) : List Char × List Char :=
  let name := cs.takeWhile (· != ':')
  match name, cs.dropWhile (· != ':') with
  | c :: rest, _ :: after =>
    if c.isAlpha && rest.all isSchemeChar then ((c :: rest).map Text.lowerAscii, after) else ([], cs)
  | _, _ => ([], cs)

/-- A character that ends a host. -/
def endsHost (c : Char) : Bool := c == '/' || c == '?' || c == '#'

/-- The host between two slashes and the path, and what follows. -/
def takeHost : List Char → List Char × List Char
  | '/' :: '/' :: rest => (rest.takeWhile (!endsHost ·), rest.dropWhile (!endsHost ·))
  | cs => ([], cs)

/-- Characters whose compatible form has a delimiter in it. -/
def delimiterLike : Text.Ranges := [
  (0x2047, 0x2049), (0x2100, 0x2101), (0x2105, 0x2106), (0x2A74, 0x2A74), (0xFE13, 0xFE13),
  (0xFE16, 0xFE16), (0xFE55, 0xFE56), (0xFE5F, 0xFE5F), (0xFE6B, 0xFE6B), (0xFF03, 0xFF03),
  (0xFF0F, 0xFF0F), (0xFF1A, 0xFF1A), (0xFF1F, 0xFF20)]

/-- The text before the fragment and the query. -/
def dropQuery (cs : List Char) : List Char := cs.takeWhile fun c => c != '#' && c != '?'

/-- The number of a host of a later version: `v`, its hexadecimal digits, a point and some text. -/
def isLaterVersion (cs : List Char) : Bool :=
  match Text.cut '.' (cs.drop 1) with
  | (version, some text) =>
    version != [] && version.all (fun c => (Text.Percent.digitValue? c).isSome) && text != []
  | (_, none) => false

/-- What is wrong with a host that stands between brackets. -/
def numberFault? (host : List Char) : Option Fault :=
  if host.head? == some 'v' then if isLaterVersion host then none else some .badVersion
  else if HostNumber.isIpv4 host then some .bracketedIpv4
  else if HostNumber.isIpv6 host then none
  else some (.noHostNumber (String.ofList host))

/-- What is wrong with the brackets of a host. They come in both kinds or not at all; after the user
nothing stands in front of them, and nothing but a port behind them. -/
def bracketFault? (host : List Char) : Option Fault :=
  if host.contains '[' != host.contains ']' then some .brackets
  else if !host.contains '[' then none
  else
    let place := match Text.cut '@' host.reverse with
      | (last, some _) => last.reverse
      | (_, none) => host
    match Text.cut '[' place with
    | (front, some inner) =>
      let (number, port) := Text.cut ']' inner
      let port := port.getD []
      if front != [] || (port != [] && port.head? != some ':') then some .brackets
      else numberFault? number
    | (_, none) => numberFault? (Text.cut ':' place).1

/-- The parts of a locator. The brackets of its host are right, and no character of it looks like a
delimiter. -/
def split (locator : String) : Except Fault Parts :=
  let (scheme, rest) := takeScheme (clean locator.toList)
  let (host, rest) := takeHost rest
  match bracketFault? host with
  | some fault => .error fault
  | none =>
    if host.any delimiterLike.has then .error (.badHost (String.ofList host))
    else .ok ⟨scheme, host, dropQuery rest⟩

/-! ### What a locator names -/

/-- The schemes of the web. -/
def webSchemes : List String := ["http", "https"]

/-- The path of the local disk that a locator names, or nothing when it names an address of the web.
A single letter is no scheme but part of a path. -/
def localPath (locator : String) : Except Fault (Option DiskPath) := do
  let parts ← split locator
  let scheme := String.ofList parts.scheme
  if webSchemes.contains scheme then return none
  if scheme == "file" then
    let host := if parts.host == "localhost".toList then [] else parts.host
    return some (DiskPath.parse (Text.Percent.decode (host ++ parts.path)))
  if parts.scheme.length ≤ 1 then return some (DiskPath.ofString locator)
  throw (.badScheme scheme)

/-- The last name of the path of a locator, its triples read. -/
def fileName (locator : String) : Except Fault String := do
  let parts ← split locator
  return String.ofList (Text.Percent.decode (DiskPath.parse parts.path).name.toList)

end OperatorConsole.Locator
