import OperatorConsole.Number.Numeral
import OperatorConsole.Text.Percent
import OperatorConsole.Text.Quoted
import OperatorConsole.Web.HostName
import OperatorConsole.Web.HostNumber

/-!
Web addresses. An address has a scheme, a host with perhaps a user and a port, a path, a query and a
fragment. Reading brings it to one form: small letters in scheme and host, no default port, no point
names in the path of a full address, and every character that has no place in a part spelled out in
bytes. Triples that are already there stay as they are.
-/
namespace OperatorConsole

/-- The parts of an address in their one form. -/
structure Address where
  scheme : String
  user : String
  host : String
  port : Option Int
  path : String
  query : Option String
  fragment : Option String
  deriving DecidableEq, Repr

namespace Address

/-! ### Faults -/

/-- Why a text is no address. -/
inductive Fault where
  | tooLong
  | control (c : Char) (place : Nat)
  /-- A control character in a fragment that is put in. -/
  | fragmentControl (c : Char) (place : Nat)
  | port (text : String)
  | ipv4 (host : String)
  | ipv6 (host : String)
  | name (host : String)
  | pathAfterHost
  | twoSlashes
  | colon
  deriving DecidableEq, Repr

/-- The report on a text that is no address. -/
def Fault.message : Fault → String
  | .tooLong => "URL too long"
  | .control c place =>
    s!"Invalid non-printable ASCII character in URL, {quoted (String.singleton c)} at position {place}."
  | .fragmentControl c place =>
    s!"Invalid non-printable ASCII character in URL fragment component, {quoted (String.singleton c)} " ++
      s!"at position {place}."
  | .port text => s!"Invalid port: {quoted text}"
  | .ipv4 host => s!"Invalid IPv4 address: {quoted host}"
  | .ipv6 host => s!"Invalid IPv6 address: {quoted host}"
  | .name host => s!"Invalid IDNA hostname: {quoted host}"
  | .pathAfterHost => "For absolute URLs, path must be empty or begin with '/'"
  | .twoSlashes => "Relative URLs cannot have a path starting with '//'"
  | .colon => "Relative URLs cannot have a path starting with ':'"

/-! ### Spelling out -/

/-- A printable ASCII character outside a list. -/
def visibleExcept (excluded : List Char) (c : Char) : Bool :=
  0x20 ≤ c.toNat && c.toNat < 0x7F && !excluded.contains c

/-- A character that fragments keep. -/
def keepsFragment : Char → Bool := visibleExcept [' ', '"', '<', '>', '\x60']

/-- A character that queries keep. -/
def keepsQuery : Char → Bool := visibleExcept [' ', '"', '#', '<', '>']

/-- A character that paths keep. -/
def keepsPath : Char → Bool := visibleExcept [' ', '"', '#', '<', '>', '?', '\x60', '\x7b', '\x7d']

/-- A character that users keep; the colon stands between name and password. -/
def keepsUser : Char → Bool :=
  visibleExcept [' ', '"', '#', '<', '>', '?', '\x60', '\x7b', '\x7d', '/', ';', '=', '@', '[',
    '\\', ']', '^', '|']

/-- A character that hosts keep. -/
def keepsHost (c : Char) : Bool :=
  c.isAlphanum || "-._~!$&'()*+,;=\"\x60\x7b\x7d%|\\".toList.contains c

/-- The triples of the bytes of a character. -/
def spellOut (c : Char) : List Char := (Utf8.encodeChar c).flatMap Text.Percent.triple

/-- The text with what has no place in it spelled out; triples stay. -/
def quote (keep : Char → Bool) : List Char → List Char
  | '%' :: a :: b :: rest =>
    if (Text.Percent.byteOf? a b).isSome then '%' :: a :: b :: quote keep rest
    else (if keep '%' then ['%'] else spellOut '%') ++ quote keep (a :: b :: rest)
  | c :: rest => (if keep c then [c] else spellOut c) ++ quote keep rest
  | [] => []

/-! ### Hosts -/

/-- A host in its one form: a number as it is, a name of ASCII in small letters, another name in its
encoding. -/
def readHost (cs : List Char) : Except Fault (List Char) :=
  if HostNumber.looksIpv4 cs then
    if HostNumber.isIpv4 cs then .ok cs else .error (.ipv4 (String.ofList cs))
  else if cs.head? == some '[' && cs.getLast? == some ']' && 2 ≤ cs.length then
    let inner := (cs.drop 1).dropLast
    if HostNumber.isIpv6 inner then .ok inner else .error (.ipv6 (String.ofList cs))
  else if cs.all (·.toNat < 0x80) then .ok (quote keepsHost (cs.map Text.lowerAscii))
  else (HostName.encode (Text.lower cs)).mapError fun _ => .name (String.ofList cs)

/-- The ports that are left out. -/
def defaultPort? (scheme : String) : Option Int :=
  [("ftp", 21), ("http", 80), ("https", 443), ("ws", 80), ("wss", 443)].lookup scheme

/-- A port; nothing when it is empty or the default of the scheme. -/
def readPort (scheme : String) (cs : List Char) : Except Fault (Option Int) :=
  if cs.isEmpty then .ok none
  else match Numeral.readWhole cs with
    | .ok n => .ok (if defaultPort? scheme == some n then none else some n)
    | .error _ => .error (.port (String.ofList cs))

/-- The user before the last at sign, the host and the port. -/
def splitAuthority (cs : List Char) : List Char × List Char × List Char :=
  let (user, rest) := match Text.cut '@' cs.reverse with
    | (host, some user) => (user.reverse, host.reverse)
    | (_, none) => ([], cs)
  let host := if rest.head? == some '[' && rest.contains ']' then
      (rest.reverse.dropWhile (· != ']')).reverse
    else rest.takeWhile (· != ':')
  let after := rest.drop host.length
  (user, host, if after.head? == some ':' then after.drop 1 else after)

/-! ### Paths -/

/-- Takes one name of a path into the names so far. -/
def stepName (names : List (List Char)) (name : List Char) : List (List Char) :=
  if name == ['.'] then names
  else if name == ['.', '.'] then if names == [] || names == [[]] then names else names.dropLast
  else names ++ [name]

/-- The path without the names that are one or two points. -/
def dropPoints (cs : List Char) : List Char :=
  let names := Text.splitAt '/' cs
  if names.contains ['.'] || names.contains ['.', '.'] then
    ['/'].intercalate (names.foldl stepName [])
  else cs

/-! ### Reading and writing -/

/-- The scheme in front of a colon, and what follows. -/
def takeScheme (cs : List Char) : List Char × List Char :=
  let isChar (c : Char) : Bool := c.isAlphanum || c == '+' || c == '.' || c == '-'
  match cs.takeWhile isChar, cs.dropWhile isChar with
  | c :: name, ':' :: rest => if c.isAlpha then (c :: name, rest) else ([], cs)
  | [], ':' :: rest => ([], rest)
  | _, _ => ([], cs)

/-- The authority after two slashes, and what follows. -/
def takeAuthority : List Char → List Char × List Char
  | '/' :: '/' :: rest =>
    let ends (c : Char) : Bool := c == '/' || c == '?' || c == '#'
    (rest.takeWhile (!ends ·), rest.dropWhile (!ends ·))
  | cs => ([], cs)

/-- The address of given parts, each as it is written. -/
def ofParts (scheme authority path : List Char) (query fragment : Option (List Char)) :
    Except Fault Address := do
  let (user, host, port) := splitAuthority authority
  let name := String.ofList (scheme.map Text.lowerAscii)
  let user := quote keepsUser user
  let host ← readHost host
  let port ← readPort (String.ofList scheme) port
  let hasAuthority := !user.isEmpty || !host.isEmpty || port.isSome
  if hasAuthority && !path.isEmpty && path.head? != some '/' then throw .pathAfterHost
  if scheme.isEmpty && !hasAuthority then
    if ['/', '/'].isPrefixOf path then throw .twoSlashes
    if path.head? == some ':' then throw .colon
  let path := if !scheme.isEmpty || hasAuthority then dropPoints path else path
  return {
    scheme := name, user := String.ofList user, host := String.ofList host, port := port
    path := String.ofList (quote keepsPath path)
    query := query.map (String.ofList ∘ quote keepsQuery)
    fragment := fragment.map (String.ofList ∘ quote keepsFragment) }

/-- The longest text that is read as an address. -/
def maxLength : Nat := 65536

/-- A control character, which no address holds. -/
def isControl (c : Char) : Bool := c.toNat < 0x20 || c.toNat == 0x7F

/-- The address that a text denotes. -/
def read (s : String) : Except Fault Address := do
  let cs := s.toList
  if maxLength < cs.length then throw .tooLong
  match cs.find? isControl with
  | some c => throw (.control c (cs.takeWhile (!isControl ·)).length)
  | none =>
    let (scheme, rest) := takeScheme cs
    let (authority, rest) := takeAuthority rest
    let (rest, fragment) := Text.cut '#' rest
    let (path, query) := Text.cut '?' rest
    ofParts scheme authority path query fragment

/-- User, host and port as they stand between the slashes. -/
def authority (a : Address) : String :=
  (if a.user == "" then "" else a.user ++ "@") ++
    (if a.host.contains ':' then "[" ++ a.host ++ "]" else a.host) ++
    (match a.port with | some n => s!":{n}" | none => "")

/-- The text of an address. -/
def text (a : Address) : String :=
  (if a.scheme == "" then "" else a.scheme ++ ":") ++
    (if a.authority == "" then "" else "//" ++ a.authority) ++ a.path ++
    (match a.query with | some q => "?" ++ q | none => "") ++
    (match a.fragment with | some f => "#" ++ f | none => "")

/-- The address is full: it has a scheme and a host. -/
def isFull (a : Address) : Bool := a.scheme != "" && a.host != ""

/-- The path, at least a slash, and the query. -/
def target (a : Address) : String :=
  (if a.path == "" then "/" else a.path) ++ (match a.query with | some q => "?" ++ q | none => "")

/-- The address with another path and query. -/
def withTarget (a : Address) (target : List Char) : Except Fault Address :=
  let (path, query) := Text.cut '?' target
  ofParts a.scheme.toList a.authority.toList path query (a.fragment.map String.toList)

/-- A base address: its path ends with a slash. -/
def asBase (a : Address) : Except Fault Address :=
  if a.target.toList.getLast? == some '/' then .ok a else a.withTarget (a.target ++ "/").toList

/-- A full address stands for itself, another one goes on after the path of the base. -/
def resolve (base a : Address) : Except Fault Address :=
  if a.isFull then .ok a
  else base.withTarget (base.target.toList ++ a.target.toList.dropWhile (· == '/'))

/-- The port, the default one of the scheme if none is written. -/
def actualPort (a : Address) : Option Int := a.port <|> defaultPort? a.scheme

/-- The host as it is read: an encoded name stands for the name that it means. -/
def hostName (a : Address) : Except HostName.Fault (List Char) :=
  if HostName.encodedMark.isPrefixOf a.host.toList then HostName.decode a.host.toList
  else .ok a.host.toList

/-- The address with another host in its one form. -/
def withHost (a : Address) (host : String) : Except Fault Address :=
  ofParts a.scheme.toList { a with host := host }.authority.toList a.path.toList
    (a.query.map String.toList) (a.fragment.map String.toList)

/-- The fragment with its triples read; empty when there is none. -/
def fragmentText (a : Address) : List Char :=
  Text.Percent.decode ((a.fragment.map String.toList).getD [])

/-- The address with another fragment. -/
def withFragment (a : Address) (fragment : List Char) : Except Fault Address :=
  match fragment.find? isControl with
  | some c => .error (.fragmentControl c (fragment.takeWhile (!isControl ·)).length)
  | none => .ok { a with fragment := some (String.ofList (quote keepsFragment fragment)) }

end Address

end OperatorConsole
