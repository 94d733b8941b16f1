import OperatorConsole.Web.Address

/-!
References. A reference leads from one address to another: what it does not say itself is taken from
the address that it stands at. A path goes on after the last slash of the other path; names that are
one or two points are steps to stay or to go up. Parameters after a semicolon at the end of a path are
no part of it, and not every scheme has references at all.
-/
namespace OperatorConsole

/-- The parts of the text of an address, as they are written; an empty part is as good as none. -/
structure Reference where
  scheme : List Char
  authority : List Char
  path : List Char
  /-- What follows a semicolon in the last name of the path. -/
  parameters : List Char
  query : List Char
  fragment : List Char
  deriving DecidableEq, Repr

namespace Reference

/-! ### Schemes -/

/-- The schemes whose addresses have references. -/
def relativeSchemes : List String := [
  "", "ftp", "http", "gopher", "nntp", "imap", "wais", "file", "https", "shttp", "mms", "prospero",
  "rtsp", "rtsps", "rtspu", "sftp", "svn", "svn+ssh", "ws", "wss"]

/-- The schemes whose addresses have an authority. -/
def authoritySchemes : List String := [
  "", "ftp", "http", "gopher", "nntp", "telnet", "imap", "wais", "file", "mms", "https", "shttp",
  "snews", "prospero", "rtsp", "rtsps", "rtspu", "rsync", "svn", "svn+ssh", "sftp", "nfs", "git",
  "git+ssh", "ws", "wss"]

/-- The schemes whose paths have parameters. -/
def parameterSchemes : List String := [
  "", "ftp", "hdl", "prospero", "http", "imap", "https", "shttp", "rtsp", "rtsps", "rtspu", "sip",
  "sips", "mms", "sftp", "tel"]

/-- The scheme is one of a list. -/
def isOf (schemes : List String) (scheme : List Char) : Bool := schemes.contains (String.ofList scheme)

/-! ### Reading and writing -/

/-- A path without the parameters of its last name, and the parameters. -/
def cutParameters (path : List Char) : List Char × List Char :=
  let last := (path.reverse.takeWhile (· != '/')).reverse
  let (name, parameters) := Text.cut ';' last
  (path.take (path.length - last.length) ++ name, parameters.getD [])

/-- The parts of a text; `scheme` is the one of a text without a scheme. -/
def ofText (scheme cs : List Char) : Reference :=
  let (found, rest) := Address.takeScheme cs
  let scheme := if found.isEmpty then scheme else found
  let (authority, rest) := Address.takeAuthority rest
  let (rest, fragment) := Text.cut '#' rest
  let (path, query) := Text.cut '?' rest
  let (path, parameters) := if isOf parameterSchemes scheme then cutParameters path else (path, [])
  ⟨scheme, authority, path, parameters, query.getD [], fragment.getD []⟩

/-- A part behind the character in front of it; nothing when it is empty. -/
def behind (c : Char) (part : List Char) : List Char := if part.isEmpty then [] else c :: part

/-- The text of the parts. -/
def text (r : Reference) : List Char :=
  let path := r.path ++ behind ';' r.parameters
  let hasAuthority := !r.authority.isEmpty || (!r.scheme.isEmpty && isOf authoritySchemes r.scheme) ||
    ['/', '/'].isPrefixOf path
  let place :=
    if hasAuthority then
      '/' :: '/' :: r.authority ++ if path.isEmpty || path.head? == some '/' then path else '/' :: path
    else path
  (if r.scheme.isEmpty then [] else r.scheme ++ [':']) ++ place ++ behind '?' r.query ++
    behind '#' r.fragment

/-! ### Joining -/

/-- The names of a path without those of one or two points; a step at the end leaves a slash. -/
def mergePoints (names : List (List Char)) : List (List Char) :=
  let step (found : List (List Char)) (name : List Char) : List (List Char) :=
    if name == ['.', '.'] then found.dropLast else if name == ['.'] then found else found ++ [name]
  let found := names.foldl step []
  match names.getLast? with
  | some ['.'] | some ['.', '.'] => found ++ [[]]
  | _ => found

/-- The path that a path leads to from another one. -/
def mergePaths (base path : List Char) : List Char :=
  let names := Text.splitAt '/' path
  let baseNames := Text.splitAt '/' base
  let baseNames := if baseNames.getLast? == some [] then baseNames else baseNames.dropLast
  let all := if path.head? == some '/' then names
    else
      let joined := baseNames ++ names
      let inner := (joined.drop 1).dropLast.filter (· != [])
      joined.take 1 ++ inner ++ (joined.drop 1).getLast?.toList
  match ['/'].intercalate (mergePoints all) with
  | [] => ['/']
  | cs => cs

/-- The text that a text leads to from the text of an address. -/
def join (base cs : List Char) : List Char :=
  if base.isEmpty then cs
  else if cs.isEmpty then base
  else
    let b := ofText [] base
    let r := ofText b.scheme cs
    if r.scheme != b.scheme || !isOf relativeSchemes r.scheme then cs
    else if isOf authoritySchemes r.scheme && !r.authority.isEmpty then r.text
    else
      let authority := if isOf authoritySchemes r.scheme then b.authority else r.authority
      if r.path.isEmpty && r.parameters.isEmpty then
        let query := if r.query.isEmpty then b.query else r.query
        text ⟨r.scheme, authority, b.path, b.parameters, query, r.fragment⟩
      else text { r with authority := authority, path := mergePaths b.path r.path }

end Reference

end OperatorConsole
