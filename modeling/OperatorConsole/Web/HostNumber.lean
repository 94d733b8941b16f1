import OperatorConsole.Number.Numeral
import OperatorConsole.Text.Lines
import OperatorConsole.Text.Percent

/-!
Numbers of hosts. A host is named by four numbers below 256 between points, or by eight groups of
hexadecimal digits between colons, of which one run of zeros may be left out.
-/
namespace OperatorConsole.HostNumber

/-- Four runs of digits between points, of whatever size. -/
def looksIpv4 (cs : List Char) : Bool :=
  let parts := Text.splitAt '.' cs
  parts.length == 4 && parts.all fun part => part != [] && part.all Char.isDigit

/-- A number below 256 without a zero in front. -/
def isOctet (cs : List Char) : Bool :=
  cs != [] && cs.length ≤ 3 && cs.all Char.isDigit && Numeral.natOf cs ≤ 255 &&
    !(cs.length > 1 && cs.head? == some '0')

/-- Four numbers below 256 between points. -/
def isIpv4 (cs : List Char) : Bool :=
  let parts := Text.splitAt '.' cs
  parts.length == 4 && parts.all isOctet

/-- Up to four hexadecimal digits. -/
def isHextet (cs : List Char) : Bool :=
  cs != [] && cs.length ≤ 4 && cs.all fun c => (Text.Percent.digitValue? c).isSome

/-- Groups of hexadecimal digits between colons, with at most one gap and perhaps four numbers at the
end, and perhaps the name of a scope. -/
def isIpv6 (cs : List Char) : Bool :=
  let (address, scope) := Text.cut '%' cs
  let goodScope := match scope with
    | none => true
    | some name => name != [] && !name.contains '%' && !name.contains '/'
  let parts := Text.splitAt ':' address
  let lastIpv4 := (parts.getLast?.getD []).contains '.'
  let groups := if lastIpv4 then parts.dropLast ++ [['0'], ['0']] else parts
  let gaps := ((groups.drop 1).dropLast.filter (· == [])).length
  let inner := groups.filter (· != [])
  let startsEmpty := groups.head? == some []
  let endsEmpty := groups.getLast? == some []
  let secondEmpty := groups[1]? == some []
  let beforeLastEmpty := groups.reverse[1]? == some []
  goodScope && 3 ≤ parts.length && groups.length ≤ 9 && inner.all isHextet &&
    (!lastIpv4 || isIpv4 (parts.getLast?.getD [])) &&
    (if gaps == 0 then groups.length == 8 && !startsEmpty && !endsEmpty
      else gaps == 1 && (!startsEmpty || secondEmpty) && (!endsEmpty || beforeLastEmpty) &&
        inner.length ≤ 7)

end OperatorConsole.HostNumber
