import OperatorConsole.Text.Utf8

/-!
Base64. Three bytes are written as four characters, each for six bits; one or two bytes at the end
are written as two or three characters and filled up with equals signs. Reading is strict: nothing
but the alphabet, and padding only where it completes a group.
-/
namespace OperatorConsole.Base64

/-! ### Writing -/

/-- The character for six bits. -/
def sextetChar (n : Nat) : Char :=
  if n < 26 then Char.ofNat (0x41 + n)
  else if n < 52 then Char.ofNat (0x61 + (n - 26))
  else if n < 62 then Char.ofNat (0x30 + (n - 52))
  else if n = 62 then '+' else '/'

/-- The text of bytes. -/
def encode : Bytes → List Char
  | [] => []
  | [a] => [sextetChar (a.toNat / 4), sextetChar (a.toNat % 4 * 16), '=', '=']
  | [a, b] =>
    [sextetChar (a.toNat / 4), sextetChar (a.toNat % 4 * 16 + b.toNat / 16),
      sextetChar (b.toNat % 16 * 4), '=']
  | a :: b :: c :: rest =>
    sextetChar (a.toNat / 4) :: sextetChar (a.toNat % 4 * 16 + b.toNat / 16) ::
      sextetChar (b.toNat % 16 * 4 + c.toNat / 64) :: sextetChar (c.toNat % 64) :: encode rest

/-! ### Reading -/

/-- The six bits of a character of the alphabet. -/
def sextet? (c : Char) : Option Nat :=
  if 'A' ≤ c && c ≤ 'Z' then some (c.toNat - 0x41)
  else if 'a' ≤ c && c ≤ 'z' then some (c.toNat - 0x61 + 26)
  else if '0' ≤ c && c ≤ '9' then some (c.toNat - 0x30 + 52)
  else if c == '+' then some 62
  else if c == '/' then some 63
  else none

/-- Why a text is not base64. -/
inductive Fault where
  | leading
  | alphabet
  | excess
  | discontinuous
  | count (sextets : Nat)
  | padding
  deriving DecidableEq, Repr

/-- The report on a text that is not base64. -/
def Fault.message : Fault → String
  | .leading => "Leading padding not allowed"
  | .alphabet => "Only base64 data is allowed"
  | .excess => "Excess data after padding"
  | .discontinuous => "Discontinuous padding not allowed"
  | .count sextets =>
    s!"Invalid base64-encoded string: number of data characters ({sextets}) cannot be 1 more than " ++
      "a multiple of 4"
  | .padding => "Incorrect padding"

/-- The bytes of groups of six bits; what does not fill a byte is left out. -/
def bytesOf : List Nat → Bytes
  | a :: b :: c :: d :: rest =>
    UInt8.ofNat (a * 4 + b / 16) :: UInt8.ofNat (b % 16 * 16 + c / 4) :: UInt8.ofNat (c % 4 * 64 + d) ::
      bytesOf rest
  | [a, b, c] => [UInt8.ofNat (a * 4 + b / 16), UInt8.ofNat (b % 16 * 16 + c / 4)]
  | [a, b] => [UInt8.ofNat (a * 4 + b / 16)]
  | _ => []

/-- Reads on after the sextets so far, in reverse; `padded` says that an equals sign was seen, `pads`
counts those that may complete the group. -/
def scan (sextets : List Nat) (padded : Bool) (pads : Nat) : List Char → Except Fault (List Nat)
  | [] =>
    match sextets.length % 4 with
    | 0 => .ok sextets.reverse
    | 1 => .error (.count sextets.length)
    | _ => .error .padding
  | c :: rest =>
    let filled := sextets.length % 4
    if c == '=' then
      if filled < 2 then scan sextets true pads rest
      else if filled + pads < 3 then scan sextets true (pads + 1) rest
      else if rest.isEmpty then .ok sextets.reverse
      else .error .excess
    else match sextet? c with
      | none => .error .alphabet
      | some n => if padded then .error .discontinuous else scan (n :: sextets) false 0 rest

/-- The bytes that a text is written for. -/
def decode (cs : List Char) : Except Fault Bytes :=
  if cs.head? = some '=' then .error .leading else (scan [] false 0 cs).map bytesOf

end OperatorConsole.Base64
