import OperatorConsole.Text.Composition
import OperatorConsole.Text.LowerCase
import OperatorConsole.Text.Quoted
import OperatorConsole.Web.HostName.Punycode
import OperatorConsole.Web.HostName.Tables

/-!
Names of hosts beyond ASCII. A name consists of labels between points. A label that is sent is ASCII;
one with other characters is sent in an encoding behind a mark. Every label has to be composed, to
have its hyphens, marks and joiners at places where they are allowed, to hold no character that names
do not have, and to be readable in one direction of writing.
-/
namespace OperatorConsole.HostName

/-! ### Faults -/

/-- Why a text is no name of a host. -/
inductive Fault where
  | longName
  | emptyName
  | emptyLabel
  | longLabel
  | notComposed
  | hyphenPair
  | outerHyphen
  | leadingMark
  /-- The character at a place of a label is none of names. -/
  | character (c : Char) (place : Nat) (label : List Char)
  /-- The neighbours of a character at a place of a label do not allow it. -/
  | context (joins : Bool) (c : Char) (place : Nat) (label : List Char)
  /-- The first character of a label has no direction. -/
  | firstDirection (label : List Char)
  /-- The direction of a character at a place is not that of the label. -/
  | direction (right : Bool) (place : Nat)
  | mixedDigits
  | lastDirection
  /-- Nothing follows the mark of an encoding. -/
  | nothingEncoded
  | encodedHyphen
  | badEncoding
  deriving DecidableEq, Repr

/-- A code point as it is reported. -/
def codeText (c : Char) : String :=
  let digits := (Nat.toDigits 16 c.toNat).map Char.toUpper
  "U+" ++ String.ofList (List.replicate (4 - digits.length) '0' ++ digits)

/-- The report on a text that is no name of a host. -/
def Fault.message : Fault → String
  | .longName => "Domain too long"
  | .emptyName => "Empty domain"
  | .emptyLabel => "Empty Label"
  | .longLabel => "Label too long"
  | .notComposed => "Label must be in Normalization Form C"
  | .hyphenPair => "Label has disallowed hyphens in 3rd and 4th position"
  | .outerHyphen => "Label must not start or end with a hyphen"
  | .leadingMark => "Label begins with an illegal combining character"
  | .character c place label =>
    s!"Codepoint {codeText c} at position {place} of {quoted (String.ofList label)} not allowed"
  | .context joins c place label =>
    (if joins then "Joiner " else "Codepoint ") ++
      s!"{codeText c} not allowed at position {place} in {quoted (String.ofList label)}"
  | .firstDirection label =>
    s!"First codepoint in label {quoted (String.ofList label)} must be directionality L, R or AL"
  | .direction right place =>
    s!"Invalid direction for codepoint at position {place} in a " ++
      (if right then "right-to-left label" else "left-to-right label")
  | .mixedDigits => "Can not mix numeral types in a right-to-left label"
  | .lastDirection => "Label ends with illegal codepoint directionality"
  | .nothingEncoded => "Malformed A-label, no Punycode eligible content found"
  | .encodedHyphen => "A-label must not end with a hyphen"
  | .badEncoding => "Invalid A-label"

/-! ### Neighbours -/

/-- The character that keeps two others from being joined. -/
def nonJoiner : Char := Char.ofNat 0x200C

/-- The character that joins two others. -/
def joiner : Char := Char.ofNat 0x200D

/-- Letters join over the character. -/
def isPassed (c : Char) : Bool :=
  (hangingMarkRanges.has c && !dividingMarkRanges.has c) || passingRanges.has c

/-- The class of marks that take the vowel from a letter. -/
def vowelKiller : Nat := 9

/-- The joiner or non-joiner stands between characters that allow it; those before it are
reversed. -/
def joinerFits (c : Char) (before after : List Char) : Bool :=
  (before.head?.map (Text.markClass · == vowelKiller)).getD false ||
    (c == nonJoiner && ((before.dropWhile isPassed).head?.map joinsNextRanges.has).getD false &&
      ((after.dropWhile isPassed).head?.map joinsPreviousRanges.has).getD false)

/-- Arabic digits. -/
def isArabicDigit (c : Char) : Bool := 0x660 ≤ c.toNat && c.toNat ≤ 0x669

/-- Persian digits. -/
def isPersianDigit (c : Char) : Bool := 0x6F0 ≤ c.toNat && c.toNat ≤ 0x6F9

/-- The rule on the neighbours of a character, if it is one that needs them; the characters before it
are reversed. -/
def neighbourRule? (c : Char) (before after : List Char) : Option Bool :=
  match c.toNat with
  | 0xB7 => some (before.head? == some 'l' && after.head? == some 'l')
  | 0x375 => some ((after.head?.map greekRanges.has).getD false)
  | 0x5F3 | 0x5F4 => some ((before.head?.map hebrewRanges.has).getD false)
  | 0x30FB => some ((before ++ after).any fun d => d != c && eastAsianRanges.has d)
  | _ =>
    if isArabicDigit c then some !(before ++ after).any isPersianDigit
    else if isPersianDigit c then some !(before ++ after).any isArabicDigit
    else none

/-- What is wrong with the characters of a label after those of it that were looked at, reversed. -/
def characterFault? (label before : List Char) : List Char → Option Fault
  | [] => none
  | c :: after =>
    let place := before.length + 1
    let next := characterFault? label (c :: before) after
    if c == nonJoiner || c == joiner then
      if joinerFits c before after then next else some (.context true c place label)
    else match neighbourRule? c before after with
      | some true => next
      | some false => some (.context false c place label)
      | none => if isAllowed c then next else some (.character c place label)

/-! ### Directions -/

/-- The direction in which a character is written. -/
inductive Direction where
  | left
  | right
  | digit
  | rightDigit
  /-- The direction of the character before it. -/
  | mark
  | neutral
  deriving DecidableEq, Repr

/-- The direction of a character. -/
def directionOf (c : Char) : Direction :=
  if rightRanges.has c then .right
  else if rightDigitRanges.has c then .rightDigit
  else if digitRanges.has c then .digit
  else if hangingMarkRanges.has c && !leftMarkRanges.has c then .mark
  else if neutralRanges.has c || c == '-' || c == joiner || c == nonJoiner then .neutral
  else .left

/-- The direction is one of text from right to left. -/
def Direction.isRight (d : Direction) : Bool := d == .right || d == .rightDigit

/-- What is wrong with a character in a label of a direction. -/
def placeFault? (right : Bool) (place : Nat) (d : Direction) : Option Fault :=
  if (if right then d == .left else d.isRight) then some (.direction right place) else none

/-- A label of a direction may end with the direction. -/
def Direction.mayEnd (right : Bool) (d : Direction) : Bool :=
  d == .digit || (if right then d.isRight else d == .left)

/-- What is wrong with directions from a place of a label on; `digits` is the kind of digits so
far. -/
def turnFault? (right : Bool) (place : Nat) (digits : Option Direction) : List Direction → Option Fault
  | [] => none
  | d :: rest =>
    match placeFault? right place d with
    | some fault => some fault
    | none =>
      if right && (d == .digit || d == .rightDigit) then
        if (digits.getD d) == d then turnFault? right (place + 1) (some d) rest else some .mixedDigits
      else turnFault? right (place + 1) digits rest

/-- What is wrong with the directions of a label. Only labels with text from right to left have to
keep to one. -/
def directionFault? (label : List Char) : Option Fault :=
  let directions := label.map directionOf
  if !directions.any (·.isRight) then none
  else match directions.head? with
    | some .right | some .left =>
      let right := directions.head? == some .right
      match turnFault? right 1 none directions with
      | some fault => some fault
      | none =>
        if ((directions.reverse.find? (· != .mark)).map (·.mayEnd right)).getD false then none
        else some .lastDirection
    | _ => some (.firstDirection label)

/-! ### Labels -/

/-- The most characters of a name with a point at its end. -/
def maxName : Nat := 254

/-- The most characters of a label that is sent. -/
def maxLabel : Nat := 63

/-- What is wrong with the hyphens of a label. -/
def hyphenFault? (label : List Char) : Option Fault :=
  if ((label.drop 2).take 2) == ['-', '-'] then some .hyphenPair
  else if label.head? == some '-' || label.getLast? == some '-' then some .outerHyphen
  else none

/-- What is wrong with a label. -/
def labelFault? (label : List Char) : Option Fault :=
  if label.isEmpty then some .emptyLabel
  else if maxName < label.length then some .longLabel
  else if Text.compose label != label then some .notComposed
  else (hyphenFault? label).or <|
    if (label.head?.map isMark).getD false then some .leadingMark
    else (characterFault? label [] label).or (directionFault? label)

/-- The label, if nothing is wrong with it. -/
def checked (label : List Char) : Except Fault (List Char) :=
  match labelFault? label with
  | some fault => .error fault
  | none => .ok label

/-- The mark of a label that is encoded. -/
def encodedMark : List Char := "xn--".toList

/-- The label that is meant by one that is sent. -/
def readLabel (label : List Char) : Except Fault (List Char) :=
  if label.any (0x80 ≤ ·.toNat) then checked label
  else
    let label := label.map Text.lowerAscii
    if encodedMark.isPrefixOf label then
      match label.drop encodedMark.length with
      | [] => .error .nothingEncoded
      | encoded =>
        if encoded.getLast? == some '-' then .error .encodedHyphen
        else match Punycode.decode? encoded with
          | some decoded => checked decoded
          | none => .error .badEncoding
    else checked label

/-- The label as it is sent. -/
def writeLabel (label : List Char) : Except Fault (List Char) := do
  if label.all (·.toNat < 0x80) then
    let _ ← readLabel label
    if maxLabel < label.length then throw .longLabel else return label
  else
    let _ ← checked label
    let encoded := encodedMark ++ Punycode.encode label
    if maxLabel < encoded.length then throw .longLabel else return encoded

/-! ### Names -/

/-- The character is a point between labels. -/
def isPoint (c : Char) : Bool := [0x2E, 0x3002, 0xFF0E, 0xFF61].contains c.toNat

/-- The labels of a name, each by a function; a point at the end stays there. -/
def mapLabels (f : List Char → Except Fault (List Char)) (name : List Char) :
    Except Fault (List Char) := do
  if maxName < name.length then throw .longName
  let labels := Text.splitAt '.' (name.map fun c => if isPoint c then '.' else c)
  if labels == [[]] then throw .emptyName
  let ends := labels.getLast? == some []
  let mapped ← (if ends then labels.dropLast else labels).mapM f
  return ['.'].intercalate (if ends then mapped ++ [[]] else mapped)

/-- The name of a host as it is sent. -/
def encode (name : List Char) : Except Fault (List Char) := do
  let encoded ← mapLabels writeLabel name
  let most := if encoded.getLast? == some '.' then maxName else maxName - 1
  if most < encoded.length then throw .longName else return encoded

/-- The name of a host that is meant by one that is sent. -/
def decode (name : List Char) : Except Fault (List Char) := mapLabels readLabel name

end OperatorConsole.HostName
