import OperatorConsole.Text.Identifier
import OperatorConsole.Text.Printable

/-!
Literal values. A text is read as tokens, brackets have to match, and operands and operators have to
take turns. A fault of a token counts before one of the order of tokens.
-/
namespace OperatorConsole.Terminal.Literal

/-! ### Faults -/

/-- Why a text is no literal value. -/
inductive Fault where
  | misplaced
  | missingComma
  | keyColon
  | openText (triple : Bool)
  | unmatched (bracket : Char)
  | mismatched (bracket opened : Char)
  | neverClosed (bracket : Char)
  | number (kind : String)
  | digit (c : Char) (kind : String)
  | leadingZeros
  | character (c : Char)
  | continuation
  | mixedTexts
  | assignedName
  | assignedLiteral
  deriving DecidableEq, Repr

/-- What is said of a text that is no literal value. -/
def Fault.message : Fault → String
  | .misplaced => "invalid syntax"
  | .missingComma => "invalid syntax. Perhaps you forgot a comma?"
  | .keyColon => "':' expected after dictionary key"
  | .openText triple =>
    "unterminated " ++ (if triple then "triple-quoted " else "") ++
      "string literal (detected at line 1)"
  | .unmatched bracket => "unmatched '" ++ bracket.toString ++ "'"
  | .mismatched bracket opened =>
    "closing parenthesis '" ++ bracket.toString ++ "' does not match opening parenthesis '" ++
      opened.toString ++ "'"
  | .neverClosed bracket => "'" ++ bracket.toString ++ "' was never closed"
  | .number kind => s!"invalid {kind} literal"
  | .digit c kind => "invalid digit '" ++ c.toString ++ s!"' in {kind} literal"
  | .leadingZeros =>
    "leading zeros in decimal integer literals are not permitted; use an 0o prefix for octal integers"
  | .character c =>
    let code := (Nat.toDigits 16 c.toNat).map Char.toUpper
    let code := String.ofList (List.replicate (4 - code.length) '0' ++ code)
    if Text.isPrintable c then "invalid character '" ++ c.toString ++ s!"' (U+{code})"
    else s!"invalid non-printable character U+{code}"
  | .continuation => "unexpected character after line continuation character"
  | .mixedTexts => "cannot mix bytes and nonbytes literals"
  | .assignedName => "invalid syntax. Maybe you meant '==' or ':=' instead of '='?"
  | .assignedLiteral => "cannot assign to literal here. Maybe you meant '==' instead of '='?"

/-! ### Tokens -/

/-- A token of a value. -/
inductive Token where
  | number
  | text (isBytes : Bool)
  | name (word : String)
  | sign (text : String)
  deriving DecidableEq, Repr

/-- A letter, an underscore, a digit or anything beyond ASCII. -/
def isNamePart (c : Char) : Bool := c.isAlphanum || c == '_' || 0x80 ≤ c.toNat

/-- The words that may stand right after a number. -/
def wordsAfterNumber : List String := ["and", "else", "for", "if", "in", "is", "or", "not"]

/-- What follows a number, if that may follow it. -/
def endNumber (kind : String) (cs : List Char) : Except Fault (List Char) :=
  match cs with
  | c :: _ =>
    if isNamePart c && c.toNat < 0x80 && !wordsAfterNumber.any fun w => w.toList.isPrefixOf cs then
      .error (.number kind)
    else .ok cs
  | [] => .ok []

/-- Digits with single underscores between them taken away; an underscore is in front of a digit. -/
def dropDigits (isDigit : Char → Bool) : List Char → Except Unit (List Char)
  | '_' :: c :: rest => if isDigit c then dropDigits isDigit rest else .error ()
  | ['_'] => .error ()
  | c :: rest => if isDigit c then dropDigits isDigit rest else .ok (c :: rest)
  | [] => .ok []

/-- What follows a number of a base after its mark. -/
def endOfBase (kind : String) (isDigit : Char → Bool) (cs : List Char) : Except Fault (List Char) := do
  let cs := match cs with
    | '_' :: rest => rest
    | cs => cs
  let check (cs : List Char) : Except Fault Unit :=
    match cs with
    | c :: _ => if c.isDigit && kind != "hexadecimal" then .error (.digit c kind) else .ok ()
    | [] => .ok ()
  match cs with
  | c :: rest =>
    if !isDigit c then
      check cs
      throw (.number kind)
    match dropDigits isDigit rest with
    | .error () => throw (.number kind)
    | .ok rest =>
      check rest
      endNumber kind rest
  | [] => throw (.number kind)

/-- What follows the exponent of a number, if there is one; nothing is there without an exponent. -/
def endOfExponent (cs : List Char) : Except Fault (Option (List Char)) :=
  let digits (cs : List Char) : Except Fault (Option (List Char)) :=
    match dropDigits Char.isDigit cs with
    | .ok rest => .ok (some rest)
    | .error () => .error (.number "decimal")
  match cs with
  | e :: s :: d :: rest =>
    if e != 'e' && e != 'E' then .ok none
    else if s == '+' || s == '-' then
      if d.isDigit then digits (d :: rest) else .error (.number "decimal")
    else if s.isDigit then digits (s :: d :: rest) else .ok none
  | [e, s] =>
    if e != 'e' && e != 'E' then .ok none
    else if s == '+' || s == '-' then .error (.number "decimal")
    else if s.isDigit then .ok (some []) else .ok none
  | _ => .ok none

/-- What follows a number from its fraction or exponent on; `zeros` says that its whole part must
have been a fraction's. -/
def endOfReal (zeros : Bool) (cs : List Char) : Except Fault (List Char) := do
  let bad : Fault := .number "decimal"
  let (cs, isReal) ← match cs with
    | '.' :: rest =>
      match rest with
      | d :: _ =>
        if d.isDigit then
          match dropDigits Char.isDigit rest with
          | .ok rest => pure (rest, true)
          | .error () => throw bad
        else pure (rest, true)
      | [] => pure (rest, true)
    | cs => pure (cs, false)
  let (cs, isReal) := match ← endOfExponent cs with
    | some rest => (rest, true)
    | none => (cs, isReal)
  match cs with
  | c :: rest =>
    if c == 'j' || c == 'J' then endNumber "imaginary" rest
    else if zeros && !isReal then throw .leadingZeros
    else endNumber "decimal" (c :: rest)
  | [] => if zeros && !isReal then throw .leadingZeros else return []

/-- What follows a number that begins a text. -/
def endOfNumber (cs : List Char) : Except Fault (List Char) :=
  match cs with
  | '0' :: c :: rest =>
    let small := c.toLower
    let isHex (d : Char) : Bool :=
      d.isDigit || ('a' ≤ d.toLower && d.toLower ≤ 'f' && d.toNat < 0x80)
    if small == 'x' then endOfBase "hexadecimal" isHex rest
    else if small == 'o' then endOfBase "octal" (fun d => '0' ≤ d && d ≤ '7') rest
    else if small == 'b' then endOfBase "binary" (fun d => d == '0' || d == '1') rest
    else
      match dropDigits Char.isDigit (c :: rest) with
      | .error () => .error (.number "decimal")
      | .ok after =>
        let digits := (c :: rest).take (rest.length + 1 - after.length)
        endOfReal (digits.any fun d => d != '0' && d != '_') after
  | cs =>
    match cs with
    | '.' :: _ => endOfReal false cs
    | cs =>
      match dropDigits Char.isDigit cs with
      | .error () => .error (.number "decimal")
      | .ok after => endOfReal false after

/-- What follows the text whose quote was just read. -/
def endOfText (quote : Char) : List Char → Option (List Char)
  | [] => none
  | '\\' :: _ :: rest => endOfText quote rest
  | c :: rest => if c == quote then some rest else endOfText quote rest

/-- What follows the text whose three quotes were just read. -/
def endOfTriple (quote : Char) : List Char → Option (List Char)
  | [] => none
  | '\\' :: _ :: rest => endOfTriple quote rest
  | c :: rest =>
    if c == quote && [quote, quote].isPrefixOf rest then some (rest.drop 2) else endOfTriple quote rest

/-- The words that may stand in front of a text. -/
def textMarks : List String := ["r", "b", "u", "f", "br", "rb", "fr", "rf"]

/-- The signs of several characters, the longest first. -/
def longSigns : List String := [
  "...", "**=", "//=", ">>=", "<<=", "!=", "->", "**", "//", "<<", ">>", "<=", ">=", "==", ":=", "+=",
  "-=", "*=", "/=", "%=", "@=", "&=", "|=", "^="]

/-- The bracket that closes another one. -/
def closing (bracket : Char) : Char := if bracket == '(' then ')' else if bracket == '{' then '\x7d' else ']'

/-- The text that begins after a quote, as a token, and what follows it. -/
def takeText (isBytes : Bool) (quote : Char) (rest : List Char) : Except Fault (Token × List Char) :=
  if [quote, quote].isPrefixOf rest then
    match endOfTriple quote (rest.drop 2) with
    | some after => .ok (.text isBytes, after)
    | none => .error (.openText true)
  else match endOfText quote rest with
    | some after => .ok (.text isBytes, after)
    | none => .error (.openText false)

/-- The first token and what follows it; the brackets that are open before it are given. -/
def takeToken (opened : List Char) (c : Char) (rest : List Char) :
    Except Fault (Token × List Char × List Char) := do
  let cs := c :: rest
  if c == '\'' || c == '"' then
    let (token, after) ← takeText false c rest
    return (token, after, opened)
  else if c.isDigit || (c == '.' && (rest.head?.map Char.isDigit).getD false) then
    return (.number, ← endOfNumber cs, opened)
  else if isNamePart c then
    let word := cs.takeWhile isNamePart
    let after := cs.dropWhile isNamePart
    match after with
    | q :: inner =>
      let isMark := textMarks.contains (String.ofList (word.map Char.toLower))
      if (q == '\'' || q == '"') && isMark then
        let (token, after) ← takeText ((word.map Char.toLower).contains 'b') q inner
        return (token, after, opened)
    | [] => pure ()
    match word with
    | c :: others =>
      if !Text.leadsIdentifier c then throw (.character c)
      match others.find? (!Text.isIdentifierPart ·) with
      | some d => throw (.character d)
      | none => return (.name (String.ofList word), after, opened)
    | [] => throw .misplaced
  else if c == '\\' then throw .continuation
  else if c == '(' || c == '{' || c == '[' then return (.sign c.toString, rest, c :: opened)
  else if c == ')' || c == '\x7d' || c == ']' then
    match opened with
    | [] => throw (.unmatched c)
    | b :: others =>
      if closing b == c then return (.sign c.toString, rest, others) else throw (.mismatched c b)
  else if c.toNat < 0x20 || c.toNat == 0x7F then throw (.character c)
  else
    match longSigns.find? fun sign => sign.toList.isPrefixOf cs with
    | some sign => return (.sign sign, cs.drop sign.length, opened)
    | none => return (.sign c.toString, rest, opened)

/-- At most so many tokens of a text, and the brackets that stay open; a comment is no token. -/
def takeTokens (opened : List Char) : Nat → List Char → Except Fault (List Token × List Char)
  | 0, _ => .ok ([], opened)
  | steps + 1, cs =>
    match cs.dropWhile fun c => c == ' ' || c == '\t' || c == '\x0c' with
    | [] => .ok ([], opened)
    | '#' :: _ => .ok ([], opened)
    | c :: rest => do
      let (token, rest, opened) ← takeToken opened c rest
      let (tokens, opened) ← takeTokens opened steps rest
      return (token :: tokens, opened)

/-! ### The order of tokens -/

/-- What a bracket holds: values in a list, or keys and values; or no bracket but one value. -/
inductive Content where
  | values
  | call
  | set
  | keys
  | single
  deriving DecidableEq, Repr

/-- What was read last. -/
inductive Last where
  /-- Nothing yet in this bracket. -/
  | start
  /-- Something that has to go on with a value. -/
  | operator
  | comma
  | literal
  | textValue (isBytes : Bool)
  | name
  | value
  deriving DecidableEq, Repr

/-- The last token ends a value. -/
def Last.endsValue : Last → Bool
  | .literal | .textValue _ | .name | .value => true
  | .start | .operator | .comma => false

/-- The words that stand between two values, or in front of one. -/
def linkWords : List String := ["and", "or", "in", "is", "if", "else", "not"]

/-- The words that no value begins with. -/
def foreignWords : List String := [
  "as", "assert", "async", "break", "class", "continue", "def", "del", "elif", "except", "finally",
  "for", "from", "global", "import", "nonlocal", "pass", "raise", "return", "try", "while", "with"]

/-- The signs between two values. -/
def linkSigns : List String := [
  "*", "/", "//", "%", "@", "**", "<<", ">>", "&", "|", "^", "<", ">", "<=", ">=", "==",
  "!="]

/-- A fault of the order of tokens; `toEnd` says that the tokens from there on are one value. -/
structure OrderFault where
  fault : Fault
  toEnd : Bool

/-- A token has no place. -/
def misplaced : Option OrderFault := some ⟨.misplaced, false⟩

/-- A value stands where another one has just ended; `after` is what is wrong with it alone. -/
def adjacent (depth : List Content) (last : Last) (isText : Bool) (after : Option OrderFault) :
    Option OrderFault :=
  if last == .name && isText then misplaced
  else some ⟨if depth.isEmpty then .misplaced else .missingComma, after.isNone⟩

/-- What is wrong with the order of tokens inside some brackets. -/
def orderFault? (depth : List Content) (last : Last) : List Token → Option OrderFault
  | [] => if depth.isEmpty && !(last.endsValue || last == .comma) then misplaced else none
  | .number :: rest =>
    if last.endsValue then adjacent depth last false (orderFault? [.single] .literal rest)
    else orderFault? depth .literal rest
  | .text isBytes :: rest =>
    match last with
    | .textValue before =>
      if before == isBytes then orderFault? depth last rest else some ⟨.mixedTexts, false⟩
    | last =>
      if last.endsValue then
        adjacent depth last true (orderFault? [.single] (.textValue isBytes) rest)
      else orderFault? depth (.textValue isBytes) rest
  | .name word :: rest =>
    if linkWords.contains word then
      if last.endsValue && word == "not" && rest.head? != some (.name "in") then misplaced
      else if last.endsValue || word == "not" || (word == "in" && last == .operator) then
        orderFault? depth .operator rest
      else misplaced
    else if foreignWords.contains word then misplaced
    else
      let next := if ["None", "True", "False"].contains word then Last.literal else .name
      if last.endsValue then adjacent depth last false (orderFault? [.single] next rest)
      else orderFault? depth next rest
  | .sign sign :: rest =>
    match sign with
    | "(" =>
      if last.endsValue then orderFault? (.call :: depth) .start rest
      else orderFault? (.values :: depth) .start rest
    | "\x7b" =>
      if last.endsValue then adjacent depth last false (orderFault? [.set, .single] .start rest)
      else orderFault? (.set :: depth) .start rest
    | "..." =>
      if last.endsValue then adjacent depth last false (orderFault? [.single] .literal rest)
      else orderFault? depth .literal rest
    | "~" =>
      if last.endsValue then adjacent depth last false (orderFault? [.single] .operator rest)
      else orderFault? depth .operator rest
    | ")" | "\x7d" =>
      if last == .operator || depth.head? == some .single then misplaced
      else orderFault? (depth.drop 1) .value rest
    | "," =>
      if last.endsValue && depth.head? != some .single then orderFault? depth .comma rest
      else misplaced
    | ":" =>
      match depth with
      | .set :: outer | .keys :: outer =>
        if last.endsValue then orderFault? (.keys :: outer) .operator rest else misplaced
      | _ => misplaced
    | "=" =>
      match depth, last with
      | .call :: _, .name => orderFault? depth .operator rest
      | .single :: _, _ => misplaced
      | _ :: _, .name => some ⟨.assignedName, false⟩
      | _ :: _, .literal | _ :: _, .textValue _ => some ⟨.assignedLiteral, false⟩
      | _, _ => misplaced
    | "+" | "-" => orderFault? depth .operator rest
    | "." =>
      match last.endsValue, rest.head? with
      | true, some (.name _) | true, none => orderFault? depth .operator rest
      | _, _ => misplaced
    | sign =>
      if linkSigns.contains sign && last.endsValue then orderFault? depth .operator rest
      else misplaced

/-- What is wrong with a text as a literal value. -/
def fault? (cs : List Char) : Option Fault :=
  match takeTokens [] cs.length cs with
  | .error fault => some fault
  | .ok (tokens, opened) =>
    match orderFault? [] .start tokens, opened with
    | some ⟨_, true⟩, bracket :: _ => some (.neverClosed bracket)
    | some ⟨fault, _⟩, _ => some fault
    | none, [] => none
    | none, bracket :: _ => some (.neverClosed bracket)

end OperatorConsole.Terminal.Literal
