import OperatorConsole.Charset.Chinese
import OperatorConsole.Charset.Japanese
import OperatorConsole.Charset.Korean
import OperatorConsole.Charset.Page

/-!
Switched sets. Text is in one of several sets at a time; a sequence after an escape character says which
set takes one of three places, and a shift character turns from the first place to the second. A
sequence that is none goes through, up to the letter that would end one.
-/
namespace OperatorConsole.Charset

/-- A set that may take a place. -/
inductive Member where
  | ascii
  /-- ASCII with other signs in place of two. -/
  | roman
  | katakana
  | kanji
  | oldKanji
  | extraKanji
  | earlyKanji
  | earlySecondKanji
  | lateKanji
  | lateSecondKanji
  | hanzi
  | hangul
  /-- The upper half of a page. -/
  | latin
  | greek
  deriving DecidableEq, Repr

/-- The letter that names a set, and whether it is one of two bytes for a character. -/
def memberMarks : List ((Nat × Bool) × Member) := [
  ((0x42, false), .ascii), ((0x4A, false), .roman), ((0x49, false), .katakana), ((0x42, true), .kanji),
  ((0x40, true), .oldKanji), ((0x44, true), .extraKanji), ((0x4F, true), .earlyKanji),
  ((0x50, true), .earlySecondKanji), ((0x51, true), .lateKanji), ((0x41, true), .hanzi),
  ((0x43, true), .hangul), ((0x41, false), .latin), ((0x46, false), .greek)]

/-- A switched set: the sets that may take a place, and which ways to switch it has. -/
structure Switched where
  members : List Member
  /-- Both second planes are named alike. -/
  late : Bool
  shifts : Bool
  /-- Single characters may come from the third place. -/
  singles : Bool
  /-- A sequence may stand in front of another one. -/
  leads : Bool

/-- The set that a letter names. -/
def Switched.member? (s : Switched) (letter : Nat) (double : Bool) : Option Member :=
  (memberMarks.lookup (letter, double)).bind fun m =>
    let m := if s.late && m == .earlySecondKanji then .lateSecondKanji else m
    if m == .ascii || s.members.contains m then some m else none

/-- What is switched on. -/
structure Places where
  first : Member
  second : Member
  third : Member
  shifted : Bool
  /-- A sequence that is none goes through. -/
  through : Bool
  deriving DecidableEq, Repr

/-- Everything is ASCII at first. -/
def Places.start : Places := ⟨.ascii, .ascii, .ascii, false, false⟩

/-! ### Sequences -/

/-- The escape character. -/
def escape : UInt8 := 0x1B

/-- The longest sequence. -/
def maxSequence : Nat := 16

/-- A letter that ends a sequence. -/
def endsSequence (b : UInt8) : Bool := (0x41 ≤ b && b ≤ 0x5A) || b == 0x40

/-- The length of a sequence from a place on: none when it has no end, and nothing when there are too
few bytes. A sequence in front of another one does not end it. -/
def sequenceLength (leads : Bool) (bytes : Array UInt8) : Nat → Nat → Option (Option Nat)
  | 0, _ => some none
  | fuel + 1, i =>
    if maxSequence ≤ i then some none
    else match bytes[i]? with
      | none => none
      | some b =>
        if endsSequence b then some (some (i + 1))
        else if leads && b == 0x26 && bytes[i + 1]? == some 0x40 then
          sequenceLength leads bytes fuel (i + 3)
        else sequenceLength leads bytes fuel (i + 1)

/-- The places after a set took one of them. -/
def Places.put (p : Places) (place : Nat) (m : Member) : Places :=
  match place with
  | 0 => { p with first := m }
  | 1 => { p with second := m }
  | _ => { p with third := m }

/-- The place and the set that a sequence names. -/
def Switched.designation? (s : Switched) : Bytes → Option (Nat × Member)
  | [_, 0x24, letter] => (s.member? letter.toNat true).map ((0, ·))
  | [_, kind, letter] =>
    if kind == 0x28 then (s.member? letter.toNat false).map ((0, ·))
    else if kind == 0x29 then (s.member? letter.toNat false).map ((1, ·))
    else if s.singles && kind == 0x2E then (s.member? letter.toNat false).map ((2, ·))
    else none
  | [_, 0x24, kind, letter] =>
    if kind == 0x28 then (s.member? letter.toNat true).map ((0, ·))
    else if kind == 0x29 then (s.member? letter.toNat true).map ((1, ·))
    else none
  | [_, _, _, 0x1B, 0x24, 0x42] => if s.leads then (s.member? 0x42 true).map ((0, ·)) else none
  | _ => none

/-! ### Characters -/

/-- The number of bytes for a character. -/
def Member.width : Member → Nat
  | .ascii | .roman | .katakana | .latin | .greek => 1
  | _ => 2

/-- The code points of the bytes of a character. -/
def Member.points? (a b : Nat) : Member → Option (List Nat)
  | .ascii => some [a]
  | .roman => some [if a == 0x5C then 0xA5 else if a == 0x7E then 0x203E else a]
  | .katakana => (halfWidth? (a + 0x80)).map ([·])
  | .kanji | .oldKanji => Edition.first.first? a b
  | .extraKanji => (Edition.first.second? a b).map ([·])
  | .earlyKanji => Edition.early.first? a b
  | .earlySecondKanji => (Edition.early.second? a b).map ([·])
  | .lateKanji => Edition.late.first? a b
  | .lateSecondKanji => (Edition.late.second? a b).map ([·])
  | .hanzi => (hanziGrid.find? a b).map ([·])
  | .hangul => (hangulGrid.find? a b).map ([·])
  | .latin | .greek => none

/-- The code point of a single character from the third place. -/
def Member.single? (a : Nat) : Member → Option Nat
  | .ascii => asciiSingle a
  | .latin => if a < 0x80 then some (a + 0x80) else none
  | .greek =>
    let b := if a < 0x80 then a + 0x80 else a - 0x80
    if b < 0xA0 then some b
    else ((Page.ofName? "iso8859_7").bind (Page.point? b)).bind fun point =>
      if [0xA4, 0xA5, 0xAA].contains b then none else some point
  | _ => none

/-! ### Steps -/

/-- What stands at an escape character. -/
def Switched.escapeStep (s : Switched) (p : Places) (bytes : Bytes) : Reading × Places :=
  match bytes.drop 1 with
  | [] => (.short, p)
  | kind :: rest =>
    if [0x28, 0x29, 0x24, 0x2E, 0x26].contains kind then
      match sequenceLength s.leads (bytes.take (maxSequence + 3)).toArray maxSequence 1 with
      | none => (.short, p)
      | some none => (.bad 1, p)
      | some (some n) =>
        match s.designation? (bytes.take n) with
        | some (place, m) => (.points [] n, p.put place m)
        | none => (.bad n, p)
    else if s.singles && kind == 0x4E then
      match rest with
      | [] => (.short, p)
      | c :: _ =>
        match p.third.single? c.toNat with
        | some point => (.points [point] 3, p)
        | none => (.bad 3, p)
    else (.points [escape.toNat] 1, { p with through := true })

/-- What stands at a character. -/
def Places.characterStep (p : Places) (bytes : Bytes) : Reading :=
  match (if p.shifted then p.second else p.first), bytes with
  | .ascii, a :: _ => .points [a.toNat] 1
  | m, a :: rest =>
    if m.width = 2 then
      match rest with
      | [] => .short
      | b :: _ =>
        match m.points? a.toNat b.toNat with
        | some ps => .points ps 2
        | none => .bad 2
    else .ofPoints? (m.points? a.toNat 0) 1
  | _, [] => .short

/-- What stands at the beginning of bytes in a switched set. -/
def Switched.step (s : Switched) (p : Places) (bytes : Bytes) : Reading × Places :=
  match bytes with
  | [] => (.short, p)
  | a :: _ =>
    if p.through then (.points [a.toNat] 1, { p with through := !endsSequence a })
    else if a == escape then s.escapeStep p bytes
    else if s.shifts && a == 0x0F then (.points [] 1, { p with shifted := false })
    else if s.shifts && a == 0x0E then (.points [] 1, { p with shifted := true })
    else if a == 0x0A then (.points [0x0A] 1, { p with shifted := false })
    else if a < 0x20 then (.points [a.toNat] 1, p)
    else if 0x80 ≤ a then (.bad 1, p)
    else (p.characterStep bytes, p)

/-- The text of bytes in a switched set. -/
def Switched.read (s : Switched) (bytes : Bytes) : Except Fault Decoded :=
  readAll s.step .start bytes

/-- The switched sets by name. -/
def switchedSets : List (String × Switched) := [
  ("iso2022_kr", ⟨[.hangul], false, true, false, false⟩),
  ("iso2022_jp", ⟨[.kanji, .roman, .oldKanji], false, false, false, true⟩),
  ("iso2022_jp_1", ⟨[.kanji, .extraKanji, .roman, .oldKanji], false, false, false, true⟩),
  ("iso2022_jp_2", ⟨[.kanji, .extraKanji, .hangul, .hanzi, .roman, .oldKanji, .latin, .greek],
    false, false, true, true⟩),
  ("iso2022_jp_2004", ⟨[.kanji, .lateKanji, .lateSecondKanji], true, false, false, true⟩),
  ("iso2022_jp_3", ⟨[.kanji, .earlyKanji, .earlySecondKanji], false, false, false, true⟩),
  ("iso2022_jp_ext", ⟨[.kanji, .extraKanji, .roman, .katakana, .oldKanji], false, false, false, true⟩)]

end OperatorConsole.Charset
