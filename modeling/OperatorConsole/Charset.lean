import OperatorConsole.Charset.Delta
import OperatorConsole.Charset.Escape
import OperatorConsole.Charset.Names
import OperatorConsole.Charset.Shifted
import OperatorConsole.Charset.Switched

/-!
Character sets: how bytes are read as text. A set is found by a name, in any of its spellings. Some
names mean codings of other kinds; these are known, but nothing is read in them.
-/
namespace OperatorConsole

/-- A character set. -/
inductive Charset where
  | page (p : Charset.Page)
  | utf8
  /-- UTF-8, a mark in front being left out. -/
  | utf8Marked
  | utf16
  | utf16Of (big : Bool)
  | utf32
  | utf32Of (big : Bool)
  | utf7
  | escapes
  | rawEscapes
  | delta
  | pairs (p : Charset.Pairs)
  | steps (step : Bytes → Charset.Reading)
  | tildes
  | switched (s : Charset.Switched)
  /-- A name of something that reads no text. -/
  | none (fault : Charset.Fault)

namespace Charset

/-- The sets that stand for themselves. -/
def sets : List (String × Charset) := [
  ("utf_8", .utf8), ("utf_8_sig", .utf8Marked), ("utf_16", .utf16), ("utf_16_le", .utf16Of false),
  ("utf_16_be", .utf16Of true), ("utf_32", .utf32), ("utf_32_le", .utf32Of false),
  ("utf_32_be", .utf32Of true), ("utf_7", .utf7), ("unicode_escape", .escapes),
  ("raw_unicode_escape", .rawEscapes), ("punycode", .delta), ("shift_jis", .pairs (shifted .first)),
  ("shift_jisx0213", .pairs (shifted .early)), ("shift_jis_2004", .pairs (shifted .late)),
  ("cp932", .pairs windowsShifted), ("euc_jp", .steps (markedStep .first)),
  ("euc_jisx0213", .steps (markedStep .early)), ("euc_jis_2004", .steps (markedStep .late)),
  ("euc_kr", .steps koreanStep), ("cp949", .pairs windowsKorean), ("johab", .pairs packedKorean),
  ("gb2312", .pairs mainland), ("gbk", .pairs wideMainland), ("gb18030", .steps fullMainlandStep),
  ("hz", .tildes), ("big5", .pairs traditional), ("cp950", .pairs windowsTraditional),
  ("big5hkscs", .pairs hongKong), ("idna", .none .strictOnly), ("undefined", .none .nothing),
  ("base64_codec", .none .bytesOnly), ("bz2_codec", .none .bytesOnly),
  ("hex_codec", .none .bytesOnly), ("quopri_codec", .none .bytesOnly), ("uu_codec", .none .bytesOnly),
  ("zlib_codec", .none .bytesOnly), ("rot_13", .none .textOnly)]

/-- The set of a name in its one form. -/
def ofPlainName? (name : String) : Option Charset :=
  ((sets.lookup name).or ((switchedSets.lookup name).map .switched)).or
    ((Page.ofName? name).map .page)

/-- The set that a name means. -/
def ofName? (cs : List Char) : Option Charset := (meanings (plainName cs)).findSome? ofPlainName?

/-- The text of bytes in a set. -/
def read (bytes : Bytes) : Charset → Except Fault Decoded
  | .page p => .ok (p.read bytes)
  | .utf8 => .ok ((Utf8.decodeLossy bytes).map fun c => some c.toNat)
  | .utf8Marked => .ok ((Utf8.decodeLossy (Utf8.withoutMark bytes)).map fun c => some c.toNat)
  | .utf16 => readMarked 2 pairStep bytes
  | .utf16Of big => readPlain (pairStep big) bytes
  | .utf32 => readMarked 4 quadStep bytes
  | .utf32Of big => readPlain (quadStep big) bytes
  | .utf7 => .ok (readShifted .outside bytes)
  | .escapes => .ok (readEscapes escapeStep bytes.length bytes)
  | .rawEscapes => .ok (readEscapes rawStep bytes.length bytes)
  | .delta => readDelta bytes
  | .pairs p => readPlain p.step bytes
  | .steps step => readPlain step bytes
  | .tildes => readAll tildeStep false bytes
  | .switched s => s.read bytes
  | .none fault => .error fault

end Charset

end OperatorConsole
