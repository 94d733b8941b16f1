import Mathlib.Algebra.GroupWithZero.Nat
import Mathlib.Data.List.Basic
import OperatorConsole.Text.Utf8

/-!
UTF-8 there and back. The bytes of a character are one piece of what is read, so the text of the bytes
of a text is that text.
-/
namespace OperatorConsole.Utf8

variable {n : Nat} {b : UInt8} {c : Char} {cs : List Char} {rest others : Bytes}

/-! ### Bytes -/

theorem toNat_ofNat (h : n < 256) : (UInt8.ofNat n).toNat = n := by
  simpa using Nat.mod_eq_of_lt h

theorem within_iff {low high : UInt8} :
    within low high b = true ↔ low.toNat ≤ b.toNat ∧ b.toNat ≤ high.toNat := by
  simp [within, UInt8.le_iff_toNat_le]

/-- A byte that carries six bits of a number. -/
def tail (n shift : Nat) : UInt8 := UInt8.ofNat (0x80 + n / Nat.pow 2 shift % 0x40)

theorem toNat_tail (n shift : Nat) : (tail n shift).toNat = 0x80 + n / 2 ^ shift % 0x40 :=
  toNat_ofNat (by have := Nat.mod_lt (n / Nat.pow 2 shift) (show 0 < 0x40 by decide); omega)

theorem payload_tail (n shift : Nat) : payload (tail n shift) = n / 2 ^ shift % 0x40 := by
  rw [payload, toNat_tail]
  omega

theorem within_tail (n shift : Nat) : within 0x80 0xBF (tail n shift) = true := by
  rw [within_iff, toNat_tail]
  simp only [UInt8.reduceToNat]
  omega

/-! ### Pieces -/

/-- A byte between the bounds is read, and the next one may be any that carries six bits. -/
theorem continueChar_cons {first : UInt8} {bounds : UInt8 × UInt8} {value need : Nat}
    (h : within bounds.1 bounds.2 b = true) :
    continueChar first bounds value others (need + 1) (b :: rest) =
      continueChar first (0x80, 0xBF) (value * 0x40 + payload b) (others ++ [b]) need rest := by
  rw [continueChar, if_pos h]

/-- The bounds of the second byte by the number of the first. -/
theorem within_secondBounds {second : UInt8} :
    within (secondBounds b).1 (secondBounds b).2 second = true ↔
      (if b.toNat = 0xE0 then 0xA0 else if b.toNat = 0xF0 then 0x90 else 0x80) ≤ second.toNat ∧
      second.toNat ≤
        (if b.toNat = 0xED then 0x9F else if b.toNat = 0xF4 then 0x8F else 0xBF) := by
  have heq : ∀ k : UInt8, b = k ↔ b.toNat = k.toNat := fun k => UInt8.toNat_inj.symm
  rw [within_iff]
  unfold secondBounds
  simp only [heq, UInt8.reduceToNat]
  split_ifs <;> first | omega | simp

/-- The number of the first byte says how many bytes follow. -/
theorem piece_eq (b : UInt8) (rest : Bytes) : piece b rest =
    if b.toNat < 0x80 then .char (Char.ofNat b.toNat) 0
    else if 0xC2 ≤ b.toNat ∧ b.toNat ≤ 0xDF then
      continueChar b (secondBounds b) (b.toNat - 0xC0) [] 1 rest
    else if 0xE0 ≤ b.toNat ∧ b.toNat ≤ 0xEF then
      continueChar b (secondBounds b) (b.toNat - 0xE0) [] 2 rest
    else if 0xF0 ≤ b.toNat ∧ b.toNat ≤ 0xF4 then
      continueChar b (secondBounds b) (b.toNat - 0xF0) [] 3 rest
    else .defect .start b [] := by
  simp only [piece, within_iff, UInt8.lt_iff_toNat_lt, UInt8.reduceToNat]

section

variable (n)

theorem piece_one (h : n < 0x80) : piece (UInt8.ofNat n) rest = .char (Char.ofNat n) 0 := by
  have hb : (UInt8.ofNat n).toNat = n := toNat_ofNat (by omega)
  rw [piece_eq, if_pos (by omega), hb]

theorem piece_two (hlow : 0x80 ≤ n) (hhigh : n < 0x800) :
    piece (UInt8.ofNat (0xC0 + n / 0x40)) (tail n 0 :: rest) = .char (Char.ofNat n) 1 := by
  have hb : (UInt8.ofNat (0xC0 + n / 0x40)).toNat = 0xC0 + n / 0x40 := toNat_ofNat (by omega)
  generalize UInt8.ofNat (0xC0 + n / 0x40) = b at hb
  have hsecond : within (secondBounds b).1 (secondBounds b).2 (tail n 0) = true := by
    rw [within_secondBounds, toNat_tail]
    split_ifs <;> omega
  have hvalue : (b.toNat - 0xC0) * 0x40 + payload (tail n 0) = n := by
    rw [payload_tail]
    omega
  rw [piece_eq, if_neg (by omega), if_pos (by omega), continueChar_cons hsecond, hvalue]
  rfl

/-- The second byte keeps within its bounds because no character is half of a surrogate pair. -/
theorem piece_three (hlow : 0x800 ≤ n) (hhigh : n < 0x10000) (hvalid : n < 0xD800 ∨ 0xDFFF < n) :
    piece (UInt8.ofNat (0xE0 + n / 0x1000)) (tail n 6 :: tail n 0 :: rest) =
      .char (Char.ofNat n) 2 := by
  have hb : (UInt8.ofNat (0xE0 + n / 0x1000)).toNat = 0xE0 + n / 0x1000 := toNat_ofNat (by omega)
  generalize UInt8.ofNat (0xE0 + n / 0x1000) = b at hb
  have hsecond : within (secondBounds b).1 (secondBounds b).2 (tail n 6) = true := by
    rw [within_secondBounds, toNat_tail]
    split_ifs <;> omega
  have hvalue : ((b.toNat - 0xE0) * 0x40 + payload (tail n 6)) * 0x40 + payload (tail n 0) = n := by
    rw [payload_tail, payload_tail]
    omega
  rw [piece_eq, if_neg (by omega), if_neg (by omega), if_pos (by omega), continueChar_cons hsecond,
    continueChar_cons (within_tail n 0), hvalue]
  rfl

theorem piece_four (hlow : 0x10000 ≤ n) (hhigh : n < 0x110000) :
    piece (UInt8.ofNat (0xF0 + n / 0x40000)) (tail n 12 :: tail n 6 :: tail n 0 :: rest) =
      .char (Char.ofNat n) 3 := by
  have hb : (UInt8.ofNat (0xF0 + n / 0x40000)).toNat = 0xF0 + n / 0x40000 := toNat_ofNat (by omega)
  generalize UInt8.ofNat (0xF0 + n / 0x40000) = b at hb
  have hsecond : within (secondBounds b).1 (secondBounds b).2 (tail n 12) = true := by
    rw [within_secondBounds, toNat_tail]
    split_ifs <;> omega
  have hvalue : (((b.toNat - 0xF0) * 0x40 + payload (tail n 12)) * 0x40 + payload (tail n 6)) * 0x40 +
      payload (tail n 0) = n := by
    rw [payload_tail, payload_tail, payload_tail]
    omega
  rw [piece_eq, if_neg (by omega), if_neg (by omega), if_neg (by omega), if_pos (by omega),
    continueChar_cons hsecond, continueChar_cons (within_tail n 6), continueChar_cons (within_tail n 0),
    hvalue]
  rfl

end

/-! ### Texts -/

/-- The numbers of characters leave out the halves of surrogate pairs. -/
theorem toNat_cases (c : Char) : c.toNat < 0xD800 ∨ (0xDFFF < c.toNat ∧ c.toNat < 0x110000) :=
  c.valid

/-- The bytes of a character are one piece. -/
theorem piece_encodeChar (c : Char) : ∃ b others, encodeChar c = b :: others ∧
    ∀ rest, piece b (others ++ rest) = .char c others.length := by
  have hc : Char.ofNat c.toNat = c := Char.ofNat_toNat c
  have hvalid := toNat_cases c
  unfold encodeChar
  generalize c.toNat = n at hc hvalid
  subst hc
  dsimp only
  split_ifs with hone htwo hthree
  · exact ⟨_, _, rfl, fun _ => piece_one n hone⟩
  · exact ⟨_, _, rfl, fun _ => piece_two n (by omega) htwo⟩
  · exact ⟨_, _, rfl, fun _ => piece_three n (by omega) hthree (by omega)⟩
  · exact ⟨_, _, rfl, fun _ => piece_four n (by omega) (by omega)⟩

theorem pieces_encodeChar (c : Char) (rest : Bytes) :
    ∃ more, pieces (encodeChar c ++ rest) = .char c more :: pieces rest := by
  obtain ⟨b, others, hbytes, hpiece⟩ := piece_encodeChar c
  refine ⟨others.length, ?_⟩
  rw [hbytes, List.cons_append, pieces]
  simp only [hpiece, Piece.more, List.drop_left]

/-- The text of the bytes of a text is that text. -/
theorem decodeLossy_encode : ∀ cs : List Char, decodeLossy (encode cs) = cs
  | [] => by simp [decodeLossy, encode, pieces]
  | c :: cs => by
    obtain ⟨more, hpieces⟩ := pieces_encodeChar c (encode cs)
    have hencode : encode (c :: cs) = encodeChar c ++ encode cs := List.flatMap_cons
    have ih := decodeLossy_encode cs
    rw [decodeLossy] at ih
    rw [decodeLossy, hencode, hpieces, List.map_cons, ih]

/-! ### Strict reading -/

/-- The character that a piece is, if it is no defect. -/
def Piece.char? : Piece → Option Char
  | .char c _ => some c
  | .defect .. => none

theorem readPieces_eq_ok_iff : ∀ (ps : List Piece) (position : Nat) (cs : List Char),
    readPieces position ps = .ok cs ↔ ps.map Piece.char? = cs.map some
  | [], _, cs => by cases cs <;> simp [readPieces]
  | .char c more :: ps, position, [] => by
    cases hrest : readPieces (position + more + 1) ps <;> simp [readPieces, hrest]
  | .char c more :: ps, position, d :: cs => by
    rw [List.map_cons, List.map_cons, List.cons.injEq,
      ← readPieces_eq_ok_iff ps (position + more + 1) cs]
    cases hrest : readPieces (position + more + 1) ps <;> simp [readPieces, hrest, Piece.char?]
  | .defect d first others :: ps, _, cs => by cases cs <;> simp [readPieces, Piece.char?]

theorem decode_eq_ok_iff {content : Bytes} :
    decode content = .ok cs ↔ (pieces content).map Piece.char? = cs.map some :=
  readPieces_eq_ok_iff _ _ _

/-- Lossy reading is strict reading with U+FFFD for each defect. -/
theorem decodeLossy_eq (content : Bytes) : decodeLossy content =
    ((pieces content).map Piece.char?).map (·.getD (Char.ofNat 0xFFFD)) := by
  rw [decodeLossy, List.map_map]
  refine List.map_congr_left fun p _ => ?_
  cases p <;> rfl

/-- Content without defects is read the same when defects are no matter. -/
theorem decodeLossy_of_decode {content : Bytes} (h : decode content = .ok cs) :
    decodeLossy content = cs := by
  rw [decodeLossy_eq, decode_eq_ok_iff.1 h, List.map_map]
  exact List.map_id cs

/-- A mark in front is read as a character of its own. -/
theorem decode_mark_append {more : Bytes} (h : decode (mark ++ more) = .ok cs) :
    ∃ rest, cs = Char.ofNat 0xFEFF :: rest ∧ decode more = .ok rest := by
  have hmark : mark = encodeChar (Char.ofNat 0xFEFF) := by decide +kernel
  obtain ⟨n, hpieces⟩ := pieces_encodeChar (Char.ofNat 0xFEFF) more
  rw [decode_eq_ok_iff, hmark, hpieces] at h
  cases cs with
  | nil => simp at h
  | cons c rest =>
    obtain ⟨hc, hrest⟩ := List.cons.inj h
    exact ⟨rest, by rw [← Option.some.inj hc], decode_eq_ok_iff.2 hrest⟩

theorem withoutMark_mark_append (more : Bytes) : withoutMark (mark ++ more) = more := rfl

/-- The text without a byte-order mark at its start. -/
def unmarked : List Char → List Char
  | c :: rest => if c = Char.ofNat 0xFEFF then rest else c :: rest
  | [] => []

theorem unmarked_of_head (h : cs.head? ≠ some (Char.ofNat 0xFEFF)) : unmarked cs = cs := by
  cases cs with
  | nil => rfl
  | cons c rest => exact if_neg fun hc => h (congrArg some hc)

/-- A mark is left out of the bytes of a text exactly where it is a character of the text. -/
theorem dropMark_encode (cs : List Char) : dropMark (encode cs) = encode (unmarked cs) := by
  have hmark : mark = encodeChar (Char.ofNat 0xFEFF) := by decide +kernel
  cases cs with
  | nil => rfl
  | cons c rest =>
    have hencode : encode (c :: rest) = encodeChar c ++ encode rest := List.flatMap_cons
    rw [unmarked]
    split_ifs with hc
    · rw [hencode, hc, ← hmark]
      rfl
    · refine if_neg fun hprefix => hc ?_
      obtain ⟨more, hmore⟩ := List.isPrefixOf_iff_prefix.1 hprefix
      obtain ⟨n, hleft⟩ := pieces_encodeChar c (encode rest)
      obtain ⟨m, hright⟩ := pieces_encodeChar (Char.ofNat 0xFEFF) more
      rw [← hencode, ← hmore, hmark, hright] at hleft
      exact (Piece.char.inj (List.cons.inj hleft).1).1.symm

/-- Content without defects that has no mark in front has not the beginning of one either. -/
theorem withoutMark_of_decode {content : Bytes} (h : decode content = .ok cs)
    (hmark : ¬ mark <+: content) : withoutMark content = content := by
  have hdrop : dropMark content = content := if_neg (by simpa using hmark)
  rw [withoutMark, hdrop]
  split
  · next hbegun =>
    simp only [Bool.and_eq_true, decide_eq_true_eq, List.isPrefixOf_iff_prefix,
      List.prefix_iff_eq_take] at hbegun
    obtain ⟨hlength, htake⟩ := hbegun
    have hfirst : decode (mark.take 1) = .error ⟨.truncated, [0xEF], 0⟩ := by decide +kernel
    have hsecond : decode (mark.take 2) = .error ⟨.truncated, [0xEF, 0xBB], 0⟩ := by decide +kernel
    rw [htake] at h ⊢
    generalize content.length = n at hlength h ⊢
    match n with
    | 0 => rfl
    | 1 => simp [hfirst] at h
    | 2 => simp [hsecond] at h
  · rfl

/-- A byte below `0x80` stands for a character of its own. -/
theorem toNat_eq_of_mem_encodeChar (hb : b ∈ encodeChar c) (hascii : b.toNat < 0x80) :
    c.toNat = b.toNat := by
  have hvalid := toNat_cases c
  unfold encodeChar at hb
  generalize c.toNat = n at hb hvalid ⊢
  dsimp only at hb
  have hfirst : ∀ k, 0x80 ≤ k → k < 256 → b ≠ UInt8.ofNat k := by
    rintro k hlow hhigh rfl
    rw [toNat_ofNat hhigh] at hascii
    omega
  have htail : ∀ shift, b ≠ tail n shift := by
    rintro shift rfl
    rw [toNat_tail] at hascii
    omega
  split_ifs at hb with hone htwo hthree
  · rw [List.mem_singleton.1 hb, toNat_ofNat (by omega)]
  · rcases List.mem_pair.1 hb with h | h
    · exact absurd h (hfirst _ (by omega) (by omega))
    · exact absurd h (htail 0)
  · rcases List.mem_cons.1 hb with h | h
    · exact absurd h (hfirst _ (by omega) (by omega))
    · rcases List.mem_pair.1 h with h | h
      · exact absurd h (htail 6)
      · exact absurd h (htail 0)
  · rcases List.mem_cons.1 hb with h | h
    · exact absurd h (hfirst _ (by omega) (by omega))
    · rcases List.mem_cons.1 h with h | h
      · exact absurd h (htail 12)
      · rcases List.mem_pair.1 h with h | h
        · exact absurd h (htail 6)
        · exact absurd h (htail 0)

end OperatorConsole.Utf8
