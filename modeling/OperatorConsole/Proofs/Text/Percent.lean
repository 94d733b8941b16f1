import OperatorConsole.Proofs.Text.LowerCase
import OperatorConsole.Proofs.Text.Utf8
import OperatorConsole.Text.Percent

/-!
Percent encoding there and back. What is written is visible ASCII without the characters that end the
path of an address, slashes stand where they stood, and reading it gives the text again.
-/
namespace OperatorConsole.Text.Percent

variable {b : UInt8} {c : Char} {cs ds : List Char} {bytes : Bytes}

/-! ### Bytes -/

/-- How a byte is written. -/
def encodeByte (b : UInt8) : List Char := if isSafe b then [Char.ofNat b.toNat] else triple b

theorem encodeBytes_eq : encodeBytes bytes = bytes.flatMap encodeByte := rfl

theorem digitValue?_hexDigit : ∀ k < 16, digitValue? (hexDigit k) = some k := by decide

/-- What holds of the bytes of all pairs of nibbles holds of all bytes. -/
theorem forall_byte (P : UInt8 → Prop)
    (h : ∀ high < 16, ∀ low < 16, P (UInt8.ofNat (16 * high + low))) (b : UInt8) : P b := by
  have hlt := b.toNat_lt
  have hb := h (b.toNat / 16) (by omega) (b.toNat % 16) (by omega)
  rwa [Nat.div_add_mod, UInt8.ofNat_toNat] at hb

/-- A character that an address holds in its path as it is. -/
structure IsPlain (c : Char) : Prop where
  visible : 0x20 < c.toNat
  ascii : c.toNat < 0x80
  noQuery : c ≠ '?'
  noFragment : c ≠ '#'

theorem isPlain_of_mem_encodeByte (hc : c ∈ encodeByte b) : IsPlain c := by
  have hbytes := forall_byte (fun b => (encodeByte b).all (fun c =>
    0x20 < c.toNat && c.toNat < 0x80 && c != '?' && c != '#') = true) (by decide +kernel) b
  have hplain := List.all_eq_true.1 hbytes c hc
  simp only [Bool.and_eq_true, decide_eq_true_eq, bne_iff_ne] at hplain
  exact ⟨hplain.1.1.1, hplain.1.1.2, hplain.1.2, hplain.2⟩

theorem toNat_of_slash_mem_encodeByte : ∀ b, '/' ∈ encodeByte b → b.toNat = 0x2F :=
  forall_byte _ (by decide +kernel)

/-- A byte that is written as a character is that character, and no percent sign. -/
theorem char_of_isSafe : ∀ b, isSafe b = true →
    Char.ofNat b.toNat ≠ '%' ∧ UInt8.ofNat (Char.ofNat b.toNat).toNat = b :=
  forall_byte _ (by decide +kernel)

theorem bytesOf_cons (hc : c ≠ '%') : bytesOf (c :: cs) = UInt8.ofNat c.toNat :: bytesOf cs := by
  rw [bytesOf.eq_2 _ _ fun _ _ _ e => absurd e hc]

theorem byteOf?_triple (b : UInt8) :
    byteOf? (hexDigit (b.toNat / 16)) (hexDigit (b.toNat % 16)) = some b := by
  have hb := b.toNat_lt
  have hhigh := digitValue?_hexDigit (b.toNat / 16) (by omega)
  have hlow := digitValue?_hexDigit (b.toNat % 16) (by omega)
  have hbyte : 16 * (b.toNat / 16) + b.toNat % 16 = b.toNat := Nat.div_add_mod ..
  rw [byteOf?, hhigh, hlow]
  exact congrArg some (by rw [hbyte, UInt8.ofNat_toNat])

/-- A byte that is written is read again. -/
theorem bytesOf_encodeByte (b : UInt8) (cs : List Char) :
    bytesOf (encodeByte b ++ cs) = b :: bytesOf cs := by
  unfold encodeByte
  split_ifs with hsafe
  · obtain ⟨hpercent, hchar⟩ := char_of_isSafe b hsafe
    rw [List.singleton_append, bytesOf_cons hpercent, hchar]
  · rw [triple, List.cons_append, List.cons_append, List.cons_append, List.nil_append, bytesOf,
      byteOf?_triple]

theorem bytesOf_encodeBytes : ∀ bytes : Bytes, bytesOf (encodeBytes bytes) = bytes
  | [] => rfl
  | b :: bytes => by
    rw [encodeBytes_eq, List.flatMap_cons, bytesOf_encodeByte, ← encodeBytes_eq,
      bytesOf_encodeBytes bytes]

/-! ### Texts -/

theorem encode_append : encode (cs ++ ds) = encode cs ++ encode ds := by
  simp [encode, encodeBytes, Utf8.encode]

theorem encode_slash : encode ['/'] = ['/'] := by decide +kernel

theorem encode_intercalate : ∀ parts : List (List Char),
    encode (['/'].intercalate parts) = ['/'].intercalate (parts.map encode)
  | [] => rfl
  | [part] => by rw [List.intercalate_singleton, List.map_singleton, List.intercalate_singleton]
  | part :: next :: rest => by
    simp only [List.intercalate_cons_cons, List.map_cons, encode_append, encode_slash,
      encode_intercalate (next :: rest)]

theorem encode_replicate_slash (k : Nat) : encode (List.replicate k '/') = List.replicate k '/' := by
  induction k with
  | zero => rfl
  | succ k ih =>
    rw [List.replicate_succ, ← List.singleton_append, encode_append, encode_slash, ih]

theorem isPlain_of_mem_encode (hc : c ∈ encode cs) : IsPlain c := by
  obtain ⟨b, -, hb⟩ := List.mem_flatMap.1 hc
  exact isPlain_of_mem_encodeByte hb

/-- A slash that is written was one before. -/
theorem slash_mem_of_mem_encode (h : '/' ∈ encode cs) : '/' ∈ cs := by
  obtain ⟨b, hb, hslash⟩ := List.mem_flatMap.1 h
  have hnumber := toNat_of_slash_mem_encodeByte b hslash
  obtain ⟨c, hc, hmem⟩ := List.mem_flatMap.1 hb
  have hchar := Utf8.toNat_eq_of_mem_encodeChar hmem (by omega)
  have hslash : c = '/' := by
    rw [← Char.ofNat_toNat c, hchar, hnumber]
  exact hslash ▸ hc

/-- ASCII is read as one run. -/
theorem decodeFrom_ascii : ∀ {cs : List Char} (run : List Char), (∀ c ∈ cs, c.toNat < 0x80) →
    decodeFrom run cs = decodeRun (cs.reverse ++ run)
  | [], run, _ => rfl
  | c :: cs, run, h => by
    rw [decodeFrom, if_pos (h c (by simp)), decodeFrom_ascii _ fun d hd => h d (by simp [hd])]
    simp

/-- A text that is written is read again. -/
theorem decode_encode (cs : List Char) : decode (encode cs) = cs := by
  rw [decode, decodeFrom_ascii [] fun c hc => (isPlain_of_mem_encode hc).ascii, decodeRun]
  rw [List.append_nil, List.reverse_reverse, encode, bytesOf_encodeBytes, Utf8.decodeLossy_encode]

/-! ### Characters -/

/-- A character that is written as it is: a letter or a digit of ASCII, one of four marks, or a slash. -/
def isKept (c : Char) : Bool := c.isAlphanum || ['_', '.', '-', '~', '/'].contains c

/-- A character as it is written: as it is, or by the triples of its bytes. -/
def spelled (c : Char) : List Char := if isKept c then [c] else (Utf8.encodeChar c).flatMap triple

theorem isKept_eq_false (h : 0x80 ≤ c.toNat) : isKept c = false := by
  have halphanum : c.isAlphanum = false :=
    Bool.eq_false_iff.2 fun hc => absurd (bounds_of_isAlphanum hc).2 (by omega)
  have hmarks : ∀ d ∈ ['_', '.', '-', '~', '/'], d.toNat < 0x80 := by simp
  rw [isKept, halphanum, Bool.false_or, Bool.eq_false_iff]
  intro hc
  have hlow := hmarks c (by simpa using hc)
  omega

/-- A character is written by its bytes one after the other. -/
theorem encodeBytes_encodeChar (c : Char) : encodeBytes (Utf8.encodeChar c) = spelled c := by
  by_cases hascii : c.toNat < 0x80
  · exact Text.forall_ascii (P := fun c => encodeBytes (Utf8.encodeChar c) = spelled c)
      (by decide +kernel) hascii
  · rw [encodeBytes_eq, spelled, isKept_eq_false (by omega), if_neg (by simp)]
    refine List.flatMap_congr fun b hb => if_neg fun hsafe => ?_
    -- a byte that is kept would be the character itself
    have hb' : b.toNat < 0x80 := by
      simpa [UInt8.lt_iff_toNat_lt] using (Bool.and_eq_true_iff.1 hsafe).1
    have hc := Utf8.toNat_eq_of_mem_encodeChar hb hb'
    omega

/-- A text is written character by character. -/
theorem encode_eq_flatMap (cs : List Char) : encode cs = cs.flatMap spelled := by
  rw [encode, encodeBytes_eq, Utf8.encode, List.flatMap_assoc]
  exact List.flatMap_congr fun c _ => encodeBytes_encodeChar c

end OperatorConsole.Text.Percent
