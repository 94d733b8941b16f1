import Mathlib.Algebra.GroupWithZero.Nat
import OperatorConsole.Proofs.Text.Base64
import OperatorConsole.Proofs.Text.LowerCase

/-!
What a text in base64 spells. Each character of the alphabet stands for six binary digits, and these in
groups of eight are the bytes; what does not fill a byte at the end is left out. Reading accepts exactly
the characters of the alphabet with the marks that complete the last group of four behind them, or with
any number of marks behind complete groups.
-/
namespace OperatorConsole.Base64

/-! ### Binary digits -/

/-- The last binary digits of a number, `width` of them, the highest first. -/
def bits : Nat → Nat → List Bool
  | 0, _ => []
  | width + 1, n => bits width (n / 2) ++ [n % 2 == 1]

/-- The binary digits of bytes. -/
def byteBits (content : Bytes) : List Bool := content.flatMap fun b => bits 8 b.toNat

/-- The binary digits of groups of six. -/
def sextetBits (ns : List Nat) : List Bool := ns.flatMap (bits 6)

variable {a b c d k m n width : Nat} {left left' : List Bool} {ns found : List Nat} {cs body : List Char}
  {content other : Bytes}

@[simp]
theorem length_bits : ∀ width n : Nat, (bits width n).length = width
  | 0, _ => rfl
  | width + 1, n => by
    rw [bits, List.length_append, length_bits width (n / 2)]
    rfl

/-- The digits of a number that is put together from two are the digits of both. -/
theorem bits_append (m a : Nat) : ∀ {k b : Nat}, b < 2 ^ k →
    bits (m + k) (a * 2 ^ k + b) = bits m a ++ bits k b
  | 0, b, h => by
    obtain rfl : b = 0 := by omega
    simp [bits]
  | k + 1, b, h => by
    have hpower : a * 2 ^ (k + 1) = 2 * (a * 2 ^ k) := by
      rw [Nat.pow_succ, Nat.mul_comm (2 ^ k) 2, Nat.mul_left_comm]
    have hhalf : (a * 2 ^ (k + 1) + b) / 2 = a * 2 ^ k + b / 2 := by omega
    have hlast : (a * 2 ^ (k + 1) + b) % 2 = b % 2 := by omega
    have hb : b / 2 < 2 ^ k := by
      rw [Nat.pow_succ] at h
      omega
    rw [← Nat.add_assoc, bits, hhalf, hlast, bits_append m a hb, bits, List.append_assoc]

theorem bits_join (m a : Nat) {k w b : Nat} (hw : w = 2 ^ k) (hb : b < w) :
    bits (m + k) (a * w + b) = bits m a ++ bits k b := by
  subst hw
  exact bits_append m a hb

theorem bits_split (m k n : Nat) {w : Nat} (hw : w = 2 ^ k) :
    bits (m + k) n = bits m (n / w) ++ bits k (n % w) := by
  have hpos : 0 < w := hw ▸ Nat.two_pow_pos k
  rw [← bits_join m (n / w) hw (Nat.mod_lt n hpos), Nat.div_add_mod' n w]

theorem bits_injective : ∀ {width m n : Nat}, m < 2 ^ width → n < 2 ^ width →
    bits width m = bits width n → m = n
  | 0, m, n, hm, hn, _ => by omega
  | width + 1, m, n, hm, hn, h => by
    rw [Nat.pow_succ] at hm hn
    obtain ⟨hhigh, hlow⟩ := List.append_inj' h rfl
    have hhalf : m / 2 = n / 2 := bits_injective (by omega) (by omega) hhigh
    have hlast : (m % 2 = 1) ↔ (n % 2 = 1) := by simpa using hlow
    omega

/-- Bytes are told by their digits, whatever does not fill a byte behind them. -/
theorem eq_of_byteBits : ∀ {content other : Bytes}, left.length < 8 → left'.length < 8 →
    byteBits content ++ left = byteBits other ++ left' → content = other
  | [], [], _, _, _ => rfl
  | [], b :: other, hl, _, h => by
    have hlength := congrArg List.length h
    simp [byteBits] at hlength
    omega
  | a :: content, [], _, hl, h => by
    have hlength := congrArg List.length h
    simp [byteBits] at hlength
    omega
  | a :: content, b :: other, hl, hl', h => by
    simp only [byteBits, List.flatMap_cons, List.append_assoc] at h
    obtain ⟨hbyte, hrest⟩ := List.append_inj h (by rw [length_bits, length_bits])
    have hab : a = b := UInt8.toNat_inj.1 (bits_injective a.toNat_lt b.toNat_lt hbyte)
    rw [hab, eq_of_byteBits hl hl' hrest]

/-! ### Groups of six digits as bytes -/

theorem bits_byte (h : m < 256) : bits 8 (UInt8.ofNat m).toNat = bits 8 m := by
  rw [UInt8.toNat_ofNat_of_lt' h]

/-- Two groups of six begin with a byte. -/
theorem bits_first (ha : a < 64) (hb : b < 64) : bits 6 a ++ bits 6 b =
    bits 8 (UInt8.ofNat (a * 4 + b / 16)).toNat ++ bits 4 (b % 16) := by
  have hsplit : bits 6 b = bits 2 (b / 16) ++ bits 4 (b % 16) := bits_split 2 4 b (by decide)
  have hjoin : bits 8 (a * 4 + b / 16) = bits 6 a ++ bits 2 (b / 16) :=
    bits_join 6 a (k := 2) (w := 4) (by decide) (by omega)
  rw [bits_byte (by omega), hjoin, hsplit, List.append_assoc]

/-- What is left of the first byte goes on with a second one. -/
theorem bits_second (hc : c < 64) : bits 4 (b % 16) ++ bits 6 c =
    bits 8 (UInt8.ofNat (b % 16 * 16 + c / 4)).toNat ++ bits 2 (c % 4) := by
  have hsplit : bits 6 c = bits 4 (c / 4) ++ bits 2 (c % 4) := bits_split 4 2 c (by decide)
  have hjoin : bits 8 (b % 16 * 16 + c / 4) = bits 4 (b % 16) ++ bits 4 (c / 4) :=
    bits_join 4 (b % 16) (k := 4) (w := 16) (by decide) (by omega)
  rw [bits_byte (by omega), hjoin, hsplit, List.append_assoc]

/-- The fourth group completes the third byte. -/
theorem bits_third (hd : d < 64) : bits 2 (c % 4) ++ bits 6 d =
    bits 8 (UInt8.ofNat (c % 4 * 64 + d)).toNat := by
  rw [bits_byte (by omega)]
  exact (bits_join 2 (c % 4) (k := 6) (by decide) hd).symm

/-- The bytes of groups of six have their digits, but for those that do not fill a byte. -/
theorem exists_byteBits_bytesOf (h : ∀ n ∈ ns, n < 64) :
    ∃ left, sextetBits ns = byteBits (bytesOf ns) ++ left ∧ left.length < 8 := by
  fun_induction bytesOf ns with
  | case1 a b c d rest ih =>
    simp only [List.forall_mem_cons] at h
    obtain ⟨ha, hb, hc, hd, hrest⟩ := h
    obtain ⟨left, hleft, hlength⟩ := ih hrest
    refine ⟨left, ?_, hlength⟩
    have hgroups : sextetBits (a :: b :: c :: d :: rest) =
        bits 6 a ++ bits 6 b ++ bits 6 c ++ bits 6 d ++ sextetBits rest := by simp [sextetBits]
    rw [hgroups, bits_first ha hb, List.append_assoc _ (bits 4 _), bits_second hc,
      ← List.append_assoc _ (bits 8 _), List.append_assoc _ (bits 2 _), bits_third hd, hleft]
    simp [byteBits]
  | case2 a b c =>
    simp only [List.forall_mem_cons] at h
    obtain ⟨ha, hb, hc, -⟩ := h
    refine ⟨bits 2 (c % 4), ?_, by simp⟩
    have hgroups : sextetBits [a, b, c] = bits 6 a ++ bits 6 b ++ bits 6 c := by simp [sextetBits]
    rw [hgroups, bits_first ha hb, List.append_assoc, bits_second hc]
    simp [byteBits]
  | case3 a b =>
    simp only [List.forall_mem_cons] at h
    obtain ⟨ha, hb, -⟩ := h
    refine ⟨bits 4 (b % 16), ?_, by simp⟩
    simp [sextetBits, byteBits, bits_first ha hb]
  | case4 ns hfour hthree htwo =>
    -- no byte is made of none or one of the groups
    have hshort : ns = [] ∨ ∃ a, ns = [a] := by
      rcases ns with - | ⟨a, - | ⟨b, - | ⟨c, - | ⟨d, rest⟩⟩⟩⟩
      · exact .inl rfl
      · exact .inr ⟨a, rfl⟩
      · exact absurd rfl (htwo a b)
      · exact absurd rfl (hthree a b c)
      · exact absurd rfl (hfour a b c d rest)
    rcases hshort with rfl | ⟨a, rfl⟩
    · exact ⟨[], rfl, by decide⟩
    · exact ⟨bits 6 a, by simp [sextetBits, byteBits], by simp⟩

/-! ### The alphabet -/

/-- The characters of base64, each in the place of the number that it stands for. -/
def alphabet : List Char :=
  "ABCDEFGHIJKLMNOPQRSTUVWXYZabcdefghijklmnopqrstuvwxyz0123456789+/".toList

theorem ascii_of_mem_alphabet {c : Char} (hc : c ∈ alphabet) : c.toNat < 0x80 := by
  have hall : (alphabet.all fun c => c.toNat < 0x80) = true := by decide +kernel
  simpa using List.all_eq_true.1 hall c hc

theorem ne_mark_of_mem_alphabet {c : Char} (hc : c ∈ alphabet) : c ≠ '=' := by
  have hmark : '=' ∉ alphabet := by decide +kernel
  rintro rfl
  exact hmark hc

theorem sextet?_of_not_ascii {c : Char} (h : 0x80 ≤ c.toNat) : sextet? c = none := by
  have hle (d : Char) (hd : d.toNat < 0x80) : ¬ c ≤ d := by
    intro hcd
    have hnat : c.toNat ≤ d.toNat := hcd
    omega
  have hne (d : Char) (hd : d.toNat < 0x80) : ¬ c = d := fun e => hle d hd (e ▸ Char.le_refl c)
  simp [sextet?, hle 'Z' (by decide), hle 'z' (by decide), hle '9' (by decide), hne '+' (by decide),
    hne '/' (by decide)]

/-- A character stands for its place in the alphabet, and for nothing if it has none. -/
theorem sextet?_eq (c : Char) : sextet? c = if c ∈ alphabet then some (alphabet.idxOf c) else none := by
  by_cases hc : c.toNat < 0x80
  · exact Text.forall_ascii
      (P := fun c => sextet? c = if c ∈ alphabet then some (alphabet.idxOf c) else none)
      (by decide +kernel) hc
  · rw [sextet?_of_not_ascii (Nat.not_lt.1 hc), if_neg fun hmem => hc (ascii_of_mem_alphabet hmem)]

theorem idxOf_lt {c : Char} (hc : c ∈ alphabet) : alphabet.idxOf c < 64 :=
  List.idxOf_lt_length_of_mem hc

/-! ### Marks -/

/-- So many marks may stand behind so many characters of the alphabet: those that complete the last group
of four, or any number behind complete groups. -/
def Pads (length marks : Nat) : Prop :=
  length % 4 = 0 ∨ 2 ≤ length % 4 ∧ length % 4 + marks = 4

theorem exists_marks_cons {rest : List Char} (P : Nat → Prop) :
    (∃ k, '=' :: rest = List.replicate k '=' ∧ P k) ↔
      ∃ k, rest = List.replicate k '=' ∧ P (k + 1) := by
  constructor
  · rintro ⟨k, hk, h⟩
    cases k with
    | zero => cases hk
    | succ k => exact ⟨k, (List.cons.inj hk).2, h⟩
  · rintro ⟨k, rfl, h⟩
    exact ⟨k + 1, rfl, h⟩

theorem cons_ne_marks {c : Char} {rest : List Char} (hc : c ≠ '=') (k : Nat) :
    c :: rest ≠ List.replicate k '=' :=
  fun h => hc (List.eq_of_mem_replicate (h ▸ List.mem_cons_self))

/-- A character behind a mark is refused unless it is a mark. -/
theorem exists_scan_padded_error {c : Char} (hc : c ≠ '=') (found : List Nat) (pads : Nat)
    (rest : List Char) : ∃ fault, scan found true pads (c :: rest) = .error fault := by
  have hmark : (c == '=') = false := by simpa using hc
  rw [scan, hmark]
  cases sextet? c with
  | none => exact ⟨.alphabet, rfl⟩
  | some n => exact ⟨.discontinuous, rfl⟩

/-- What a mark comes to while it does not complete a group. -/
theorem scan_mark {padded : Bool} {pads : Nat} (h : found.length % 4 + pads < 3 ∨ found.length % 4 < 2)
    (rest : List Char) : scan found padded pads ('=' :: rest) =
      scan found true (if found.length % 4 < 2 then pads else pads + 1) rest := by
  by_cases hfew : found.length % 4 < 2
  · simp [scan, hfew]
  · simp [scan, hfew, h.resolve_right hfew]

/-- The mark that completes a group is the last character. -/
theorem scan_last_mark {padded : Bool} {pads : Nat} (h : 2 ≤ found.length % 4)
    (hfull : found.length % 4 + pads = 3) (rest : List Char) : scan found padded pads ('=' :: rest) =
      if rest = [] then .ok found.reverse else .error .excess := by
  have hfew : ¬ found.length % 4 < 2 := by omega
  have hmore : ¬ found.length % 4 + pads < 3 := by omega
  simp [scan, hfew, hmore]

/-- Once a mark was read, only marks may follow, and only as many as complete the group. -/
theorem scan_padded : ∀ {cs : List Char} {pads : Nat},
    (2 ≤ found.length % 4 → found.length % 4 + pads < 4) →
    (scan found true pads cs = .ok ns ↔ ns = found.reverse ∧
      ∃ k, cs = List.replicate k '=' ∧
        (found.length % 4 = 0 ∨ 2 ≤ found.length % 4 ∧ found.length % 4 + (pads + k) = 4))
  | [], pads, hpads => by
    have hend : scan found true pads [] = .ok ns ↔ ns = found.reverse ∧ found.length % 4 = 0 := by
      rw [scan]
      split
      · next hzero => simp [hzero, eq_comm]
      · next hone => simp [hone]
      · next hne _ =>
        have hzero : found.length % 4 ≠ 0 := hne
        simp [hzero]
    rw [hend]
    refine and_congr_right fun _ => ⟨fun h => ⟨0, rfl, .inl h⟩, ?_⟩
    rintro ⟨k, hk, h⟩
    obtain rfl : k = 0 := by simpa using hk.symm
    omega
  | c :: rest, pads, hpads => by
    by_cases hc : c = '='
    · subst hc
      rw [exists_marks_cons]
      by_cases hopen : found.length % 4 + pads < 3 ∨ found.length % 4 < 2
      · rw [scan_mark hopen, scan_padded (by split <;> omega)]
        refine and_congr_right fun _ => exists_congr fun k => and_congr_right fun _ => ?_
        split <;> omega
      · rw [scan_last_mark (by omega) (by omega)]
        split
        · next hrest =>
          subst hrest
          rw [Except.ok.injEq, eq_comm]
          exact (and_iff_left ⟨0, rfl, .inr (by omega)⟩).symm
        · next hrest =>
          refine iff_of_false (by simp) ?_
          rintro ⟨-, k, rfl, h⟩
          obtain rfl : k = 0 := by omega
          exact hrest rfl
    · obtain ⟨fault, hscan⟩ := exists_scan_padded_error hc found pads rest
      rw [hscan]
      refine iff_of_false (by simp) ?_
      rintro ⟨-, k, hk, -⟩
      exact cons_ne_marks hc k hk

/-! ### Texts -/

/-- After so many characters of the alphabet the text goes on with more of them and ends with the marks
that may stand behind all of these. -/
def GoesOn (length : Nat) (cs body : List Char) : Prop :=
  ∃ k, cs = body ++ List.replicate k '=' ∧ (∀ c ∈ body, c ∈ alphabet) ∧ Pads (length + body.length) k

theorem goesOn_cons {c : Char} {rest : List Char} (hc : c ∈ alphabet) :
    GoesOn m (c :: rest) body ↔ ∃ tail, body = c :: tail ∧ GoesOn (m + 1) rest tail := by
  have hmark := ne_mark_of_mem_alphabet hc
  constructor
  · rintro ⟨k, hcs, hbody, hpads⟩
    cases body with
    | nil => exact absurd hcs (cons_ne_marks hmark k)
    | cons d tail =>
      obtain ⟨rfl, hrest⟩ := List.cons.inj hcs
      refine ⟨tail, rfl, k, hrest, fun e he => hbody e (List.mem_cons_of_mem c he), ?_⟩
      rwa [List.length_cons, ← Nat.add_assoc, Nat.add_right_comm] at hpads
  · rintro ⟨tail, rfl, k, rfl, htail, hpads⟩
    refine ⟨k, rfl, List.forall_mem_cons.2 ⟨hc, htail⟩, ?_⟩
    rwa [List.length_cons, ← Nat.add_assoc, Nat.add_right_comm]

/-- A text that begins with no character of the alphabet can only be marks. -/
theorem exists_goesOn_of_head (h : ∀ c ∈ cs.head?, c ∉ alphabet) :
    (∃ body, GoesOn m cs body ∧ ns = found ++ body.map alphabet.idxOf) ↔
      ns = found ∧ ∃ k, cs = List.replicate k '=' ∧ Pads m k := by
  constructor
  · rintro ⟨body, ⟨k, rfl, hbody, hpads⟩, rfl⟩
    cases body with
    | nil => exact ⟨by simp, k, rfl, hpads⟩
    | cons d tail => exact absurd (hbody d List.mem_cons_self) (h d rfl)
  · rintro ⟨rfl, k, rfl, hpads⟩
    exact ⟨[], ⟨k, rfl, by simp, hpads⟩, by simp⟩

/-- Reading on accepts characters of the alphabet and then the marks that may stand behind them. -/
theorem scan_eq_ok_iff : ∀ {cs : List Char} {found : List Nat}, scan found false 0 cs = .ok ns ↔
    ∃ body, GoesOn found.length cs body ∧ ns = found.reverse ++ body.map alphabet.idxOf
  | [], found => by
    have hend : scan found false 0 [] = scan found true 0 [] := rfl
    rw [hend, scan_padded (by omega), exists_goesOn_of_head (by simp)]
    simp [Pads]
  | c :: rest, found => by
    by_cases hc : c ∈ alphabet
    · have hscan : scan found false 0 (c :: rest) =
          scan (alphabet.idxOf c :: found) false 0 rest := by
        simp [scan, ne_mark_of_mem_alphabet hc, sextet?_eq, hc]
      rw [hscan, scan_eq_ok_iff]
      simp [goesOn_cons hc]
    · rw [exists_goesOn_of_head (by simpa using hc)]
      by_cases hmark : c = '='
      · subst hmark
        have hstart : scan found false 0 ('=' :: rest) = scan found true 0 ('=' :: rest) := by
          simp [scan]
        rw [hstart, scan_padded (by omega)]
        simp [Pads]
      · have hscan : scan found false 0 (c :: rest) = .error .alphabet := by
          simp [scan, hmark, sextet?_eq, hc]
        rw [hscan]
        refine iff_of_false (by simp) ?_
        rintro ⟨-, k, hk, -⟩
        exact cons_ne_marks hmark k hk

/-- The text spells the bytes: characters of the alphabet, whose binary digits are those of the bytes but
for fewer than a byte has at the end, and marks that may stand behind them. A text of marks alone spells
nothing. -/
def Spells (cs : List Char) (content : Bytes) : Prop :=
  ∃ body, GoesOn 0 cs body ∧ (body = [] → cs = []) ∧
    ∃ left, sextetBits (body.map alphabet.idxOf) = byteBits content ++ left ∧ left.length < 8

theorem GoesOn.lt_of_mem (h : GoesOn m cs body) : ∀ n ∈ body.map alphabet.idxOf, n < 64 := by
  obtain ⟨k, -, hbody, -⟩ := h
  intro n hn
  obtain ⟨c, hc, rfl⟩ := List.mem_map.1 hn
  exact idxOf_lt (hbody c hc)

/-- A text begins with a mark if it is marks alone. -/
theorem GoesOn.head?_ne_iff (h : GoesOn m cs body) : cs.head? ≠ some '=' ↔ (body = [] → cs = []) := by
  obtain ⟨k, rfl, hbody, -⟩ := h
  cases body with
  | nil => cases k <;> simp [List.replicate_succ]
  | cons c body => simpa using ne_mark_of_mem_alphabet (hbody c List.mem_cons_self)

/-- Reading gives just what a text spells, and refuses a text that spells nothing. -/
theorem decode_eq_ok_iff : decode cs = .ok content ↔ Spells cs content := by
  constructor
  · intro h
    rw [decode] at h
    split at h
    · cases h
    · next hstart =>
      cases hscan : scan [] false 0 cs with
      | error fault =>
        rw [hscan] at h
        cases h
      | ok ns =>
        obtain ⟨body, hgoes, rfl⟩ := scan_eq_ok_iff.1 hscan
        obtain ⟨left, hbits, hlength⟩ := exists_byteBits_bytesOf hgoes.lt_of_mem
        rw [hscan] at h
        cases h
        exact ⟨body, hgoes, hgoes.head?_ne_iff.1 hstart, left, hbits, hlength⟩
  · rintro ⟨body, hgoes, hstart, left, hbits, hlength⟩
    obtain ⟨left', hbits', hlength'⟩ := exists_byteBits_bytesOf hgoes.lt_of_mem
    have hscan : scan [] false 0 cs = .ok (body.map alphabet.idxOf) :=
      scan_eq_ok_iff.2 ⟨body, hgoes, rfl⟩
    rw [decode, if_neg (hgoes.head?_ne_iff.2 hstart), hscan]
    exact congrArg Except.ok (eq_of_byteBits hlength' hlength (hbits'.symm.trans hbits))

/-- What a text in base64 consists of is ASCII. -/
theorem Spells.ascii (h : Spells cs content) : ∀ c ∈ cs, c.toNat < 0x80 := by
  obtain ⟨body, ⟨k, rfl, hbody, -⟩, -⟩ := h
  intro c hc
  rcases List.mem_append.1 hc with hc | hc
  · exact ascii_of_mem_alphabet (hbody c hc)
  · rw [List.eq_of_mem_replicate hc]
    decide

end OperatorConsole.Base64
