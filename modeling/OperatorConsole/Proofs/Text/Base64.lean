import Mathlib.Data.List.Basic
import OperatorConsole.Text.Base64

/-!
Base64 there and back. The text of bytes is their bits in groups of six, each as a character of the
alphabet, and the marks that fill up the last four characters. So it is read as these groups, and the
groups put together are the bytes.
-/
namespace OperatorConsole.Base64

variable {n : Nat} {found : List Nat} {c : Char} {content : Bytes}

/-! ### The alphabet -/

theorem sextet?_sextetChar : ∀ n < 64, sextet? (sextetChar n) = some n := by decide

theorem sextetChar_ne : ∀ n < 64, sextetChar n ≠ '=' := by decide

theorem sextetChar_ascii : ∀ n < 64, (sextetChar n).toNat < 0x80 := by decide

/-! ### Groups of six bits -/

/-- The bits of bytes in groups of six; the last group is filled up with zeros. -/
def sextets : Bytes → List Nat
  | [] => []
  | [a] => [a.toNat / 4, a.toNat % 4 * 16]
  | [a, b] => [a.toNat / 4, a.toNat % 4 * 16 + b.toNat / 16, b.toNat % 16 * 4]
  | a :: b :: c :: rest =>
    a.toNat / 4 :: (a.toNat % 4 * 16 + b.toNat / 16) :: (b.toNat % 16 * 4 + c.toNat / 64) ::
      c.toNat % 64 :: sextets rest

theorem lt_of_mem_sextets (hn : n ∈ sextets content) : n < 64 := by
  have hbyte (b : UInt8) : b.toNat < 256 := b.toNat_lt
  fun_induction sextets content with
  | case1 => cases hn
  | case2 a =>
    have ha := hbyte a
    simp only [List.mem_cons, List.not_mem_nil, or_false] at hn
    omega
  | case3 a b =>
    have ha := hbyte a
    have hb := hbyte b
    simp only [List.mem_cons, List.not_mem_nil, or_false] at hn
    omega
  | case4 a b c rest ih =>
    have ha := hbyte a
    have hb := hbyte b
    have hc := hbyte c
    simp only [List.mem_cons] at hn
    rcases hn with rfl | rfl | rfl | rfl | hn
    · omega
    · omega
    · omega
    · omega
    · exact ih hn

/-- No byte has bits for one group alone. -/
theorem length_sextets (content : Bytes) : (sextets content).length % 4 ≠ 1 := by
  fun_induction sextets content with
  | case1 => decide
  | case2 a => simp
  | case3 a b => simp
  | case4 a b c rest ih =>
    simp only [List.length_cons]
    omega

theorem ofNat_eq {a : UInt8} (h : n = a.toNat) : UInt8.ofNat n = a := by
  rw [h, UInt8.ofNat_toNat]

/-- The groups put together are the bytes. -/
theorem bytesOf_sextets (content : Bytes) : bytesOf (sextets content) = content := by
  have hbyte (b : UInt8) : b.toNat < 256 := b.toNat_lt
  fun_induction sextets content with
  | case1 => rfl
  | case2 a =>
    have hfirst : UInt8.ofNat (a.toNat / 4 * 4 + a.toNat % 4 * 16 / 16) = a := ofNat_eq (by omega)
    rw [bytesOf, hfirst]
  | case3 a b =>
    have hb := hbyte b
    rw [bytesOf, ofNat_eq (a := a) (by omega), ofNat_eq (a := b) (by omega)]
  | case4 a b c rest ih =>
    have hb := hbyte b
    have hc := hbyte c
    rw [bytesOf, ih, ofNat_eq (a := a) (by omega), ofNat_eq (a := b) (by omega),
      ofNat_eq (a := c) (by omega)]

/-! ### Texts -/

/-- The marks that fill up so many characters to groups of four. -/
def padding (length : Nat) : List Char := List.replicate ((4 - length % 4) % 4) '='

theorem encode_eq (content : Bytes) :
    encode content = (sextets content).map sextetChar ++ padding (sextets content).length := by
  fun_induction encode content with
  | case1 => rfl
  | case2 a => rfl
  | case3 a b => rfl
  | case4 a b c rest ih =>
    have hpadding : padding ((sextets rest).length + 1 + 1 + 1 + 1) = padding (sextets rest).length := by
      rw [padding, padding, Nat.add_assoc, Nat.add_assoc, Nat.add_assoc, Nat.add_mod_right]
    simp only [sextets, List.map_cons, List.length_cons, List.cons_append, hpadding, ← ih]

/-- The text of bytes consists of characters of the alphabet and of marks that fill up. -/
theorem ascii_of_mem_encode (hc : c ∈ encode content) : c.toNat < 0x80 := by
  rw [encode_eq, List.mem_append] at hc
  rcases hc with hc | hc
  · obtain ⟨n, hn, rfl⟩ := List.mem_map.1 hc
    exact sextetChar_ascii n (lt_of_mem_sextets hn)
  · rw [List.eq_of_mem_replicate hc]
    decide

theorem head?_encode (content : Bytes) : (encode content).head? ≠ some '=' := by
  rw [encode_eq]
  cases hsextets : sextets content with
  | nil => decide
  | cons n rest =>
    have hmem : n ∈ sextets content := by simp [hsextets]
    have hn := lt_of_mem_sextets hmem
    simpa using sextetChar_ne n hn

/-! ### Reading -/

/-- A character of the alphabet is read as its bits. -/
theorem scan_sextetChar (hn : n < 64) (found : List Nat) (pads : Nat) (rest : List Char) :
    scan found false pads (sextetChar n :: rest) = scan (n :: found) false 0 rest := by
  have hmark : (sextetChar n == '=') = false := by simpa using sextetChar_ne n hn
  simp [scan, hmark, sextet?_sextetChar n hn]

theorem scan_map (rest : List Char) : ∀ {ns : List Nat} (found : List Nat), (∀ n ∈ ns, n < 64) →
    scan found false 0 (ns.map sextetChar ++ rest) = scan (ns.reverse ++ found) false 0 rest
  | [], found, _ => rfl
  | n :: ns, found, h => by
    obtain ⟨hn, hns⟩ := List.forall_mem_cons.1 h
    rw [List.map_cons, List.cons_append, scan_sextetChar hn, scan_map rest (n :: found) hns]
    simp

/-- The marks complete the last group. -/
theorem scan_padding (h : found.length % 4 ≠ 1) :
    scan found false 0 (padding found.length) = .ok found.reverse := by
  have hcases : found.length % 4 = 0 ∨ found.length % 4 = 2 ∨ found.length % 4 = 3 := by omega
  rcases hcases with h | h | h <;> simp [padding, h, scan, List.replicate]

/-- The bytes of the text of bytes are those bytes. -/
theorem decode_encode (content : Bytes) : decode (encode content) = .ok content := by
  have hscan : scan [] false 0 (encode content) = .ok (sextets content) := by
    -- When the marks come, all groups were read and stand in reverse.
    have hlength : (sextets content).reverse.length % 4 ≠ 1 := by
      rw [List.length_reverse]
      exact length_sextets content
    have hpadding := scan_padding hlength
    rw [List.length_reverse, List.reverse_reverse] at hpadding
    rw [encode_eq, scan_map _ [] fun n => lt_of_mem_sextets, List.append_nil, hpadding]
  rw [decode, if_neg (head?_encode content), hscan]
  exact congrArg Except.ok (bytesOf_sextets content)

end OperatorConsole.Base64
