import Mathlib.Data.List.Chain
import OperatorConsole.Json.Printer
import OperatorConsole.Json.Token
import OperatorConsole.Proofs.Text.Utf8

/-!
Strings of JSON documents. A string is printed code point by code point and read unit by unit; the
units of what is printed for a code point are the code point, or the two halves of its pair, and those
are joined again. What is read never holds the two halves of a pair one after the other, and every such
string, single halves and all, is read as it was printed.
-/
namespace OperatorConsole

/-! ### Texts as code points -/

theorem isSurrogate_toNat (c : Char) : isSurrogate c.toNat = false := by
  have hcases := Utf8.toNat_cases c
  simp only [isSurrogate, Bool.and_eq_false_iff, decide_eq_false_iff_not]
  omega

theorem textOf?_codePoints (s : String) : textOf? (codePoints s) = some s := by
  have hnone : (codePoints s).any isSurrogate = false := by
    simp [codePoints, isSurrogate_toNat]
  have hchars : (codePoints s).map Char.ofNat = s.toList := by
    simp [codePoints, Function.comp_def]
  rw [textOf?, hnone, if_neg Bool.false_ne_true, hchars, String.ofList_toList]

namespace Json

/-- The first half of a surrogate pair. -/
def IsFirstHalf (n : Nat) : Prop := 0xD800 ≤ n ∧ n < 0xDC00

/-- The second half of a surrogate pair. -/
def IsSecondHalf (n : Nat) : Prop := 0xDC00 ≤ n ∧ n < 0xE000

/-- A string as it is read: no first half of a pair stands right before a second one. -/
structure IsJoined (points : CodePoints) : Prop where
  valid : ∀ n ∈ points, n < 0x110000
  apart : points.IsChain fun n m => ¬ (IsFirstHalf n ∧ IsSecondHalf m)

theorem isJoined_nil : IsJoined [] := ⟨by simp, .nil⟩

theorem isJoined_cons {n : Nat} {points : CodePoints} : IsJoined (n :: points) ↔
    n < 0x110000 ∧ (∀ m ∈ points.head?, ¬ (IsFirstHalf n ∧ IsSecondHalf m)) ∧ IsJoined points := by
  constructor
  · rintro ⟨hvalid, hapart⟩
    rw [List.isChain_cons] at hapart
    exact ⟨hvalid n (by simp), hapart.1, fun m hm => hvalid m (by simp [hm]), hapart.2⟩
  · rintro ⟨hn, hhead, hvalid, hapart⟩
    exact ⟨List.forall_mem_cons.2 ⟨hn, hvalid⟩, List.isChain_cons.2 ⟨hhead, hapart⟩⟩

/-- A text holds no halves at all. -/
theorem isJoined_codePoints (s : String) : IsJoined (codePoints s) := by
  have hcases : ∀ n ∈ codePoints s, n < 0xD800 ∨ (0xDFFF < n ∧ n < 0x110000) := by
    intro n hn
    obtain ⟨c, -, rfl⟩ := List.mem_map.1 hn
    exact Utf8.toNat_cases c
  generalize codePoints s = points at hcases
  induction points with
  | nil => exact isJoined_nil
  | cons n points ih =>
    have hn := hcases n (by simp)
    refine isJoined_cons.2 ⟨by omega, fun m _ => ?_, ih fun m hm => hcases m (by simp [hm])⟩
    rintro ⟨⟨hlow, hhigh⟩, -⟩
    omega

variable {n : Nat} {c e : Char} {units points : CodePoints} {rest after : List Char}

/-! ### Units -/

theorem hexValue?_hexDigit : ∀ k < 16, hexValue? (Utf8.hexDigit k) = some k := by decide

theorem hexFour?_hexDigit (h : n < 0x10000) :
    hexFour? (Utf8.hexDigit (n / 0x1000 % 16)) (Utf8.hexDigit (n / 0x100 % 16))
      (Utf8.hexDigit (n / 16 % 16)) (Utf8.hexDigit (n % 16)) = some n := by
  have hdigit (k : Nat) : hexValue? (Utf8.hexDigit (k % 16)) = some (k % 16) :=
    hexValue?_hexDigit _ (Nat.mod_lt _ (by decide))
  have hsum : (n / 0x1000 % 16 * 16 + n / 0x100 % 16) * 256 + n / 16 % 16 * 16 + n % 16 = n := by omega
  simp only [hexFour?, hdigit, Option.bind_eq_bind, Option.bind_some, Option.pure_def, hsum]

theorem readUnits_quote : readUnits units ('"' :: rest) = .ok (units, rest) := by
  rw [readUnits.eq_def]
  simp

theorem readUnits_plain (hquote : c ≠ '"') (hslash : c ≠ '\\') (hc : 0x20 ≤ c.toNat) :
    readUnits units (c :: rest) = readUnits (c.toNat :: units) rest := by
  rw [readUnits.eq_def]
  simp [hquote, hslash, Nat.not_lt.2 hc]

theorem readUnits_escape (hu : e ≠ 'u') (he : escapeValue? e = some n) :
    readUnits units ('\\' :: e :: rest) = readUnits (n :: units) rest := by
  rw [readUnits.eq_def]
  simp [hu, he]

theorem readUnits_hexFour {h1 h2 h3 h4 : Char} (hn : hexFour? h1 h2 h3 h4 = some n)
    (hrest : rest ≠ []) : readUnits units ('\\' :: 'u' :: h1 :: h2 :: h3 :: h4 :: rest) =
      readUnits (n :: units) rest := by
  have hempty : rest.isEmpty = false := by simpa using hrest
  rw [readUnits.eq_def]
  simp [hn, hempty]

theorem readUnits_unicodeEscape (hn : n < 0x10000) (hrest : rest ≠ []) :
    readUnits units (unicodeEscape n ++ rest) = readUnits (n :: units) rest := by
  rw [unicodeEscape]
  simp only [List.cons_append, List.nil_append]
  exact readUnits_hexFour (hexFour?_hexDigit hn) hrest

/-- The units that are read where a code point was printed. -/
def unitsOf (n : Nat) : List Nat :=
  if n < 0x10000 then [n] else [0xD800 + (n - 0x10000) / 0x400, 0xDC00 + (n - 0x10000) % 0x400]

/-- The code points that have letters of their own after a backslash. -/
def lettered : List Nat := [0x22, 0x5C, 0x0A, 0x0D, 0x09, 0x0C, 0x08]

theorem toNat_ofNat : ∀ n < 0x7F, (Char.ofNat n).toNat = n := by decide

theorem writePoint_of_not_mem (h : n ∉ lettered) : writePoint true n =
    if n < 0x20 then unicodeEscape n else if n < 0x7F then [Char.ofNat n]
    else if n < 0x10000 then unicodeEscape n
    else unicodeEscape (0xD800 + (n - 0x10000) / 0x400) ++
      unicodeEscape (0xDC00 + (n - 0x10000) % 0x400) := by
  simp only [lettered, List.mem_cons, List.not_mem_nil, or_false, not_or] at h
  simp [writePoint, h]

theorem readUnits_writePoint (hn : n < 0x110000) (hrest : rest ≠ []) :
    readUnits units (writePoint true n ++ rest) = readUnits ((unitsOf n).reverse ++ units) rest := by
  by_cases hletter : n ∈ lettered
  · simp only [lettered, List.mem_cons, List.not_mem_nil, or_false] at hletter
    rcases hletter with rfl | rfl | rfl | rfl | rfl | rfl | rfl <;>
      exact readUnits_escape (by decide) rfl
  rw [writePoint_of_not_mem hletter]
  by_cases hlow : n < 0x10000
  · rw [unitsOf, if_pos hlow, if_pos hlow, List.reverse_singleton, List.singleton_append]
    by_cases hcontrol : n < 0x20
    · rw [if_pos hcontrol]
      exact readUnits_unicodeEscape hlow hrest
    rw [if_neg hcontrol]
    by_cases hplain : n < 0x7F
    · have hc : (Char.ofNat n).toNat = n := toNat_ofNat n hplain
      have hne (d : Char) (hd : d.toNat ∈ lettered) : Char.ofNat n ≠ d := by
        rintro rfl
        exact hletter (hc ▸ hd)
      rw [if_pos hplain, List.singleton_append,
        readUnits_plain (hne _ (by decide)) (hne _ (by decide)) (by omega), hc]
    · rw [if_neg hplain]
      exact readUnits_unicodeEscape hlow hrest
  · rw [unitsOf, if_neg hlow, if_neg hlow, if_neg (by omega), if_neg (by omega), List.append_assoc,
      readUnits_unicodeEscape (by omega) (by simp [unicodeEscape]),
      readUnits_unicodeEscape (by omega) hrest]
    rfl

theorem readUnits_writeText : ∀ {points units : CodePoints}, (∀ n ∈ points, n < 0x110000) →
    readUnits units (points.flatMap (writePoint true) ++ '"' :: after) =
      .ok ((points.flatMap unitsOf).reverse ++ units, after)
  | [], units, _ => readUnits_quote
  | n :: points, units, h => by
    have hrest : points.flatMap (writePoint true) ++ '"' :: after ≠ [] := by simp
    rw [List.flatMap_cons, List.append_assoc, readUnits_writePoint (h n List.mem_cons_self) hrest,
      readUnits_writeText fun m hm => h m (List.mem_cons_of_mem n hm)]
    simp

/-! ### Code points -/

theorem consUnit_of_apart (h : ∀ m ∈ points.head?, ¬ (IsFirstHalf n ∧ IsSecondHalf m)) :
    consUnit n points = n :: points := by
  cases points with
  | nil => rfl
  | cons m rest =>
    have hm := h m rfl
    rw [consUnit, if_neg]
    simp only [Bool.and_eq_true, decide_eq_true_eq]
    rintro ⟨⟨hfirst, hlow⟩, hhigh⟩
    exact hm ⟨hfirst, hlow, hhigh⟩

theorem consUnit_halves {high low : Nat} (hhigh : IsFirstHalf high) (hlow : IsSecondHalf low) :
    consUnit high (low :: points) = joinHalves high low :: points := by
  rw [consUnit, if_pos]
  simp only [Bool.and_eq_true, decide_eq_true_eq]
  exact ⟨⟨hhigh, hlow.1⟩, hlow.2⟩

/-- The units of a code point are joined to it, unless it is half of a pair that goes on. -/
theorem foldr_consUnit_unitsOf (h : IsJoined (n :: points)) :
    (unitsOf n).foldr consUnit points = n :: points := by
  obtain ⟨hn, hapart, -⟩ := isJoined_cons.1 h
  by_cases hlow : n < 0x10000
  · rw [unitsOf, if_pos hlow, List.foldr_cons, List.foldr_nil]
    exact consUnit_of_apart hapart
  · have hfirst : IsFirstHalf (0xD800 + (n - 0x10000) / 0x400) := ⟨by omega, by omega⟩
    have hsecond : IsSecondHalf (0xDC00 + (n - 0x10000) % 0x400) := ⟨by omega, by omega⟩
    have hjoin : joinHalves (0xD800 + (n - 0x10000) / 0x400) (0xDC00 + (n - 0x10000) % 0x400) = n := by
      unfold joinHalves
      omega
    rw [unitsOf, if_neg hlow, List.foldr_cons, List.foldr_cons, List.foldr_nil,
      consUnit_of_apart fun m _ hm => Nat.not_lt.2 hsecond.1 hm.1.2, consUnit_halves hfirst hsecond,
      hjoin]

theorem foldr_consUnit_flatMap : ∀ {points : CodePoints}, IsJoined points →
    (points.flatMap unitsOf).foldr consUnit [] = points
  | [], _ => rfl
  | n :: points, h => by
    rw [List.flatMap_cons, List.foldr_append, foldr_consUnit_flatMap (isJoined_cons.1 h).2.2,
      foldr_consUnit_unitsOf h]

/-- A string without two halves of one pair is read as it was printed. -/
theorem takeLexeme_writeText (h : IsJoined points) :
    takeLexeme '"' (points.flatMap (writePoint true) ++ '"' :: after) = (.text points, after) := by
  have hmark : isMark '"' = false := by decide
  rw [takeLexeme, hmark, readUnits_writeText h.valid, List.append_nil]
  simp only [Bool.false_eq_true, if_false, beq_self_eq_true, if_true, joinUnits, List.foldl_reverse]
  rw [foldr_consUnit_flatMap h]

/-! ### What is read -/

theorem hexValue?_lt (h : hexValue? c = some n) : n < 16 := by
  have hle : ∀ a b : Char, (a ≤ b) = (a.toNat ≤ b.toNat) := fun _ _ => rfl
  simp only [hexValue?, Bool.and_eq_true, decide_eq_true_eq, hle] at h
  split_ifs at h with hdigit hsmall hlarge <;> cases h
  · exact Nat.lt_of_le_of_lt (Nat.sub_le_sub_right hdigit.2 _) (by decide)
  · exact Nat.lt_of_le_of_lt (Nat.sub_le_sub_right hsmall.2 _) (by decide)
  · exact Nat.lt_of_le_of_lt (Nat.sub_le_sub_right hlarge.2 _) (by decide)

theorem hexFour?_lt {h1 h2 h3 h4 : Char} (h : hexFour? h1 h2 h3 h4 = some n) : n < 0x10000 := by
  simp only [hexFour?, bind, Option.bind_eq_some_iff, pure, Option.some.injEq] at h
  obtain ⟨a, ha, b, hb, c, hc, d, hd, rfl⟩ := h
  have hlt := And.intro (hexValue?_lt ha) (And.intro (hexValue?_lt hb)
    (And.intro (hexValue?_lt hc) (hexValue?_lt hd)))
  omega

theorem escapeValue?_lt (h : escapeValue? c = some n) : n < 0x80 := by
  unfold escapeValue? at h
  split at h <;> cases h <;> decide

/-- The units of a string that is read are code points. -/
theorem valid_of_readUnits {found : CodePoints} {cs : List Char} (hunits : ∀ n ∈ units, n < 0x110000)
    (h : readUnits units cs = .ok (found, after)) : ∀ n ∈ found, n < 0x110000 := by
  fun_induction readUnits units cs with
  | case2 =>
    cases h
    exact hunits
  | case4 units c _ _ e _ h1 h2 h3 h4 tail n _ hn ih =>
    have hlt := hexFour?_lt hn
    exact ih (List.forall_mem_cons.2 ⟨by omega, hunits⟩) h
  | case7 units c _ _ e after _ n hn ih =>
    have hlt := escapeValue?_lt hn
    exact ih (List.forall_mem_cons.2 ⟨by omega, hunits⟩) h
  | case10 units c rest _ _ _ ih =>
    have hcases := Utf8.toNat_cases c
    exact ih (List.forall_mem_cons.2 ⟨by omega, hunits⟩) h
  | _ => cases h

/-- A unit in front joins the half after it or stands apart from it. -/
theorem isJoined_consUnit (hn : n < 0x110000) (h : IsJoined points) : IsJoined (consUnit n points) := by
  cases points with
  | nil => exact isJoined_cons.2 ⟨hn, by simp, h⟩
  | cons m rest =>
    by_cases hpair : IsFirstHalf n ∧ IsSecondHalf m
    · obtain ⟨hfirst, hsecond⟩ := hpair
      rw [consUnit_halves hfirst hsecond]
      obtain ⟨hlow, hhigh⟩ := hfirst
      obtain ⟨hlow', hhigh'⟩ := hsecond
      refine isJoined_cons.2 ⟨?_, fun _ _ hhalves => ?_, (isJoined_cons.1 h).2.2⟩
      · unfold joinHalves
        omega
      · have hbound := hhalves.1.2
        unfold joinHalves at hbound
        omega
    · have hapart : ∀ k ∈ (m :: rest).head?, ¬ (IsFirstHalf n ∧ IsSecondHalf k) := by
        rintro k hk
        obtain rfl := Option.some.inj hk
        exact hpair
      rw [consUnit_of_apart hapart]
      exact isJoined_cons.2 ⟨hn, hapart, h⟩

theorem isJoined_joinUnits (h : ∀ n ∈ units, n < 0x110000) : IsJoined (joinUnits units) := by
  rw [joinUnits, ← List.foldr_reverse]
  have hreverse : ∀ n ∈ units.reverse, n < 0x110000 := fun n hn => h n (List.mem_reverse.1 hn)
  generalize units.reverse = units at hreverse
  induction units with
  | nil => exact isJoined_nil
  | cons n units ih =>
    exact isJoined_consUnit (hreverse n (by simp)) (ih fun m hm => hreverse m (by simp [hm]))

end Json

end OperatorConsole
