import Mathlib.Data.List.Find
import OperatorConsole.Proofs.Json.Text
import OperatorConsole.Proofs.Text.SameLines

/-!
Tokens and line ends. No carriage return and no line feed stands inside a string, a number or a word,
so a token that can be read is read as the same token from every text with the same lines, and what
follows it has the same lines again.
-/
namespace OperatorConsole.Json

open Text (IsReturn SameLines)

variable {cs ds rest after : List Char} {c : Char} {n : Nat}

/-! ### Strings -/

theorem not_isReturn_of_hexValue? (h : hexValue? c = some n) : ¬ IsReturn c := by
  rintro (rfl | rfl) <;> cases h

theorem not_isReturn_of_hexFour? {a b c d : Char} (h : hexFour? a b c d = some n) :
    ¬ IsReturn a ∧ ¬ IsReturn b ∧ ¬ IsReturn c ∧ ¬ IsReturn d := by
  simp only [hexFour?, bind, Option.bind_eq_some_iff] at h
  obtain ⟨_, ha, _, hb, _, hc, _, hd, -⟩ := h
  exact ⟨not_isReturn_of_hexValue? ha, not_isReturn_of_hexValue? hb, not_isReturn_of_hexValue? hc,
    not_isReturn_of_hexValue? hd⟩

theorem not_isReturn_of_escapeValue? (h : escapeValue? c = some n) : ¬ IsReturn c := by
  rintro (rfl | rfl) <;> cases h

/-- No line end stands in a string. -/
theorem readUnits_sameLines {units found : CodePoints} (h : SameLines cs ds)
    (hok : readUnits units cs = .ok (found, after)) :
    ∃ after', readUnits units ds = .ok (found, after') ∧ SameLines after after' := by
  fun_induction readUnits units cs generalizing ds with
  | case2 units c rest hc =>
    obtain rfl : c = '"' := by simpa using hc
    obtain ⟨rest', rfl, hrest⟩ := h.cons (by decide)
    cases hok
    exact ⟨rest', readUnits_quote, hrest⟩
  | case4 units c _ hc e he h1 h2 h3 h4 tail n htail hn ih =>
    obtain rfl : c = '\\' := by simpa using hc
    obtain rfl : e = 'u' := by simpa using he
    obtain ⟨hh1, hh2, hh3, hh4⟩ := not_isReturn_of_hexFour? hn
    obtain ⟨_, rfl, hu⟩ := h.cons (by decide)
    obtain ⟨_, rfl, h1⟩ := hu.cons (by decide)
    obtain ⟨_, rfl, h2⟩ := h1.cons hh1
    obtain ⟨_, rfl, h3⟩ := h2.cons hh2
    obtain ⟨_, rfl, h4⟩ := h3.cons hh3
    obtain ⟨_, rfl, hrest⟩ := h4.cons hh4
    have hne : tail ≠ [] := by simpa using htail
    rw [readUnits_hexFour hn fun hnil => hne (hrest.nil_iff.2 hnil)]
    exact ih hrest hok
  | case7 units c _ hc e after hu n he ih =>
    obtain rfl : c = '\\' := by simpa using hc
    obtain ⟨_, rfl, hletter⟩ := h.cons (by decide)
    obtain ⟨_, rfl, hrest⟩ := hletter.cons (not_isReturn_of_escapeValue? he)
    rw [readUnits_escape (by simpa using hu) he]
    exact ih hrest hok
  | case10 units c rest hquote hslash hcontrol ih =>
    have hc : ¬ IsReturn c := by
      rintro (rfl | rfl) <;> exact hcontrol (by decide)
    obtain ⟨_, rfl, hrest⟩ := h.cons hc
    rw [readUnits_plain (by simpa using hquote) (by simpa using hslash) (Nat.not_lt.1 hcontrol)]
    exact ih hrest hok
  | _ => cases hok

/-! ### Numbers -/

/-- A reader of the start of a text takes no line end, and the same from any text with these lines. -/
structure TakesPlain (f : List Char → List Char) : Prop where
  front (cs : List Char) : f cs <+: cs
  plain (cs : List Char) : ∀ c ∈ f cs, ¬ IsReturn c
  same {cs ds : List Char} : SameLines cs ds → f cs = f ds

namespace TakesPlain

variable {f g : List Char → List Char} {p : Char → Bool}

theorem take_length (hf : TakesPlain f) (cs : List Char) : cs.take (f cs).length = f cs :=
  (List.prefix_iff_eq_take.1 (hf.front cs)).symm

theorem drop (hf : TakesPlain f) (h : SameLines cs ds) :
    SameLines (cs.drop (f cs).length) (ds.drop (f cs).length) := by
  refine h.drop ?_
  rw [hf.take_length]
  exact hf.plain cs

theorem takeWhile (hp : ∀ c, IsReturn c → p c = false) : TakesPlain (List.takeWhile p) where
  front cs := List.takeWhile_prefix p
  plain cs c hc hreturn := by
    have hpc := List.all_eq_true.1 List.all_takeWhile c hc
    rw [hp c hreturn] at hpc
    cases hpc
  same h := h.takeWhile_eq hp

/-- As many characters as are taken, but no more than one. -/
theorem take_one (hf : TakesPlain f) : TakesPlain fun cs => (f cs).take 1 where
  front cs := (List.take_prefix 1 _).trans (hf.front cs)
  plain cs c hc := hf.plain cs c (List.mem_of_mem_take hc)
  same h := by rw [hf.same h]

/-- Two parts one after the other are read as one. -/
theorem both (hf : TakesPlain f) (hg : TakesPlain g) :
    TakesPlain fun cs => f cs ++ g (cs.drop (f cs).length) where
  front cs := by
    have hnext := (List.prefix_append_right_inj (f cs)).2 (hg.front (cs.drop (f cs).length))
    rwa [List.prefix_iff_eq_append.1 (hf.front cs)] at hnext
  plain cs c hc := (List.mem_append.1 hc).elim (hf.plain _ c) (hg.plain _ c)
  same h := by rw [← hf.same h, hg.same (hf.drop h)]

theorem marked (hp : ∀ c, IsReturn c → p c = false) (hf : TakesPlain f) :
    TakesPlain (Json.marked p f) where
  front cs := by
    cases cs with
    | nil => exact List.prefix_rfl
    | cons c rest =>
      rw [Json.marked]
      split
      · exact (List.prefix_cons_inj c).2 (hf.front rest)
      · exact List.nil_prefix
  plain cs := by
    cases cs with
    | nil => simp [Json.marked]
    | cons c rest =>
      rw [Json.marked]
      split
      · next htaken =>
        intro d hd
        rcases List.mem_cons.1 hd with rfl | hd
        · intro hreturn
          simp [hp _ hreturn] at htaken
        · exact hf.plain rest d hd
      · simp
  same {cs ds} h := by
    cases h with
    | nil => rfl
    | char hc h => rw [Json.marked, Json.marked, hf.same h]
    | returns he hf => simp [Json.marked, hp _ he, hp _ hf]
    | left he hf => simp [Json.marked, hp _ he, hp _ hf]
    | right he hf => simp [Json.marked, hp _ he, hp _ hf]

/-- Nothing is taken where another reader takes nothing. -/
theorem orNothing (hf : TakesPlain f) {isEmpty : List Char → Bool}
    (h : ∀ {cs ds : List Char}, SameLines cs ds → isEmpty cs = isEmpty ds) :
    TakesPlain fun cs => if isEmpty cs then [] else f cs where
  front cs := by
    split
    · exact List.nil_prefix
    · exact hf.front cs
  plain cs := by
    split
    · simp
    · exact hf.plain cs
  same hsame := by rw [h hsame, hf.same hsame]

end TakesPlain

theorem takesPlain_digits : TakesPlain (List.takeWhile Char.isDigit) :=
  .takeWhile (by rintro c (rfl | rfl) <;> rfl)

theorem takesPlain_minus : TakesPlain (oneOf (· == '-')) :=
  (TakesPlain.takeWhile (by rintro c (rfl | rfl) <;> rfl)).take_one

theorem wholeDigits_eq (cs : List Char) :
    wholeDigits cs = if cs.head? = some '0' then ['0'] else cs.takeWhile Char.isDigit := by
  unfold wholeDigits
  split
  · rfl
  · next hzero =>
    refine (if_neg fun hhead => ?_).symm
    obtain ⟨rest, hrest⟩ := List.head?_eq_some_iff.1 hhead
    exact hzero rest hrest

theorem takesPlain_wholeDigits : TakesPlain wholeDigits where
  front cs := by
    rw [wholeDigits_eq]
    split
    · next hhead =>
      obtain ⟨rest, rfl⟩ := List.head?_eq_some_iff.1 hhead
      exact ⟨rest, rfl⟩
    · exact takesPlain_digits.front cs
  plain cs := by
    rw [wholeDigits_eq]
    split
    · simp [IsReturn]
    · exact takesPlain_digits.plain cs
  same {cs ds} h := by
    have hzero : cs.head? = some '0' ↔ ds.head? = some '0' := h.head?_iff (by decide)
    rw [wholeDigits_eq, wholeDigits_eq, takesPlain_digits.same h]
    simp only [hzero]

theorem takesPlain_fraction : TakesPlain fraction :=
  takesPlain_digits.marked (by rintro c (rfl | rfl) <;> rfl)

theorem takesPlain_power : TakesPlain power := by
  have hsign : TakesPlain (oneOf fun c => c == '+' || c == '-') :=
    (TakesPlain.takeWhile (by rintro c (rfl | rfl) <;> rfl)).take_one
  have hempty : ∀ {cs ds : List Char}, SameLines cs ds →
      ((cs.drop (oneOf (fun c => c == '+' || c == '-') cs).length).takeWhile Char.isDigit).isEmpty =
      ((ds.drop (oneOf (fun c => c == '+' || c == '-') ds).length).takeWhile Char.isDigit).isEmpty := by
    intro cs ds h
    rw [← hsign.same h, takesPlain_digits.same (hsign.drop h)]
  exact (hsign.both takesPlain_digits).orNothing hempty

theorem takesPlain_exponent : TakesPlain exponent :=
  takesPlain_power.marked (by rintro c (rfl | rfl) <;> rfl)

theorem takeNumber_plain {number : List Char} {isFloat : Bool}
    (h : takeNumber cs = some (number, isFloat)) : number <+: cs ∧ ∀ c ∈ number, ¬ IsReturn c := by
  have htext :=
    ((takesPlain_minus.both takesPlain_wholeDigits).both takesPlain_fraction).both takesPlain_exponent
  have hfront := htext.front cs
  have hplain := htext.plain cs
  simp only [List.length_append, ← List.drop_drop] at hfront hplain
  simp only [takeNumber] at h
  split at h
  · cases h
  · obtain ⟨rfl, -⟩ := Prod.mk.inj (Option.some.inj h)
    exact ⟨hfront, hplain⟩

theorem takeNumber_sameLines (h : SameLines cs ds) : takeNumber cs = takeNumber ds := by
  have hsign := takesPlain_minus.drop h
  have hwhole := takesPlain_wholeDigits.drop hsign
  have hfraction := takesPlain_fraction.drop hwhole
  simp only [takeNumber, ← takesPlain_minus.same h, ← takesPlain_wholeDigits.same hsign,
    ← takesPlain_fraction.same hwhole, ← takesPlain_exponent.same hfraction]

/-! ### Single tokens -/

/-- The token can be read. -/
def Lexeme.IsRead : Lexeme → Prop
  | .mark _ | .text _ | .scalar _ => True
  | .badText .. | .badNumber _ | .junk => False

variable {rest' : List Char} {lexeme : Lexeme}

/-- What follows a token whose characters hold no line end. -/
theorem sameLines_drop_of_prefix {text : List Char} (htext : text <+: c :: rest)
    (hplain : ∀ d ∈ text, ¬ IsReturn d) (h : SameLines rest rest') :
    SameLines (rest.drop (text.length - 1)) (rest'.drop (text.length - 1)) := by
  cases text with
  | nil => exact h
  | cons d text =>
    obtain ⟨-, htext⟩ := List.cons_prefix_cons.1 htext
    rw [List.length_cons, Nat.add_sub_cancel]
    refine h.drop fun e he => ?_
    rw [← List.prefix_iff_eq_take.1 htext] at he
    exact hplain e (List.mem_cons_of_mem d he)

theorem not_isReturn_of_mem_literals : ∀ found ∈ literals, ∀ d ∈ found.1, ¬ IsReturn d := by
  have hplain : (literals.all fun found => found.1.all fun d => !decide (IsReturn d)) = true := by
    decide +kernel
  intro found hfound d hd
  simpa using List.all_eq_true.1 (List.all_eq_true.1 hplain found hfound) d hd

theorem takeLexeme_sameLines (hc : ¬ IsReturn c) (h : SameLines rest rest')
    (hread : (takeLexeme c rest).1.IsRead) :
    (takeLexeme c rest').1 = (takeLexeme c rest).1 ∧
      SameLines (takeLexeme c rest).2 (takeLexeme c rest').2 := by
  have hwhole : SameLines (c :: rest) (c :: rest') := .char hc h
  have hliteral : (literals.find? fun found => found.1.isPrefixOf (c :: rest)) =
      literals.find? fun found => found.1.isPrefixOf (c :: rest') :=
    List.find?_congr fun found hfound =>
      hwhole.isPrefixOf_eq (not_isReturn_of_mem_literals found hfound)
  unfold takeLexeme at hread ⊢
  by_cases hmark : isMark c = true
  · simp only [hmark, if_true]
    exact ⟨trivial, h⟩
  simp only [if_neg hmark] at hread ⊢
  by_cases hquote : (c == '"') = true
  · simp only [hquote, if_true] at hread ⊢
    cases hunits : readUnits [] rest with
    | error fault =>
      obtain ⟨defect, place⟩ := fault
      simp only [hunits] at hread
      cases defect <;> exact hread.elim
    | ok found =>
      obtain ⟨after', hunits', hafter⟩ := readUnits_sameLines h hunits
      simp only [hunits']
      exact ⟨trivial, hafter⟩
  simp only [if_neg hquote, ← hliteral, ← takeNumber_sameLines hwhole]
  cases hword : literals.find? fun found => found.1.isPrefixOf (c :: rest) with
  | some found =>
    have hfront : found.1 <+: c :: rest := by
      simpa using List.find?_some hword
    exact ⟨rfl, sameLines_drop_of_prefix hfront
      (not_isReturn_of_mem_literals found (List.mem_of_find?_eq_some hword)) h⟩
  | none =>
    cases hnumber : takeNumber (c :: rest) with
    | none => exact ⟨rfl, .nil⟩
    | some number =>
      obtain ⟨hfront, hplain⟩ := takeNumber_plain hnumber
      exact ⟨rfl, sameLines_drop_of_prefix hfront hplain h⟩

end OperatorConsole.Json
