import Mathlib.Data.List.Induction
import OperatorConsole.Proofs.Number.Numeral
import OperatorConsole.Proofs.Text.LowerCase

/-!
The texts that whole numbers are read from: margins of white space around an optional sign and a run
of digits of any script, in which single underscores stand between digits. What is read is the number
that the digits denote, and nothing is read from any other text.
-/
namespace OperatorConsole.Numeral

/-- White space that may stand around a numeral: all but the four information separators. -/
def isMargin (c : Char) : Bool := Text.isBlank c && !(0x1C ≤ c.toNat && c.toNat ≤ 0x1F)

/-- Decimal digits of any script, single underscores between some of them, and the values of the digits. -/
inductive DigitRun : List Char → List Nat → Prop where
  | last {c : Char} {v : Nat} (digit : Text.digitValue? c = some v) : DigitRun [c] [v]
  | next {c : Char} {v : Nat} {cs : List Char} {vs : List Nat} (digit : Text.digitValue? c = some v)
      (rest : DigitRun cs vs) : DigitRun (c :: cs) (v :: vs)
  | spaced {c : Char} {v : Nat} {cs : List Char} {vs : List Nat} (digit : Text.digitValue? c = some v)
      (rest : DigitRun cs vs) : DigitRun (c :: '_' :: cs) (v :: vs)

/-- The digits of a number, no more of them than numbers are read from. -/
def Counts (cs : List Char) (k : Nat) : Prop :=
  ∃ vs, DigitRun cs vs ∧ vs.length ≤ digitLimit ∧ k = Nat.ofDigits 10 vs.reverse

/-- The digits of a number with an optional sign in front. -/
inductive Denotes : List Char → Int → Prop where
  | bare {cs : List Char} {k : Nat} (digits : Counts cs k) : Denotes cs k
  | plus {cs : List Char} {k : Nat} (digits : Counts cs k) : Denotes ('+' :: cs) k
  | minus {cs : List Char} {k : Nat} (digits : Counts cs k) : Denotes ('-' :: cs) (-k)

variable {c x : Char} {v k : Nat} {vs : List Nat} {cs body : List Char} {n : Int}

/-! ### Characters -/

/-- A digit stands in a row of ten. -/
theorem digitValue?_eq_some (h : Text.digitValue? c = some v) :
    ∃ z ∈ Text.zeros, c.toNat = z + v ∧ v < 10 := by
  obtain ⟨z, hz, rfl⟩ := Option.map_eq_some_iff.1 h
  have hrow := List.find?_some hz
  simp only [Bool.and_eq_true, decide_eq_true_eq] at hrow
  exact ⟨z, List.mem_of_find?_eq_some hz, by omega, by omega⟩

/-- No digit is white space. -/
theorem isBlank_of_digitValue? (h : Text.digitValue? c = some v) : Text.isBlank c = false := by
  have hapart : ∀ z ∈ Text.zeros, ∀ r ∈ Text.blankRanges, z + 9 < r.1 ∨ r.2 < z := by decide +kernel
  obtain ⟨z, hz, hc, hv⟩ := digitValue?_eq_some h
  rw [Bool.eq_false_iff]
  intro hblank
  obtain ⟨r, hr, hlow, hhigh⟩ := (Text.Ranges.has_iff _ c).1 hblank
  rcases hapart z hz r hr with hlt | hlt <;> omega

/-- What a character of a numeral becomes in ASCII, by what it is. -/
inductive Becomes (c : Char) : Char → Prop where
  | ascii (h : c.toNat < 0x7F) : Becomes c c
  | blank (h : 0x7F ≤ c.toNat) (hblank : Text.isBlank c = true) : Becomes c ' '
  | digit {v : Nat} (h : 0x7F ≤ c.toNat) (hdigit : Text.digitValue? c = some v) : Becomes c (Text.digitChar v)
  | other (h : 0x7F ≤ c.toNat) (hblank : Text.isBlank c = false) (hdigit : Text.digitValue? c = none) : Becomes c '?'

theorem becomes_plainChar (c : Char) : Becomes c (plainChar c) := by
  rw [plainChar]
  by_cases hlow : c.toNat < 0x7F
  · rw [if_pos hlow]
    exact .ascii hlow
  · have hhigh : 0x7F ≤ c.toNat := by omega
    rw [if_neg hlow]
    cases hblank : Text.isBlank c with
    | true => exact .blank hhigh hblank
    | false =>
      cases hdigit : Text.digitValue? c with
      | some v => exact .digit hhigh hdigit
      | none => exact .other hhigh hblank hdigit

/-- A digit becomes the ASCII digit of its value. -/
theorem plainChar_of_digitValue? (hv : Text.digitValue? c = some v) : v < 10 ∧ plainChar c = Text.digitChar v := by
  have hascii : ∀ c : Char, c.toNat < 0x80 → ∀ v < 10, Text.digitValue? c = some v → c = Text.digitChar v :=
    fun _ => Text.forall_ascii (P := fun c => ∀ v < 10, Text.digitValue? c = some v → c = Text.digitChar v)
      (by decide +kernel)
  obtain ⟨-, -, -, hlt⟩ := digitValue?_eq_some hv
  refine ⟨hlt, ?_⟩
  have hplain := becomes_plainChar c
  generalize plainChar c = d at hplain ⊢
  cases hplain with
  | ascii h => exact hascii c (by omega) v hlt hv
  | blank h hblank =>
    rw [isBlank_of_digitValue? hv] at hblank
    cases hblank
  | digit h hdigit => rw [Option.some.inj (hv.symm.trans hdigit)]
  | other h hblank hdigit =>
    rw [hv] at hdigit
    cases hdigit

/-- Digits come from digits only. -/
theorem exists_digitValue?_of_isDigit (h : (plainChar c).isDigit = true) : ∃ v, Text.digitValue? c = some v := by
  have hascii : ∀ c : Char, c.toNat < 0x80 → c.isDigit = true → (Text.digitValue? c).isSome = true :=
    fun _ => Text.forall_ascii (P := fun c => c.isDigit = true → (Text.digitValue? c).isSome = true)
      (by decide +kernel)
  have hplain := becomes_plainChar c
  generalize plainChar c = d at hplain h
  cases hplain with
  | ascii hlow => exact Option.isSome_iff_exists.1 (hascii c (by omega) h)
  | digit _ hdigit => exact ⟨_, hdigit⟩
  | blank | other => cases h

/-- A sign, an underscore, a point or the letter of an exponent stays, and nothing else becomes one. -/
theorem plainChar_eq_iff (hx : x ∈ ['+', '-', '_', '.', 'e', 'E']) : plainChar c = x ↔ c = x := by
  obtain ⟨hlow, hspace, hquestion, hdigits⟩ : x.toNat < 0x7F ∧ ' ' ≠ x ∧ '?' ≠ x ∧
      ∀ v < 10, Text.digitChar v ≠ x := by
    simp only [List.mem_cons, List.not_mem_nil, or_false] at hx
    rcases hx with rfl | rfl | rfl | rfl | rfl | rfl <;> decide
  have hne : 0x7F ≤ c.toNat → c ≠ x := by
    rintro hhigh rfl
    omega
  have hplain := becomes_plainChar c
  generalize plainChar c = d at hplain ⊢
  cases hplain with
  | ascii => exact Iff.rfl
  | blank hhigh _ => exact iff_of_false hspace (hne hhigh)
  | digit hhigh hdigit =>
    obtain ⟨-, -, -, hlt⟩ := digitValue?_eq_some hdigit
    exact iff_of_false (hdigits _ hlt) (hne hhigh)
  | other hhigh _ _ => exact iff_of_false hquestion (hne hhigh)

/-- Just the white space of the margins is taken away. -/
theorem isSpace_plainChar (c : Char) : isSpace (plainChar c) = isMargin c := by
  have hascii : ∀ c : Char, c.toNat < 0x80 → isSpace c = isMargin c :=
    fun _ => Text.forall_ascii (P := fun c => isSpace c = isMargin c) (by decide +kernel)
  have hdigits : ∀ v < 10, isSpace (Text.digitChar v) = false := by decide
  have hplain := becomes_plainChar c
  generalize plainChar c = d at hplain ⊢
  cases hplain with
  | ascii hlow => exact hascii c (by omega)
  | blank hhigh hblank =>
    have hnot : ¬ c.toNat ≤ 0x1F := by omega
    simp [isMargin, hblank, hnot, isSpace]
  | digit hhigh hdigit =>
    obtain ⟨-, -, -, hlt⟩ := digitValue?_eq_some hdigit
    rw [hdigits _ hlt, isMargin, isBlank_of_digitValue? hdigit, Bool.false_and]
  | other hhigh hblank _ =>
    rw [isMargin, hblank, Bool.false_and]
    rfl

/-- A numeral is stripped of its margins and brought to ASCII. -/
theorem prepare_eq (cs : List Char) : prepare cs = (Text.stripBy isMargin cs).map plainChar := by
  have hmargin : isSpace ∘ plainChar = isMargin := funext isSpace_plainChar
  rw [prepare, Text.stripBy_map, hmargin]

/-! ### Runs of digits -/

/-- The characters of a run of digits. -/
def inRun (c : Char) : Bool := c.isDigit || c == '_'

/-- The digits of a run. -/
def digitsOf (cs : List Char) : List Char := cs.filter (· != '_')

/-- A text that is a run of digits from its start to its end, of which not too many stand in it. -/
structure IsRun (body : List Char) : Prop where
  inRun : ∀ c ∈ body, inRun c = true
  spaced : evenlySpaced false body = true
  short : (digitsOf body).length ≤ digitLimit

/-- Whether a number is read is told by the characters behind the sign. -/
theorem readWhole_eq_ok_iff {negative : Bool} (hbody : takeSign (prepare cs) = (negative, body)) :
    readWhole cs = .ok n ↔
      IsRun body ∧ n = if negative then -(natOf (digitsOf body) : Int) else natOf (digitsOf body) := by
  have hread : readWhole cs =
      if !evenlySpaced false (body.takeWhile inRun) then .error .malformed
      else if digitLimit < (digitsOf (body.takeWhile inRun)).length then
        .error (.tooLong (digitsOf (body.takeWhile inRun)).length)
      else if body.length != (body.takeWhile inRun).length then .error .malformed
      else .ok (if negative then -(natOf (digitsOf (body.takeWhile inRun)) : Int)
        else natOf (digitsOf (body.takeWhile inRun))) := by
    rw [readWhole, hbody]
    rfl
  by_cases hrun : IsRun body
  · have hshort := hrun.short
    rw [hread, List.takeWhile_eq_self_iff.2 hrun.inRun, if_neg (by simp [hrun.spaced]), if_neg (by omega),
      if_neg (c := (_ != _) = true) (by simp), Except.ok.injEq, and_iff_right hrun, eq_comm]
  · refine iff_of_false (fun h => hrun ?_) fun h => hrun h.1
    rw [hread] at h
    split at h
    · cases h
    next hspaced =>
      split at h
      · cases h
      next hshort =>
        split at h
        · cases h
        next hlength =>
          have hequal : body.length = (body.takeWhile inRun).length := by
            simpa only [bne_iff_ne, ne_eq, not_not] using hlength
          have hall := (List.takeWhile_prefix inRun).eq_of_length hequal.symm
          rw [hall] at hspaced hshort
          exact ⟨List.takeWhile_eq_self_iff.1 hall, by simpa using hspaced, by omega⟩

/-! ### Digits of any script -/

section

variable {afterDigit : Bool}

theorem isDigit_digitChar (hv : v < 10) : (Text.digitChar v).isDigit = true := by
  have h : ∀ v < 10, (Text.digitChar v).isDigit = true := by decide
  exact h v hv

theorem digitChar_ne_underscore (hv : v < 10) : Text.digitChar v ≠ '_' := fun h => by
  have hdigit := isDigit_digitChar hv
  rw [h] at hdigit
  cases hdigit

theorem digitsOf_digit (hv : v < 10) (cs : List Char) :
    digitsOf (Text.digitChar v :: cs) = Text.digitChar v :: digitsOf cs :=
  List.filter_cons_of_pos (bne_iff_ne.2 (digitChar_ne_underscore hv))

theorem evenlySpaced_of_ne (hc : c ≠ '_') (cs : List Char) :
    evenlySpaced afterDigit (c :: cs) = evenlySpaced true cs := by
  rw [evenlySpaced, if_neg (by simpa using hc)]

theorem evenlySpaced_underscore (cs : List Char) :
    evenlySpaced afterDigit ('_' :: cs) = (afterDigit && evenlySpaced false cs) := rfl

end

namespace DigitRun

theorem lt_ten (h : DigitRun cs vs) : ∀ v ∈ vs, v < 10 := by
  induction h with
  | last digit => simpa using (plainChar_of_digitValue? digit).1
  | next digit _ ih => exact List.forall_mem_cons.2 ⟨(plainChar_of_digitValue? digit).1, ih⟩
  | spaced digit _ ih => exact List.forall_mem_cons.2 ⟨(plainChar_of_digitValue? digit).1, ih⟩

theorem inRun_map (h : DigitRun cs vs) : ∀ c ∈ cs.map plainChar, inRun c = true := by
  have hdigit : ∀ {c v}, Text.digitValue? c = some v → inRun (plainChar c) = true := fun h => by
    obtain ⟨hv, hplain⟩ := plainChar_of_digitValue? h
    rw [hplain, inRun, isDigit_digitChar hv, Bool.true_or]
  induction h with
  | last digit => simpa using hdigit digit
  | next digit _ ih => exact List.forall_mem_cons.2 ⟨hdigit digit, ih⟩
  | spaced digit _ ih => exact List.forall_mem_cons.2 ⟨hdigit digit, List.forall_mem_cons.2 ⟨rfl, ih⟩⟩

/-- Every underscore of a run stands between two digits, whatever stands in front of the run. -/
theorem evenlySpaced_map (h : DigitRun cs vs) :
    ∀ afterDigit, evenlySpaced afterDigit (cs.map plainChar) = true := by
  have hdigit : ∀ {c v afterDigit cs}, Text.digitValue? c = some v →
      evenlySpaced afterDigit (plainChar c :: cs) = evenlySpaced true cs := fun h => by
    obtain ⟨hv, hplain⟩ := plainChar_of_digitValue? h
    rw [hplain, evenlySpaced_of_ne (digitChar_ne_underscore hv)]
  induction h with
  | last digit => exact fun afterDigit => hdigit digit
  | next digit _ ih => exact fun afterDigit => (hdigit digit).trans (ih true)
  | spaced digit _ ih => exact fun afterDigit => (hdigit digit).trans (ih false)

/-- The digits of a run in ASCII. -/
theorem digitsOf_map (h : DigitRun cs vs) : digitsOf (cs.map plainChar) = vs.map Text.digitChar := by
  have hdigit : ∀ {c v cs}, Text.digitValue? c = some v →
      digitsOf (plainChar c :: cs) = Text.digitChar v :: digitsOf cs := fun h => by
    obtain ⟨hv, hplain⟩ := plainChar_of_digitValue? h
    rw [hplain, digitsOf_digit hv]
  induction h with
  | last digit => exact hdigit digit
  | next digit _ ih => exact (hdigit digit).trans (congrArg _ ih)
  | spaced digit _ ih => exact (hdigit digit).trans (congrArg _ ih)

end DigitRun

/-- Whatever is spaced like a run is one. The text is read one digit at a time, or two characters where an
underscore follows the digit. -/
theorem exists_digitRun : ∀ {cs : List Char}, (∀ c ∈ cs.map plainChar, inRun c = true) →
    evenlySpaced false (cs.map plainChar) = true → ∃ vs, DigitRun cs vs
  | [], _, hspaced => nomatch hspaced
  | c :: rest, hall, hspaced => by
    rw [List.map_cons, List.forall_mem_cons] at hall
    have hc : plainChar c ≠ '_' := fun h => by
      rw [List.map_cons, h] at hspaced
      cases hspaced
    obtain ⟨v, hv⟩ : ∃ v, Text.digitValue? c = some v := by
      refine exists_digitValue?_of_isDigit ?_
      simpa [inRun, hc] using hall.1
    rw [List.map_cons, evenlySpaced_of_ne hc] at hspaced
    match rest, hall.2, hspaced with
    | [], _, _ => exact ⟨[v], .last hv⟩
    | d :: rest, hrest, hspaced =>
      by_cases hd : plainChar d = '_'
      · rw [List.map_cons, hd, evenlySpaced_underscore] at hspaced
        obtain ⟨vs, hrun⟩ := exists_digitRun (List.forall_mem_cons.1 hrest).2 hspaced
        rw [(plainChar_eq_iff (by simp)).1 hd]
        exact ⟨v :: vs, .spaced hv hrun⟩
      · have hagain : evenlySpaced false ((d :: rest).map plainChar) = true := by
          rw [List.map_cons, evenlySpaced_of_ne hd] at hspaced ⊢
          exact hspaced
        obtain ⟨vs, hrun⟩ := exists_digitRun hrest hagain
        exact ⟨v :: vs, .next hv hrun⟩

theorem natOf_map_digitChar (hvs : ∀ v ∈ vs, v < 10) :
    natOf (vs.map Text.digitChar) = Nat.ofDigits 10 vs.reverse := by
  have hvalue : ∀ v < 10, (Text.digitChar v).toNat - 0x30 = v := by decide
  induction vs using List.reverseRecOn with
  | nil => rfl
  | append_singleton vs v ih =>
    have hfront := ih fun w hw => hvs w (List.mem_append_left _ hw)
    rw [natOf] at hfront
    rw [natOf, List.map_append, List.foldl_append, hfront, List.reverse_append, List.map_singleton,
      List.foldl_cons, List.foldl_nil, hvalue v (hvs v (by simp))]
    simp [Nat.ofDigits_cons, Nat.add_comm]

/-- The digits of a number are a run in ASCII, and the number is read from them. -/
theorem counts_iff : Counts cs k ↔ IsRun (cs.map plainChar) ∧ k = natOf (digitsOf (cs.map plainChar)) := by
  constructor
  · rintro ⟨vs, hrun, hshort, rfl⟩
    refine ⟨⟨hrun.inRun_map, hrun.evenlySpaced_map false, ?_⟩, ?_⟩
    · rwa [hrun.digitsOf_map, List.length_map]
    · rw [hrun.digitsOf_map, natOf_map_digitChar hrun.lt_ten]
  · rintro ⟨hrun, rfl⟩
    obtain ⟨vs, hvs⟩ := exists_digitRun hrun.inRun hrun.spaced
    have hshort := hrun.short
    rw [hvs.digitsOf_map, List.length_map] at hshort
    exact ⟨vs, hvs, hshort, by rw [hvs.digitsOf_map, natOf_map_digitChar hvs.lt_ten]⟩

/-! ### Signs -/

/-- No run of digits begins with a sign. -/
theorem not_counts_sign (hc : c ∈ ['+', '-']) : ¬ Counts (c :: cs) k := by
  have hsign : Text.digitValue? c = none := by
    rcases List.mem_cons.1 hc with rfl | hc
    · decide
    · obtain rfl := List.mem_singleton.1 hc
      decide
  rintro ⟨vs, hrun, -⟩
  cases hrun with
  | last digit | next digit _ | spaced digit _ =>
    rw [digit] at hsign
    cases hsign

theorem denotes_minus : Denotes ('-' :: cs) n ↔ ∃ k, Counts cs k ∧ n = -(k : Int) := by
  constructor
  · rintro (digits | digits | digits)
    · exact absurd digits (not_counts_sign (by simp))
    · exact ⟨_, digits, rfl⟩
  · rintro ⟨k, digits, rfl⟩
    exact .minus digits

theorem denotes_plus : Denotes ('+' :: cs) n ↔ ∃ k, Counts cs k ∧ n = (k : Int) := by
  constructor
  · rintro (digits | digits | digits)
    · exact absurd digits (not_counts_sign (by simp))
    · exact ⟨_, digits, rfl⟩
  · rintro ⟨k, digits, rfl⟩
    exact .plus digits

theorem denotes_bare (hcs : ∀ c ∈ cs.head?, c ∉ ['+', '-']) :
    Denotes cs n ↔ ∃ k, Counts cs k ∧ n = (k : Int) := by
  constructor
  · rintro (digits | digits | digits)
    · exact ⟨_, digits, rfl⟩
    · exact absurd (hcs '+' rfl) (by simp)
    · exact absurd (hcs '-' rfl) (by simp)
  · rintro ⟨k, digits, rfl⟩
    exact .bare digits

/-- Without a sign in front a text is left as it is. -/
theorem takeSign_bare (hcs : ∀ c ∈ cs.head?, c ∉ ['+', '-']) :
    takeSign (cs.map plainChar) = (false, cs.map plainChar) := by
  cases cs with
  | nil => rfl
  | cons c cs =>
    have hc : c ≠ '+' ∧ c ≠ '-' := by simpa using hcs c rfl
    have hminus : plainChar c ≠ '-' := mt (plainChar_eq_iff (by simp)).1 hc.2
    have hplus : plainChar c ≠ '+' := mt (plainChar_eq_iff (by simp)).1 hc.1
    rw [List.map_cons, takeSign.eq_3 _ (by simp [hminus]) (by simp [hplus])]

/-- What is read is told by the run of digits behind the sign. -/
theorem readWhole_eq_ok_iff_counts {negative : Bool}
    (htake : takeSign (prepare cs) = (negative, body.map plainChar)) :
    readWhole cs = .ok n ↔ ∃ k, Counts body k ∧ n = if negative then -(k : Int) else k := by
  rw [readWhole_eq_ok_iff htake]
  simp only [counts_iff, and_assoc, exists_and_left, exists_eq_left]

/-- A number is read from a text just if what stands between the margins of the text denotes it. -/
theorem readWhole_eq_ok_iff_denotes : readWhole cs = .ok n ↔ Denotes (Text.stripBy isMargin cs) n := by
  have hprepare := prepare_eq cs
  generalize Text.stripBy isMargin cs = body at hprepare ⊢
  by_cases hsign : ∃ c ∈ body.head?, c ∈ ['+', '-']
  · obtain ⟨c, hhead, hc⟩ := hsign
    obtain ⟨rest, rfl⟩ := List.head?_eq_some_iff.1 hhead
    rw [List.map_cons, (plainChar_eq_iff (List.mem_append_left ['_', '.', 'e', 'E'] hc)).2 rfl] at hprepare
    rcases List.mem_cons.1 hc with rfl | hc
    · have htake : takeSign (prepare cs) = (false, rest.map plainChar) := by rw [hprepare, takeSign]
      exact (readWhole_eq_ok_iff_counts htake).trans denotes_plus.symm
    · obtain rfl := List.mem_singleton.1 hc
      have htake : takeSign (prepare cs) = (true, rest.map plainChar) := by rw [hprepare, takeSign]
      exact (readWhole_eq_ok_iff_counts htake).trans denotes_minus.symm
  · have hbare : ∀ c ∈ body.head?, c ∉ ['+', '-'] := fun c hhead hc => hsign ⟨c, hhead, hc⟩
    have htake : takeSign (prepare cs) = (false, body.map plainChar) := by rw [hprepare, takeSign_bare hbare]
    exact (readWhole_eq_ok_iff_counts htake).trans (denotes_bare hbare).symm

end OperatorConsole.Numeral
