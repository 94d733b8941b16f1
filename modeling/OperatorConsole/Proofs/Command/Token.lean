import Mathlib.Data.List.TakeWhile
import OperatorConsole.Command.Reader
import OperatorConsole.Proofs.Text.LowerCase

/-!
What the readers of tokens take. A token is the longest text of its class at the start of what is
left: identifiers are runs of word characters, a marked value is a text between quotes or a name
behind a dollar sign, and a naming is an identifier that an equals sign joins to its value. Every
class is stated on its own here; each reader takes the longest text of its class if there is one, and
takes nothing only if there is none.
-/
namespace OperatorConsole.Command

/-! ### Classes of characters -/

/-- Tables that have no code point in common hold no character in common. -/
theorem has_eq_false_of_disjoint {t u : Text.Ranges}
    (h : ∀ r ∈ t, ∀ s ∈ u, r.2 < s.1 ∨ s.2 < r.1) {c : Char} (hc : t.has c = true) :
    u.has c = false := by
  rw [Bool.eq_false_iff]
  intro hu
  obtain ⟨r, hr, hr1, hr2⟩ := (Text.Ranges.has_iff t c).1 hc
  obtain ⟨s, hs, hs1, hs2⟩ := (Text.Ranges.has_iff u c).1 hu
  rcases h r hr s hs with hlt | hlt <;> omega

theorem isWord_eq_false_of_isBlank {c : Char} (h : Text.isBlank c = true) :
    Text.isWord c = false := by
  unfold Text.isWord
  split
  · next hc =>
    obtain ⟨r, hr, hr1, hr2⟩ := (Text.Ranges.has_iff _ c).1 h
    have hn : c.toNat ≤ 0x20 := by
      simp only [Text.blankRanges, List.mem_cons, List.not_mem_nil, or_false] at hr
      rcases hr with rfl | rfl | rfl | rfl | rfl | rfl | rfl | rfl | rfl | rfl <;>
        simp only at hr1 hr2 <;> omega
    have ha : c.isAlphanum = false :=
      Bool.eq_false_iff.2 fun ha => absurd (Text.bounds_of_isAlphanum ha).1 (by omega)
    have hu : c ≠ '_' := by rintro rfl; exact absurd hn (by decide)
    rw [ha, Bool.false_or, beq_eq_false_iff_ne]
    exact hu
  · exact has_eq_false_of_disjoint (by decide +kernel) h

theorem isWord_eq_false_of_isGap {c : Char} (h : isGap c = true) : Text.isWord c = false := by
  rcases Bool.or_eq_true_iff.1 h with hb | he
  · exact isWord_eq_false_of_isBlank hb
  · rw [eq_of_beq he]; decide

theorem isGap_of_isBlank {c : Char} (h : Text.isBlank c = true) : isGap c = true := by
  rw [isGap, h, Bool.true_or]

/-! ### Runs of characters -/

/-- A text does not begin with a character of a class. -/
def Stops (p : Char → Bool) (cs : List Char) : Prop := ∀ c ∈ cs.head?, p c = false

@[simp] theorem stops_nil (p : Char → Bool) : Stops p [] := by simp [Stops]

@[simp] theorem stops_cons {p : Char → Bool} {c : Char} {cs : List Char} :
    Stops p (c :: cs) ↔ p c = false := by simp [Stops]

theorem stops_dropWhile (p : Char → Bool) (cs : List Char) : Stops p (cs.dropWhile p) := by
  intro c hc
  have h := List.head?_dropWhile_not p cs
  rw [Option.mem_def.1 hc] at h
  simpa using h

/-- A run in front of a text that stops is all that is taken. -/
theorem takeWhile_run {p : Char → Bool} {run rest : List Char} (hr : ∀ c ∈ run, p c = true)
    (hs : Stops p rest) : (run ++ rest).takeWhile p = run := by
  rw [List.takeWhile_append_of_pos hr]
  cases rest with
  | nil => simp
  | cons c cs => rw [List.takeWhile_cons_of_neg (by simpa using hs), List.append_nil]

theorem dropWhile_run {p : Char → Bool} {run rest : List Char} (hr : ∀ c ∈ run, p c = true)
    (hs : Stops p rest) : (run ++ rest).dropWhile p = rest := by
  rw [List.dropWhile_append_of_pos hr]
  cases rest with
  | nil => rfl
  | cons c cs => rw [List.dropWhile_cons_of_neg (by simpa using hs)]

/-- A gap that a text begins with, and what is left without it. -/
theorem exists_gap (cs : List Char) :
    ∃ gap, cs = gap ++ skipGap cs ∧ (∀ c ∈ gap, isGap c = true) ∧ Stops isGap (skipGap cs) :=
  ⟨cs.takeWhile isGap, List.takeWhile_append_dropWhile.symm, fun _ => List.mem_takeWhile_imp,
    stops_dropWhile isGap cs⟩

/-! ### Longest texts of a class -/

/-- A text begins with a text of a class. -/
def Begins (P : List Char → Prop) (cs : List Char) : Prop := ∃ lexeme, lexeme <+: cs ∧ P lexeme

/-- The longest text of a class at the start of a text. -/
structure Longest (P : List Char → Prop) (cs lexeme : List Char) : Prop where
  isPrefix : lexeme <+: cs
  inClass : P lexeme
  maximal : ∀ other, other <+: cs → P other → other.length ≤ lexeme.length

namespace Longest

variable {P : List Char → Prop} {cs a b : List Char}

theorem begins (h : Longest P cs a) : Begins P cs := ⟨a, h.isPrefix, h.inClass⟩

theorem unique (ha : Longest P cs a) (hb : Longest P cs b) : a = b := by
  have hab : a <+: b :=
    List.prefix_of_prefix_length_le ha.isPrefix hb.isPrefix (hb.maximal a ha.isPrefix ha.inClass)
  exact hab.eq_of_length_le (ha.maximal b hb.isPrefix hb.inClass)

end Longest

/-- A run of a class ends where its text stops, so that no prefix in the class is longer. -/
theorem length_le_of_stops {p : Char → Bool} {run rest other : List Char} (hs : Stops p rest)
    (ho : other <+: run ++ rest) (hp : ∀ c ∈ other, p c = true) : other.length ≤ run.length := by
  obtain ⟨t, ht⟩ := ho
  rcases List.append_eq_append_iff.1 ht with ⟨x, rfl, -⟩ | ⟨x, rfl, hx⟩
  · simp
  · cases x with
    | nil => simp
    | cons c x =>
      have hc : p c = true := hp c (by simp)
      rw [hx, List.cons_append, stops_cons, hc] at hs
      exact absurd hs (by simp)

/-! ### Identifiers -/

/-- A non-empty run of word characters of which the first is no digit. -/
def IsIdentifier : List Char → Prop
  | [] => False
  | c :: rest => Text.isDigit c = false ∧ ∀ d ∈ c :: rest, Text.isWord d = true

instance : DecidablePred IsIdentifier
  | [] => inferInstanceAs (Decidable False)
  | c :: rest =>
    decidable_of_iff (Text.isDigit c = false ∧ (c :: rest).all Text.isWord = true)
      (and_congr_right fun _ => List.all_eq_true)

theorem IsIdentifier.ne_nil {cs : List Char} (h : IsIdentifier cs) : cs ≠ [] := by
  rintro rfl
  exact h

theorem IsIdentifier.isWord {cs : List Char} (h : IsIdentifier cs) :
    ∀ c ∈ cs, Text.isWord c = true := by
  cases cs with
  | nil => exact h.elim
  | cons c rest => exact h.2

/-- What an identifier begins with is neither a digit nor anything but a word character. -/
theorem IsIdentifier.head {c : Char} {cs : List Char} (h : IsIdentifier (c :: cs)) :
    Text.isDigit c = false ∧ Text.isWord c = true := ⟨h.1, h.2 c (by simp)⟩

theorem identifier_append {name rest : List Char} (hn : IsIdentifier name)
    (hs : Stops Text.isWord rest) : identifier (name ++ rest) = name := by
  cases name with
  | nil => exact hn.elim
  | cons c cs =>
    rw [List.cons_append, identifier, hn.1, if_neg (by simp), ← List.cons_append]
    exact takeWhile_run hn.2 hs

/-- What is read is an identifier, and what follows it does not go on as one. -/
theorem isIdentifier_of_identifier_ne_nil {cs : List Char} (h : identifier cs ≠ []) :
    IsIdentifier (identifier cs) ∧ Stops Text.isWord (cs.drop (identifier cs).length) := by
  cases cs with
  | nil => exact absurd rfl h
  | cons c rest =>
    by_cases hd : Text.isDigit c
    · simp [identifier, hd] at h
    by_cases hw : Text.isWord c
    · have hi : identifier (c :: rest) = c :: rest.takeWhile Text.isWord := by
        simp [identifier, hd, hw]
      have hrest : (c :: rest).drop (identifier (c :: rest)).length
          = rest.dropWhile Text.isWord := by
        rw [hi, List.length_cons, List.drop_succ_cons]
        refine (List.append_right_inj (rest.takeWhile Text.isWord)).1 ?_
        rw [List.takeWhile_append_dropWhile]
        exact List.prefix_iff_eq_append.1 (List.takeWhile_prefix _)
      rw [hrest, hi]
      refine ⟨⟨by simpa using hd, fun d hm => ?_⟩, stops_dropWhile _ _⟩
      rcases List.mem_cons.1 hm with rfl | hm
      · exact hw
      · exact List.mem_takeWhile_imp hm
    · simp [identifier, hd, hw] at h

theorem identifier_append_drop (cs : List Char) :
    identifier cs ++ cs.drop (identifier cs).length = cs :=
  List.prefix_iff_eq_append.1 <| identifier_prefix cs

theorem longest_identifier {cs : List Char} (h : identifier cs ≠ []) :
    Longest IsIdentifier cs (identifier cs) where
  isPrefix := identifier_prefix cs
  inClass := (isIdentifier_of_identifier_ne_nil h).1
  maximal other ho hi := by
    have hs := (isIdentifier_of_identifier_ne_nil h).2
    rw [← identifier_append_drop cs] at ho
    exact length_le_of_stops hs ho hi.isWord

/-- Nothing is read exactly if no identifier is at the start. -/
theorem identifier_eq_nil_iff {cs : List Char} : identifier cs = [] ↔ ¬ Begins IsIdentifier cs := by
  constructor
  · rintro h ⟨name, ⟨t, rfl⟩, hn⟩
    cases name with
    | nil => exact hn
    | cons c rest =>
      rw [List.cons_append, identifier, hn.head.1, if_neg (by simp), List.takeWhile_cons,
        hn.head.2] at h
      exact absurd h (by simp)
  · intro h
    by_contra hne
    exact h (longest_identifier hne).begins

/-! ### Literals -/

/-- A text with every quote in it written twice. -/
def double (quote : Char) : List Char → List Char
  | [] => []
  | c :: rest => if c = quote then quote :: quote :: double quote rest else c :: double quote rest

theorem double_quote (quote : Char) (rest : List Char) :
    double quote (quote :: rest) = quote :: quote :: double quote rest := if_pos rfl

theorem double_of_ne {quote c : Char} (h : c ≠ quote) (rest : List Char) :
    double quote (c :: rest) = c :: double quote rest := if_neg h

/-- A text is written as a literal: its quotes doubled, between two quotes. -/
def quoted (quote : Char) (text : List Char) : List Char := quote :: (double quote text ++ [quote])

theorem closeLiteral_of_ne {quote c : Char} (h : c ≠ quote) (cs : List Char) :
    closeLiteral quote (c :: cs)
      = (closeLiteral quote cs).map fun (text, after) => (c :: text, after) := by
  cases cs with
  | nil => simp [closeLiteral, h]
  | cons d rest => rw [closeLiteral, if_neg (by simpa using h)]

theorem eq_of_closeLiteral {quote : Char} {cs text rest : List Char}
    (h : closeLiteral quote cs = some (text, rest)) : cs = double quote text ++ quote :: rest := by
  fun_induction closeLiteral quote cs generalizing text rest with
  | case1 => simp at h
  | case2 c hc =>
    obtain ⟨rfl, rfl⟩ := by simpa using h
    simp [double, eq_of_beq hc]
  | case3 => simp at h
  | case4 c d r hc hd t a hr ih =>
    obtain ⟨rfl, rfl⟩ := by simpa using h
    rw [eq_of_beq hc, eq_of_beq hd, double_quote, ih hr]
    simp
  | case5 c d r hc hd hr =>
    obtain ⟨rfl, rfl⟩ := by simpa using h
    simp [double, eq_of_beq hc]
  | case6 c d r hc hd =>
    obtain ⟨rfl, rfl⟩ := by simpa using h
    simp [double, eq_of_beq hc]
  | case7 c d r hc ih =>
    obtain ⟨⟨t, a⟩, hr, he⟩ := Option.map_eq_some_iff.1 h
    obtain ⟨rfl, rfl⟩ := by simpa using he
    rw [double_of_ne (by simpa using hc), ih hr, List.cons_append]

/-- A literal that closes somewhere is closed, and nowhere earlier. -/
theorem exists_closeLiteral (quote : Char) : ∀ text rest : List Char, ∃ read left,
    closeLiteral quote (double quote text ++ quote :: rest) = some (read, left) ∧
      left.length ≤ rest.length
  | [], [] => ⟨[], [], by simp [double, closeLiteral], Nat.le_refl _⟩
  | [], d :: rest => by
    rw [double, List.nil_append, closeLiteral, if_pos (by simp)]
    split
    · cases hr : closeLiteral quote rest with
      | none => exact ⟨_, _, rfl, Nat.le_refl _⟩
      | some found =>
        have := closeLiteral_length (show _ = some (found.1, found.2) from hr)
        exact ⟨_, _, rfl, by rw [List.length_cons]; omega⟩
    · exact ⟨_, _, rfl, Nat.le_refl _⟩
  | c :: text, rest => by
    obtain ⟨read, left, hr, hl⟩ := exists_closeLiteral quote text rest
    by_cases hc : c = quote
    · rw [hc, double_quote]
      refine ⟨quote :: read, left, ?_, hl⟩
      rw [List.cons_append, List.cons_append, closeLiteral, if_pos (by simp), if_pos (by simp), hr]
    · rw [double_of_ne hc]
      exact ⟨c :: read, left, by rw [List.cons_append, closeLiteral_of_ne hc, hr]; rfl, hl⟩

theorem double_injective {quote : Char} : ∀ {a b : List Char},
    double quote a = double quote b → a = b
  | [], [], _ => rfl
  | [], d :: b, h => by by_cases hd : d = quote <;> simp [double, hd] at h
  | c :: a, [], h => by by_cases hc : c = quote <;> simp [double, hc] at h
  | c :: a, d :: b, h => by
    by_cases hc : c = quote <;> by_cases hd : d = quote
    · rw [hc, hd, double_quote, double_quote] at h
      have hab : a = b := double_injective (List.cons.inj (List.cons.inj h).2).2
      rw [hc, hd, hab]
    · rw [hc, double_quote, double_of_ne hd] at h
      exact absurd (List.cons.inj h).1.symm hd
    · rw [hd, double_quote, double_of_ne hc] at h
      exact absurd (List.cons.inj h).1 hc
    · rw [double_of_ne hc, double_of_ne hd] at h
      have hab : a = b := double_injective (List.cons.inj h).2
      rw [(List.cons.inj h).1, hab]

theorem quoted_injective {quote : Char} {a b : List Char} (h : quoted quote a = quoted quote b) :
    a = b := double_injective (by simpa [quoted] using h)

/-- A literal that no quote follows is read as the text that was written. -/
theorem closeLiteral_double {quote : Char} {rest : List Char} (hs : Stops (· == quote) rest) :
    ∀ text : List Char, closeLiteral quote (double quote text ++ quote :: rest) = some (text, rest)
  | [] => by
    cases rest with
    | nil => simp [double, closeLiteral]
    | cons d rest =>
      rw [double, List.nil_append, closeLiteral, if_pos (by simp), if_neg (by simpa using hs)]
  | c :: text => by
    by_cases hc : c = quote
    · rw [hc, double_quote, List.cons_append, List.cons_append, closeLiteral, if_pos (by simp),
        if_pos (by simp), closeLiteral_double hs text]
    · rw [double_of_ne hc, List.cons_append, closeLiteral_of_ne hc, closeLiteral_double hs text]
      rfl

theorem literal_quoted_append (quote : Char) (text rest : List Char) :
    literal quote (quoted quote text ++ rest)
      = closeLiteral quote (double quote text ++ quote :: rest) := by
  simp [quoted, literal]

/-- A literal that is read is the longest one at the start. -/
theorem longest_literal {quote : Char} {cs text rest : List Char}
    (h : literal quote cs = some (text, rest)) :
    cs = quoted quote text ++ rest ∧
      ∀ other, quoted quote other <+: cs →
        (quoted quote other).length ≤ (quoted quote text).length := by
  have hcs : cs = quoted quote text ++ rest := by
    cases cs with
    | nil => simp [literal] at h
    | cons c r =>
      simp only [literal] at h
      split at h
      · next hc => rw [eq_of_beq hc, eq_of_closeLiteral h]; simp [quoted]
      · simp at h
  refine ⟨hcs, ?_⟩
  rintro other ⟨after, ha⟩
  obtain ⟨read, left, hr, hl⟩ := exists_closeLiteral quote other after
  rw [← ha, literal_quoted_append, hr] at h
  obtain ⟨-, rfl⟩ : read = text ∧ left = rest := by simpa using h
  have hlen := congrArg List.length (ha.trans hcs)
  simp only [List.length_append] at hlen
  omega

theorem not_quoted_prefix {quote : Char} {cs : List Char} (h : literal quote cs = none)
    (other : List Char) : ¬ quoted quote other <+: cs := by
  rintro ⟨after, rfl⟩
  obtain ⟨read, left, hr, -⟩ := exists_closeLiteral quote other after
  rw [literal_quoted_append, hr] at h
  exact absurd h (by simp)

/-! ### References -/

/-- A reference that is read is the longest one at the start. -/
theorem longest_reference {cs name rest : List Char} (h : reference cs = some (name, rest)) :
    IsIdentifier name ∧ cs = '$' :: name ++ rest ∧
      ∀ other, IsIdentifier other → '$' :: other <+: cs →
        ('$' :: other).length ≤ ('$' :: name).length := by
  unfold reference at h
  split at h
  · next r =>
    split at h
    · simp at h
    · next hi hne =>
      have hne' : identifier r ≠ [] := hne
      obtain ⟨rfl, rfl⟩ := by simpa using h
      have hr := identifier_append_drop r
      refine ⟨(isIdentifier_of_identifier_ne_nil hne').1, by rw [List.cons_append, hr], ?_⟩
      intro other ho hp
      have := (longest_identifier hne').maximal other (by simpa using hp) ho
      simpa using this
  · simp at h

theorem not_reference_prefix {cs : List Char} (h : reference cs = none) {name : List Char}
    (hn : IsIdentifier name) : ¬ '$' :: name <+: cs := by
  rintro ⟨after, rfl⟩
  simp only [List.cons_append, reference] at h
  split at h
  · next hi => exact identifier_eq_nil_iff.1 hi ⟨name, List.prefix_append _ _, hn⟩
  · simp at h

end OperatorConsole.Command
