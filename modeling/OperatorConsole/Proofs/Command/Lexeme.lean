import Mathlib.Tactic.Conv
import OperatorConsole.Proofs.Command.Token

/-!
Lexemes of arguments: the text of a value in front of what follows it, and the text of a name with
what joins it to the value. What `takeName` and `takeValue` return is stated as a relation between the
text that is taken, what it stands for and the text after it, and the relation has one solution.
-/
namespace OperatorConsole.Command

/-! ### Marked values -/

/-- What a marked value begins with. -/
def sign : Form → Char
  | .plain => '"'
  | .document => '\''
  | .reference => '$'

/-- A value as it is written with its mark: between quotes, or behind a dollar sign. -/
def mark : Form → List Char → List Char
  | .plain, value => quoted '"' value
  | .document, value => quoted '\'' value
  | .reference, name => '$' :: name

/-- A value can be marked: any text as a literal, and as a reference only an identifier. -/
def Markable : Form → List Char → Prop
  | .reference, name => IsIdentifier name
  | _, _ => True

/-- A text is a value with its mark. -/
def IsMarked (lexeme : List Char) : Prop :=
  ∃ form value, Markable form value ∧ lexeme = mark form value

theorem head?_mark (form : Form) (value : List Char) : (mark form value).head? = some (sign form) := by
  cases form <;> rfl

theorem mark_ne_nil (form : Form) (value : List Char) : mark form value ≠ [] := by
  intro h
  have hh := head?_mark form value
  rw [h] at hh
  simp at hh

theorem sign_injective {f g : Form} (h : sign f = sign g) : f = g := by
  cases f <;> cases g <;> simp_all [sign]

/-- Two marked values at the start of one text have the same form. -/
theorem form_eq_of_mark_prefix {f g : Form} {v w rest : List Char}
    (h : mark g w <+: mark f v ++ rest) : g = f := by
  obtain ⟨t, ht⟩ := h
  have hh := congrArg List.head? ht
  simp only [List.head?_append, head?_mark, Option.some_or, Option.some.injEq] at hh
  exact sign_injective hh

theorem mark_injective {f g : Form} {v w : List Char} (h : mark f v = mark g w) :
    f = g ∧ v = w := by
  obtain rfl : f = g :=
    form_eq_of_mark_prefix (by rw [h]; exact List.prefix_append (mark g w) [])
  refine ⟨rfl, ?_⟩
  cases f with
  | plain => exact quoted_injective h
  | document => exact quoted_injective h
  | reference => exact (List.cons.inj h).2

/-- Only values of the same form can be longer marked values at the same place. -/
theorem longest_mark_of {form : Form} {value rest : List Char} (hv : Markable form value)
    (h : ∀ other, Markable form other → mark form other <+: mark form value ++ rest →
      (mark form other).length ≤ (mark form value).length) :
    Longest IsMarked (mark form value ++ rest) (mark form value) where
  isPrefix := List.prefix_append _ _
  inClass := ⟨form, value, hv, rfl⟩
  maximal other ho hm := by
    obtain ⟨g, w, hw, rfl⟩ := hm
    obtain rfl := form_eq_of_mark_prefix ho
    exact h w hw ho

/-- A character with which a marked value would go on: its quote, or a word character. -/
def goesOn : Form → Char → Bool
  | .plain, c => c == '"'
  | .document, c => c == '\''
  | .reference, c => Text.isWord c

/-- A marked value is the longest one where what follows does not go on with it. -/
theorem longest_mark {form : Form} {value rest : List Char} (hv : Markable form value)
    (hs : Stops (goesOn form) rest) :
    Longest IsMarked (mark form value ++ rest) (mark form value) := by
  have literalCase : ∀ quote other, Stops (· == quote) rest →
      quoted quote other <+: quoted quote value ++ rest →
      (quoted quote other).length ≤ (quoted quote value).length := by
    intro quote other hq hp
    have hr : literal quote (quoted quote value ++ rest) = some (value, rest) := by
      rw [literal_quoted_append, closeLiteral_double hq]
    exact (longest_literal hr).2 other hp
  refine longest_mark_of hv fun other ho hp => ?_
  cases form with
  | plain => exact literalCase _ other hs hp
  | document => exact literalCase _ other hs hp
  | reference =>
    have hp' : other <+: value ++ rest := by simpa [mark] using hp
    simpa [mark] using length_le_of_stops hs hp' ho.isWord

/-! ### Values -/

/-- A value is written as a lexeme in front of a text: as the longest marked value there or, where no
marked value begins, as all characters up to the next blank. -/
inductive ValueAt : Form → List Char → List Char → List Char → Prop
  | marked {form value after} : Markable form value →
      Longest IsMarked (mark form value ++ after) (mark form value) →
      ValueAt form value (mark form value) after
  | bare {value after} : ¬ Begins IsMarked (value ++ after) →
      (∀ c ∈ value, Text.isBlank c = false) → Stops (!Text.isBlank ·) after →
      ValueAt .plain value value after

theorem valueAt_takeValue (cs : List Char) : ∃ lexeme, cs = lexeme ++ (takeValue cs).2.2 ∧
    ValueAt (takeValue cs).1 (takeValue cs).2.1 lexeme (takeValue cs).2.2 := by
  unfold takeValue
  split
  · next text rest h =>
    obtain ⟨rfl, hmax⟩ := longest_literal h
    exact ⟨_, rfl, @ValueAt.marked .document _ _ trivial (longest_mark_of trivial fun o _ => hmax o)⟩
  next hdoc =>
  split
  · next name rest h =>
    obtain ⟨hn, rfl, hmax⟩ := longest_reference h
    exact ⟨_, rfl, @ValueAt.marked .reference _ _ hn (longest_mark_of hn hmax)⟩
  next href =>
  split
  · next text rest h =>
    obtain ⟨rfl, hmax⟩ := longest_literal h
    exact ⟨_, rfl, @ValueAt.marked .plain _ _ trivial (longest_mark_of trivial fun o _ => hmax o)⟩
  next hplain =>
  refine ⟨(bare cs).1, List.takeWhile_append_dropWhile.symm, .bare ?_ ?_ (stops_dropWhile _ _)⟩
  · rw [show (bare cs).1 ++ (bare cs).2 = cs from List.takeWhile_append_dropWhile]
    rintro ⟨lexeme, hp, form, value, hv, rfl⟩
    cases form with
    | document => exact not_quoted_prefix hdoc _ hp
    | reference => exact not_reference_prefix href hv hp
    | plain => exact not_quoted_prefix hplain _ hp
  · intro c hc
    have := List.mem_takeWhile_imp hc
    simpa using this

/-- A text has one value at its start. -/
theorem ValueAt.unique {f g : Form} {v w l m a b : List Char} (hl : ValueAt f v l a)
    (hm : ValueAt g w m b) (h : l ++ a = m ++ b) : f = g ∧ v = w ∧ a = b := by
  cases hl with
  | marked hv hlong =>
    cases hm with
    | marked hw hlong' =>
      rw [h] at hlong
      have he := hlong.unique hlong'
      obtain ⟨rfl, rfl⟩ := mark_injective he
      exact ⟨rfl, rfl, List.append_cancel_left h⟩
    | bare hno _ _ => exact absurd hlong.begins (h ▸ hno)
  | bare hno hr hs =>
    cases hm with
    | marked hw hlong' => exact absurd hlong'.begins (h ▸ hno)
    | bare _ hr' hs' =>
      have hl : (v ++ a).takeWhile (!Text.isBlank ·) = v := takeWhile_run (by simpa using hr) hs
      have hm : (w ++ b).takeWhile (!Text.isBlank ·) = w := takeWhile_run (by simpa using hr') hs'
      have he : v = w := by rw [← hl, h, hm]
      subst he
      exact ⟨rfl, rfl, List.append_cancel_left h⟩

theorem takeValue_append {form : Form} {value lexeme after : List Char}
    (h : ValueAt form value lexeme after) : takeValue (lexeme ++ after) = (form, value, after) := by
  obtain ⟨other, he, ht⟩ := valueAt_takeValue (lexeme ++ after)
  obtain ⟨hf, hv, ha⟩ := h.unique ht he
  rw [hf, hv]
  exact Prod.ext rfl (Prod.ext rfl ha.symm)

/-- Only a blank or the end stops a value that takes no character. -/
theorem ValueAt.eq_nil {form : Form} {value lexeme after : List Char}
    (h : ValueAt form value lexeme after) (hl : lexeme = []) (hs : Stops isGap after) :
    after = [] := by
  cases h with
  | marked => exact absurd hl (mark_ne_nil _ _)
  | bare _ _ hb =>
    cases after with
    | nil => rfl
    | cons c rest =>
      have hc : Text.isBlank c = true := by simpa using hb
      rw [stops_cons, isGap_of_isBlank hc] at hs
      exact absurd hs (by simp)

/-! ### Names -/

/-- A name with what joins it to its value: blanks, an equals sign and a gap. -/
def naming (name blanks gap : List Char) : List Char := name ++ (blanks ++ '=' :: gap)

/-- A text is a name with what joins it to its value. -/
def IsNaming (lexeme : List Char) : Prop :=
  ∃ name blanks gap, IsIdentifier name ∧ (∀ c ∈ blanks, Text.isBlank c = true) ∧
    (∀ c ∈ gap, isGap c = true) ∧ lexeme = naming name blanks gap

/-- A name is written as a lexeme in front of a text: with all of the gap that joins it to its value,
or as nothing where no name is joined to a value. -/
inductive NameAt : List Char → List Char → List Char → Prop
  | named {name blanks gap after} : IsIdentifier name → (∀ c ∈ blanks, Text.isBlank c = true) →
      (∀ c ∈ gap, isGap c = true) → Stops isGap after →
      NameAt name (naming name blanks gap) after
  | positional {after} : ¬ Begins IsNaming after → NameAt [] [] after

/-- Neither a blank nor an equals sign goes on with a name. -/
theorem stops_isWord_joint {blanks rest : List Char} (h : ∀ c ∈ blanks, Text.isBlank c = true) :
    Stops Text.isWord (blanks ++ '=' :: rest) := by
  cases blanks with
  | nil => rw [List.nil_append, stops_cons]; decide
  | cons c cs => rw [List.cons_append, stops_cons]; exact isWord_eq_false_of_isBlank (h c (by simp))

theorem takeName_naming_append {name blanks gap rest : List Char} (hn : IsIdentifier name)
    (hb : ∀ c ∈ blanks, Text.isBlank c = true) :
    takeName (naming name blanks gap ++ rest) = (name, skipGap (gap ++ rest)) := by
  have hi : identifier (name ++ (blanks ++ '=' :: (gap ++ rest))) = name :=
    identifier_append hn (stops_isWord_joint hb)
  have he : naming name blanks gap ++ rest = name ++ (blanks ++ '=' :: (gap ++ rest)) := by
    simp [naming]
  have hd : (blanks ++ '=' :: (gap ++ rest)).dropWhile Text.isBlank = '=' :: (gap ++ rest) :=
    dropWhile_run hb (by rw [stops_cons]; decide)
  rw [he, takeName, hi]
  split
  · exact absurd rfl hn.ne_nil
  · rw [List.drop_left, hd]
    rfl

/-- An identifier, blanks and an equals sign are a naming. -/
theorem begins_isNaming {cs rest : List Char} (hi : identifier cs ≠ [])
    (hr : (cs.drop (identifier cs).length).dropWhile Text.isBlank = '=' :: rest) :
    Begins IsNaming cs := by
  have hcs := identifier_append_drop cs
  generalize hb : (cs.drop (identifier cs).length).takeWhile Text.isBlank = blanks
  have hjoint : cs.drop (identifier cs).length = blanks ++ '=' :: rest := by
    rw [← hb, ← hr, List.takeWhile_append_dropWhile]
  refine ⟨naming (identifier cs) blanks [], ⟨rest, ?_⟩, identifier cs, blanks, [],
    (isIdentifier_of_identifier_ne_nil hi).1, ?_, by simp, rfl⟩
  · rw [hjoint] at hcs
    simpa [naming] using hcs
  · rw [← hb]
    exact fun c => List.mem_takeWhile_imp

theorem nameAt_takeName (cs : List Char) :
    ∃ lexeme, cs = lexeme ++ (takeName cs).2 ∧ NameAt (takeName cs).1 lexeme (takeName cs).2 := by
  by_cases h : Begins IsNaming cs
  · obtain ⟨lexeme, ⟨t, rfl⟩, name, blanks, gap, hn, hb, hg, rfl⟩ := h
    rw [takeName_naming_append hn hb]
    obtain ⟨more, hm, hmore, hs⟩ := exists_gap t
    have hskip : skipGap (gap ++ t) = skipGap t := List.dropWhile_append_of_pos hg
    refine ⟨naming name blanks (gap ++ more), ?_, .named hn hb ?_ (stops_dropWhile _ _)⟩
    · rw [hskip]
      conv_lhs => rw [hm]
      simp [naming]
    · intro c hc
      exact (List.mem_append.1 hc).elim (hg c) (hmore c)
  · have hpos : takeName cs = ([], cs) := by
      unfold takeName
      split
      · rfl
      · next hi hne =>
        split
        · next rest hr => exact absurd (begins_isNaming hne hr) h
        · rfl
    rw [hpos]
    exact ⟨[], rfl, .positional h⟩

theorem takeName_append {name lexeme after : List Char} (h : NameAt name lexeme after) :
    takeName (lexeme ++ after) = (name, after) := by
  cases h with
  | named hn hb hg hs =>
    rw [takeName_naming_append hn hb]
    exact Prod.ext rfl (dropWhile_run hg hs)
  | positional h =>
    obtain ⟨lexeme, he, hat⟩ := nameAt_takeName after
    rw [List.nil_append]
    generalize takeName after = read at he hat ⊢
    obtain ⟨name, rest⟩ := read
    cases hat with
    | named hn hb hg hs => exact absurd ⟨_, ⟨rest, he.symm⟩, _, _, _, hn, hb, hg, rfl⟩ h
    | positional _ => exact Prod.ext rfl he.symm

/-! ### Arguments -/

/-- An argument is written as a lexeme in front of a text: its name and its value. The value has no
text of its own only where a name is joined to it and nothing follows. -/
inductive ArgumentAt (a : Argument) : List Char → List Char → Prop
  | intro {name value after : List Char} : NameAt a.name.toList name (value ++ after) →
      ValueAt a.form a.value.toList value after →
      (value = [] → a.name ≠ "" ∧ after = []) → ArgumentAt a (name ++ value) after

/-- What `takeArgument` takes, without the gap behind it. -/
theorem argumentAt_takeArgument {cs : List Char} (hne : cs ≠ []) (hs : Stops isGap cs) :
    ∃ lexeme gap, cs = lexeme ++ (gap ++ (takeArgument cs).2) ∧
      (∀ c ∈ gap, isGap c = true) ∧ Stops isGap (takeArgument cs).2 ∧
      ArgumentAt (takeArgument cs).1 lexeme (gap ++ (takeArgument cs).2) := by
  obtain ⟨n, rest, hn⟩ : ∃ n rest, takeName cs = (n, rest) := ⟨_, _, rfl⟩
  obtain ⟨form, text, after, hv⟩ : ∃ form text after, takeValue rest = (form, text, after) :=
    ⟨_, _, _, rfl⟩
  obtain ⟨name, hname, hnameAt⟩ := nameAt_takeName cs
  obtain ⟨value, hvalue, hvalueAt⟩ := valueAt_takeValue rest
  have ht : takeArgument cs = (⟨form, String.ofList n, String.ofList text⟩, skipGap after) := by
    simp [takeArgument, hn, hv]
  rw [hn] at hname hnameAt
  rw [hv] at hvalue hvalueAt
  simp only at hname hnameAt hvalue hvalueAt
  obtain ⟨gap, hgap, hall, hstop⟩ := exists_gap after
  refine ⟨name ++ value, gap, ?_, hall, ht ▸ hstop, ?_⟩
  · rw [ht, ← hgap, List.append_assoc, ← hvalue]
    exact hname
  rw [ht, ← hgap]
  refine .intro ?_ ?_ ?_
  · rw [← hvalue]
    simpa using hnameAt
  · simpa using hvalueAt
  · rintro rfl
    obtain rfl : rest = after := hvalue
    cases hnameAt with
    | named hi hb hg hsg =>
      refine ⟨fun h => hi.ne_nil ?_, hvalueAt.eq_nil rfl hsg⟩
      simpa using h
    | positional _ =>
      -- the text itself would be empty
      obtain rfl : cs = rest := hname
      exact absurd (hvalueAt.eq_nil rfl hs) hne

theorem takeArgument_append {a : Argument} {lexeme gap rest : List Char}
    (h : ArgumentAt a lexeme (gap ++ rest)) (hg : ∀ c ∈ gap, isGap c = true)
    (hs : Stops isGap rest) : takeArgument (lexeme ++ (gap ++ rest)) = (a, rest) := by
  generalize hafter : gap ++ rest = after at h
  cases h with
  | intro hname hvalue _ =>
    rw [List.append_assoc, takeArgument, takeName_append hname]
    simp only [takeValue_append hvalue, String.ofList_toList]
    rw [← hafter]
    exact Prod.ext rfl (dropWhile_run hg hs)

end OperatorConsole.Command
