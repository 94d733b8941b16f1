import OperatorConsole.Proofs.Json.Reading

/-!
Documents there and back. However a document is laid out, its text has the tokens of the document, since
only blanks stand between them and no number runs into what follows it. So a document without fractions
is read as it was printed.
-/
namespace OperatorConsole.Json

variable {c : Char} {cs ds blanks rest after : List Char} {points : CodePoints} {layout : Layout} {n : Nat}

/-! ### Blanks, marks and strings -/

theorem lexemesOf_congr (h : cs.dropWhile isSpace = ds.dropWhile isSpace) :
    lexemesOf cs = lexemesOf ds := by
  cases hd : ds.dropWhile isSpace with
  | nil => rw [lexemesOf_of_dropWhile_nil hd, lexemesOf_of_dropWhile_nil (h.trans hd)]
  | cons c rest => rw [lexemesOf_of_dropWhile hd, lexemesOf_of_dropWhile (h.trans hd)]

theorem lexemesOf_nil : lexemesOf [] = [] := lexemesOf_of_dropWhile_nil rfl

/-- Blanks in front of a token are passed over. -/
theorem lexemesOf_blanks (h : ∀ c ∈ blanks, isSpace c = true) :
    lexemesOf (blanks ++ cs) = lexemesOf cs := by
  refine lexemesOf_congr ?_
  rw [List.dropWhile_append_of_pos h]

theorem lexemesOf_takeLexeme {lexeme : Lexeme} (hspace : isSpace c = false)
    (h : takeLexeme c rest = (lexeme, after)) : lexemesOf (c :: rest) = lexeme :: lexemesOf after := by
  have hdrop : (c :: rest).dropWhile isSpace = c :: rest :=
    List.dropWhile_cons_of_neg (by simp [hspace])
  rw [lexemesOf_of_dropWhile hdrop, h]

theorem lexemesOf_mark (hc : isMark c = true) (hspace : isSpace c = false) :
    lexemesOf (c :: rest) = .mark c :: lexemesOf rest :=
  lexemesOf_takeLexeme hspace (by rw [takeLexeme, if_pos hc])

theorem lexemesOf_writeText (h : IsJoined points) :
    lexemesOf (writeText true points ++ after) = .text points :: lexemesOf after := by
  have htext : writeText true points ++ after =
      '"' :: (points.flatMap (writePoint true) ++ '"' :: after) := by simp [writeText]
  rw [htext]
  exact lexemesOf_takeLexeme rfl (takeLexeme_writeText h)

/-! ### Words and numbers -/

/-- A word in front of a text; no other word begins it. -/
theorem lexemesOf_word {word : List Char} {v : Json}
    (h : (word, v) ∈ [("null".toList, Json.null), ("true".toList, .bool true),
      ("false".toList, .bool false)]) :
    lexemesOf (word ++ after) = .scalar v :: lexemesOf after := by
  simp only [List.mem_cons, Prod.mk.injEq, List.not_mem_nil, or_false] at h
  rcases h with ⟨rfl, rfl⟩ | ⟨rfl, rfl⟩ | ⟨rfl, rfl⟩ <;>
    exact lexemesOf_takeLexeme rfl rfl

/-- Nothing goes on with a number: a blank or a mark comes next, or nothing. -/
def Stops (after : List Char) : Prop := ∀ c ∈ after.head?, isSpace c = true ∨ isMark c = true

theorem Stops.elim (h : Stops after) {p : Char → Bool}
    (hp : ∀ c ∈ [' ', '\t', '\n', '\r', '[', ']', '{', '}', ',', ':'], p c = false) :
    ∀ c ∈ after.head?, p c = false := by
  intro c hc
  have hmem := h c hc
  simp only [isSpace, isMark, Bool.or_eq_true, beq_iff_eq, List.contains_iff_mem, List.mem_cons,
    List.not_mem_nil, or_false] at hmem
  exact hp c (by simp; tauto)

theorem takeWhile_append_stops (hafter : Stops after) (h : ∀ c ∈ cs, c.isDigit = true) :
    (cs ++ after).takeWhile Char.isDigit = cs := by
  rw [List.takeWhile_append_of_pos h]
  have hnone : after.takeWhile Char.isDigit = [] := by
    cases after with
    | nil => rfl
    | cons c rest =>
      have hc : c.isDigit = false := hafter.elim (p := Char.isDigit) (by simp [Char.isDigit]) c rfl
      exact List.takeWhile_cons_of_neg (by simp [hc])
  rw [hnone, List.append_nil]

theorem marked_stops {part : List Char → List Char} {p : Char → Bool} (hafter : Stops after)
    (hp : ∀ c ∈ [' ', '\t', '\n', '\r', '[', ']', '{', '}', ',', ':'], p c = false) :
    marked p part after = [] := by
  cases after with
  | nil => rfl
  | cons c rest => simp [marked, hafter.elim hp c rfl]

/-- Only zero begins with a zero. -/
theorem head?_toDigits (n : Nat) (hpos : 0 < n) : (Nat.toDigits 10 n).head? ≠ some '0' := by
  induction n using Nat.strongRecOn with
  | ind n ih =>
    by_cases hsmall : n < 10
    · have hdigit : ∀ d < 10, 0 < d → Nat.digitChar d ≠ '0' := by decide
      rw [Nat.toDigits_of_lt_base hsmall]
      simpa using hdigit n hsmall hpos
    · have hrest : 0 < n / 10 := Nat.div_pos (Nat.not_lt.1 hsmall) (by decide)
      rw [Nat.toDigits_of_base_le (by decide) (Nat.not_lt.1 hsmall),
        List.head?_append_of_ne_nil _ Nat.toDigits_ne_nil]
      exact ih (n / 10) (by omega) hrest

theorem wholeDigits_toDigits (hafter : Stops after) (n : Nat) :
    wholeDigits (Nat.toDigits 10 n ++ after) = Nat.toDigits 10 n := by
  have hdigit : ∀ c ∈ Nat.toDigits 10 n, c.isDigit = true := fun c hc =>
    Nat.isDigit_of_mem_toDigits (by decide) (by decide) hc
  rcases Nat.eq_zero_or_pos n with rfl | hpos
  · rfl
  unfold wholeDigits
  split
  · next rest hzero =>
    have hhead := congrArg List.head? hzero
    rw [List.head?_append_of_ne_nil _ Nat.toDigits_ne_nil] at hhead
    exact absurd hhead (head?_toDigits n hpos)
  · exact takeWhile_append_stops hafter hdigit

theorem oneOf_minus (c : Char) (rest : List Char) :
    oneOf (· == '-') (c :: rest) = if c = '-' then ['-'] else [] := by
  by_cases hc : c = '-' <;> simp [oneOf, hc]

theorem takeNumber_toString (hafter : Stops after) (n : Int) :
    takeNumber ((toString n).toList ++ after) = some ((toString n).toList, false) := by
  have hsign : oneOf (· == '-') ((toString n).toList ++ after) = if n < 0 then ['-'] else [] := by
    rw [Numeral.toList_toString]
    split_ifs with hneg
    · rfl
    · obtain ⟨d, digits, hdigits⟩ := List.exists_cons_of_ne_nil
        (Nat.toDigits_ne_nil (b := 10) (n := n.natAbs))
      have hd : d.isDigit = true := Nat.isDigit_of_mem_toDigits (by decide) (by decide)
        (hdigits ▸ List.mem_cons_self)
      have hminus : d ≠ '-' := by
        rintro rfl
        exact absurd hd (by decide)
      rw [List.nil_append, hdigits, List.cons_append, oneOf_minus, if_neg hminus]
  have hbody : ((toString n).toList ++ after).drop (if n < 0 then ['-'] else []).length =
      Nat.toDigits 10 n.natAbs ++ after := by
    rw [Numeral.toList_toString, List.append_assoc, List.drop_left]
  have hfraction : fraction after = [] := marked_stops hafter (by simp)
  have hexponent : exponent after = [] := marked_stops hafter (by simp)
  have hne : (Nat.toDigits 10 n.natAbs).isEmpty = false := by simp [Nat.toDigits_ne_nil]
  unfold takeNumber
  dsimp only
  rw [hsign, hbody, wholeDigits_toDigits hafter, if_neg (by simp [hne]), List.drop_left, hfraction,
    List.length_nil, List.drop_zero, hexponent, Numeral.toList_toString]
  simp

theorem numberOf_toString {n : Int} (h : Numeral.IsShort n) :
    numberOf (toString n).toList false = .ok (.int n) := by
  unfold numberOf
  rw [Numeral.takeSign_toString]
  dsimp only
  rw [if_neg Bool.false_ne_true, if_neg (Nat.not_lt.2 h), Numeral.natOf_toDigits]
  congr 2
  split_ifs with hneg <;> simp only [decide_eq_true_eq] at hneg <;> omega

/-- The text of a number begins with a digit, or with a minus sign and a digit. -/
theorem exists_digit_toString (n : Int) : ∃ d digits, Char.isDigit d = true ∧
    ((toString n).toList = d :: digits ∨ (toString n).toList = '-' :: d :: digits) := by
  obtain ⟨d, digits, hdigits⟩ := List.exists_cons_of_ne_nil
    (Nat.toDigits_ne_nil (b := 10) (n := n.natAbs))
  have hd : d.isDigit = true := Nat.isDigit_of_mem_toDigits (by decide) (by decide)
    (hdigits ▸ List.mem_cons_self)
  refine ⟨d, digits, hd, ?_⟩
  rw [Numeral.toList_toString, hdigits]
  split_ifs
  · exact .inr rfl
  · exact .inl rfl

theorem takeLexeme_number {number : List Char} {v : Json} (hmark : isMark c = false) (hquote : c ≠ '"')
    (hword : ∀ found ∈ literals, found.1.isPrefixOf (c :: (number ++ after)) = false)
    (hnumber : takeNumber (c :: (number ++ after)) = some (c :: number, false))
    (hvalue : numberOf (c :: number) false = .ok v) :
    takeLexeme c (number ++ after) = (.scalar v, after) := by
  rw [takeLexeme, if_neg (by simp [hmark]), if_neg (by simpa using hquote), List.find?_eq_none.2 ?_,
    hnumber]
  · simp [hvalue]
  · intro found hfound
    simp [hword found hfound]

theorem lexemesOf_toString {n : Int} (hn : Numeral.IsShort n) (hafter : Stops after) :
    lexemesOf ((toString n).toList ++ after) = .scalar (.int n) :: lexemesOf after := by
  obtain ⟨d, digits, hd, hcases⟩ := exists_digit_toString n
  have hne (c : Char) (hc : c.isDigit = false) : d ≠ c := by
    rintro rfl
    exact absurd hd (by simp [hc])
  have hletter (c : Char) (hc : c.isDigit = false) : (c == d) = false := by simpa using (hne c hc).symm
  have hnumber := takeNumber_toString hafter n
  have hvalue := numberOf_toString hn
  -- No mark, no quote and no word begins as a number does.
  rcases hcases with hdigits | hdigits
  · rw [hdigits] at hnumber hvalue ⊢
    refine lexemesOf_takeLexeme ?_ (takeLexeme_number ?_ (hne _ rfl) ?_ hnumber hvalue)
    · simp [isSpace, hne]
    · simp [isMark, hne]
    · simp [literals, List.isPrefixOf, hletter]
  · rw [hdigits] at hnumber hvalue ⊢
    refine lexemesOf_takeLexeme rfl (takeLexeme_number rfl (by decide) ?_ hnumber hvalue)
    simp [literals, List.isPrefixOf, hletter]

/-! ### Documents -/

/-- A layout with blanks only after the marks, and with escapes for all that is not ASCII. -/
structure Layout.IsPlain (layout : Layout) : Prop where
  ascii : layout.ascii = true
  comma : ∃ blanks, layout.comma = ',' :: blanks ∧ ∀ c ∈ blanks, isSpace c = true
  colon : ∃ blanks, layout.colon = ':' :: blanks ∧ ∀ c ∈ blanks, isSpace c = true

theorem isPlain_spaced : Layout.spaced.IsPlain where
  ascii := rfl
  comma := ⟨[' '], rfl, by simp [isSpace]⟩
  colon := ⟨[' '], rfl, by simp [isSpace]⟩

theorem isPlain_indented : Layout.indented.IsPlain where
  ascii := rfl
  comma := ⟨[], rfl, by simp⟩
  colon := ⟨[' '], rfl, by simp [isSpace]⟩

/-- The token is printed as it can be read: it is no fraction. -/
structure Lexeme.IsPrintable (l : Lexeme) : Prop where
  isProper : l.IsProper
  noFloat : ∀ x, l ≠ .scalar (.float x)

@[simp]
theorem isPrintable_mark (c : Char) : (Lexeme.mark c).IsPrintable := ⟨trivial, by simp⟩

theorem isPrintable_text (h : IsJoined points) : (Lexeme.text points).IsPrintable := ⟨h, by simp⟩

theorem isSpace_of_mem_newline {level : Nat} (hc : c ∈ newline layout level) : isSpace c = true := by
  unfold newline at hc
  split at hc
  · rcases List.mem_cons.1 hc with rfl | hc
    · rfl
    · rw [List.eq_of_mem_replicate hc]
      rfl
  · cases hc

theorem stops_of_blanks (hblanks : ∀ c ∈ blanks, isSpace c = true) (h : Stops after) :
    Stops (blanks ++ after) := by
  cases blanks with
  | nil => exact h
  | cons c blanks =>
    rintro d hd
    obtain rfl := Option.some.inj hd
    exact .inl (hblanks c List.mem_cons_self)

theorem stops_mark (hc : isMark c = true) : Stops (c :: after) := by
  rintro d hd
  obtain rfl := Option.some.inj hd
  exact .inr hc

theorem stops_writeItems (hlayout : layout.IsPlain) (level : Nat) (h : Stops after) (rest : List Json) :
    Stops (writeItems layout level after rest) := by
  cases rest with
  | nil => exact h
  | cons v rest =>
    obtain ⟨blanks, hcomma, -⟩ := hlayout.comma
    rw [writeItems, hcomma]
    exact stops_mark (by decide)

theorem stops_writeMembers (hlayout : layout.IsPlain) (level : Nat) (h : Stops after)
    (rest : List (CodePoints × Json)) : Stops (writeMembers layout level after rest) := by
  cases rest with
  | nil => exact h
  | cons m rest =>
    obtain ⟨blanks, hcomma, -⟩ := hlayout.comma
    rw [writeMembers, hcomma]
    exact stops_mark (by decide)

theorem lexemesOf_newline (level : Nat) : lexemesOf (newline layout level ++ cs) = lexemesOf cs :=
  lexemesOf_blanks fun _ => isSpace_of_mem_newline

/-- A mark and the blanks after it. -/
theorem lexemesOf_spread {marked : List Char} (hc : isMark c = true) (hspace : isSpace c = false)
    (h : ∃ blanks, marked = c :: blanks ∧ ∀ d ∈ blanks, isSpace d = true) :
    lexemesOf (marked ++ cs) = .mark c :: lexemesOf cs := by
  obtain ⟨blanks, rfl, hblanks⟩ := h
  rw [List.cons_append, lexemesOf_mark hc hspace, lexemesOf_blanks hblanks]

mutual

/-- What is printed for a document has the tokens of the document, whatever follows. -/
theorem lexemesOf_writeOnto (hlayout : layout.IsPlain) (level : Nat) {after : List Char} (v : Json)
    (hv : ∀ l ∈ lexemes v, l.IsPrintable) (hafter : Stops after) :
    lexemesOf (writeOnto layout level after v) = lexemes v ++ lexemesOf after := by
  match v with
  | .null =>
    rw [writeOnto]
    exact lexemesOf_word (by simp)
  | .bool true | .bool false =>
    rw [writeOnto]
    exact lexemesOf_word (by simp)
  | .int n =>
    have hn := (hv (.scalar (.int n)) (by simp [lexemes])).isProper
    rw [writeOnto]
    exact lexemesOf_toString hn hafter
  | .float x => exact absurd rfl ((hv (.scalar (.float x)) (by simp [lexemes])).noFloat x)
  | .text points =>
    have hpoints := (hv (.text points) (by simp [lexemes])).isProper
    rw [writeOnto, hlayout.ascii, lexemesOf_writeText hpoints, lexemes]
    rfl
  | .list [] =>
    rw [writeOnto, lexemesOf_mark rfl rfl, lexemesOf_mark rfl rfl, lexemes]
    rfl
  | .list (v :: rest) =>
    rw [lexemes, dropLast_listed_cons] at hv
    have hclose : Stops (newline layout level ++ ']' :: after) :=
      stops_of_blanks (fun _ => isSpace_of_mem_newline) (stops_mark rfl)
    have hfirst := lexemesOf_writeOnto hlayout (level + 1) v (fun l hl => hv l (by simp [hl]))
      (stops_writeItems hlayout (level + 1) hclose rest)
    have hrest := lexemesOf_writeItems hlayout (level + 1) rest (fun l hl => hv l (by simp [hl])) hclose
    rw [writeOnto, List.cons_append, lexemesOf_mark rfl rfl, lexemesOf_newline, hfirst, hrest,
      lexemesOf_newline, lexemesOf_mark rfl rfl, lexemes, dropLast_listed_cons]
    simp
  | .object [] =>
    rw [writeOnto, lexemesOf_mark rfl rfl, lexemesOf_mark rfl rfl, lexemes]
    rfl
  | .object ((key, v) :: rest) =>
    rw [lexemes, dropLast_named_cons] at hv
    have hkey := (hv (.text key) (by simp)).isProper
    have hclose : Stops (newline layout level ++ '}' :: after) :=
      stops_of_blanks (fun _ => isSpace_of_mem_newline) (stops_mark rfl)
    have hfirst := lexemesOf_writeOnto hlayout (level + 1) v (fun l hl => hv l (by simp [hl]))
      (stops_writeMembers hlayout (level + 1) hclose rest)
    have hrest := lexemesOf_writeMembers hlayout (level + 1) rest (fun l hl => hv l (by simp [hl])) hclose
    simp only [writeOnto, List.append_assoc, List.cons_append]
    rw [lexemesOf_mark rfl rfl, lexemesOf_newline, hlayout.ascii, lexemesOf_writeText hkey,
      lexemesOf_spread rfl rfl hlayout.colon]
    rw [hfirst, hrest, lexemesOf_newline, lexemesOf_mark rfl rfl, lexemes, dropLast_named_cons]
    simp

theorem lexemesOf_writeItems (hlayout : layout.IsPlain) (level : Nat) {after : List Char}
    (rest : List Json) (hrest : ∀ l ∈ (.mark ',' :: listed rest).dropLast, l.IsPrintable)
    (hafter : Stops after) : lexemesOf (writeItems layout level after rest) =
      (.mark ',' :: listed rest).dropLast ++ lexemesOf after := by
  match rest with
  | [] =>
    rw [writeItems]
    rfl
  | v :: rest =>
    have hne : listed (v :: rest) ≠ [] := by simp [listed]
    rw [List.dropLast_cons_of_ne_nil hne, dropLast_listed_cons] at hrest ⊢
    have hv := lexemesOf_writeOnto hlayout level v (fun l hl => hrest l (by simp [hl]))
      (stops_writeItems hlayout level hafter rest)
    have hfurther := lexemesOf_writeItems hlayout level rest (fun l hl => hrest l (by simp [hl])) hafter
    rw [writeItems, List.append_assoc, lexemesOf_spread rfl rfl hlayout.comma, lexemesOf_newline, hv,
      hfurther]
    simp

theorem lexemesOf_writeMembers (hlayout : layout.IsPlain) (level : Nat) {after : List Char}
    (rest : List (CodePoints × Json)) (hrest : ∀ l ∈ (.mark ',' :: named rest).dropLast, l.IsPrintable)
    (hafter : Stops after) : lexemesOf (writeMembers layout level after rest) =
      (.mark ',' :: named rest).dropLast ++ lexemesOf after := by
  match rest with
  | [] =>
    rw [writeMembers]
    rfl
  | (key, v) :: rest =>
    have hne : named ((key, v) :: rest) ≠ [] := by simp [named]
    rw [List.dropLast_cons_of_ne_nil hne, dropLast_named_cons] at hrest ⊢
    have hkey := (hrest (.text key) (by simp)).isProper
    have hv := lexemesOf_writeOnto hlayout level v (fun l hl => hrest l (by simp [hl]))
      (stops_writeMembers hlayout level hafter rest)
    have hfurther := lexemesOf_writeMembers hlayout level rest (fun l hl => hrest l (by simp [hl])) hafter
    simp only [writeMembers, List.append_assoc]
    rw [lexemesOf_spread rfl rfl hlayout.comma, lexemesOf_newline, hlayout.ascii, lexemesOf_writeText hkey,
      lexemesOf_spread rfl rfl hlayout.colon, hv, hfurther]
    simp

end

/-- A document without fractions is read as it was printed. -/
theorem read_print (hlayout : layout.IsPlain) {v : Json} (hv : ∀ l ∈ lexemes v, l.IsPrintable)
    (hnesting : nesting v ≤ openLimit) : read (print layout v).toList = .ok v := by
  rw [print, String.toList_ofList]
  refine read_eq_ok_iff.2 ⟨?_, hnesting⟩
  rw [IsDocument, lexemesOf_writeOnto hlayout 0 v hv (by simp [Stops]), lexemesOf_nil, List.append_nil]

end OperatorConsole.Json
