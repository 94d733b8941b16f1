import OperatorConsole.Proofs.Command.Written

/-!
Quotes at the start of a value. Read from left to right, a doubled quote being one quote of the text, a
value that begins with a quote has one that closes it or none. Main result: a quote that closes it ends
a literal there, and a value without any further quote is bare. Where the reading comes to the end past
doubled quotes, the first half of the last one closes a literal all the same.
-/
namespace OperatorConsole.Command

/-! ### Reading from left to right -/

/-- What stands behind an opening quote is read from left to right, a doubled quote as one quote of the
text: up to a quote that is not doubled, with what follows that one, or to the end without one. -/
inductive ReadsQuoted (quote : Char) : List Char → List Char → Option (List Char) → Prop
  | unclosed : ReadsQuoted quote [] [] none
  | closed {rest : List Char} : Stops (· == quote) rest →
      ReadsQuoted quote (quote :: rest) [] (some rest)
  | doubled {cs text : List Char} {after : Option (List Char)} : ReadsQuoted quote cs text after →
      ReadsQuoted quote (quote :: quote :: cs) (quote :: text) after
  | char {c : Char} {cs text : List Char} {after : Option (List Char)} : c ≠ quote →
      ReadsQuoted quote cs text after → ReadsQuoted quote (c :: cs) (c :: text) after

/-- Every text can be read. -/
theorem exists_readsQuoted (quote : Char) : ∀ cs, ∃ text after, ReadsQuoted quote cs text after
  | [] => ⟨[], none, .unclosed⟩
  | [c] => by
    by_cases hc : c = quote
    · subst hc
      exact ⟨[], some [], .closed (stops_nil _)⟩
    · exact ⟨[c], none, .char hc .unclosed⟩
  | c :: d :: cs => by
    by_cases hc : c = quote
    · subst hc
      by_cases hd : d = c
      · subst hd
        obtain ⟨text, after, h⟩ := exists_readsQuoted d cs
        exact ⟨_, after, .doubled h⟩
      · exact ⟨[], some (d :: cs), .closed (stops_cons.2 (by simpa using hd))⟩
    · obtain ⟨text, after, h⟩ := exists_readsQuoted quote (d :: cs)
      exact ⟨_, after, .char hc h⟩

variable {quote : Char} {cs text rest front back : List Char}

/-- What is read to a closing quote was written with its quotes doubled. -/
theorem ReadsQuoted.eq_of_closed (h : ReadsQuoted quote cs text (some rest)) :
    cs = double quote text ++ quote :: rest ∧ Stops (· == quote) rest := by
  generalize hafter : some rest = after at h
  induction h with
  | unclosed => simp at hafter
  | closed hs =>
    obtain rfl := Option.some.inj hafter
    exact ⟨rfl, hs⟩
  | doubled _ ih =>
    obtain ⟨rfl, hs⟩ := ih hafter
    exact ⟨by rw [double_quote]; rfl, hs⟩
  | char hc _ ih =>
    obtain ⟨rfl, hs⟩ := ih hafter
    exact ⟨by rw [double_of_ne hc]; rfl, hs⟩

/-- What is read to the end is nothing but text with its quotes doubled. -/
theorem ReadsQuoted.eq_of_unclosed (h : ReadsQuoted quote cs text none) : cs = double quote text := by
  generalize hafter : none = after at h
  induction h with
  | unclosed => rfl
  | closed => simp at hafter
  | doubled _ ih => rw [double_quote, ih hafter]
  | char hc _ ih => rw [double_of_ne hc, ih hafter]

/-- A text is read in at most one way. -/
theorem ReadsQuoted.unique {text' : List Char} {after after' : Option (List Char)}
    (h : ReadsQuoted quote cs text after) (h' : ReadsQuoted quote cs text' after') :
    text = text' ∧ after = after' := by
  induction h generalizing text' after' with
  | unclosed =>
    cases h'
    exact ⟨rfl, rfl⟩
  | closed hs =>
    cases h' with
    | closed => exact ⟨rfl, rfl⟩
    | doubled => simp at hs
    | char hc => exact absurd rfl hc
  | doubled _ ih =>
    cases h' with
    | closed hs => simp at hs
    | doubled h' =>
      obtain ⟨rfl, rfl⟩ := ih h'
      exact ⟨rfl, rfl⟩
    | char hc => exact absurd rfl hc
  | char hc _ ih =>
    cases h' with
    | closed => exact absurd rfl hc
    | doubled => exact absurd rfl hc
    | char _ h' =>
      obtain ⟨rfl, rfl⟩ := ih h'
      exact ⟨rfl, rfl⟩

/-! ### Literals without a closing quote -/

theorem double_append (quote : Char) : ∀ front back : List Char,
    double quote (front ++ back) = double quote front ++ double quote back
  | [], _ => rfl
  | c :: front, back => by
    by_cases hc : c = quote
    · simp only [List.cons_append, hc, double_quote, double_append quote front back]
    · simp only [List.cons_append, double_of_ne hc, double_append quote front back]

theorem double_of_not_mem (h : quote ∉ text) : double quote text = text := by
  induction text with
  | nil => rfl
  | cons c text ih =>
    rw [List.mem_cons, not_or] at h
    rw [double_of_ne (Ne.symm h.1), ih h.2]

/-- A literal needs a quote to close it. -/
theorem closeLiteral_of_not_mem (h : quote ∉ cs) : closeLiteral quote cs = none := by
  cases hread : closeLiteral quote cs with
  | none => rfl
  | some found =>
    have hcs := eq_of_closeLiteral (show _ = some (found.1, found.2) from hread)
    exact absurd (by rw [hcs]; simp) h

/-- A doubled quote that no further one follows closes with its first half. -/
theorem closeLiteral_last (h : quote ∉ back) : ∀ front : List Char,
    closeLiteral quote (double quote front ++ quote :: quote :: back) = some (front, quote :: back)
  | [] => by
    rw [double, List.nil_append, closeLiteral, if_pos (by simp), if_pos (by simp),
      closeLiteral_of_not_mem h]
  | c :: front => by
    by_cases hc : c = quote
    · rw [hc, double_quote, List.cons_append, List.cons_append, closeLiteral, if_pos (by simp),
        if_pos (by simp), closeLiteral_last h front]
    · rw [double_of_ne hc, List.cons_append, closeLiteral_of_ne hc, closeLiteral_last h front]
      rfl

/-! ### Values that begin with a quote -/

section

variable {form : Form}

/-- Only the literal of its own form begins with a quote. -/
theorem takeValue_sign (hform : form ≠ .reference) (cs : List Char) :
    takeValue (sign form :: cs) =
      match closeLiteral (sign form) cs with
      | some (text, rest) => (form, text, rest)
      | none => (.plain, bare (sign form :: cs)) := by
  cases form with
  | reference => exact absurd rfl hform
  | document =>
    have hopen : literal '\'' ('\'' :: cs) = closeLiteral '\'' cs := rfl
    have hother : literal '"' ('\'' :: cs) = none := rfl
    have href : reference ('\'' :: cs) = none := rfl
    cases hclose : closeLiteral '\'' cs <;>
      simp only [sign, takeValue, hopen, hother, href, hclose]
  | plain =>
    have hopen : literal '"' ('"' :: cs) = closeLiteral '"' cs := rfl
    have hother : literal '\'' ('"' :: cs) = none := rfl
    have href : reference ('"' :: cs) = none := rfl
    cases hclose : closeLiteral '"' cs <;>
      simp only [sign, takeValue, hopen, hother, href, hclose]

theorem takeArgument_of_nameAt {name lexeme value : List Char} (h : NameAt name lexeme value) :
    takeArgument (lexeme ++ value) = (⟨(takeValue value).1, String.ofList name,
      String.ofList (takeValue value).2.1⟩, skipGap (takeValue value).2.2) := by
  rw [takeArgument, takeName_append h]

/-- What stands behind the quote that a value begins with, with or without a name in front of it, is
read in one way. A quote that is not doubled ends the value there, a literal. If there is none, and no
doubled quote either, the value is the run of characters up to the next blank; but the last doubled
quote, if there is one, closes a literal with its first half. -/
theorem takeArgument_quote (hform : form ≠ .reference) {name lexeme cs : List Char}
    (hname : NameAt name lexeme (sign form :: cs)) :
    (∃! reading : List Char × Option (List Char), ReadsQuoted (sign form) cs reading.1 reading.2) ∧
    (∀ text rest, ReadsQuoted (sign form) cs text (some rest) →
      takeArgument (lexeme ++ sign form :: cs) =
        (⟨form, String.ofList name, String.ofList text⟩, skipGap rest)) ∧
    (∀ text, ReadsQuoted (sign form) cs text none → sign form ∉ text →
      takeArgument (lexeme ++ sign form :: cs) =
        (⟨.plain, String.ofList name,
          String.ofList ((sign form :: cs).takeWhile (!Text.isBlank ·))⟩,
        skipGap ((sign form :: cs).dropWhile (!Text.isBlank ·)))) ∧
    ∀ front back, ReadsQuoted (sign form) cs (front ++ sign form :: back) none →
      sign form ∉ back →
      takeArgument (lexeme ++ sign form :: cs) =
        (⟨form, String.ofList name, String.ofList front⟩, sign form :: back) := by
  rw [takeArgument_of_nameAt hname, takeValue_sign hform]
  refine ⟨?_, fun text rest h => ?_, fun text h hno => ?_, fun front back h hno => ?_⟩
  · obtain ⟨text, after, h⟩ := exists_readsQuoted (sign form) cs
    refine ⟨(text, after), h, fun reading hreading => ?_⟩
    obtain ⟨htext, hafter⟩ := hreading.unique h
    exact Prod.ext htext hafter
  · obtain ⟨rfl, hs⟩ := h.eq_of_closed
    rw [closeLiteral_double hs]
  · obtain rfl := h.eq_of_unclosed
    rw [double_of_not_mem hno, closeLiteral_of_not_mem hno]
    rfl
  · have hgap : skipGap (sign form :: back) = sign form :: back :=
      List.dropWhile_cons_of_neg (by simp [(sign_class form).1])
    rw [h.eq_of_unclosed, double_append, double_quote, double_of_not_mem hno, closeLiteral_last hno]
    simp only [hgap]

/-- A literal with a doubled quote in it behind a name. -/
theorem takeArgument_quote_named :
    NameAt "json".toList "json=".toList "'it''s' x".toList ∧
    takeArgument ("json=".toList ++ "'it''s' x".toList) = (⟨.document, "json", "it's"⟩, ['x']) := by
  have hvalue : "'it''s' x".toList = '\'' :: ['i', 't', '\'', '\'', 's', '\'', ' ', 'x'] := by decide
  have hname : NameAt "json".toList "json=".toList
      (sign .document :: ['i', 't', '\'', '\'', 's', '\'', ' ', 'x']) :=
    .named (by decide) (List.forall_mem_nil _) (List.forall_mem_nil _) (stops_cons.2 (by decide))
  have hread : ReadsQuoted (sign .document) ['i', 't', '\'', '\'', 's', '\'', ' ', 'x']
      ['i', 't', '\'', 's'] (some [' ', 'x']) :=
    .char (by decide) <| .char (by decide) <| .doubled <| .char (by decide) <|
      .closed (stops_cons.2 (by decide))
  have htaken := (takeArgument_quote (by decide) hname).2.1 _ _ hread
  rw [hvalue]
  exact ⟨hname, htaken.trans (by decide)⟩

end

/-- No quote closes the value `'c''d`, and yet it is not read as bare: half of its doubled quote does. -/
theorem doubled_quote_closes :
    ReadsQuoted '\'' "c''d".toList "c'd".toList none ∧
    read "a b 'c''d" = .ok ⟨"a", "b", [⟨.document, "", "c"⟩, ⟨.plain, "", "'d"⟩]⟩ := by
  have hread : ReadsQuoted '\'' ['c', '\'', '\'', 'd'] ['c', '\'', 'd'] none :=
    .char (by decide) <| .doubled <| .char (by decide) .unclosed
  have hfirst : takeArgument "'c''d".toList = (⟨.document, "", "c"⟩, "'d".toList) := by decide
  have hsecond : takeArgument "'d".toList = (⟨.plain, "", "'d"⟩, []) := by decide
  have hrest : readArguments "'c''d".toList = [⟨.document, "", "c"⟩, ⟨.plain, "", "'d"⟩] := by
    rw [readArguments, dif_neg (by decide), hfirst, readArguments, dif_neg (by decide), hsecond,
      readArguments, dif_pos rfl]
  have hservice : takeIdentifier "a b 'c''d".toList = (['a'], "b 'c''d".toList) := by decide
  have hverb : takeIdentifier "b 'c''d".toList = (['b'], "'c''d".toList) := by decide
  refine ⟨hread, ?_⟩
  rw [read, hservice]
  simp only [hverb, hrest]
  rfl

end OperatorConsole.Command
