import OperatorConsole.Proofs.Json.Document

/-!
What a text is read as. A text is a document exactly if its tokens are those of the document, and the
document is read exactly if no more containers stand inside each other than may be open at once.
-/
namespace OperatorConsole.Json

variable {c : Char} {cs rest : List Char} {v w : Json} {limit place : Nat} {s s' : State} {t : Token}
  {isObject : Bool} {frames : List Frame}

/-! ### Tokens -/

theorem tokens_of_dropWhile (h : cs.dropWhile isSpace = c :: rest) :
    tokens cs = ⟨(takeLexeme c rest).1, rest.length + 1⟩ :: tokens (takeLexeme c rest).2 := by
  rw [tokens]
  split
  · next hnil =>
    rw [h] at hnil
    cases hnil
  · next d others hcons =>
    rw [h] at hcons
    cases hcons
    rfl

theorem tokens_of_dropWhile_nil (h : cs.dropWhile isSpace = []) : tokens cs = [] := by
  rw [tokens]
  split
  · rfl
  · next hcons => simp [h] at hcons

/-- The tokens of a text, wherever they stand in it. -/
def lexemesOf (cs : List Char) : List Lexeme := (tokens cs).map (·.lexeme)

theorem lexemesOf_of_dropWhile (h : cs.dropWhile isSpace = c :: rest) :
    lexemesOf cs = (takeLexeme c rest).1 :: lexemesOf (takeLexeme c rest).2 := by
  rw [lexemesOf, tokens_of_dropWhile h]
  rfl

theorem lexemesOf_of_dropWhile_nil (h : cs.dropWhile isSpace = []) : lexemesOf cs = [] := by
  rw [lexemesOf, tokens_of_dropWhile_nil h]
  rfl

/-- What holds of the token at the start of any text holds of all tokens of a text. -/
theorem forall_mem_lexemesOf {p : Lexeme → Prop} (h : ∀ c rest, p (takeLexeme c rest).1)
    (cs : List Char) : ∀ l ∈ lexemesOf cs, p l := by
  fun_induction tokens cs with
  | case1 cs hnil => simp [lexemesOf_of_dropWhile_nil hnil]
  | case2 cs c rest hcons ih =>
    rw [lexemesOf_of_dropWhile hcons]
    exact List.forall_mem_cons.2 ⟨h c rest, ih⟩

/-! ### Numbers that are read -/

theorem natOf_append (cs : List Char) (c : Char) :
    Numeral.natOf (cs ++ [c]) = 10 * Numeral.natOf cs + (c.toNat - 0x30) := by
  rw [Numeral.natOf, List.foldl_concat]
  rfl

theorem natOf_lt (h : ∀ c ∈ cs, c.isDigit = true) : Numeral.natOf cs < 10 ^ cs.length := by
  induction cs using List.reverseRecOn with
  | nil => decide
  | append_singleton cs c ih =>
    have hlt := ih fun d hd => h d (by simp [hd])
    have hbounds := Numeral.bounds_of_isDigit (h c (by simp))
    rw [natOf_append, List.length_append, List.length_singleton, Nat.pow_succ]
    omega

theorem isDigit_of_mem_wholeDigits (hc : c ∈ wholeDigits cs) : c.isDigit = true := by
  unfold wholeDigits at hc
  split at hc
  · rw [List.mem_singleton.1 hc]
    rfl
  · exact List.mem_takeWhile_imp hc

/-- A number without a fraction and an exponent is digits, with a minus sign in front or without it. -/
theorem takeNumber_whole {number : List Char} (h : takeNumber cs = some (number, false)) :
    ∃ digits, digits ≠ [] ∧ (∀ c ∈ digits, c.isDigit = true) ∧
      (number = digits ∨ number = '-' :: digits) := by
  unfold takeNumber at h
  dsimp only at h
  split at h
  · cases h
  · next hwhole =>
    obtain ⟨hnumber, hkind⟩ := Prod.mk.inj (Option.some.inj h)
    simp only [Bool.not_eq_false', Bool.and_eq_true, List.isEmpty_iff] at hkind
    rw [hkind.1] at hnumber hkind
    rw [hkind.2] at hnumber
    refine ⟨_, by simpa using hwhole, fun c => isDigit_of_mem_wholeDigits, ?_⟩
    rw [← hnumber]
    have hsign : oneOf (· == '-') cs = [] ∨ oneOf (· == '-') cs = ['-'] := by
      cases cs with
      | nil => exact .inl rfl
      | cons c rest =>
        by_cases hc : c = '-'
        · right
          simp [oneOf, hc]
        · left
          simp [oneOf, hc]
    rcases hsign with hsign | hsign <;> simp [hsign]

theorem numberOf_isProper {number : List Char} {isFloat : Bool}
    (hnumber : takeNumber cs = some (number, isFloat)) (h : numberOf number isFloat = .ok v) :
    (Lexeme.scalar v).IsProper := by
  unfold numberOf at h
  cases isFloat with
  | true =>
    cases h
    trivial
  | false =>
    obtain ⟨digits, hne, hdigits, hsigned⟩ := takeNumber_whole hnumber
    have hbody : (Numeral.takeSign number).2 = digits := by
      rcases hsigned with rfl | rfl
      · rw [Numeral.takeSign_of_isDigit hne hdigits]
      · rfl
    dsimp only at h
    rw [hbody] at h
    rw [if_neg Bool.false_ne_true] at h
    split at h
    · cases h
    · next hshort =>
      cases h
      have hvalue : Numeral.natOf digits < 10 ^ Numeral.digitLimit :=
        (natOf_lt hdigits).trans_le (Nat.pow_le_pow_right (by decide) (Nat.not_lt.1 hshort))
      have habs : (if (Numeral.takeSign number).1 = true then -(Numeral.natOf digits : Int)
          else Numeral.natOf digits).natAbs = Numeral.natOf digits := by
        split_ifs <;> omega
      rw [Lexeme.IsProper, Numeral.IsShort, habs]
      exact (Nat.length_toDigits_le_iff (by decide) (by decide)).2 hvalue

theorem takeLexeme_isProper (c : Char) (rest : List Char) : (takeLexeme c rest).1.IsProper := by
  unfold takeLexeme
  split
  · trivial
  split
  · split
    · next hunits => exact isJoined_joinUnits (valid_of_readUnits (by simp) hunits)
    · trivial
    · trivial
  split
  · next hword =>
    have hmem := List.mem_of_find?_eq_some hword
    simp only [literals, List.mem_cons, Prod.mk.injEq, List.not_mem_nil, or_false] at hmem
    rcases hmem with ⟨-, rfl⟩ | ⟨-, rfl⟩ | ⟨-, rfl⟩ | ⟨-, rfl⟩ | ⟨-, rfl⟩ | ⟨-, rfl⟩ <;> trivial
  split
  · next hnumber =>
    dsimp only
    split
    · next hvalue => exact numberOf_isProper hnumber hvalue
    · trivial
  · trivial

/-- Every token of a text is one that a text can hold. -/
theorem isProper_of_mem_lexemesOf (cs : List Char) : ∀ l ∈ lexemesOf cs, l.IsProper :=
  forall_mem_lexemesOf takeLexeme_isProper cs

/-! ### The containers that are open -/

theorem nestingItems_le_iff {n : Nat} {items : List Json} :
    nestingItems items ≤ n ↔ ∀ v ∈ items, nesting v ≤ n := by
  induction items with
  | nil => simp [nestingItems]
  | cons v rest ih => simp [nestingItems, ih]

theorem nestingMembers_le_iff {n : Nat} {members : List (CodePoints × Json)} :
    nestingMembers members ≤ n ↔ ∀ m ∈ members, nesting m.2 ≤ n := by
  induction members with
  | nil => simp [nestingMembers]
  | cons m rest ih =>
    obtain ⟨key, v⟩ := m
    simp [nestingMembers, ih]

theorem nesting_of_isScalar (h : IsScalar v) : nesting v = 0 := by
  cases v with
  | null | bool | int | float => simp [nesting]
  | text | list | object => exact h.elim

/-- The parts of an open container that were read. -/
def Frame.parts : Frame → List Json
  | .list items => items
  | .object members _ => members.map (·.2)

/-- The open containers and all that stands in them stay within a limit. -/
def Fits (limit : Nat) : List Frame → Prop
  | [] => True
  | f :: frames => (∀ v ∈ f.parts, frames.length + 1 + nesting v ≤ limit) ∧ frames.length < limit ∧
    Fits limit frames

/-- The document within the limit, as far as it is read. -/
structure StaysWithin (limit : Nat) (s : State) : Prop where
  frames : Fits limit s.frames
  document : nesting s.document ≤ limit

theorem staysWithin_start : StaysWithin limit .start := ⟨trivial, Nat.zero_le _⟩

theorem staysWithin_deliver (hs : StaysWithin limit s) (hv : s.frames.length + nesting v ≤ limit) :
    StaysWithin limit (s.deliver v) := by
  obtain ⟨frames, next, document⟩ := s
  match frames with
  | [] =>
    rw [List.length_nil, Nat.zero_add] at hv
    exact ⟨trivial, hv⟩
  | .list items :: frames =>
    obtain ⟨⟨hparts, hroom, hframes⟩, hdocument⟩ := hs
    exact ⟨⟨List.forall_mem_cons.2 ⟨hv, hparts⟩, hroom, hframes⟩, hdocument⟩
  | .object members name :: frames =>
    obtain ⟨⟨hparts, hroom, hframes⟩, hdocument⟩ := hs
    exact ⟨⟨List.forall_mem_cons.2 ⟨hv, hparts⟩, hroom, hframes⟩, hdocument⟩

theorem staysWithin_close (hs : StaysWithin limit s) : StaysWithin limit s.close := by
  obtain ⟨frames, next, document⟩ := s
  match frames with
  | [] => exact hs
  | .list items :: frames =>
    obtain ⟨⟨hparts, hroom, hframes⟩, hdocument⟩ := hs
    have hitems : nestingItems items.reverse ≤ limit - (frames.length + 1) :=
      nestingItems_le_iff.2 fun v hv => Nat.le_sub_of_add_le' (hparts v (List.mem_reverse.1 hv))
    refine staysWithin_deliver (s := ⟨frames, next, document⟩) ⟨hframes, hdocument⟩ ?_
    rw [nesting]
    dsimp only
    omega
  | .object members name :: frames =>
    obtain ⟨⟨hparts, hroom, hframes⟩, hdocument⟩ := hs
    have hmembers : nestingMembers members.reverse ≤ limit - (frames.length + 1) :=
      nestingMembers_le_iff.2 fun m hm => Nat.le_sub_of_add_le'
        (hparts m.2 (List.mem_map_of_mem (List.mem_reverse.1 hm)))
    refine staysWithin_deliver (s := ⟨frames, next, document⟩) ⟨hframes, hdocument⟩ ?_
    rw [nesting]
    dsimp only
    omega

theorem staysWithin_open (hs : StaysWithin limit s) (h : s.open limit isObject place = .ok s') :
    StaysWithin limit s' := by
  unfold State.open at h
  split_ifs at h with hfull hobject <;> cases h <;>
    exact ⟨⟨by simp [Frame.parts], Nat.not_le.1 hfull, hs.frames⟩, hs.document⟩

theorem fits_length (h : Fits limit frames) : frames.length ≤ limit := by
  cases frames with
  | nil => exact Nat.zero_le _
  | cons f frames => exact h.2.1

theorem staysWithin_takeValue (hs : StaysWithin limit s) (ht : t.lexeme.IsProper)
    (h : takeValue limit s t = .ok s') : StaysWithin limit s' := by
  have hlength := fits_length hs.frames
  unfold takeValue at h
  split at h
  · next v hv =>
    cases h
    rw [hv] at ht
    exact staysWithin_deliver hs (by rwa [nesting_of_isScalar (isScalar_of_isProper ht)])
  · cases h
    exact staysWithin_deliver hs (by rwa [nesting] <;> simp)
  · cases h
  · cases h
  · exact staysWithin_open hs h
  · exact staysWithin_open hs h
  · cases h

theorem staysWithin_takeName (hs : StaysWithin limit s) (h : takeName s t = .ok s') :
    StaysWithin limit s' := by
  unfold takeName at h
  split at h
  · next hframes =>
    cases h
    have hfits := hs.frames
    rw [hframes] at hfits
    exact ⟨hfits, hs.document⟩
  · cases h
  · cases h

theorem staysWithin_afterComma (hs : StaysWithin limit s) : StaysWithin limit s.afterComma := by
  unfold State.afterComma
  split <;> exact ⟨hs.frames, hs.document⟩

/-- A step keeps what is read within the limit. -/
theorem staysWithin_step (hs : StaysWithin limit s) (ht : t.lexeme.IsProper)
    (h : step limit s t = .ok s') : StaysWithin limit s' := by
  unfold step at h
  split at h
  · exact staysWithin_takeValue hs ht h
  · split_ifs at h
    · cases h
      exact staysWithin_close hs
    · exact staysWithin_takeValue hs ht h
  · exact staysWithin_takeName hs h
  · split_ifs at h
    · cases h
      exact staysWithin_close hs
    · exact staysWithin_takeName hs h
  · split_ifs at h
    cases h
    exact ⟨hs.frames, hs.document⟩
  · split_ifs at h
    · cases h
      exact staysWithin_close hs
    · cases h
      exact staysWithin_afterComma hs
  · cases h

theorem staysWithin_foldlM : ∀ {ts : List Token} {s : State}, StaysWithin limit s →
    (∀ t ∈ ts, t.lexeme.IsProper) → ts.foldlM (step limit) s = .ok s' → StaysWithin limit s'
  | [], s, hs, _, h => by
    cases h
    exact hs
  | t :: ts, s, hs, hproper, h => by
    obtain ⟨middle, hstep, hrest⟩ := andThen_eq_ok_iff.1 h
    exact staysWithin_foldlM (staysWithin_step hs (hproper t (by simp)) hstep)
      (fun u hu => hproper u (by simp [hu])) hrest

/-! ### Documents -/

/-- The text is the document: its tokens are those of the document. -/
def IsDocument (cs : List Char) (v : Json) : Prop := lexemesOf cs = lexemes v

/-- No token begins with a mark of the byte order, so no document does. -/
theorem takeLexeme_byteOrder (rest : List Char) :
    takeLexeme (Char.ofNat 0xFEFF) rest = (.junk, []) := by
  have hsign : oneOf (· == '-') (Char.ofNat 0xFEFF :: rest) = [] := by simp [oneOf]
  have hwhole : wholeDigits (Char.ofNat 0xFEFF :: rest) = [] := by simp [wholeDigits]
  have hnone : takeNumber (Char.ofNat 0xFEFF :: rest) = none := by
    simp [takeNumber, hsign, hwhole]
  simp [takeLexeme, hnone, isMark, literals, List.isPrefixOf]

theorem lexemesOf_byteOrder (h : cs.head? = some (Char.ofNat 0xFEFF)) :
    ∃ more, lexemesOf cs = .junk :: more := by
  obtain ⟨rest, rfl⟩ := List.head?_eq_some_iff.1 h
  have hdrop : (Char.ofNat 0xFEFF :: rest).dropWhile isSpace = Char.ofNat 0xFEFF :: rest :=
    List.dropWhile_cons_of_neg (by decide)
  rw [lexemesOf_of_dropWhile hdrop, takeLexeme_byteOrder]
  exact ⟨_, rfl⟩

theorem IsDocument.noMark (h : IsDocument cs v) : cs.head? ≠ some (Char.ofNat 0xFEFF) := by
  intro hmark
  obtain ⟨more, hjunk⟩ := lexemesOf_byteOrder hmark
  rw [IsDocument, hjunk] at h
  cases v <;> simp [lexemes] at h

theorem finish_deliver_start (v : Json) : (State.start.deliver v).finish = .ok v := rfl

/-- A text is read as the document that it is, and as none that stands too deep. -/
theorem readWithin_eq_ok_iff : readWithin limit cs = .ok v ↔ IsDocument cs v ∧ nesting v ≤ limit := by
  constructor
  · intro h
    unfold readWithin at h
    split_ifs at h with hmark
    obtain ⟨s, hs, hfinish⟩ := andThen_eq_ok_iff.1 h
    have hproper : ∀ t ∈ tokens cs, t.lexeme.IsProper := fun t ht =>
      isProper_of_mem_lexemesOf cs _ (List.mem_map_of_mem ht)
    have hcomes := comes_foldlM comes_start hproper hs
    rw [List.nil_append] at hcomes
    have hstays := staysWithin_foldlM staysWithin_start hproper hs
    refine ⟨lexemes_of_finish hcomes hfinish, ?_⟩
    unfold State.finish at hfinish
    split at hfinish <;> cases hfinish
    exact hstays.document
  · rintro ⟨hdocument, hnesting⟩
    have hlimit : State.start.frames.length + nesting v ≤ limit := by
      rw [State.start, List.length_nil, Nat.zero_add]
      exact hnesting
    have hrun := runs_lexemes v (.inl rfl) hlimit (tokens cs) hdocument
    rw [readWithin, if_neg hdocument.noMark, hrun, ok_bind, finish_deliver_start]

theorem read_eq_ok_iff : read cs = .ok v ↔ IsDocument cs v ∧ nesting v ≤ openLimit :=
  readWithin_eq_ok_iff

/-- A text is one document at most. -/
theorem IsDocument.unique (hv : IsDocument cs v) (hw : IsDocument cs w) : v = w := by
  have hread := readWithin_eq_ok_iff.2 ⟨hv, Nat.le_max_left (nesting v) (nesting w)⟩
  rw [readWithin_eq_ok_iff.2 ⟨hw, Nat.le_max_right (nesting v) (nesting w)⟩] at hread
  exact (Except.ok.inj hread).symm

end OperatorConsole.Json
