import OperatorConsole.Proofs.Json.Reading

/-!
Too many open containers. Under a lower limit a text is read the same, or the reading stops where one
container too many begins. So it stops there exactly for the texts whose tokens open more containers than
the limit, documents or not.
-/
namespace OperatorConsole.Json

variable {cs : List Char} {v : Json} {limit limit' place : Nat} {s s' : State} {t : Token}
  {isObject : Bool} {frames : List Frame} {ls : List Lexeme}

/-! ### Limits -/

theorem open_of_le (hle : limit ≤ limit') : s.open limit isObject place = s.open limit' isObject place ∨
    s.open limit isObject place = .error ⟨.depth isObject, place⟩ := by
  unfold State.open
  by_cases hroom : limit ≤ s.frames.length
  · exact .inr (if_pos hroom)
  · rw [if_neg hroom, if_neg fun h => hroom (hle.trans h)]
    exact .inl rfl

theorem takeValue_of_le (hle : limit ≤ limit') : takeValue limit s t = takeValue limit' s t ∨
    ∃ isObject, takeValue limit s t = .error ⟨.depth isObject, t.place⟩ := by
  unfold takeValue
  split
  · exact .inl rfl
  · exact .inl rfl
  · exact .inl rfl
  · exact .inl rfl
  · exact (open_of_le hle).imp_right fun h => ⟨false, h⟩
  · exact (open_of_le hle).imp_right fun h => ⟨true, h⟩
  · exact .inl rfl

/-- Under a lower limit a token does the same, or it opens one container too many. -/
theorem step_of_le (hle : limit ≤ limit') : step limit s t = step limit' s t ∨
    ∃ isObject, step limit s t = .error ⟨.depth isObject, t.place⟩ := by
  unfold step
  split
  · exact takeValue_of_le hle
  · by_cases hclose : t.isMark ']' = true
    · rw [if_pos hclose, if_pos hclose]
      exact .inl rfl
    · rw [if_neg hclose, if_neg hclose]
      exact takeValue_of_le hle
  · exact .inl rfl
  · exact .inl rfl
  · exact .inl rfl
  · exact .inl rfl
  · exact .inl rfl

theorem foldlM_of_le (hle : limit ≤ limit') : ∀ (ts : List Token) (s : State),
    ts.foldlM (step limit) s = ts.foldlM (step limit') s ∨
      ∃ isObject place, ts.foldlM (step limit) s = .error ⟨.depth isObject, place⟩
  | [], s => .inl rfl
  | t :: ts, s => by
    rw [List.foldlM_cons, List.foldlM_cons]
    rcases step_of_le (s := s) (t := t) hle with hstep | ⟨isObject, hstep⟩
    · rw [← hstep]
      cases step limit s t with
      | ok middle => exact foldlM_of_le hle ts middle
      | error fault => exact .inl rfl
    · rw [hstep]
      exact .inr ⟨isObject, t.place, rfl⟩

/-- What is read under a limit is read under a higher one. -/
theorem Runs.mono (h : Runs limit s ls s') (hle : limit ≤ limit') : Runs limit' s ls s' := by
  intro ts hts
  have hlow := h ts hts
  rcases foldlM_of_le hle ts s with hsame | ⟨isObject, place, hdepth⟩
  · rw [← hsame]
    exact hlow
  · rw [hdepth] at hlow
    cases hlow

/-! ### What stops the reading -/

/-- A document that stands too deep is not read for that reason. -/
theorem readWithin_of_lt_nesting (hv : IsDocument cs v) (hdeep : limit < nesting v) :
    ∃ isObject place, readWithin limit cs = .error ⟨.depth isObject, place⟩ := by
  have hread : readWithin (nesting v) cs = .ok v := readWithin_eq_ok_iff.2 ⟨hv, Nat.le_refl _⟩
  have hnot : readWithin limit cs ≠ .ok v := fun h =>
    absurd (readWithin_eq_ok_iff.1 h).2 (Nat.not_le.2 hdeep)
  unfold readWithin at hread hnot ⊢
  rw [if_neg hv.noMark] at hread hnot ⊢
  rcases foldlM_of_le hdeep.le (tokens cs) .start with hsame | ⟨isObject, place, hdepth⟩
  · rw [hsame] at hnot
    exact absurd hread hnot
  · rw [hdepth]
    exact ⟨isObject, place, rfl⟩

/-- The text begins with that many open containers and one more. -/
def OpensBeyond (limit : Nat) (cs : List Char) : Prop :=
  ∃ (frames : List Frame) (isObject : Bool), limit ≤ frames.length ∧
    opened frames ++ [.mark (if isObject then '{' else '[')] <+: lexemesOf cs

theorem takeValue_depth (h : takeValue limit s t = .error ⟨.depth isObject, place⟩) :
    limit ≤ s.frames.length ∧ t.lexeme = .mark (if isObject then '{' else '[') := by
  unfold takeValue State.open at h
  split at h
  · cases h
  · cases h
  · cases h
  · cases h
  · next hmark =>
    split_ifs at h with hroom
    cases h
    exact ⟨hroom, hmark⟩
  · next hmark =>
    split_ifs at h with hroom
    cases h
    exact ⟨hroom, hmark⟩
  · cases h

theorem takeName_ne_depth : takeName s t ≠ .error ⟨.depth isObject, place⟩ := by
  intro h
  unfold takeName at h
  split at h <;> cases h

/-- Only a container in the place of a value is one too many. -/
theorem step_depth (hs : Comes s ls) (h : step limit s t = .error ⟨.depth isObject, place⟩) :
    limit ≤ s.frames.length ∧ ls = opened s.frames ∧
      t.lexeme = .mark (if isObject then '{' else '[') := by
  cases hs with
  | value =>
    obtain ⟨hroom, hmark⟩ := takeValue_depth h
    exact ⟨hroom, rfl, hmark⟩
  | listBegun =>
    simp only [step] at h
    split_ifs at h
    obtain ⟨hroom, hmark⟩ := takeValue_depth h
    exact ⟨hroom, rfl, hmark⟩
  | name => exact absurd h takeName_ne_depth
  | objectBegun =>
    simp only [step] at h
    split_ifs at h
    exact absurd h takeName_ne_depth
  | colon | item | member =>
    simp only [step] at h
    split_ifs at h
    cases h
  | done => cases h

theorem foldlM_depth : ∀ {ts : List Token} {s : State} {ls : List Lexeme}, Comes s ls →
    (∀ t ∈ ts, t.lexeme.IsProper) →
    ts.foldlM (step limit) s = .error ⟨.depth isObject, place⟩ → ∃ frames : List Frame,
      limit ≤ frames.length ∧
        opened frames ++ [.mark (if isObject then '{' else '[')] <+: ls ++ ts.map (·.lexeme)
  | [], _, _, _, _, h => by cases h
  | t :: ts, s, ls, hs, hproper, h => by
    rcases andThen_eq_error_iff.1 h with hstep | ⟨middle, hstep, hrest⟩
    · obtain ⟨hroom, rfl, hmark⟩ := step_depth hs hstep
      refine ⟨s.frames, hroom, ts.map (·.lexeme), ?_⟩
      rw [List.map_cons, hmark, List.append_assoc, List.singleton_append]
    · have hmiddle := comes_step hs (hproper t (by simp)) hstep
      obtain ⟨frames, hroom, hfront⟩ := foldlM_depth hmiddle (fun u hu => hproper u (by simp [hu])) hrest
      rw [List.append_assoc, List.singleton_append] at hfront
      exact ⟨frames, hroom, hfront⟩

/-- Reading stops for too many open containers only where that many are open. -/
theorem readWithin_depth (h : readWithin limit cs = .error ⟨.depth isObject, place⟩) :
    OpensBeyond limit cs := by
  unfold readWithin at h
  split_ifs at h
  · cases h
  have hproper : ∀ t ∈ tokens cs, t.lexeme.IsProper := fun t ht =>
    isProper_of_mem_lexemesOf cs _ (List.mem_map_of_mem ht)
  rcases andThen_eq_error_iff.1 h with hfold | ⟨s, -, hfinish⟩
  · obtain ⟨frames, hroom, hfront⟩ := foldlM_depth comes_start hproper hfold
    exact ⟨frames, isObject, hroom, hfront⟩
  · unfold State.finish at hfinish
    split at hfinish <;> cases hfinish

theorem runs_parts (limit : Nat) (frames : List Frame) (document : Json) :
    ∀ (rest items : List Json) {next : Next}, TakesValue next →
    frames.length + 1 + nestingItems rest ≤ limit → ∃ next', TakesValue next' ∧
      Runs limit ⟨.list items :: frames, next, document⟩ (listed rest)
        ⟨.list (rest.reverse ++ items) :: frames, next', document⟩
  | [], items, next, hnext, _ => ⟨next, hnext, runs_nil⟩
  | v :: rest, items, next, hnext, hlimit => by
    rw [nestingItems] at hlimit
    have hfirst : Runs limit ⟨.list items :: frames, next, document⟩ (lexemes v)
        ⟨.list (v :: items) :: frames, .comma, document⟩ :=
      runs_lexemes v hnext (by rw [List.length_cons]; omega)
    obtain ⟨next', hnext', hrest⟩ :=
      runs_parts limit frames document rest (v :: items) (.inl rfl) (by omega)
    have hitems : (v :: rest).reverse ++ items = rest.reverse ++ v :: items := by simp
    refine ⟨next', hnext', ?_⟩
    rw [hitems, listed]
    exact hfirst.append (.cons (fun _ => rfl) hrest)

theorem runs_members (limit : Nat) (frames : List Frame) (document : Json) :
    ∀ (rest members : List (CodePoints × Json)) (name : CodePoints) {next : Next},
    next = .name ∨ next = .nameOrClose → frames.length + 1 + nestingMembers rest ≤ limit →
    ∃ last next', (next' = .name ∨ next' = .nameOrClose) ∧
      Runs limit ⟨.object members name :: frames, next, document⟩ (named rest)
        ⟨.object (rest.reverse ++ members) last :: frames, next', document⟩
  | [], members, name, next, hnext, _ => ⟨name, next, hnext, runs_nil⟩
  | (key, v) :: rest, members, name, next, hnext, hlimit => by
    rw [nestingMembers] at hlimit
    have hfirst : Runs limit ⟨.object members key :: frames, .value, document⟩ (lexemes v)
        ⟨.object ((key, v) :: members) key :: frames, .comma, document⟩ :=
      runs_lexemes v (.inl rfl) (by rw [List.length_cons]; omega)
    obtain ⟨last, next', hnext', hrest⟩ :=
      runs_members limit frames document rest ((key, v) :: members) key (.inl rfl) (by omega)
    have hmembers : ((key, v) :: rest).reverse ++ members = rest.reverse ++ (key, v) :: members := by simp
    refine ⟨last, next', hnext', ?_⟩
    rw [hmembers, named]
    exact runs_name key name hnext (hfirst.append (.cons (fun _ => rfl) hrest))

/-- Under a limit that is high enough, any containers can be opened. -/
theorem exists_runs_opened : ∀ frames : List Frame, ∃ limit s, TakesValue s.next ∧
    s.frames.length = frames.length ∧ Runs limit .start (opened frames) s
  | [] => ⟨0, .start, .inl rfl, rfl, runs_nil⟩
  | .list items :: frames => by
    obtain ⟨limit, s, hnext, hlength, hrun⟩ := exists_runs_opened frames
    let higher := max limit (s.frames.length + 1 + nestingItems items.reverse)
    obtain ⟨next, hnext', hparts⟩ := runs_parts higher s.frames s.document items.reverse [] (.inr rfl)
      (Nat.le_max_right ..)
    have hopen := hparts.cons (step_openList hnext (by omega))
    exact ⟨higher, _, hnext', by simp [hlength], (hrun.mono (Nat.le_max_left ..)).append hopen⟩
  | .object members name :: frames => by
    obtain ⟨limit, s, hnext, hlength, hrun⟩ := exists_runs_opened frames
    let higher := max limit (s.frames.length + 1 + nestingMembers members.reverse)
    obtain ⟨last, next, hnext', hmembers⟩ := runs_members higher s.frames s.document members.reverse []
      [] (.inr rfl) (Nat.le_max_right ..)
    have hname := hmembers.append (runs_name name last hnext' runs_nil)
    have hopen := hname.cons (step_openObject hnext (by omega))
    exact ⟨higher, _, .inl rfl, by simp [hlength], (hrun.mono (Nat.le_max_left ..)).append hopen⟩

theorem exists_runs_open (hnext : TakesValue s.next) (isObject : Bool) :
    ∃ s', s'.frames.length = s.frames.length + 1 ∧
      Runs (s.frames.length + 1) s [.mark (if isObject then '{' else '[')] s' := by
  cases isObject with
  | true => exact ⟨_, rfl, .cons (step_openObject hnext (Nat.lt_succ_self _)) runs_nil⟩
  | false => exact ⟨_, rfl, .cons (step_openList hnext (Nat.lt_succ_self _)) runs_nil⟩

/-- Open containers begin with a mark. -/
theorem exists_mark_opened : ∀ (frames : List Frame) (c : Char) (more : List Lexeme),
    ∃ d rest, opened frames ++ .mark c :: more = .mark d :: rest
  | [], c, more => ⟨c, more, rfl⟩
  | .list items :: frames, c, more => by
    obtain ⟨d, rest, h⟩ := exists_mark_opened frames '[' (listed items.reverse ++ .mark c :: more)
    exact ⟨d, rest, by simpa [opened] using h⟩
  | .object members name :: frames, c, more => by
    obtain ⟨d, rest, h⟩ := exists_mark_opened frames '{'
      (named members.reverse ++ .text name :: .mark ':' :: .mark c :: more)
    exact ⟨d, rest, by simpa [opened] using h⟩

/-- Reading stops for too many open containers exactly where more than the limit are open. -/
theorem exists_depth_iff : (∃ isObject place, readWithin limit cs = .error ⟨.depth isObject, place⟩) ↔
    OpensBeyond limit cs := by
  constructor
  · rintro ⟨isObject, place, h⟩
    exact readWithin_depth h
  · rintro ⟨frames, isObject, hroom, more, hmore⟩
    have hmark : cs.head? ≠ some (Char.ofNat 0xFEFF) := by
      intro hmark
      obtain ⟨_, hjunk⟩ := lexemesOf_byteOrder hmark
      obtain ⟨d, rest, hopened⟩ := exists_mark_opened frames (if isObject then '{' else '[') more
      rw [← hmore, List.append_assoc, List.singleton_append, hopened] at hjunk
      cases hjunk
    obtain ⟨limit', s, hnext, hlength, hrun⟩ := exists_runs_opened frames
    obtain ⟨s', hlength', hopen⟩ := exists_runs_open hnext isObject
    -- Under a limit that is high enough, the first tokens lead to more containers than allowed.
    have hhigh : Runs (max limit (max limit' (s.frames.length + 1))) .start
        (opened frames ++ [.mark (if isObject then '{' else '[')]) s' :=
      (hrun.mono (by omega)).append (hopen.mono (by omega))
    obtain ⟨first, rest, htokens, hfirst, -⟩ := List.map_eq_append_iff.1 hmore.symm
    have hproper : ∀ t ∈ first, t.lexeme.IsProper := fun t ht =>
      isProper_of_mem_lexemesOf cs _ (List.mem_map_of_mem (by rw [htokens]; simp [ht]))
    rcases foldlM_of_le (Nat.le_max_left limit (max limit' (s.frames.length + 1))) first .start
      with hsame | ⟨kind, place, hdepth⟩
    · rw [hhigh first hfirst] at hsame
      have hfits := fits_length (staysWithin_foldlM staysWithin_start hproper hsame).frames
      omega
    · refine ⟨kind, place, ?_⟩
      rw [readWithin, if_neg hmark, htokens, List.foldlM_append, hdepth]
      rfl

end OperatorConsole.Json
