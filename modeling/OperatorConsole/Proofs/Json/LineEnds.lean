import Mathlib.Data.List.Forall2
import OperatorConsole.Proofs.Json.Lexeme
import OperatorConsole.Proofs.Json.Reading

/-!
Documents and line ends. The tokens of two texts with the same lines are the same, but for where they
stand, and neither the place of a token nor a limit that is not reached changes what the reader comes
to. So a text is a document exactly if every text with the same lines is that document.
-/
namespace OperatorConsole.Json

open Text (IsReturn SameLines)

variable {cs ds rest after : List Char} {c : Char} {lexeme : Lexeme}

/-! ### Tokens -/

/-- The texts that begin with the tokens of a text. -/
def tokenTexts (cs : List Char) : List (List Char) :=
  match _ : cs.dropWhile isSpace with
  | [] => []
  | c :: rest => (c :: rest) :: tokenTexts (takeLexeme c rest).2
termination_by cs.length
decreasing_by
  have h1 := takeLexeme_length_le c rest
  have h2 := (List.dropWhile_suffix (l := cs) isSpace).length_le
  simp_all
  omega

/-- The token that a text begins with. -/
def tokenAt : List Char → Token
  | [] => ⟨.junk, 0⟩
  | c :: rest => ⟨(takeLexeme c rest).1, rest.length + 1⟩

theorem tokenTexts_of_nil (h : cs.dropWhile isSpace = []) : tokenTexts cs = [] := by
  rw [tokenTexts]
  split
  · rfl
  · next hcons => simp [h] at hcons

theorem tokenTexts_of_dropWhile (h : cs.dropWhile isSpace = c :: rest) :
    tokenTexts cs = (c :: rest) :: tokenTexts (takeLexeme c rest).2 := by
  rw [tokenTexts]
  split
  · next hnil => simp [h] at hnil
  · next hcons =>
    rw [h] at hcons
    cases hcons
    rfl

theorem tokens_eq_map (cs : List Char) : tokens cs = (tokenTexts cs).map tokenAt := by
  fun_induction tokenTexts cs with
  | case1 cs h =>
    rw [tokens]
    split
    · rfl
    · next hcons => simp [h] at hcons
  | case2 cs c rest h ih => rw [tokens_of_dropWhile h, ih, List.map_cons, tokenAt]

theorem place_tokenAt (text : List Char) : (tokenAt text).place = text.length := by
  cases text <;> rfl

theorem readUnits_suffix {units found : CodePoints} (h : readUnits units cs = .ok (found, after)) :
    after <:+ cs := by
  fun_induction readUnits units cs with
  | case2 units c rest =>
    cases h
    exact List.suffix_cons c _
  | case4 units c _ _ e _ h1 h2 h3 h4 tail _ _ _ ih =>
    exact (ih h).trans (List.suffix_append [c, e, h1, h2, h3, h4] tail)
  | case7 units c _ _ e rest _ _ _ ih => exact (ih h).trans (List.suffix_append [c, e] rest)
  | case10 units c rest _ _ _ ih => exact (ih h).trans (List.suffix_cons c rest)
  | _ => cases h

theorem takeLexeme_suffix (c : Char) (rest : List Char) : (takeLexeme c rest).2 <:+ rest := by
  unfold takeLexeme
  split
  · exact List.suffix_rfl
  · split
    · split
      · next hunits => exact readUnits_suffix hunits
      · exact List.nil_suffix
      · exact List.nil_suffix
    · split
      · exact List.drop_suffix _ _
      · split
        · exact List.drop_suffix _ _
        · exact List.nil_suffix

theorem suffix_of_mem_tokenTexts {text : List Char} (h : text ∈ tokenTexts cs) : text <:+ cs := by
  fun_induction tokenTexts cs with
  | case1 => cases h
  | case2 cs c rest hcons ih =>
    have hdrop := List.dropWhile_suffix (l := cs) isSpace
    rw [hcons] at hdrop
    rcases List.mem_cons.1 h with rfl | h
    · exact hdrop
    · exact (ih h).trans ((takeLexeme_suffix c rest).trans ((List.suffix_cons c rest).trans hdrop))

/-- Two texts have the same lines and begin with the same token. -/
structure AlikeAt (text other : List Char) : Prop where
  lines : SameLines text other
  lexeme : (tokenAt other).lexeme = (tokenAt text).lexeme

theorem tokenTexts_alike (h : SameLines cs ds)
    (hread : ∀ text ∈ tokenTexts cs, (tokenAt text).lexeme.IsRead) :
    List.Forall₂ AlikeAt (tokenTexts cs) (tokenTexts ds) := by
  have hspace : ∀ c, IsReturn c → isSpace c = true := by rintro c (rfl | rfl) <;> rfl
  fun_induction tokenTexts cs generalizing ds with
  | case1 cs hnil =>
    rw [tokenTexts_of_nil ((h.dropWhile hspace).nil_iff.1 hnil)]
    exact .nil
  | case2 cs c rest hcons ih =>
    have hfirst := List.head?_dropWhile_not isSpace cs
    rw [hcons] at hfirst
    have hc : ¬ IsReturn c := fun hreturn => nomatch (hspace c hreturn).symm.trans hfirst
    have hdrop := h.dropWhile hspace
    rw [hcons] at hdrop
    obtain ⟨rest', hds, hrest⟩ := hdrop.cons hc
    obtain ⟨hlexeme, hafter⟩ := takeLexeme_sameLines hc hrest (hread (c :: rest) (by simp))
    rw [tokenTexts_of_dropWhile hds]
    exact .cons ⟨.char hc hrest, hlexeme⟩ (ih hafter fun text htext => hread text (by simp [htext]))

/-! ### Steps -/

variable {limit limit' place place' : Nat} {s s' : State} {t t' : Token}

theorem isRead_of_step (h : step limit s t = .ok s') : t.lexeme.IsRead := by
  obtain ⟨lexeme, place⟩ := t
  cases lexeme with
  | mark | text | scalar => trivial
  | badText | badNumber | junk =>
    cases hnext : s.next <;> simp [step, hnext, takeValue, takeName, Token.isMark] at h

theorem open_limit (hlimit : s.frames.length < limit') {isObject : Bool}
    (h : s.open limit isObject place = .ok s') : s.open limit' isObject place' = .ok s' := by
  unfold State.open at h ⊢
  rw [if_neg (Nat.not_le.2 hlimit)]
  split at h
  · cases h
  · exact h

theorem takeValue_limit (hlimit : s.frames.length < limit')
    (h : takeValue limit s ⟨lexeme, place⟩ = .ok s') :
    takeValue limit' s ⟨lexeme, place'⟩ = .ok s' := by
  unfold takeValue at h ⊢
  dsimp only at h ⊢
  split at h
  · exact h
  · exact h
  · cases h
  · cases h
  · exact open_limit hlimit h
  · exact open_limit hlimit h
  · cases h

theorem takeName_place (h : takeName s ⟨lexeme, place⟩ = .ok s') :
    takeName s ⟨lexeme, place'⟩ = .ok s' := by
  unfold takeName at h ⊢
  dsimp only at h ⊢
  split at h
  · exact h
  · cases h
  · cases h

/-- Where a token stands does not matter, nor does the limit on containers, unless it is reached. -/
theorem step_limit (hlimit : s.frames.length < limit') (hlexeme : t'.lexeme = t.lexeme)
    (h : step limit s t = .ok s') : step limit' s t' = .ok s' := by
  obtain ⟨_, place⟩ := t
  obtain ⟨lexeme, place'⟩ := t'
  dsimp only at hlexeme
  subst hlexeme
  have hmark : ∀ d, Token.isMark ⟨lexeme, place'⟩ d = Token.isMark ⟨lexeme, place⟩ d := fun _ => rfl
  unfold step at h ⊢
  simp only [hmark]
  split at h
  · exact takeValue_limit hlimit h
  · split at h
    · next hm => rwa [if_pos hm]
    · next hm =>
      rw [if_neg hm]
      exact takeValue_limit hlimit h
  · exact takeName_place h
  · split at h
    · next hm => rwa [if_pos hm]
    · next hm =>
      rw [if_neg hm]
      exact takeName_place h
  · split at h
    · next hm => rwa [if_pos hm]
    · cases h
  · split at h
    · next hm => rwa [if_pos hm]
    · next hm =>
      rw [if_neg hm]
      split at h
      · next hm => rwa [if_pos hm]
      · cases h
  · cases h

@[simp]
theorem length_frames_deliver (s : State) (v : Json) :
    (s.deliver v).frames.length = s.frames.length := by
  unfold State.deliver
  split <;> simp_all

theorem length_frames_close (s : State) : s.close.frames.length ≤ s.frames.length := by
  unfold State.close
  split <;> simp_all

@[simp]
theorem frames_afterComma (s : State) : s.afterComma.frames = s.frames := by
  unfold State.afterComma
  split <;> rfl

theorem length_frames_open {isObject : Bool} (h : s.open limit isObject place = .ok s') :
    s'.frames.length = s.frames.length + 1 := by
  unfold State.open at h
  split at h
  · cases h
  · split at h <;> cases h <;> rfl

theorem length_frames_takeValue (h : takeValue limit s t = .ok s') :
    s'.frames.length ≤ s.frames.length + 1 := by
  unfold takeValue at h
  split at h
  · cases h
    simp
  · cases h
    simp
  · cases h
  · cases h
  · exact (length_frames_open h).le
  · exact (length_frames_open h).le
  · cases h

theorem length_frames_takeName (h : takeName s t = .ok s') : s'.frames.length = s.frames.length := by
  unfold takeName at h
  split at h
  · next hframes =>
    cases h
    simp [hframes]
  · cases h
  · cases h

/-- A token opens one container at most. -/
theorem length_frames_step (h : step limit s t = .ok s') :
    s'.frames.length ≤ s.frames.length + 1 := by
  have hclose := length_frames_close s
  unfold step at h
  split at h
  · exact length_frames_takeValue h
  · split at h
    · cases h
      omega
    · exact length_frames_takeValue h
  · exact (length_frames_takeName h).le.trans (Nat.le_succ _)
  · split at h
    · cases h
      omega
    · exact (length_frames_takeName h).le.trans (Nat.le_succ _)
  · split at h
    · cases h
      exact Nat.le_succ _
    · cases h
  · split at h
    · cases h
      omega
    · split at h
      · cases h
        simp
      · cases h
  · cases h

/-! ### Documents -/

theorem isRead_of_foldlM : ∀ {ts : List Token} {s : State}, ts.foldlM (step limit) s = .ok s' →
    ∀ t ∈ ts, t.lexeme.IsRead
  | [], _, _ => by simp
  | t :: ts, s, h => by
    obtain ⟨middle, hstep, hrest⟩ := andThen_eq_ok_iff.1 h
    intro u hu
    rcases List.mem_cons.1 hu with rfl | hu
    · exact isRead_of_step hstep
    · exact isRead_of_foldlM hrest u hu

theorem foldlM_limit {texts others : List (List Char)} (h : List.Forall₂ AlikeAt texts others) :
    ∀ {s : State}, s.frames.length + texts.length < limit' →
    (texts.map tokenAt).foldlM (step limit) s = .ok s' →
    (others.map tokenAt).foldlM (step limit') s = .ok s' := by
  induction h with
  | nil => exact fun _ h => h
  | @cons text other texts others halike _ ih =>
    intro s hlimit h
    obtain ⟨middle, hstep, hrest⟩ := andThen_eq_ok_iff.1 h
    rw [List.length_cons] at hlimit
    have hframes := length_frames_step hstep
    exact andThen_eq_ok_iff.2
      ⟨middle, step_limit (by omega) halike.lexeme hstep, ih (by omega) hrest⟩

theorem length_tokenTexts_le (cs : List Char) : (tokenTexts cs).length ≤ cs.length := by
  fun_induction tokenTexts cs with
  | case1 cs h => exact Nat.zero_le _
  | case2 cs c rest h ih =>
    have hafter := takeLexeme_length_le c rest
    have hdrop := (List.dropWhile_suffix (l := cs) isSpace).length_le
    rw [h, List.length_cons] at hdrop
    rw [List.length_cons]
    omega

/-- A text is read as every text with the same lines is, within limits that are not reached. -/
theorem readWithin_sameLines {v : Json} (h : SameLines cs ds) (hlimit : ds.length < limit')
    (hv : readWithin limit cs = .ok v) :
    readWithin limit' ds = .ok v ∧ List.Forall₂ AlikeAt (tokenTexts cs) (tokenTexts ds) := by
  have hmark : cs.head? = some (Char.ofNat 0xFEFF) ↔ ds.head? = some (Char.ofNat 0xFEFF) :=
    h.head?_iff (by decide)
  have hlength := length_tokenTexts_le ds
  unfold readWithin at hv ⊢
  split at hv
  · cases hv
  · next hhead =>
    rw [if_neg (mt hmark.2 hhead)]
    obtain ⟨s, hs, hfinish⟩ := andThen_eq_ok_iff.1 hv
    rw [tokens_eq_map] at hs
    have halike := tokenTexts_alike h fun text htext =>
      isRead_of_foldlM hs _ (List.mem_map_of_mem htext)
    have hframes : State.start.frames.length + (tokenTexts cs).length < limit' := by
      rw [State.start, List.length_nil, halike.length_eq]
      omega
    have hs' := foldlM_limit halike hframes hs
    rw [← tokens_eq_map] at hs'
    exact ⟨andThen_eq_ok_iff.2 ⟨s, hs', hfinish⟩, halike⟩

end OperatorConsole.Json
