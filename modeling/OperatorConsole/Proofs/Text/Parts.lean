import Mathlib.Data.List.TakeWhile
import OperatorConsole.Text.Lines

/-!
Parts between separators. A text without the separator is one part; joining parts and splitting undo
each other as long as no part holds the separator. A text is cut in two at the first separator. Lines that are
joined by line feeds come back when no character of them ends a line; only an empty last one is lost.
-/
namespace OperatorConsole.Text

variable {sep c : Char} {cs run part before after : List Char} {parts : List (List Char)}

theorem splitAt_cons_self : splitAt sep (sep :: cs) = [] :: splitAt sep cs := by
  rw [splitAt, if_pos (by simp)]

theorem splitAt_cons_of_ne (hc : c ≠ sep) (hcs : splitAt sep cs = part :: parts) :
    splitAt sep (c :: cs) = (c :: part) :: parts := by
  rw [splitAt, if_neg (by simpa using hc), hcs]

/-- There is always a first part. -/
theorem exists_splitAt (sep : Char) : ∀ cs, ∃ part parts, splitAt sep cs = part :: parts
  | [] => ⟨[], [], rfl⟩
  | c :: cs => by
    obtain ⟨part, parts, hcs⟩ := exists_splitAt sep cs
    by_cases hc : c = sep
    · subst hc
      exact ⟨[], _, splitAt_cons_self⟩
    · exact ⟨_, _, splitAt_cons_of_ne hc hcs⟩

/-- A run without the separator belongs to the first part. -/
theorem splitAt_append (hcs : splitAt sep cs = part :: parts) : ∀ {run : List Char}, sep ∉ run →
    splitAt sep (run ++ cs) = (run ++ part) :: parts
  | [], _ => hcs
  | c :: run, h => by
    have hc : c ≠ sep := fun e => h (by simp [e])
    exact splitAt_cons_of_ne hc (splitAt_append hcs fun hm => h (by simp [hm]))

/-- A separator parts what stands before it from what follows. -/
theorem splitAt_append_cons (sep : Char) (back : List Char) : ∀ front : List Char,
    splitAt sep (front ++ sep :: back) = splitAt sep front ++ splitAt sep back
  | [] => splitAt_cons_self
  | c :: front => by
    have ih := splitAt_append_cons sep back front
    obtain ⟨part, parts, hfront⟩ := exists_splitAt sep front
    rw [hfront, List.cons_append] at ih
    by_cases hc : c = sep
    · subst hc
      rw [List.cons_append, splitAt_cons_self, splitAt_cons_self, ih, hfront]
      rfl
    · rw [List.cons_append, splitAt_cons_of_ne hc ih, splitAt_cons_of_ne hc hfront]
      rfl

theorem splitAt_of_not_mem (h : sep ∉ run) : splitAt sep run = [run] := by
  have hnil : splitAt sep [] = [[]] := rfl
  simpa using splitAt_append hnil h

/-- Parts without the separator come back from the text that joins them. -/
theorem splitAt_intercalate : ∀ {parts : List (List Char)}, parts ≠ [] →
    (∀ part ∈ parts, sep ∉ part) → splitAt sep ([sep].intercalate parts) = parts
  | [part], _, h => by simpa using splitAt_of_not_mem (h part (by simp))
  | part :: next :: rest, _, h => by
    have hrest := splitAt_intercalate (List.cons_ne_nil next rest)
      fun t ht => h t (List.mem_cons_of_mem _ ht)
    rw [List.intercalate_cons_cons, List.append_assoc, List.singleton_append,
      splitAt_append splitAt_cons_self (h part (by simp)), hrest, List.append_nil]

/-- The characters of joined parts are those of the parts and the separators between them. -/
theorem mem_intercalate : ∀ {parts : List (List Char)},
    c ∈ [sep].intercalate parts → c = sep ∨ ∃ part ∈ parts, c ∈ part
  | [], h => by simp at h
  | [part], h => .inr ⟨part, by simp, by simpa using h⟩
  | part :: next :: rest, h => by
    rw [List.intercalate_cons_cons, List.append_assoc, List.mem_append, List.mem_append] at h
    rcases h with h | h | h
    · exact .inr ⟨part, by simp, h⟩
    · exact .inl (List.mem_singleton.1 h)
    · rcases mem_intercalate h with e | ⟨text, ht, hc⟩
      · exact .inl e
      · exact .inr ⟨text, List.mem_cons_of_mem _ ht, hc⟩

theorem mem_intercalate_of_mem (sep : Char) (hc : c ∈ part) : ∀ {parts : List (List Char)},
    part ∈ parts → c ∈ [sep].intercalate parts
  | [first], h => by
    rw [List.intercalate_singleton, ← List.mem_singleton.1 h]
    exact hc
  | first :: next :: rest, h => by
    rw [List.intercalate_cons_cons, List.append_assoc, List.mem_append, List.mem_append]
    rcases List.mem_cons.1 h with rfl | h
    · exact .inl hc
    · exact .inr (.inr (mem_intercalate_of_mem sep hc h))

theorem not_mem_of_mem_splitAt : ∀ {cs part : List Char}, part ∈ splitAt sep cs → sep ∉ part
  | [], part, h => by simp_all [splitAt]
  | c :: cs, part, h => by
    obtain ⟨first, parts, hcs⟩ := exists_splitAt sep cs
    have hparts : ∀ part ∈ first :: parts, sep ∉ part := fun part hp =>
      not_mem_of_mem_splitAt (hcs ▸ hp)
    by_cases hc : c = sep
    · subst hc
      rw [splitAt_cons_self, hcs, List.mem_cons] at h
      rcases h with rfl | h
      · simp
      · exact hparts part h
    · rw [splitAt_cons_of_ne hc hcs, List.mem_cons] at h
      rcases h with rfl | h
      · have hfirst := hparts first (by simp)
        simp [Ne.symm hc, hfirst]
      · exact hparts part (List.mem_cons_of_mem _ h)

/-- Joining undoes splitting. -/
theorem intercalate_splitAt (sep : Char) : ∀ cs, [sep].intercalate (splitAt sep cs) = cs
  | [] => rfl
  | c :: cs => by
    have ih := intercalate_splitAt sep cs
    obtain ⟨part, parts, hcs⟩ := exists_splitAt sep cs
    rw [hcs] at ih
    by_cases hc : c = sep
    · subst hc
      rw [splitAt_cons_self, hcs, List.intercalate_cons_cons, ih]
      rfl
    · rw [splitAt_cons_of_ne hc hcs, ← ih]
      cases parts <;> rfl

theorem mem_of_mem_splitAt (hpart : part ∈ splitAt sep cs) (hc : c ∈ part) : c ∈ cs := by
  rw [← intercalate_splitAt sep cs]
  exact mem_intercalate_of_mem sep hc hpart

/-- A filter passes over joined parts and what stands between them. -/
theorem filter_intercalate (p : Char → Bool) (sep : Char) : ∀ parts : List (List Char),
    ([sep].intercalate parts).filter p = ([sep].filter p).intercalate (parts.map (List.filter p))
  | [] => rfl
  | [part] => by simp
  | part :: next :: rest => by
    rw [List.intercalate_cons_cons, List.filter_append, List.filter_append,
      filter_intercalate p sep (next :: rest)]
    exact (List.intercalate_cons_cons ..).symm

/-- A separator that is left out is missed nowhere. -/
theorem filter_flatten_splitAt {p : Char → Bool} (hp : p sep = false) : ∀ cs,
    (splitAt sep cs).flatten.filter p = cs.filter p
  | [] => rfl
  | c :: cs => by
    have ih := filter_flatten_splitAt hp cs
    obtain ⟨part, parts, hcs⟩ := exists_splitAt sep cs
    by_cases hc : c = sep
    · subst hc
      rw [splitAt_cons_self, List.flatten_cons, List.nil_append, ih,
        List.filter_cons_of_neg (by simp [hp])]
    · rw [hcs] at ih
      rw [splitAt_cons_of_ne hc hcs, ← List.singleton_append (l := cs), List.filter_append, ← ih,
        ← List.filter_append]
      rfl

/-! ### Cut texts -/

theorem cut_of_not_mem (h : sep ∉ cs) : cut sep cs = (cs, none) := by
  have hdrop : cs.dropWhile (· != sep) = [] := by
    rw [List.dropWhile_eq_nil_iff]
    intro c hc
    rw [bne_iff_ne]
    rintro rfl
    exact h hc
  rw [cut, hdrop]

/-- A text is cut at the first place where the character stands. -/
theorem cut_append (h : sep ∉ before) :
    cut sep (before ++ sep :: after) = (before, some after) := by
  have hbefore : ∀ c ∈ before, (c != sep) = true := by
    intro c hc
    rw [bne_iff_ne]
    rintro rfl
    exact h hc
  have hdrop : (before ++ sep :: after).dropWhile (· != sep) = sep :: after := by
    rw [List.dropWhile_append_of_pos hbefore, List.dropWhile_cons_of_neg (by simp)]
  have htake : (before ++ sep :: after).takeWhile (· != sep) = before := by
    rw [List.takeWhile_append_of_pos hbefore, List.takeWhile_cons_of_neg (by simp), List.append_nil]
  rw [cut, hdrop, htake]

/-- A text is cut, or the character does not stand in it. -/
theorem cut_cases (sep : Char) (cs : List Char) : (sep ∉ cs ∧ cut sep cs = (cs, none)) ∨
    ∃ before after, cs = before ++ sep :: after ∧ sep ∉ before ∧
      cut sep cs = (before, some after) := by
  by_cases h : sep ∈ cs
  · obtain ⟨before, after, rfl, hbefore⟩ := List.eq_append_cons_of_mem h
    exact .inr ⟨before, after, rfl, hbefore, cut_append hbefore⟩
  · exact .inl ⟨h, cut_of_not_mem h⟩

/-! ### Lines -/

theorem linesFrom_append {run : List Char} (h : ∀ c ∈ run, isLineEnd c = false) :
    ∀ line rest : List Char,
      linesFrom line (run ++ rest) = linesFrom (run.reverse ++ line) rest := by
  induction run with
  | nil => exact fun _ _ => rfl
  | cons c run ih =>
    intro line rest
    have hc : isLineEnd c = false := h c (by simp)
    rw [List.cons_append, linesFrom, hc, if_neg (by simp), ih (fun d hd => h d (by simp [hd]))]
    simp

theorem joinLineEnds_of_not_mem : ∀ {cs : List Char}, '\r' ∉ cs → joinLineEnds cs = cs
  | [], _ => rfl
  | c :: rest, h => by
    have hc : c ≠ '\r' := fun e => h (e ▸ List.mem_cons_self)
    have hrest : '\r' ∉ rest := fun hm => h (List.mem_cons_of_mem _ hm)
    rw [joinLineEnds.eq_3 _ _ (fun _ e => absurd e hc), joinLineEnds_of_not_mem hrest]
    simp [hc]

/-- Lines without line ends come back from the text that joins them, but for an empty last one. -/
theorem linesFrom_intercalate : ∀ {texts : List (List Char)},
    (∀ text ∈ texts, ∀ c ∈ text, isLineEnd c = false) →
    linesFrom [] (['\n'].intercalate texts) = texts ∨
      linesFrom [] (['\n'].intercalate texts) ++ [[]] = texts
  | [], _ => .inl rfl
  | [text], h => by
    have hread := linesFrom_append (h text (by simp)) [] []
    rw [List.append_nil, List.append_nil] at hread
    rw [List.intercalate_singleton, hread]
    cases text with
    | nil => exact .inr rfl
    | cons c text => exact .inl (by simp [linesFrom])
  | text :: next :: rest, h => by
    have hread : linesFrom [] (['\n'].intercalate (text :: next :: rest)) =
        text :: linesFrom [] (['\n'].intercalate (next :: rest)) := by
      rw [List.intercalate_cons_cons, List.append_assoc, linesFrom_append (h text (by simp)),
        List.cons_append, linesFrom, if_pos (by decide)]
      simp
    rw [hread]
    rcases linesFrom_intercalate (fun t ht => h t (List.mem_cons_of_mem _ ht)) with e | e
    · exact .inl (congrArg _ e)
    · exact .inr (congrArg (text :: ·) e)

end OperatorConsole.Text
