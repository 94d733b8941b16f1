import OperatorConsole.Proofs.Text.Parts
import OperatorConsole.Terminal.Screen

/-!
Lines on a terminal. A text is not shown as it is: a pictograph stands in the place of a code that names
one, characters that move the terminal are dropped, and spaces stand in the place of tabulators. A text
with none of these is shown character for character, and no other character of a text is changed.
-/
namespace OperatorConsole.Terminal

/-! ### Codes -/

/-- What may stand between the colons of a code. -/
def IsCode (code : List Char) : Prop := ∀ c ∈ code, c ≠ ':' ∧ Text.isBlank c = false

/-- A text, the codes that are read in it from its start on, and the text with pictographs in the place of
those codes that name one. -/
inductive DrawnAs : List Char → List (List Char) → List Char → Prop where
  | nil : DrawnAs [] [] []
  | char {c : Char} {cs : List Char} {codes : List (List Char)} {drawn : List Char} (hc : c ≠ ':')
      (h : DrawnAs cs codes drawn) : DrawnAs (c :: cs) codes (c :: drawn)
  /-- A colon that begins no code. -/
  | colon {cs : List Char} {codes : List (List Char)} {drawn : List Char}
      (hno : ∀ code rest, IsCode code → cs ≠ code ++ ':' :: rest) (h : DrawnAs cs codes drawn) :
      DrawnAs (':' :: cs) codes (':' :: drawn)
  | code {code cs : List Char} {codes : List (List Char)} {drawn : List Char} (hcode : IsCode code)
      (h : DrawnAs cs codes drawn) :
      DrawnAs (':' :: (code ++ ':' :: cs)) (code :: codes)
        ((pictograph? code).getD (':' :: code ++ [':']) ++ drawn)

variable {c : Char} {cs code drawn : List Char} {codes : List (List Char)}

theorem codeAfter_eq_cut : codeAfter cs =
    match Text.cut ':' cs with
    | (_, none) => none
    | (code, some rest) => if code.any Text.isBlank then none else some (code, rest) := by
  rw [codeAfter, Text.cut]
  cases cs.dropWhile (· != ':') <;> rfl

theorem IsCode.colon_not_mem (h : IsCode code) : ':' ∉ code := fun hm => (h ':' hm).1 rfl

theorem IsCode.any_isBlank (h : IsCode code) : code.any Text.isBlank = false :=
  List.any_eq_false.2 fun c hc => by simp [(h c hc).2]

theorem codeAfter_append (h : IsCode code) (rest : List Char) :
    codeAfter (code ++ ':' :: rest) = some (code, rest) := by
  simp [codeAfter_eq_cut, Text.cut_append h.colon_not_mem, h.any_isBlank]

theorem codeAfter_eq_none (h : ∀ code rest, IsCode code → cs ≠ code ++ ':' :: rest) :
    codeAfter cs = none := by
  rw [codeAfter_eq_cut]
  obtain ⟨-, hcut⟩ | ⟨code, rest, hcs, hcolon, hcut⟩ := Text.cut_cases ':' cs
  · rw [hcut]
  · have hblank : code.any Text.isBlank = true := by
      by_contra hnone
      refine h code rest (fun c hc => ⟨fun e => hcolon (e ▸ hc), ?_⟩) hcs
      exact Bool.eq_false_iff.2 fun hb => hnone (List.any_eq_true.2 ⟨c, hc, hb⟩)
    simp [hcut, hblank]

namespace DrawnAs

/-- Drawing takes no more steps than there are characters. -/
theorem drawSome (h : DrawnAs cs codes drawn) :
    ∀ {steps : Nat}, cs.length ≤ steps → Terminal.drawSome steps cs = drawn := by
  induction h with
  | nil =>
    intro steps _
    cases steps <;> rfl
  | char hc _ ih =>
    intro steps hsteps
    obtain ⟨steps, rfl⟩ := Nat.exists_eq_add_of_le' (Nat.one_le_of_lt hsteps)
    rw [Terminal.drawSome, if_pos (by simpa using hc), ih (by simpa using hsteps)]
  | colon hno _ ih =>
    intro steps hsteps
    obtain ⟨steps, rfl⟩ := Nat.exists_eq_add_of_le' (Nat.one_le_of_lt hsteps)
    rw [Terminal.drawSome, if_neg (by simp), codeAfter_eq_none hno]
    simp only
    rw [ih (by simpa using hsteps)]
  | code hcode _ ih =>
    intro steps hsteps
    obtain ⟨steps, rfl⟩ := Nat.exists_eq_add_of_le' (Nat.one_le_of_lt hsteps)
    rw [Terminal.drawSome, if_neg (by simp), codeAfter_append hcode]
    simp only
    rw [ih (by simp at hsteps; omega)]

/-- Where no code names a pictograph, the text stays as it is. -/
theorem eq_self (h : DrawnAs cs codes drawn) (hnone : ∀ code ∈ codes, pictograph? code = none) :
    drawn = cs := by
  induction h with
  | nil => rfl
  | char _ _ ih => rw [ih hnone]
  | colon _ _ ih => rw [ih hnone]
  | code _ _ ih =>
    rw [hnone _ (by simp), ih fun code hc => hnone code (List.mem_cons_of_mem _ hc)]
    simp

/-- With every code that names a pictograph, both of its colons are gone. -/
theorem count_colon (h : DrawnAs cs codes drawn)
    (hpictures : ∀ code ∈ codes, ∀ picture ∈ pictograph? code, ':' ∉ picture) :
    drawn.count ':' + 2 * codes.countP (fun code => (pictograph? code).isSome) = cs.count ':' := by
  induction h with
  | nil => rfl
  | char hc _ ih =>
    rw [List.count_cons_of_ne hc, List.count_cons_of_ne hc, ih hpictures]
  | colon _ _ ih =>
    have := ih hpictures
    simp only [List.count_cons_self]
    omega
  | @code code cs codes drawn hcode _ ih =>
    have hrest := ih fun code hc => hpictures code (List.mem_cons_of_mem _ hc)
    have hplain : code.count ':' = 0 := List.count_eq_zero.2 hcode.colon_not_mem
    cases hpicture : pictograph? code with
    | none =>
      rw [List.countP_cons_of_neg (by simp [hpicture])]
      simp [hplain]
      omega
    | some picture =>
      have hdrawn : picture.count ':' = 0 :=
        List.count_eq_zero.2 (hpictures code (by simp) picture (by simp [hpicture]))
      rw [List.countP_cons_of_pos (by simp [hpicture])]
      simp [hplain, hdrawn]
      omega

end DrawnAs

theorem exists_drawnAs : ∀ cs, ∃ codes drawn, DrawnAs cs codes drawn
  | [] => ⟨[], [], .nil⟩
  | c :: cs => by
    obtain ⟨codes, drawn, h⟩ := exists_drawnAs cs
    by_cases hc : c = ':'
    · subst hc
      by_cases hcode : ∃ code rest, IsCode code ∧ cs = code ++ ':' :: rest
      · obtain ⟨code, rest, hcode, rfl⟩ := hcode
        obtain ⟨codes, drawn, h⟩ := exists_drawnAs rest
        exact ⟨_, _, .code hcode h⟩
      · exact ⟨_, _, .colon (fun code rest hc he => hcode ⟨code, rest, hc, he⟩) h⟩
    · exact ⟨_, _, .char hc h⟩
termination_by cs => cs.length

theorem exists_codes (cs : List Char) : ∃ codes, DrawnAs cs codes (drawPictographs cs) := by
  obtain ⟨codes, drawn, h⟩ := exists_drawnAs cs
  refine ⟨codes, ?_⟩
  rw [drawPictographs, h.drawSome le_rfl]
  exact h

/-! ### Lines -/

/-- A character that a terminal is given as it is. -/
def isPlain (c : Char) : Bool := c != '\t' && !isMovement c

/-- A character that is given as it is and is no space: there are spaces for tabulators. -/
def isSolid (c : Char) : Bool := isPlain c && c != ' '

theorem filter_isSolid_dropMovements (cs : List Char) :
    (dropMovements cs).filter isSolid = cs.filter isSolid := by
  rw [dropMovements, List.filter_filter]
  refine List.filter_congr fun c _ => ?_
  cases hm : isMovement c <;> simp [isSolid, isPlain, hm]

theorem filter_isSolid_padParts : ∀ (place : Nat) (parts : List (List Char)),
    (padParts place parts).filter isSolid = parts.flatten.filter isSolid
  | _, [] => rfl
  | _, [part] => by simp [padParts]
  | place, part :: next :: rest => by
    have hspaces : ∀ n, (List.replicate n ' ').filter isSolid = [] := fun n => by
      simp [isSolid]
    rw [padParts, List.filter_append, List.filter_append, hspaces, filter_isSolid_padParts]
    · simp
    · simp

theorem mem_padParts : ∀ {place : Nat} {parts : List (List Char)},
    c ∈ padParts place parts → c = ' ' ∨ ∃ part ∈ parts, c ∈ part
  | _, [], h => by simp [padParts] at h
  | _, [part], h => .inr ⟨part, by simp, h⟩
  | place, part :: next :: rest, h => by
    rw [padParts, List.mem_append, List.mem_append] at h
    · rcases h with (h | h) | h
      · exact .inr ⟨part, by simp, h⟩
      · exact .inl (List.eq_of_mem_replicate h)
      · exact (mem_padParts h).imp_right fun ⟨other, ho, hc⟩ => ⟨other, List.mem_cons_of_mem _ ho, hc⟩
    · simp

theorem filter_isSolid_expandTabs (line : List Char) :
    (expandTabs line).filter isSolid = line.filter isSolid := by
  rw [expandTabs, filter_isSolid_padParts, Text.filter_flatten_splitAt (by rfl)]

/-- A line without tabulators is given as it is. -/
theorem expandTabs_of_not_mem {line : List Char} (h : '\t' ∉ line) : expandTabs line = line := by
  rw [expandTabs, Text.splitAt_of_not_mem h]
  rfl

theorem joined_eq (lines : List (List Char)) : joined lines = String.ofList (['\n'].intercalate lines) :=
  rfl

/-- Beside spaces, tabulators and movements, a terminal gets just the characters of a text. -/
theorem filter_isSolid_plainLines (cs : List Char) :
    (['\n'].intercalate (plainLines cs)).filter isSolid = cs.filter isSolid := by
  have hlines : ∀ lines : List (List Char),
      (lines.map expandTabs).map (List.filter isSolid) = lines.map (List.filter isSolid) := fun lines => by
    simp [filter_isSolid_expandTabs]
  rw [plainLines, Text.filter_intercalate, hlines, ← Text.filter_intercalate,
    Text.intercalate_splitAt, filter_isSolid_dropMovements]

/-- No tabulator and no movement comes to a terminal. -/
theorem isPlain_of_mem_plainLines (h : c ∈ ['\n'].intercalate (plainLines cs)) : isPlain c = true := by
  obtain rfl | ⟨line, hline, hc⟩ := Text.mem_intercalate h
  · rfl
  obtain ⟨source, hsource, rfl⟩ := List.mem_map.1 hline
  obtain rfl | ⟨part, hpart, hc⟩ := mem_padParts hc
  · rfl
  have htab : c ≠ '\t' := fun e => Text.not_mem_of_mem_splitAt hpart (e ▸ hc)
  have hmem : c ∈ dropMovements cs := by
    have hline := Text.mem_intercalate_of_mem '\n' (Text.mem_of_mem_splitAt hpart hc) hsource
    rwa [Text.intercalate_splitAt] at hline
  have hmove : (!isMovement c) = true := (List.mem_filter.1 hmem).2
  simp [isPlain, htab, hmove]

/-- A text without tabulators loses nothing but its movements. -/
theorem plainLines_of_not_mem (h : '\t' ∉ cs) :
    ['\n'].intercalate (plainLines cs) = dropMovements cs := by
  have hlines : (Text.splitAt '\n' (dropMovements cs)).map expandTabs =
      Text.splitAt '\n' (dropMovements cs) := by
    refine (List.map_congr_left fun line hline => ?_).trans (List.map_id _)
    exact expandTabs_of_not_mem fun htab =>
      h (List.mem_filter.1 (Text.mem_of_mem_splitAt hline htab)).1
  rw [plainLines, hlines, Text.intercalate_splitAt]

theorem dropMovements_of_isPlain (h : ∀ c ∈ cs, isPlain c = true) : dropMovements cs = cs := by
  refine List.filter_eq_self.2 fun c hc => ?_
  have hplain := h c hc
  rw [isPlain, Bool.and_eq_true] at hplain
  exact hplain.2

/-- What is shown of a text, the codes in it, and the text with its pictographs drawn. -/
structure ShownAs (text : String) (codes : List (List Char)) (drawn : List Char) (shown : String) :
    Prop where
  drawing : DrawnAs text.toList codes drawn
  solid : shown.toList.filter isSolid = (drawn ++ ['\n', '\n']).filter isSolid
  /-- Spaces are told from tabulators only where there are none of these. -/
  untabbed : '\t' ∉ drawn → shown.toList = dropMovements drawn ++ ['\n', '\n']
  asIs : (∀ c ∈ text.toList, isPlain c = true) → (∀ code ∈ codes, pictograph? code = none) →
    shown = text ++ "\n\n"
  /-- It is the text itself only if nothing in it moves the terminal, and no pictograph is drawn; a
  pictograph with a colon in it could make up for the colons of its code. -/
  onlyThen : ∀ n, shown.toList = text.toList ++ List.replicate n '\n' →
    (∀ c ∈ text.toList, isPlain c = true) ∧
      ((∀ code ∈ codes, ∀ picture ∈ pictograph? code, ':' ∉ picture) →
        ∀ code ∈ codes, pictograph? code = none)

theorem toList_shellLine (s : String) :
    (shellLine s).toList = ['\n'].intercalate (plainLines (drawPictographs s.toList)) ++ ['\n'] := by
  rw [shellLine, joined_eq, String.toList_append, String.toList_ofList]
  rfl

/-- The line of a text with an empty line after it. -/
theorem exists_shownAs (text : String) :
    ∃ codes drawn, ShownAs text codes drawn (shellLine text ++ newLine) := by
  obtain ⟨codes, hcodes⟩ := exists_codes text.toList
  have hshown : (shellLine text ++ newLine).toList =
      ['\n'].intercalate (plainLines (drawPictographs text.toList)) ++ ['\n', '\n'] := by
    rw [String.toList_append, toList_shellLine, List.append_assoc]
    rfl
  have hsolid : (shellLine text ++ newLine).toList.filter isSolid =
      (drawPictographs text.toList ++ ['\n', '\n']).filter isSolid := by
    rw [hshown, List.filter_append, filter_isSolid_plainLines, ← List.filter_append]
  have huntabbed : '\t' ∉ drawPictographs text.toList →
      (shellLine text ++ newLine).toList = dropMovements (drawPictographs text.toList) ++ ['\n', '\n'] :=
    fun htab => by rw [hshown, plainLines_of_not_mem htab]
  refine ⟨codes, _, hcodes, hsolid, huntabbed, fun hplain hnone => ?_, fun n hsame => ⟨fun c hc => ?_, ?_⟩⟩
  · apply String.toList_injective
    have htab : '\t' ∉ text.toList := fun hm => absurd (hplain _ hm) (by decide)
    rw [hcodes.eq_self hnone] at huntabbed
    rw [huntabbed htab, dropMovements_of_isPlain hplain, String.toList_append]
    rfl
  · have hmem : c ∈ (shellLine text ++ newLine).toList := by simp [hsame, hc]
    rw [hshown, List.mem_append] at hmem
    rcases hmem with hmem | hmem
    · exact isPlain_of_mem_plainLines hmem
    · obtain rfl : c = '\n' := by simpa using hmem
      rfl
  · intro hpictures
    have hcolon : isSolid ':' = true := by rfl
    have hcount := congrArg (List.count ':') hsolid
    rw [List.count_filter hcolon, List.count_filter hcolon, hsame] at hcount
    have hpaired := hcodes.count_colon hpictures
    have hnamed : codes.countP (fun code => (pictograph? code).isSome) = 0 := by
      simp [List.count_replicate] at hcount
      omega
    intro code hcode
    simpa using List.countP_eq_zero.1 hnamed code hcode

end OperatorConsole.Terminal
