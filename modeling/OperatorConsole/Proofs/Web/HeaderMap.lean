import Mathlib.Data.List.TakeWhile
import OperatorConsole.Proofs.Keyed
import OperatorConsole.Proofs.Steps
import OperatorConsole.Proofs.Text.LowerCase
import OperatorConsole.Web.Headers

/-!
Headers as a map. A name has a value up to letter case: what is written under a name is found under it
and under no other, what is removed is not found, and the lines of other names stand as they stood. A
name or value that is not ASCII is refused. Lines that are grouped by name keep all values: the groups have
the names of the lines in the order of the first lines, each with the values of all its lines in order.
-/
namespace OperatorConsole

/-- The names differ in letter case at most. -/
def SameName (a b : String) : Prop := Text.lower a.toList = Text.lower b.toList

instance : DecidableRel SameName := fun a b =>
  inferInstanceAs (Decidable (Text.lower a.toList = Text.lower b.toList))

variable {s name key value small : String} {h h' : Headers}

/-! ### Names -/

theorem notAscii?_eq_none_iff : notAscii? s = none ↔ ∀ c ∈ s.toList, c.toNat < 0x80 := by
  have hall : (∀ c ∈ s.toList, c.toNat < 0x80) ↔ s.toList.dropWhile isAscii = [] := by
    simp [List.dropWhile_eq_nil_iff, isAscii]
  rw [hall, notAscii?]
  cases s.toList.dropWhile isAscii <;> simp

theorem smallAscii_eq (hs : notAscii? s = none) :
    smallAscii s = String.ofList (Text.lower s.toList) := by
  rw [smallAscii, Text.lower_of_ascii (notAscii?_eq_none_iff.1 hs)]

theorem notAscii?_smallAscii (hs : notAscii? s = none) : notAscii? (smallAscii s) = none := by
  rw [notAscii?_eq_none_iff] at hs ⊢
  intro c hc
  rw [smallAscii, String.toList_ofList] at hc
  obtain ⟨d, hd, rfl⟩ := List.mem_map.1 hc
  exact Text.toNat_lowerAscii_lt (hs d hd)

namespace Headers

theorem lookupName_eq_ok_iff : lookupName name = .ok small ↔
    notAscii? small = none ∧ small = String.ofList (Text.lower name.toList) := by
  simp only [lookupName]
  split
  · next fault hs =>
    simp only [reduceCtorEq, false_iff, not_and]
    rintro hnone rfl
    rw [hs] at hnone
    cases hnone
  · next hs =>
    constructor
    · rintro ⟨⟩
      exact ⟨hs, rfl⟩
    · rintro ⟨-, rfl⟩
      rfl

theorem lookupName_of_ascii (hs : notAscii? name = none) : lookupName name = .ok (smallAscii name) :=
  lookupName_eq_ok_iff.2 ⟨notAscii?_smallAscii hs, smallAscii_eq hs⟩

/-- A name is looked up as the other exactly if it is the same name. -/
theorem lookupName_eq_iff_sameName (hkey : lookupName key = .ok small) :
    lookupName name = .ok small ↔ SameName name key := by
  obtain ⟨hsmall, rfl⟩ := lookupName_eq_ok_iff.1 hkey
  rw [lookupName_eq_ok_iff, and_iff_right hsmall, String.ofList_inj, SameName, eq_comm]

/-! ### Lines -/

variable {other v : String}

theorem withValue_nil : withValue [] name v = [(name, v)] := rfl

theorem withValue_cons (line : String × String) : withValue (line :: h) name v =
    if line.1 = name then (name, v) :: h.without name else line :: h.withValue name v := by
  by_cases hline : line.1 = name
  · simp [withValue, isNamed, hline]
  · simp [withValue, isNamed, hline]

theorem without_cons (line : String × String) : without (line :: h) name =
    if line.1 = name then h.without name else line :: h.without name := by
  by_cases hline : line.1 = name <;> simp [without, isNamed, hline]

theorem values_cons (line : String × String) : values (line :: h) name =
    if line.1 = name then line.2 :: h.values name else h.values name := by
  by_cases hline : line.1 = name <;> simp [values, isNamed, hline]

theorem values_without (h : Headers) :
    (h.without name).values other = if other = name then [] else h.values other := by
  induction h with
  | nil => simp [without, values]
  | cons line h ih =>
    rw [without_cons, values_cons]
    by_cases hline : line.1 = name
    · rw [if_pos hline, ih]
      by_cases ho : other = name
      · rw [if_pos ho, if_pos ho]
      · rw [if_neg ho, if_neg ho, if_neg fun he => ho (he.symm.trans hline)]
    · rw [if_neg hline, values_cons, ih]
      by_cases ho : other = name
      · rw [if_pos ho, if_pos ho, if_neg fun he => hline (he.trans ho)]
      · rw [if_neg ho, if_neg ho]

/-- What is written is the only value of its name, and other names have the values they had. -/
theorem values_withValue (h : Headers) :
    (h.withValue name v).values other = if other = name then [v] else h.values other := by
  induction h with
  | nil =>
    rw [withValue_nil, values_cons]
    by_cases ho : other = name
    · rw [if_pos ho, if_pos ho.symm]
      rfl
    · rw [if_neg ho, if_neg (Ne.symm ho)]
  | cons line h ih =>
    rw [withValue_cons, values_cons]
    by_cases hline : line.1 = name
    · rw [if_pos hline, values_cons, values_without]
      by_cases ho : other = name
      · rw [if_pos ho, if_pos ho.symm, if_pos ho]
      · rw [if_neg ho, if_neg (Ne.symm ho), if_neg ho, if_neg fun he => ho (he.symm.trans hline)]
    · rw [if_neg hline, values_cons, ih]
      by_cases ho : other = name
      · rw [if_pos ho, if_pos ho, if_neg fun he => hline (he.trans ho)]
      · rw [if_neg ho, if_neg ho]

theorem without_without (h : Headers) : (h.without name).without name = h.without name := by
  simp [without, List.filter_filter]

/-- Writing leaves the lines of other names as they stand. -/
theorem without_withValue (h : Headers) : (h.withValue name v).without name = h.without name := by
  induction h with
  | nil => rw [withValue_nil, without_cons, if_pos rfl]
  | cons line h ih =>
    rw [withValue_cons, without_cons]
    by_cases hline : line.1 = name
    · rw [if_pos hline, if_pos hline, without_cons, if_pos rfl, without_without]
    · rw [if_neg hline, if_neg hline, without_cons, if_neg hline, ih]

/-! ### Writing and removing -/

theorem set_eq_ok_iff : h.set key value = .ok h' ↔
    notAscii? key = none ∧ notAscii? value = none ∧ h' = h.withValue (smallAscii key) value := by
  unfold set
  cases notAscii? key with
  | some fault => simp
  | none => cases notAscii? value <;> simp [eq_comm]

theorem remove_eq_ok_iff : h.remove key = .ok h' ↔
    ∃ small, lookupName key = .ok small ∧ h' = h.without small :=
  map_eq_ok_iff.trans (exists_congr fun _ => and_congr_right fun _ => eq_comm)

theorem get?_congr (hv : ∀ small, lookupName name = .ok small → h'.values small = h.values small) :
    h'.get? name = h.get? name := by
  rw [get?, get?]
  cases hl : lookupName name with
  | error fault => rfl
  | ok small => simp only [Except.map, hv small hl]

theorem get?_of_values (hl : lookupName name = .ok small) : h.get? name = .ok (match h.values small with
    | [] => none
    | found => some (", ".intercalate found)) := by
  rw [get?, hl]
  rfl

/-- What is written under a name is found under it, and other names have the values they had. -/
theorem get?_of_set (hset : h.set key value = .ok h') (name : String) :
    h'.get? name = if SameName name key then .ok (some value) else h.get? name := by
  obtain ⟨hkey, -, rfl⟩ := set_eq_ok_iff.1 hset
  by_cases hsame : SameName name key
  · have hl := (lookupName_eq_iff_sameName (lookupName_of_ascii hkey)).2 hsame
    rw [if_pos hsame, get?_of_values hl, values_withValue, if_pos rfl]
    simp only [String.intercalate_singleton]
  · rw [if_neg hsame]
    refine get?_congr fun small hl => ?_
    rw [values_withValue, if_neg]
    rintro rfl
    exact hsame ((lookupName_eq_iff_sameName (lookupName_of_ascii hkey)).1 hl)

/-- What is removed is not found, and other names have the values they had. -/
theorem get?_of_remove (hremove : h.remove key = .ok h') (name : String) :
    h'.get? name = if SameName name key then .ok none else h.get? name := by
  obtain ⟨small, hkey, rfl⟩ := remove_eq_ok_iff.1 hremove
  by_cases hsame : SameName name key
  · rw [if_pos hsame, get?_of_values ((lookupName_eq_iff_sameName hkey).2 hsame), values_without,
      if_pos rfl]
  · rw [if_neg hsame]
    refine get?_congr fun found hl => ?_
    rw [values_without, if_neg]
    rintro rfl
    exact hsame ((lookupName_eq_iff_sameName hkey).1 hl)

end Headers

/-! ### Groups -/

namespace Headers

variable {names : List String} {n v : String}

theorem values_append_singleton (h : Headers) (name : String) :
    values (h ++ [(n, v)]) name = values h name ++ if n = name then [v] else [] := by
  by_cases hname : n = name <;> simp [values, isNamed, hname]

theorem values_eq_nil_of_not_mem {h : Headers} (hn : n ∉ h.map (·.1)) : h.values n = [] := by
  rw [values, List.filter_eq_nil_iff.2, List.map_nil]
  rintro line hline hnamed
  exact hn (List.mem_map.2 ⟨line, hline, by simpa [isNamed] using hnamed⟩)

/-- A value goes to the end of the group of its name. -/
theorem put_of_mem (f : String → List String) (hd : names.Nodup) (hn : n ∈ names) :
    grouped.put (names.map fun m => (m, f m)) (n, v) =
      names.map fun m => (m, f m ++ if n = m then [v] else []) := by
  induction names with
  | nil => cases hn
  | cons m names ih =>
    obtain ⟨hm, hd⟩ := List.nodup_cons.1 hd
    by_cases hmn : m = n
    · subst hmn
      have hrest : ∀ k ∈ names, m ≠ k := fun k hk e => hm (e ▸ hk)
      simpa [grouped.put] using hrest
    · have hn' : n ∈ names := (List.mem_cons.1 hn).resolve_left (Ne.symm hmn)
      simp [grouped.put, hmn, Ne.symm hmn, ih hd hn']

/-- A value of a name that has no group makes one, at the end. -/
theorem put_of_not_mem (f : String → List String) (hn : n ∉ names) :
    grouped.put (names.map fun m => (m, f m)) (n, v) =
      (names.map fun m => (m, f m)) ++ [(n, [v])] := by
  induction names with
  | nil => rfl
  | cons m names ih =>
    obtain ⟨hmn, hn⟩ : n ≠ m ∧ n ∉ names := by simpa using hn
    simp [grouped.put, Ne.symm hmn, ih hn]

theorem grouped_eq (h : Headers) :
    h.grouped = (h.map (·.1)).eraseDups.map fun name => (name, h.values name) := by
  induction h using List.reverseRecOn with
  | nil => rfl
  | append_singleton h line ih =>
    obtain ⟨n, v⟩ := line
    have hput : grouped (h ++ [(n, v)]) = grouped.put (grouped h) (n, v) := by
      simp [grouped, List.foldl_append]
    -- the last line goes to the group of its name, or makes a group behind all others
    rw [hput, ih, List.map_append, List.map_singleton, Keyed.eraseDups_append_singleton]
    simp only [values_append_singleton]
    by_cases hn : n ∈ h.map (·.1)
    · rw [if_pos hn]
      exact put_of_mem _ (Keyed.nodup_eraseDups _) (List.mem_eraseDups.2 hn)
    · have hnew : n ∉ (h.map (·.1)).eraseDups := fun hm => hn (List.mem_eraseDups.1 hm)
      rw [put_of_not_mem _ hnew, if_neg hn, List.map_append, List.map_singleton,
        values_eq_nil_of_not_mem hn, if_pos rfl, List.nil_append]
      congr 1
      refine List.map_congr_left fun m hm => ?_
      have hne : n ≠ m := fun e => hnew (e ▸ hm)
      rw [if_neg hne, List.append_nil]

end Headers

end OperatorConsole
