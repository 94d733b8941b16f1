import OperatorConsole.Builtin.Utility
import OperatorConsole.Proofs.Keyed
import OperatorConsole.Proofs.Number.Numeral

/-!
Walks along written paths. A step that is written is taken off the front of a path as itself, whatever
steps follow; so selecting with a written path walks its steps one after the other, an index on a list
and a key on an object, and stops just where a step cannot be taken.
-/
namespace OperatorConsole.Json

/-! ### Written paths -/

/-- How a key is written: between quotes in brackets, or after a point. -/
inductive KeyForm where
  | quoted
  | dotted
  deriving DecidableEq, Repr

/-- A key that can be written after a point. -/
structure IsDotted (name : List Char) : Prop where
  ne_nil : name ≠ []
  noMark : ∀ c ∈ name, c ∉ ['.', '[', ']']
  noBlank : ∀ c ∈ name.getLast?, Text.isBlank c = false

/-- A key that can be written in a form. -/
def KeyForm.Allows : KeyForm → List Char → Prop
  | .quoted, name => '\'' ∉ name
  | .dotted, name => IsDotted name

/-- A step as it is written. -/
inductive Written where
  | index (n : Int)
  | key (form : KeyForm) (name : List Char) (allowed : form.Allows name)

/-- The text of a step. -/
def Written.text : Written → List Char
  | .index n => '[' :: ((toString n).toList ++ [']'])
  | .key .quoted name _ => '[' :: '\'' :: (name ++ ['\'', ']'])
  | .key .dotted name _ => '.' :: name

/-- The text of steps. -/
def pathText (steps : List Written) : List Char := steps.flatMap Written.text

/-- What a step is read as. -/
def Written.step : Written → Step
  | .index n => .index (toString n).toList
  | .key _ name _ => .key name

/-! ### Walks -/

/-- A step leads from a document to a part of it: an index to the item of a list at that place from the
front or, below zero, from the end, and a key to the value of an object under it. -/
inductive Leads : Written → Json → Json → Prop
  | front {i : Nat} {items : List Json} {w : Json} (h : items[i]? = some w) :
      Leads (.index i) (.list items) w
  | back {i : Nat} {items : List Json} {w : Json} (h : items[i]? = some w) :
      Leads (.index (i - items.length)) (.list items) w
  | key {form : KeyForm} {name : List Char} (allowed : form.Allows name)
      {members : List (CodePoints × Json)} {w : Json}
      (h : members.lookup (name.map Char.toNat) = some w) :
      Leads (.key form name allowed) (.object members) w

/-- Steps lead from a document to a part of it one after the other. -/
inductive Follows : List Written → Json → Json → Prop
  | nil {v : Json} : Follows [] v v
  | cons {s : Written} {steps : List Written} {v w u : Json} (h : Leads s v w)
      (rest : Follows steps w u) : Follows (s :: steps) v u

/-- A step cannot be taken: the document is of the wrong kind for it, the index is outside the list, or
the object does not have the key. -/
inductive Fails : Written → Json → Prop
  | noList {n : Int} {v : Json} (h : ∀ items, v ≠ .list items) : Fails (.index n) v
  | outside {n : Int} {items : List Json} (h : ¬ (-(items.length : Int) ≤ n ∧ n < items.length)) :
      Fails (.index n) (.list items)
  | noObject {form : KeyForm} {name : List Char} (allowed : form.Allows name) {v : Json}
      (h : ∀ members, v ≠ .object members) : Fails (.key form name allowed) v
  | absent {form : KeyForm} {name : List Char} (allowed : form.Allows name)
      {members : List (CodePoints × Json)} (h : name.map Char.toNat ∉ members.map Prod.fst) :
      Fails (.key form name allowed) (.object members)

/-- Some step cannot be taken from where the steps before it lead. -/
inductive Stuck : List Written → Json → Prop
  | here {s : Written} {steps : List Written} {v : Json} (h : Fails s v) : Stuck (s :: steps) v
  | later {s : Written} {steps : List Written} {v w : Json} (h : Leads s v w)
      (rest : Stuck steps w) : Stuck (s :: steps) v

variable {s : Written} {steps : List Written} {v w u : Json} {cs rest name : List Char}

/-! ### Reading a step -/

/-- Nothing, or the beginning of a step. -/
def AtStep (rest : List Char) : Prop := ∀ c ∈ rest.head?, c = '[' ∨ c = '.'

theorem atStep_pathText : ∀ steps : List Written, AtStep (pathText steps)
  | [] => by simp [AtStep, pathText]
  | s :: steps => by
    intro c hc
    match s with
    | .index n => exact .inl (by simpa [pathText, Written.text, eq_comm] using hc)
    | .key .quoted name allowed => exact .inl (by simpa [pathText, Written.text, eq_comm] using hc)
    | .key .dotted name allowed => exact .inr (by simpa [pathText, Written.text, eq_comm] using hc)

theorem isDigit_of_ascii {c : Char} (h : c.isDigit = true) : Text.isDigit c = true := by
  have hbounds := Numeral.bounds_of_isDigit h
  exact (Text.isDigit_iff c).2 ⟨0x30, by decide, hbounds.1, by omega⟩

/-- Digits between brackets are taken as an index, whatever follows. -/
theorem takeIndex_append {sign digits : List Char} (hsign : sign = [] ∨ sign = ['-'])
    (hne : digits ≠ []) (h : ∀ c ∈ digits, c.isDigit = true) (rest : List Char) :
    takeIndex ('[' :: (sign ++ digits ++ ']' :: rest)) = some (.index (sign ++ digits), rest) := by
  have hdigit : ∀ c ∈ digits, Text.isDigit c = true := fun c hc => isDigit_of_ascii (h c hc)
  have hstop : ¬ Text.isDigit ']' = true := by decide
  obtain ⟨c, tail, hcs⟩ := List.exists_cons_of_ne_nil hne
  have hsigned : (if (sign ++ digits ++ ']' :: rest).head? = some '-' then ['-'] else []) = sign := by
    rcases hsign with rfl | rfl
    · have hc : c ≠ '-' := by
        rintro rfl
        exact absurd (h '-' (by simp [hcs])) (by decide)
      simp [hcs, hc]
    · rfl
  have hdrop : (sign ++ digits ++ ']' :: rest).drop sign.length = digits ++ ']' :: rest := by
    rw [List.append_assoc, List.drop_left]
  simp only [takeIndex]
  rw [hsigned, hdrop, List.takeWhile_append_of_pos hdigit, List.dropWhile_append_of_pos hdigit,
    List.takeWhile_cons_of_neg hstop, List.dropWhile_cons_of_neg hstop, List.append_nil, hcs]
  rfl

theorem takeIndex_quote (rest : List Char) : takeIndex ('[' :: '\'' :: rest) = none := rfl

/-- What stands between quotes in brackets is taken as a key, whatever follows. -/
theorem takeQuoted_append (h : '\'' ∉ name) (rest : List Char) :
    takeQuoted ('[' :: '\'' :: (name ++ '\'' :: ']' :: rest)) = some (.key name, rest) := by
  have hplain : ∀ c ∈ name, (c != '\'') = true := fun c hc => by
    simpa using fun e : c = '\'' => h (e ▸ hc)
  rw [takeQuoted, List.takeWhile_append_of_pos hplain, List.dropWhile_append_of_pos hplain]
  simp

/-- What stands after a point is taken as a key up to the next step. -/
theorem takeKey_append (h : IsDotted name) (hrest : AtStep rest) :
    takeKey ('.' :: (name ++ rest)) = some (.key name, rest) := by
  have hkey : ∀ c ∈ name, isKeyChar c = true := fun c hc => by
    have hmark := h.noMark c hc
    simp only [List.mem_cons, not_or] at hmark
    simp [isKeyChar, hmark]
  have hstop : rest.takeWhile isKeyChar = [] := by
    cases rest with
    | nil => rfl
    | cons c rest =>
      rcases hrest c rfl with rfl | rfl <;> exact List.takeWhile_cons_of_neg (by decide)
  obtain ⟨c, tail, hcs⟩ := List.exists_cons_of_ne_nil h.ne_nil
  have hname : (dropPoint ('.' :: (name ++ rest))).takeWhile isKeyChar = name := by
    rw [dropPoint, List.takeWhile_append_of_pos hkey, hstop, List.append_nil]
  rw [takeKey, hname, dropPoint, hcs]
  simp

/-- A step that is written is read as itself, whatever steps follow. -/
theorem takeStep_text (s : Written) (hrest : AtStep rest) :
    takeStep (s.text ++ rest) = some (s.step, rest) := by
  match s with
  | .index n =>
    have hsign : (if n < 0 then ['-'] else []) = [] ∨ (if n < 0 then ['-'] else []) = ['-'] := by
      split_ifs <;> simp
    have hindex := takeIndex_append hsign (Nat.toDigits_ne_nil (n := n.natAbs) (b := 10))
      (fun c hc => Nat.isDigit_of_mem_toDigits (by decide) (by decide) hc) rest
    rw [← Numeral.toList_toString] at hindex
    have htext : (Written.index n).text ++ rest = '[' :: ((toString n).toList ++ ']' :: rest) := by
      simp [Written.text]
    rw [htext, takeStep, hindex]
    rfl
  | .key .quoted name allowed =>
    have htext : (Written.key .quoted name allowed).text ++ rest =
        '[' :: '\'' :: (name ++ '\'' :: ']' :: rest) := by simp [Written.text]
    rw [htext, takeStep, takeIndex_quote, takeQuoted_append allowed]
    rfl
  | .key .dotted name allowed =>
    have htext : (Written.key .dotted name allowed).text ++ rest = '.' :: (name ++ rest) := rfl
    have hindex : takeIndex ('.' :: (name ++ rest)) = none := rfl
    have hquoted : takeQuoted ('.' :: (name ++ rest)) = none := rfl
    rw [htext, takeStep, hindex, hquoted, takeKey_append allowed hrest]
    rfl

theorem Written.text_ne_nil (s : Written) : s.text ≠ [] := by
  match s with
  | .index _ | .key .quoted _ _ | .key .dotted _ _ => simp [Written.text]

/-- A walk takes the first step and goes on from where it leads. -/
theorem walk_cons (v : Json) (s : Written) (steps : List Written) :
    walk v (pathText (s :: steps)) = s.step.apply v >>= fun w => walk w (pathText steps) := by
  have htext : pathText (s :: steps) = s.text ++ pathText steps := List.flatMap_cons
  have hstep := takeStep_text s (atStep_pathText steps)
  have hne : (s.text ++ pathText steps).isEmpty = false := by simp [s.text_ne_nil]
  rw [htext, walk, if_neg (by simp [hne])]
  split
  · next hnone => simp [hstep] at hnone
  · next step rest hsome =>
    obtain ⟨rfl, rfl⟩ := Prod.mk.inj (Option.some.inj (hstep.symm.trans hsome))
    rfl

theorem walk_nil (v : Json) : walk v (pathText []) = .ok v := by
  rw [walk]
  rfl

/-- A walk goes on from where its first steps lead. -/
theorem walk_append (v : Json) (first second : List Written) : walk v (pathText (first ++ second)) =
    walk v (pathText first) >>= fun w => walk w (pathText second) := by
  induction first generalizing v with
  | nil =>
    rw [walk_nil, List.nil_append]
    rfl
  | cons s first ih => simp only [List.cons_append, walk_cons, ih, bind_assoc]

/-! ### Where steps lead -/

theorem leads_index_iff {n : Int} {items : List Json} : Leads (.index n) (.list items) w ↔
    ∃ i < items.length, (n = i ∨ n = i - items.length) ∧ items[i]? = some w := by
  constructor
  · intro h
    cases h with
    | front h => exact ⟨_, (List.getElem?_eq_some_iff.1 h).1, .inl rfl, h⟩
    | back h => exact ⟨_, (List.getElem?_eq_some_iff.1 h).1, .inr rfl, h⟩
  · rintro ⟨i, -, rfl | rfl, h⟩
    · exact .front h
    · exact .back h

/-- A step leads to one place only. -/
theorem Leads.unique (h : Leads s v w) (h' : Leads s v u) : w = u := by
  match s, v with
  | .index n, .list items =>
    obtain ⟨i, hilt, hi, hw⟩ := leads_index_iff.1 h
    obtain ⟨j, hjlt, hj, hu⟩ := leads_index_iff.1 h'
    obtain rfl : i = j := by omega
    exact Option.some.inj (hw.symm.trans hu)
  | .key form name allowed, .object members =>
    cases h with
    | key _ h =>
      cases h' with
      | key _ h' => exact Option.some.inj (h.symm.trans h')

/-- A step fails just where it leads nowhere. -/
theorem fails_iff : Fails s v ↔ ¬ ∃ w, Leads s v w := by
  -- only an index on a list and a key on an object can lead somewhere
  match s, v with
  | .index n, .list items =>
    constructor
    · rintro hfails ⟨w, hleads⟩
      obtain ⟨i, hlt, hi, -⟩ := leads_index_iff.1 hleads
      cases hfails with
      | noList hno => exact hno _ rfl
      | outside hout => omega
    · refine fun hnone => .outside fun ⟨hlow, hhigh⟩ => hnone ?_
      obtain ⟨i, hi⟩ := Int.eq_ofNat_of_zero_le
        (show 0 ≤ if n < 0 then n + items.length else n by split_ifs <;> omega)
      have hlt : i < items.length := by split_ifs at hi <;> omega
      refine ⟨items[i], leads_index_iff.2 ⟨i, hlt, ?_, List.getElem?_eq_getElem hlt⟩⟩
      split_ifs at hi <;> omega
  | .key form name allowed, .object members =>
    constructor
    · rintro hfails ⟨w, hleads⟩
      cases hleads with
      | key _ hlookup =>
        obtain ⟨front, back, rfl, -⟩ := List.lookup_eq_some_iff.1 hlookup
        cases hfails with
        | noObject _ hno => exact hno _ rfl
        | absent _ habsent => simp at habsent
    · refine fun hnone => .absent allowed fun hmem => hnone ?_
      cases hlookup : members.lookup (name.map Char.toNat) with
      | some w => exact ⟨w, .key allowed hlookup⟩
      | none =>
        obtain ⟨member, hm, hkey⟩ := List.mem_map.1 hmem
        have hne := List.lookup_eq_none_iff.1 hlookup member hm
        simp [hkey] at hne
  | .index n, .null | .index n, .bool _ | .index n, .int _ | .index n, .float _ | .index n, .text _
  | .index n, .object _ => exact ⟨fun _ ⟨_, h⟩ => (nomatch h), fun _ => .noList (by simp)⟩
  | .key _ _ allowed, .null | .key _ _ allowed, .bool _ | .key _ _ allowed, .int _
  | .key _ _ allowed, .float _ | .key _ _ allowed, .text _ | .key _ _ allowed, .list _ =>
    exact ⟨fun _ ⟨_, h⟩ => (nomatch h), fun _ => .noObject allowed (by simp)⟩

/-! ### The longest list -/

mutual

/-- The number of items of the longest list in a document. -/
def longest : Json → Nat
  | .list items => max items.length (longestItem items)
  | .object members => longestMember members
  | _ => 0

/-- The number of items of the longest list in the parts of a list. -/
def longestItem : List Json → Nat
  | [] => 0
  | v :: rest => max (longest v) (longestItem rest)

/-- The number of items of the longest list in the members of an object. -/
def longestMember : List (CodePoints × Json) → Nat
  | [] => 0
  | (_, v) :: rest => max (longest v) (longestMember rest)

end

theorem longest_le_longestItem : ∀ {items : List Json}, v ∈ items → longest v ≤ longestItem items
  | w :: items, h => by
    rw [longestItem]
    rcases List.mem_cons.1 h with rfl | h
    · exact Nat.le_max_left ..
    · exact (longest_le_longestItem h).trans (Nat.le_max_right ..)

theorem longest_le_longestMember {key : CodePoints} : ∀ {members : List (CodePoints × Json)},
    (key, v) ∈ members → longest v ≤ longestMember members
  | (_, w) :: members, h => by
    rw [longestMember]
    rcases List.mem_cons.1 h with heq | h
    · rw [(Prod.mk.inj heq).2]
      exact Nat.le_max_left ..
    · exact (longest_le_longestMember h).trans (Nat.le_max_right ..)

/-- No list that a step leads to is longer than those of the document. -/
theorem longest_le_of_leads (h : Leads s v w) : longest w ≤ longest v := by
  cases h with
  | front h =>
    rw [longest]
    exact (longest_le_longestItem (List.mem_of_getElem? h)).trans (Nat.le_max_right ..)
  | back h =>
    rw [longest]
    exact (longest_le_longestItem (List.mem_of_getElem? h)).trans (Nat.le_max_right ..)
  | key allowed h =>
    obtain ⟨front, back, rfl, -⟩ := List.lookup_eq_some_iff.1 h
    rw [longest]
    exact longest_le_longestMember (List.mem_append_right _ List.mem_cons_self)

/-! ### Taking a step -/

/-- An index that is read leads to the item of a list that it counts to. -/
theorem apply_index_eq_ok_iff {n : Int} {items : List Json}
    (hread : Numeral.readWhole (toString n).toList = .ok n) :
    (Written.index n).step.apply (.list items) = .ok w ↔ Leads (.index n) (.list items) w := by
  have hplace : (Written.index n).step.apply (.list items) = .ok w ↔
      ∃ i : Nat, (if n < 0 then n + items.length else n) = i ∧ items[i]? = some w := by
    simp only [Written.step, Step.apply, hread]
    generalize (if n < 0 then n + (items.length : Int) else n) = place
    by_cases hpos : 0 ≤ place
    · obtain ⟨i, rfl⟩ := Int.eq_ofNat_of_zero_le hpos
      rw [if_pos hpos, Int.toNat_natCast]
      cases hitem : items[i]? <;> simp [hitem]
    · rw [if_neg hpos]
      refine ⟨fun h => by simp at h, ?_⟩
      rintro ⟨i, rfl, -⟩
      omega
  rw [hplace, leads_index_iff]
  refine exists_congr fun i => ?_
  rw [← and_assoc]
  refine and_congr_left fun hitem => ?_
  have hlt := (List.getElem?_eq_some_iff.1 hitem).1
  split_ifs <;> omega

/-- A step leads where it is taken to, in a document without lists that are longer than lists can be. -/
theorem apply_eq_ok_iff (hsize : longest v < 2 ^ 63) : s.step.apply v = .ok w ↔ Leads s v w := by
  match s, v with
  | .index n, .list items =>
    have hlength : items.length < 2 ^ 63 := Nat.lt_of_le_of_lt (Nat.le_max_left ..) hsize
    rcases Numeral.readWhole_toString_cases n with hread | ⟨hfar, digits, hread⟩
    · exact apply_index_eq_ok_iff hread
    · -- no list reaches as far as an index that is too long to be read
      simp only [Written.step, Step.apply, hread]
      refine ⟨fun h => (nomatch h), fun h => ?_⟩
      obtain ⟨i, hlt, hi, -⟩ := leads_index_iff.1 h
      omega
  | .key form name allowed, .object members =>
    have hlookup := Keyed.map_find?_eq_lookup (k := name.map Char.toNat) members
    simp only [Written.step, Step.apply]
    constructor
    · intro h
      cases hfind : members.find? (·.1 == name.map Char.toNat) with
      | none => simp [hfind] at h
      | some member =>
        rw [hfind] at h hlookup
        exact .key allowed (hlookup.symm.trans (congrArg some (Except.ok.inj h)))
    · intro h
      cases h with
      | key _ h =>
        rw [h, Option.map_eq_some_iff] at hlookup
        obtain ⟨member, hfind, rfl⟩ := hlookup
        rw [hfind]
  | .index n, .null | .index n, .bool _ | .index n, .int _ | .index n, .float _ | .index n, .text _
  | .index n, .object _ | .key _ _ _, .null | .key _ _ _, .bool _ | .key _ _ _, .int _
  | .key _ _ _, .float _ | .key _ _ _, .text _ | .key _ _ _, .list _ =>
    exact ⟨fun h => (nomatch h), fun h => (nomatch h)⟩

/-! ### Walking -/

/-- A walk comes to where its steps lead. -/
theorem walk_eq_ok_iff (hsize : longest v < 2 ^ 63) :
    walk v (pathText steps) = .ok u ↔ Follows steps v u := by
  induction steps generalizing v with
  | nil =>
    rw [walk_nil]
    refine ⟨fun h => ?_, fun h => ?_⟩
    · obtain rfl := Except.ok.inj h
      exact .nil
    · cases h
      rfl
  | cons s steps ih =>
    rw [walk_cons]
    constructor
    · intro h
      cases hstep : s.step.apply v with
      | error fault =>
        rw [hstep] at h
        cases h
      | ok w =>
        rw [hstep] at h
        have hleads := (apply_eq_ok_iff hsize).1 hstep
        exact .cons hleads ((ih (Nat.lt_of_le_of_lt (longest_le_of_leads hleads) hsize)).1 h)
    · intro h
      cases h with
      | cons hleads hrest =>
        rw [(apply_eq_ok_iff hsize).2 hleads]
        exact (ih (Nat.lt_of_le_of_lt (longest_le_of_leads hleads) hsize)).2 hrest

/-- A walk stops just where a step cannot be taken. -/
theorem stuck_iff : Stuck steps v ↔ ¬ ∃ u, Follows steps v u := by
  induction steps generalizing v with
  | nil =>
    exact ⟨fun h => (nomatch h), fun h => absurd ⟨v, .nil⟩ h⟩
  | cons s steps ih =>
    constructor
    · rintro hstuck ⟨u, hfollows⟩
      cases hfollows with
      | cons hleads hrest =>
        cases hstuck with
        | here hfails => exact fails_iff.1 hfails ⟨_, hleads⟩
        | later hother hrest' =>
          obtain rfl := hleads.unique hother
          exact ih.1 hrest' ⟨_, hrest⟩
    · intro hnone
      by_cases hleads : ∃ w, Leads s v w
      · obtain ⟨w, hleads⟩ := hleads
        exact .later hleads (ih.2 fun ⟨u, hrest⟩ => hnone ⟨u, .cons hleads hrest⟩)
      · exact .here (fails_iff.2 hleads)

/-! ### Selecting -/

theorem noBlank_text {c : Char} (s : Written) (hc : c ∈ s.text.getLast?) :
    Text.isBlank c = false := by
  match s with
  | .index n =>
    have hlast : (Written.index n).text.getLast? = some ']' :=
      List.getLast?_append_of_ne_nil ('[' :: (toString n).toList) (by simp)
    obtain rfl := Option.some.inj (hlast.symm.trans hc)
    decide
  | .key .quoted name allowed =>
    have hlast : (Written.key .quoted name allowed).text.getLast? = some ']' :=
      List.getLast?_append_of_ne_nil ('[' :: '\'' :: name) (by simp)
    obtain rfl := Option.some.inj (hlast.symm.trans hc)
    decide
  | .key .dotted name allowed =>
    have hlast : (Written.key .dotted name allowed).text.getLast? = name.getLast? :=
      List.getLast?_append_of_ne_nil ['.'] allowed.ne_nil
    exact allowed.noBlank c (hlast ▸ hc)

theorem noBlank_pathText {c : Char} : ∀ steps : List Written, c ∈ (pathText steps).getLast? →
    Text.isBlank c = false
  | [], hc => by simp [pathText] at hc
  | s :: steps, hc => by
    have htext : pathText (s :: steps) = s.text ++ pathText steps := List.flatMap_cons
    rw [htext, List.getLast?_append, Option.mem_def, Option.or_eq_some_iff] at hc
    rcases hc with hc | ⟨-, hc⟩
    · exact noBlank_pathText steps hc
    · exact noBlank_text s hc

/-- Nothing of a path that is written is stripped off, with or without a dollar sign. -/
theorem strip_pathText (steps : List Written) : Text.strip (pathText steps) = pathText steps := by
  refine Text.stripBy_eq_self (fun c hc => ?_) fun c hc => noBlank_pathText steps hc
  rcases atStep_pathText steps c hc with rfl | rfl <;> decide

theorem strip_dollar (steps : List Written) :
    Text.strip ('$' :: pathText steps) = '$' :: pathText steps := by
  refine Text.stripBy_eq_self (fun c hc => ?_) fun c hc => ?_
  · obtain rfl := Option.some.inj hc
    decide
  · rw [List.getLast?_cons, Option.mem_def] at hc
    cases hlast : (pathText steps).getLast? with
    | none =>
      rw [hlast] at hc
      obtain rfl := Option.some.inj hc
      decide
    | some d =>
      rw [hlast] at hc
      obtain rfl := Option.some.inj hc
      exact noBlank_pathText steps hlast

/-- A written path, with or without a dollar sign in front. -/
def IsPath (steps : List Written) (path : List Char) : Prop :=
  path = pathText steps ∨ path = '$' :: pathText steps

theorem select_eq_walk {path : List Char} (h : IsPath steps path) :
    select v path = walk v (pathText steps) := by
  rcases h with rfl | rfl
  · rw [select, strip_pathText]
    split
    · next rest hdollar =>
      have hhead := atStep_pathText steps '$' (by simp [hdollar])
      simp at hhead
    · rfl
  · rw [select, strip_dollar]
    rfl

/-- Selecting with a written path walks the document. It comes to the part that the steps lead to one
after the other, and to a fault just when some step cannot be taken from where those before it lead: on
a document of the wrong kind, with an index outside the list, or with a key that is not there. Without
steps it is the document. Whatever the path, there is a part or a fault, and the service answers a
fault with its report. All that is asked of the document is that its lists have fewer than 2^63 items,
as the lists of a machine have. -/
theorem select_written (hsize : longest v < 2 ^ 63) (steps : List Written) {path : List Char}
    (hpath : IsPath steps path) :
    (∀ u, select v path = .ok u ↔ Follows steps v u) ∧
    ((∃ fault, select v path = .error fault) ↔ Stuck steps v) ∧
    (steps = [] → select v path = .ok v) ∧
    ∀ (w : Json) (text : String), (∃ part, select w text.toList = .ok part) ∨
      ∃ fault, select w text.toList = .error fault ∧
        Builtin.Utility.selectFrom w text = .ok (Builtin.Utility.notSelected fault.message) := by
  have hwalk := select_eq_walk (v := v) hpath
  refine ⟨fun u => ?_, ?_, ?_, fun w text => ?_⟩
  · rw [hwalk]
    exact walk_eq_ok_iff hsize
  · rw [hwalk, stuck_iff]
    constructor
    · rintro ⟨fault, hfault⟩ ⟨u, hfollows⟩
      rw [(walk_eq_ok_iff hsize).2 hfollows] at hfault
      cases hfault
    · intro hnone
      cases hresult : walk v (pathText steps) with
      | ok u => exact absurd ⟨u, (walk_eq_ok_iff hsize).1 hresult⟩ hnone
      | error fault => exact ⟨fault, rfl⟩
  · rintro rfl
    rw [hwalk, walk_nil]
  · cases hresult : select w text.toList with
    | ok part => exact .inl ⟨part, rfl⟩
    | error fault =>
      refine .inr ⟨fault, rfl, ?_⟩
      rw [Builtin.Utility.selectFrom, hresult]

/-- Two items under a key that holds a point. -/
def pointed : Json :=
  .object [(codePoints "a.b", .list [.null, .object [(codePoints "id", .int 7)]])]

theorem isDotted_id : IsDotted ['i', 'd'] := by
  refine ⟨by simp, by simp, fun c hc => ?_⟩
  obtain rfl := Option.some.inj hc
  decide

/-- The steps to a key of the last item. -/
def toLast : List Written := [.key .quoted ['a', '.', 'b'] (by simp [KeyForm.Allows]), .index (-1),
  .key .dotted ['i', 'd'] isDotted_id]

/-- A key between quotes, an index below zero and a key after a point, behind a dollar sign. -/
theorem select_written_last : longest pointed < 2 ^ 63 ∧ IsPath toLast "$['a.b'][-1].id".toList ∧
    Follows toLast pointed (.int 7) ∧ select pointed "$['a.b'][-1].id".toList = .ok (.int 7) := by
  have hsize : longest pointed < 2 ^ 63 := by decide +kernel
  have hpath : IsPath toLast "$['a.b'][-1].id".toList := .inr (by decide +kernel)
  have hlast : Leads (.index (-1)) (.list [.null, .object [(codePoints "id", .int 7)]])
      (.object [(codePoints "id", .int 7)]) := leads_index_iff.2 ⟨1, by decide, .inr (by decide), rfl⟩
  have hfollows : Follows toLast pointed (.int 7) :=
    .cons (.key _ (by rfl)) (.cons hlast (.cons (.key _ (by rfl)) .nil))
  exact ⟨hsize, hpath, hfollows, ((select_written hsize toLast hpath).1 _).2 hfollows⟩

end OperatorConsole.Json
