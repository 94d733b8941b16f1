import Mathlib.Data.List.Induction
import Mathlib.Data.List.Nodup

/-!
Lists whose elements bear keys. When no two elements bear one key, a key finds the element that bears
it, so neither the order of the list nor other elements matter. In a list of keys with values the first
value under a key is looked up, and a value can be put under a key.
-/
namespace OperatorConsole.Keyed

variable {α κ : Type} [BEq κ] [LawfulBEq κ] {key : α → κ} {l l' : List α} {k : κ} {a : α}

theorem find?_eq_some_iff (hd : (l.map key).Nodup) :
    l.find? (key · == k) = some a ↔ a ∈ l ∧ key a = k := by
  constructor
  · intro h
    exact ⟨List.mem_of_find?_eq_some h, by simpa using List.find?_some h⟩
  · rintro ⟨ha, rfl⟩
    cases h : l.find? (key · == key a) with
    | none => exact absurd (List.find?_eq_none.1 h a ha) (by simp)
    | some b =>
      have hb : key b = key a := by simpa using List.find?_some h
      rw [List.inj_on_of_nodup_map hd (List.mem_of_find?_eq_some h) ha hb]

/-- Lists with the same elements find the same by a key. -/
theorem find?_congr (hd : (l.map key).Nodup) (hd' : (l'.map key).Nodup)
    (h : ∀ b, key b = k → (b ∈ l ↔ b ∈ l')) : l.find? (key · == k) = l'.find? (key · == k) := by
  refine Option.ext fun a => ?_
  rw [find?_eq_some_iff hd, find?_eq_some_iff hd']
  exact ⟨fun ⟨hm, hk⟩ => ⟨(h a hk).1 hm, hk⟩, fun ⟨hm, hk⟩ => ⟨(h a hk).2 hm, hk⟩⟩

theorem find?_perm (hd : (l.map key).Nodup) (h : l.Perm l') :
    l.find? (key · == k) = l'.find? (key · == k) :=
  find?_congr hd ((h.map key).nodup_iff.1 hd) fun _ _ => h.mem_iff

/-- What a key finds among some of the elements is what it finds among all, if that is one of them. -/
theorem find?_filter (hd : (l.map key).Nodup) (p : α → Bool) :
    (l.filter p).find? (key · == k) = (l.find? (key · == k)).filter p := by
  have hd' : ((l.filter p).map key).Nodup := hd.sublist (List.filter_sublist.map key)
  refine Option.ext fun a => ?_
  rw [find?_eq_some_iff hd', Option.filter_eq_some_iff, find?_eq_some_iff hd, List.mem_filter]
  exact ⟨fun ⟨⟨hm, hp⟩, hk⟩ => ⟨⟨hm, hk⟩, hp⟩, fun ⟨⟨hm, hk⟩, hp⟩ => ⟨⟨hm, hp⟩, hk⟩⟩

/-- A key picks out the one element that bears it. -/
theorem filter_of_mem (hd : (l.map key).Nodup) (h : a ∈ l) : l.filter (key · == key a) = [a] := by
  induction l with
  | nil => cases h
  | cons b l ih =>
    obtain ⟨hb, hd⟩ := List.nodup_cons.1 hd
    rcases List.mem_cons.1 h with rfl | h
    · have hnone : l.filter (key · == key a) = [] := List.filter_eq_nil_iff.2 fun c hc hkey =>
        hb (List.mem_map.2 ⟨c, hc, by simpa using hkey⟩)
      rw [List.filter_cons_of_pos (by simp), hnone]
    · have hne : ¬ (key b == key a) = true := fun hkey =>
        hb (List.mem_map.2 ⟨a, h, (eq_of_beq hkey).symm⟩)
      rw [List.filter_cons_of_neg (p := (key · == key a)) hne, ih hd h]

section Lookup

variable {β : Type} [DecidableEq κ]

theorem lookup_cons (k' : κ) (b : β) (l : List (κ × β)) :
    ((k', b) :: l).lookup k = if k = k' then some b else l.lookup k := by
  by_cases h : k = k'
  · simp [h]
  · have hne : (k == k') = false := by simpa using h
    simp [List.lookup_cons, h, hne]

theorem isSome_lookup : ∀ l : List (κ × β), (l.lookup k).isSome = l.any (·.1 == k)
  | [] => rfl
  | (k', b) :: l => by
    rw [lookup_cons, List.any_cons, ← isSome_lookup l]
    by_cases h : k = k'
    · simp [h]
    · have hne : (k' == k) = false := by simpa using Ne.symm h
      simp [h, hne]

theorem map_find?_eq_lookup : ∀ l : List (κ × β),
    (l.find? (·.1 == k)).map Prod.snd = l.lookup k
  | [] => rfl
  | (k', b) :: l => by
    rw [lookup_cons, ← map_find?_eq_lookup l, List.find?_cons]
    by_cases h : k = k'
    · simp [h]
    · have hne : (k' == k) = false := by simpa using Ne.symm h
      simp [h, hne]

/-- When no two values are under one key, each is looked up under its own. -/
theorem lookup_of_mem {b : β} : ∀ {l : List (κ × β)}, (l.map (·.1)).Nodup → (k, b) ∈ l →
    l.lookup k = some b
  | (k', b') :: l, hd, hm => by
    rw [List.map_cons, List.nodup_cons] at hd
    rw [lookup_cons]
    rcases List.mem_cons.1 hm with heq | hm
    · obtain ⟨rfl, rfl⟩ := Prod.mk.inj heq
      exact if_pos rfl
    · have hne : k ≠ k' := fun h => hd.1 (h ▸ List.mem_map_of_mem (f := (·.1)) hm)
      rw [if_neg hne, lookup_of_mem hd.2 hm]

/-- Under a key that is removed nothing is looked up any more. -/
theorem lookup_filter_ne (k' : κ) : ∀ l : List (κ × β),
    (l.filter (·.1 != k')).lookup k = if k = k' then none else l.lookup k
  | [] => by simp
  | (key, b) :: l => by
    have ih := lookup_filter_ne k' l
    by_cases hkey : key = k'
    · rw [List.filter_cons_of_neg (by simpa using hkey), ih, lookup_cons, hkey]
      split <;> rfl
    · rw [List.filter_cons_of_pos (by simpa using hkey), lookup_cons, lookup_cons, ih]
      by_cases hk : k = key
      · rw [if_pos hk, if_pos hk, if_neg (hk ▸ hkey)]
      · rw [if_neg hk, if_neg hk]

end Lookup

section FirstOccurrences

variable {α : Type} [BEq α] [LawfulBEq α]

theorem eraseDups_append_singleton (l : List α) (a : α) :
    (l ++ [a]).eraseDups = if a ∈ l then l.eraseDups else l.eraseDups ++ [a] := by
  rw [List.eraseDups_append]
  by_cases h : a ∈ l <;> simp [List.removeAll, List.eraseDups_cons, h]

theorem nodup_eraseDups (l : List α) : l.eraseDups.Nodup := by
  induction l using List.reverseRecOn with
  | nil => exact List.nodup_nil
  | append_singleton l a ih =>
    rw [eraseDups_append_singleton]
    split_ifs with h
    · exact ih
    · exact ih.append (List.nodup_singleton a) (by simpa using h)

theorem eraseDups_of_nodup {l : List α} (hd : l.Nodup) : l.eraseDups = l := by
  induction l using List.reverseRecOn with
  | nil => rfl
  | append_singleton l a ih =>
    obtain ⟨hl, -, ha⟩ := List.nodup_append'.1 hd
    rw [eraseDups_append_singleton, ih hl, if_neg (by simpa using ha)]

theorem filter_eraseDups (p : α → Bool) (l : List α) :
    l.eraseDups.filter p = (l.filter p).eraseDups := by
  induction l using List.reverseRecOn with
  | nil => rfl
  | append_singleton l a ih =>
    rw [eraseDups_append_singleton, List.filter_append]
    cases hp : p a with
    | false =>
      have hnone : [a].filter p = [] := by simp [hp]
      rw [hnone, List.append_nil]
      split_ifs
      · exact ih
      · rw [List.filter_append, hnone, List.append_nil, ih]
    | true =>
      have hone : [a].filter p = [a] := by simp [hp]
      rw [hone, eraseDups_append_singleton]
      by_cases h : a ∈ l
      · rw [if_pos h, if_pos (List.mem_filter.2 ⟨h, hp⟩), ih]
      · rw [if_neg h, if_neg (fun hm => h (List.mem_filter.1 hm).1), List.filter_append, hone, ih]

end FirstOccurrences

section Put

variable {α κ : Type} [DecidableEq κ] {key : α → κ} {l l' : List α} {k : κ} {a : α}

/-- Elements are put under their keys: each in the place of the one that bears its key, or at the
end. -/
structure Puts (key : α → κ) (put : α → List α → List α) : Prop where
  nil (a : α) : put a [] = [a]
  cons (a b : α) (l : List α) : put a (b :: l) = if key b = key a then a :: l else b :: put a l

namespace Puts

variable {put : α → List α → List α} (h : Puts key put)

include h

theorem find?_put (a : α) (k : κ) : ∀ l : List α, (put a l).find? (key · == k) =
    if key a = k then some a else l.find? (key · == k)
  | [] => by
    rw [h.nil]
    by_cases hk : key a = k
    · rw [if_pos hk, List.find?_cons_of_pos (by simpa using hk)]
    · rw [if_neg hk, List.find?_cons_of_neg (by simpa using hk)]
  | b :: l => by
    have ih := find?_put a k l
    rw [h.cons]
    by_cases hb : key b = key a
    · by_cases hk : key a = k <;> simp [hb, hk]
    · rw [if_neg hb]
      by_cases hbk : key b = k
      · have hk : key a ≠ k := fun e => hb (hbk.trans e.symm)
        simp [hbk, hk]
      · simp [hbk, ih]

theorem map_put (a : α) : ∀ l : List α, (put a l).map key =
    if key a ∈ l.map key then l.map key else l.map key ++ [key a]
  | [] => by simp [h.nil]
  | b :: l => by
    have ih := map_put a l
    rw [h.cons]
    by_cases hb : key b = key a
    · simp [hb]
    · by_cases ha : key a ∈ l.map key
      · rw [if_pos ha] at ih
        simp [hb, ih, ha]
      · rw [if_neg ha] at ih
        simp [hb, ih, ha, Ne.symm hb]

theorem mem_of_mem_put {b : α} : ∀ {l : List α}, b ∈ put a l → b = a ∨ b ∈ l
  | [], hb => by
    rw [h.nil] at hb
    exact .inl (List.mem_singleton.1 hb)
  | c :: l, hb => by
    rw [h.cons] at hb
    split_ifs at hb
    · exact (List.mem_cons.1 hb).imp_right (List.mem_cons_of_mem c)
    · rcases List.mem_cons.1 hb with rfl | hb
      · exact .inr List.mem_cons_self
      · exact (mem_of_mem_put hb).imp_right (List.mem_cons_of_mem c)

theorem put_of_not_mem : ∀ {l : List α}, (∀ b ∈ l, key b ≠ key a) → put a l = l ++ [a]
  | [], _ => h.nil a
  | b :: l, hne => by
    rw [h.cons, if_neg (hne b List.mem_cons_self),
      put_of_not_mem fun c hc => hne c (List.mem_cons_of_mem b hc)]
    rfl

theorem nodup_put (hd : (l.map key).Nodup) : ((put a l).map key).Nodup := by
  rw [h.map_put]
  split_ifs with ha
  · exact hd
  · exact hd.append (List.nodup_singleton _) (List.disjoint_singleton.2 ha)

/-! Elements that are put one after the other. -/

theorem map_foldl_put (l : List α) :
    (l.foldl (fun found a => put a found) []).map key = (l.map key).eraseDups := by
  induction l using List.reverseRecOn with
  | nil => rfl
  | append_singleton l a ih =>
    rw [List.foldl_append, List.foldl_cons, List.foldl_nil, h.map_put, ih, List.map_append,
      List.map_singleton, eraseDups_append_singleton]
    simp only [List.mem_eraseDups]

theorem find?_foldl_put (l init : List α) (k : κ) :
    (l.foldl (fun found a => put a found) init).find? (key · == k) =
      (l.reverse.find? (key · == k)).or (init.find? (key · == k)) := by
  induction l using List.reverseRecOn with
  | nil => rfl
  | append_singleton l a ih =>
    rw [List.foldl_append, List.foldl_cons, List.foldl_nil, h.find?_put, ih, List.reverse_append,
      List.find?_append]
    by_cases hk : key a = k <;> simp [hk]

theorem mem_of_mem_foldl_put {b : α} : ∀ {l init : List α},
    b ∈ l.foldl (fun found a => put a found) init → b ∈ init ∨ b ∈ l
  | [], _, hb => .inl hb
  | a :: l, init, hb => by
    rcases mem_of_mem_foldl_put (l := l) hb with hb | hb
    · rcases h.mem_of_mem_put hb with rfl | hb
      · exact .inr List.mem_cons_self
      · exact .inl hb
    · exact .inr (List.mem_cons_of_mem a hb)

theorem nodup_foldl_put : ∀ {l init : List α}, (init.map key).Nodup →
    ((l.foldl (fun found a => put a found) init).map key).Nodup
  | [], _, hd => hd
  | _ :: l, _, hd => nodup_foldl_put (l := l) (h.nodup_put hd)

/-- Elements with different keys stay as they stand. -/
theorem foldl_put_of_nodup : ∀ {l init : List α}, ((init ++ l).map key).Nodup →
    l.foldl (fun found a => put a found) init = init ++ l
  | [], init, _ => (List.append_nil init).symm
  | a :: l, init, hd => by
    have hnot : ∀ b ∈ init, key b ≠ key a := by
      intro b hb hkey
      rw [List.map_append, List.nodup_append] at hd
      exact hd.2.2 (key b) (List.mem_map_of_mem hb) (key a) (by simp) hkey
    have hassoc : init ++ a :: l = init ++ [a] ++ l := by simp
    rw [hassoc] at hd ⊢
    rw [List.foldl_cons, h.put_of_not_mem hnot]
    exact foldl_put_of_nodup hd

end Puts

/-- A value that is put under a key is looked up there; what is looked up under other keys stays. -/
theorem Puts.lookup_put {β : Type} {put : κ × β → List (κ × β) → List (κ × β)}
    (h : Puts (fun m : κ × β => m.1) put) (m : κ × β) (k : κ) (l : List (κ × β)) :
    (put m l).lookup k = if k = m.1 then some m.2 else l.lookup k := by
  rw [← map_find?_eq_lookup, ← map_find?_eq_lookup, h.find?_put]
  by_cases hk : m.1 = k
  · rw [if_pos hk, if_pos hk.symm]
    rfl
  · rw [if_neg hk, if_neg (Ne.symm hk)]

/-- Lists are equal if their elements bear the same keys in the same order, each once, and every key
finds the same. -/
theorem eq_of_find?_eq (hd : (l.map key).Nodup) (hkeys : l.map key = l'.map key)
    (h : ∀ k, l.find? (key · == k) = l'.find? (key · == k)) : l = l' := by
  induction l generalizing l' with
  | nil => exact (List.map_eq_nil_iff.1 hkeys.symm).symm
  | cons a l ih =>
    cases l' with
    | nil => cases hkeys
    | cons b l' =>
      obtain ⟨hab, hkeys'⟩ := List.cons.inj hkeys
      have ha := h (key a)
      rw [List.find?_cons_of_pos (by simp), List.find?_cons_of_pos (by simp [hab])] at ha
      obtain rfl := Option.some.inj ha
      obtain ⟨hnot, hd'⟩ := List.nodup_cons.1 hd
      rw [ih hd' hkeys']
      intro k
      by_cases hk : key a = k
      · subst hk
        have hnone : ∀ m : List α, key a ∉ m.map key → m.find? (key · == key a) = none := by
          intro m hm
          rw [List.find?_eq_none]
          intro c hc hkey
          exact hm (List.mem_map.2 ⟨c, hc, by simpa using hkey⟩)
        rw [hnone l hnot, hnone l' (hkeys' ▸ hnot)]
      · have hfound := h k
        rwa [List.find?_cons_of_neg (by simpa using hk), List.find?_cons_of_neg (by simpa using hk)]
          at hfound

end Put

end OperatorConsole.Keyed
