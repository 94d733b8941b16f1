import OperatorConsole.Json.Path
import OperatorConsole.Proofs.Json.Reading
import OperatorConsole.Proofs.Keyed

/-!
Parts of documents. A path leads from a document to a part of it or of one of its parts, so what a part
has of its document, what is selected has too: its tokens are tokens of the document, it stands no deeper,
and its keys are distinct if those of the document are.
-/
namespace OperatorConsole.Json

variable {α : Type} {key : CodePoints} {a : α} {entries found : List (CodePoints × α)}
  {v w part : Json} {items : List Json} {members : List (CodePoints × Json)} {p : Lexeme → Prop}

/-! ### Distinct keys -/

theorem puts : Keyed.Puts (fun m : CodePoints × α => m.1) fun m => put m.1 m.2 where
  nil _ := rfl
  cons _ _ _ := rfl

theorem mem_of_mem_merge {m : CodePoints × α} (h : m ∈ merge entries) : m ∈ entries :=
  (puts.mem_of_mem_foldl_put h).resolve_left List.not_mem_nil

/-- Each key is put in the place that it has, or behind all others. -/
theorem nodup_merge (entries : List (CodePoints × α)) : ((merge entries).map (·.1)).Nodup :=
  puts.nodup_foldl_put List.nodup_nil

/-- Distinct keys stay as they stand. -/
theorem merge_of_nodup (h : (entries.map (·.1)).Nodup) : merge entries = entries :=
  puts.foldl_put_of_nodup h

theorem distinctItems_of_distinct : ∀ {items : List Json}, (∀ v ∈ items, v.distinct = v) →
    distinctItems items = items
  | [], _ => rfl
  | v :: rest, h => by
    rw [distinctItems, h v List.mem_cons_self,
      distinctItems_of_distinct fun w hw => h w (List.mem_cons_of_mem v hw)]

theorem distinctMembers_of_distinct : ∀ {members : List (CodePoints × Json)},
    (∀ m ∈ members, m.2.distinct = m.2) → distinctMembers members = members
  | [], _ => rfl
  | (key, v) :: rest, h => by
    rw [distinctMembers, h (key, v) List.mem_cons_self,
      distinctMembers_of_distinct fun m hm => h m (List.mem_cons_of_mem _ hm)]

mutual

/-- Distinct keys are found distinct. -/
theorem distinct_distinct (v : Json) : v.distinct.distinct = v.distinct := by
  match v with
  | .null | .bool _ | .int _ | .float _ | .text _ => simp [distinct]
  | .list items => rw [distinct, distinct, distinctItems_of_distinct (distinct_of_mem_items items)]
  | .object members =>
    have hmembers : ∀ m ∈ merge (distinctMembers members), m.2.distinct = m.2 := fun m hm =>
      distinct_of_mem_members members m (mem_of_mem_merge hm)
    rw [distinct, distinct, distinctMembers_of_distinct hmembers, merge_of_nodup (nodup_merge _)]

theorem distinct_of_mem_items (items : List Json) : ∀ v ∈ distinctItems items, v.distinct = v := by
  match items with
  | [] => simp [distinctItems]
  | v :: rest =>
    rw [distinctItems]
    exact List.forall_mem_cons.2 ⟨distinct_distinct v, distinct_of_mem_items rest⟩

theorem distinct_of_mem_members (members : List (CodePoints × Json)) :
    ∀ m ∈ distinctMembers members, m.2.distinct = m.2 := by
  match members with
  | [] => simp [distinctMembers]
  | (key, v) :: rest =>
    rw [distinctMembers]
    exact List.forall_mem_cons.2 ⟨distinct_distinct v, distinct_of_mem_members rest⟩

end

/-! ### What documents and their parts have in common -/

theorem forall_mem_listed (hmark : ∀ c, p (.mark c)) : ∀ {items : List Json},
    (∀ l ∈ listed items, p l) ↔ ∀ v ∈ items, ∀ l ∈ lexemes v, p l
  | [] => by simp [listed]
  | v :: rest => by
    have hrest : (∀ l ∈ listed rest, p l) ↔ ∀ v ∈ rest, ∀ l ∈ lexemes v, p l := forall_mem_listed hmark
    simp [listed, or_imp, forall_and, hmark, hrest]

theorem forall_mem_named (hmark : ∀ c, p (.mark c)) : ∀ {members : List (CodePoints × Json)},
    (∀ l ∈ named members, p l) ↔ ∀ m ∈ members, p (.text m.1) ∧ ∀ l ∈ lexemes m.2, p l
  | [] => by simp [named]
  | (key, v) :: rest => by
    have hrest : (∀ l ∈ named rest, p l) ↔ ∀ m ∈ rest, p (.text m.1) ∧ ∀ l ∈ lexemes m.2, p l :=
      forall_mem_named hmark
    rw [List.forall_mem_cons, ← hrest]
    simp [named, or_imp, forall_and, hmark, and_assoc]

/-- What holds of all marks and in all parts holds of all tokens. -/
theorem forall_mem_lexemes_list (hmark : ∀ c, p (.mark c)) :
    (∀ l ∈ lexemes (.list items), p l) ↔ ∀ v ∈ items, ∀ l ∈ lexemes v, p l := by
  rw [← forall_mem_listed hmark]
  rcases List.eq_nil_or_concat items with rfl | ⟨init, last, rfl⟩
  · simp [lexemes, listed, hmark]
  · rw [List.concat_eq_append, lexemes_list_concat]
    simp [listed_append, listed, or_imp, forall_and, hmark]

theorem forall_mem_lexemes_object (hmark : ∀ c, p (.mark c)) :
    (∀ l ∈ lexemes (.object members), p l) ↔
      ∀ m ∈ members, p (.text m.1) ∧ ∀ l ∈ lexemes m.2, p l := by
  rw [← forall_mem_named hmark]
  rcases List.eq_nil_or_concat members with rfl | ⟨init, ⟨key, last⟩, rfl⟩
  · simp [lexemes, named, hmark]
  · rw [List.concat_eq_append, lexemes_object_concat]
    simp [named_append, named, or_imp, forall_and, hmark]

/-- The items of a list, and the values in an object. -/
def parts : Json → List Json
  | .list items => items
  | .object members => members.map (·.2)
  | _ => []

theorem forall_mem_lexemes_of_mem_parts (hmark : ∀ c, p (.mark c)) (hpart : part ∈ parts v)
    (h : ∀ l ∈ lexemes v, p l) : ∀ l ∈ lexemes part, p l := by
  cases v with
  | list items => exact (forall_mem_lexemes_list hmark).1 h part hpart
  | object members =>
    obtain ⟨m, hm, rfl⟩ := List.mem_map.1 hpart
    exact ((forall_mem_lexemes_object hmark).1 h m hm).2
  | null | bool | int | float | text => exact absurd hpart List.not_mem_nil

theorem distinct_of_mem_parts (hpart : part ∈ parts v) (h : v.distinct = v) : part.distinct = part := by
  cases v with
  | list items =>
    rw [distinct, Json.list.injEq] at h
    rw [parts, ← h] at hpart
    exact distinct_of_mem_items items part hpart
  | object members =>
    obtain ⟨m, hm, rfl⟩ := List.mem_map.1 hpart
    rw [distinct, Json.object.injEq] at h
    rw [← h] at hm
    exact distinct_of_mem_members members m (mem_of_mem_merge hm)
  | null | bool | int | float | text => exact absurd hpart List.not_mem_nil

theorem mem_parts_of_apply {s : Step} (h : s.apply v = .ok part) : part ∈ parts v := by
  unfold Step.apply at h
  split at h
  · split at h
    · cases h
    · cases h
    · next items _ n _ =>
      dsimp only at h
      generalize (if n < 0 then n + (items.length : Int) else n) = place at h
      split at h
      · split at h
        · next hget =>
          cases h
          exact List.mem_of_getElem? hget
        · cases h
      · cases h
  · cases h
  · split at h
    · next hfind =>
      cases h
      exact List.mem_map_of_mem (List.mem_of_find?_eq_some hfind)
    · cases h
  · cases h

theorem nesting_of_mem_parts (hpart : part ∈ parts v) : nesting part ≤ nesting v := by
  cases v with
  | list items =>
    rw [nesting]
    exact (nestingItems_le_iff.1 (Nat.le_refl _) part hpart).trans (Nat.le_succ _)
  | object members =>
    obtain ⟨m, hm, rfl⟩ := List.mem_map.1 hpart
    rw [nesting]
    exact (nestingMembers_le_iff.1 (Nat.le_refl _) m hm).trans (Nat.le_succ _)
  | null | bool | int | float | text => exact absurd hpart List.not_mem_nil

/-- What every part has of its document, a part that is walked to has. -/
theorem forall_of_walk {q : Json → Prop} (hpart : ∀ v part, part ∈ parts v → q v → q part)
    {cs : List Char} (h : walk v cs = .ok w) (hv : q v) : q w := by
  fun_induction walk v cs with
  | case1 v cs hempty =>
    cases h
    exact hv
  | case2 => cases h
  | case3 v cs hcs s rest hstep ih =>
    obtain ⟨part, happly, hrest⟩ := andThen_eq_ok_iff.1 h
    exact ih part hrest (hpart v part (mem_parts_of_apply happly) hv)

theorem forall_of_select {q : Json → Prop} (hpart : ∀ v part, part ∈ parts v → q v → q part)
    {path : List Char} (h : select v path = .ok w) (hv : q v) : q w := by
  unfold select at h
  split at h
  · exact forall_of_walk hpart h hv
  · exact forall_of_walk hpart h hv

/-! ### A document with distinct keys -/

mutual

/-- No token is added when keys are made distinct. -/
theorem forall_mem_lexemes_distinct (hmark : ∀ c, p (.mark c)) (v : Json)
    (h : ∀ l ∈ lexemes v, p l) : ∀ l ∈ lexemes v.distinct, p l := by
  match v with
  | .null | .bool _ | .int _ | .float _ | .text _ => rwa [distinct] <;> simp
  | .list items =>
    rw [distinct]
    exact (forall_mem_lexemes_list hmark).2
      (forall_mem_lexemes_distinctItems hmark items ((forall_mem_lexemes_list hmark).1 h))
  | .object members =>
    have hmembers := forall_mem_lexemes_distinctMembers hmark members
      ((forall_mem_lexemes_object hmark).1 h)
    rw [distinct]
    exact (forall_mem_lexemes_object hmark).2 fun m hm => hmembers m (mem_of_mem_merge hm)

theorem forall_mem_lexemes_distinctItems (hmark : ∀ c, p (.mark c)) (items : List Json)
    (h : ∀ v ∈ items, ∀ l ∈ lexemes v, p l) : ∀ v ∈ distinctItems items, ∀ l ∈ lexemes v, p l := by
  match items with
  | [] => simp [distinctItems]
  | v :: rest =>
    obtain ⟨hv, hrest⟩ := List.forall_mem_cons.1 h
    rw [distinctItems]
    exact List.forall_mem_cons.2 ⟨forall_mem_lexemes_distinct hmark v hv,
      forall_mem_lexemes_distinctItems hmark rest hrest⟩

theorem forall_mem_lexemes_distinctMembers (hmark : ∀ c, p (.mark c))
    (members : List (CodePoints × Json))
    (h : ∀ m ∈ members, p (.text m.1) ∧ ∀ l ∈ lexemes m.2, p l) :
    ∀ m ∈ distinctMembers members, p (.text m.1) ∧ ∀ l ∈ lexemes m.2, p l := by
  match members with
  | [] => simp [distinctMembers]
  | (key, v) :: rest =>
    obtain ⟨⟨hkey, hv⟩, hrest⟩ := List.forall_mem_cons.1 h
    rw [distinctMembers]
    exact List.forall_mem_cons.2 ⟨⟨hkey, forall_mem_lexemes_distinct hmark v hv⟩,
      forall_mem_lexemes_distinctMembers hmark rest hrest⟩

end

mutual

theorem nesting_distinct_le (v : Json) : nesting v.distinct ≤ nesting v := by
  match v with
  | .null | .bool _ | .int _ | .float _ | .text _ => simp [distinct]
  | .list items =>
    rw [distinct, nesting, nesting]
    exact Nat.succ_le_succ (nestingItems_distinctItems_le items)
  | .object members =>
    have hmembers := nestingMembers_le_iff.1 (nestingMembers_distinctMembers_le members)
    rw [distinct, nesting, nesting]
    exact Nat.succ_le_succ (nestingMembers_le_iff.2 fun m hm => hmembers m (mem_of_mem_merge hm))

theorem nestingItems_distinctItems_le (items : List Json) :
    nestingItems (distinctItems items) ≤ nestingItems items := by
  match items with
  | [] => simp [distinctItems]
  | v :: rest =>
    have hv := nesting_distinct_le v
    have hrest := nestingItems_distinctItems_le rest
    rw [distinctItems, nestingItems, nestingItems]
    omega

theorem nestingMembers_distinctMembers_le (members : List (CodePoints × Json)) :
    nestingMembers (distinctMembers members) ≤ nestingMembers members := by
  match members with
  | [] => simp [distinctMembers]
  | (key, v) :: rest =>
    have hv := nesting_distinct_le v
    have hrest := nestingMembers_distinctMembers_le rest
    rw [distinctMembers, nestingMembers, nestingMembers]
    omega

end

end OperatorConsole.Json
