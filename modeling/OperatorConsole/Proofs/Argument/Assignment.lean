import Mathlib.Tactic.ByContra
import OperatorConsole.Argument.Binding

/-!
The assignment of arguments to parameters by place. `assign` hands over arguments, of which two may be
equal; here every argument keeps the place at which it is written, so that it can be said which one a
parameter takes. At each turn the arguments that are left are those at places that no earlier turn
took; what a turn takes is either the first one left with the name of its parameter or, when there is
none, the first one left, if that one has no name. Main result: what `Scope.bind` gives out never
crosses names, never skips an argument without a name, and leaves a parameter out only when it has to.
-/
namespace OperatorConsole

/-! ### Turns -/

/-- An argument and the place at which it is written. -/
abbrev Placed := Argument × Nat

/-- The argument that a parameter of a name takes of those that are left. -/
def chosen (name : String) (left : List Placed) : Option Placed :=
  match left.find? (·.1.name == name) with
  | some x => some x
  | none => left.head?.filter (!·.1.isNamed)

/-- What is left of placed arguments without the one that was taken. -/
def without (taken : Option Placed) (left : List Placed) : List Placed :=
  left.filter fun x => taken.all (·.2 != x.2)

/-- The places that parameters take, in order, of the arguments that are left. -/
def places : List Parameter → List Placed → List (Option Nat)
  | [], _ => []
  | p :: rest, left =>
    (chosen p.name left).map (·.2) :: places rest (without (chosen p.name left) left)

@[simp] theorem without_none (left : List Placed) : without none left = left := by
  simp [without]

theorem length_places : ∀ (ps : List Parameter) (left : List Placed),
    (places ps left).length = ps.length
  | [], _ => rfl
  | p :: rest, left => by rw [places, List.length_cons, length_places rest, List.length_cons]

/-! ### Turns as binding takes them -/

/-- The places ascend. -/
def Ascending (left : List Placed) : Prop := left.Pairwise (·.2 < ·.2)

theorem ascending_zipIdx (arguments : List Argument) : Ascending arguments.zipIdx := by
  have h := List.pairwise_lt_range' (s := 0) (n := arguments.length)
  rw [← List.zipIdx_map_snd, List.pairwise_map] at h
  exact h

theorem ascending_without {taken : Option Placed} {left : List Placed} (h : Ascending left) :
    Ascending (without taken left) := h.filter _

/-- Taking the argument in the middle leaves the ones around it. -/
theorem without_append_cons {before after : List Placed} {x : Placed}
    (h : Ascending (before ++ x :: after)) :
    without (some x) (before ++ x :: after) = before ++ after := by
  obtain ⟨-, hx, hb⟩ := List.pairwise_append.1 h
  have hbefore : without (some x) before = before := by
    refine List.filter_eq_self.2 fun y hy => ?_
    have := hb y hy x (by simp)
    simp only [Option.all_some, bne_iff_ne]
    omega
  have hafter : without (some x) after = after := by
    refine List.filter_eq_self.2 fun y hy => ?_
    have := (List.pairwise_cons.1 hx).1 y hy
    simp only [Option.all_some, bne_iff_ne]
    omega
  have hself : without (some x) [x] = [] := by simp [without]
  calc without (some x) (before ++ x :: after)
      = without (some x) before ++ (without (some x) [x] ++ without (some x) after) := by
        simp only [without, ← List.filter_append, List.singleton_append]
    _ = before ++ after := by rw [hbefore, hself, hafter, List.nil_append]

/-- Taking an argument by its place is what binding does. -/
theorem takeArgument_placed {name : String} {left : List Placed} (h : Ascending left) :
    takeArgument name (left.map (·.1))
      = ((chosen name left).map (·.1), (without (chosen name left) left).map (·.1)) := by
  have hfind : (left.map (·.1)).find? (·.name == name)
      = (left.find? (·.1.name == name)).map (·.1) := List.find?_map
  unfold takeArgument chosen
  rw [hfind]
  cases hf : left.find? (·.1.name == name) with
  | some x =>
    obtain ⟨hx, before, after, rfl, hb⟩ := List.find?_eq_some_iff_append.1 hf
    simp only [Option.map_some]
    rw [without_append_cons h, List.eraseP_map]
    refine Prod.ext rfl ?_
    have hnone : ∀ y ∈ before, ¬ ((fun a : Argument => a.name == name) ∘ (·.1)) y = true :=
      fun y hy => by simpa using hb y hy
    have hcons : (x :: after).eraseP ((fun a : Argument => a.name == name) ∘ (·.1)) = after :=
      List.eraseP_cons_of_pos hx
    rw [List.eraseP_append_right _ hnone, hcons]
  | none =>
    cases left with
    | nil => rfl
    | cons x rest =>
      simp only [Option.map_none, List.map_cons, List.head?_cons]
      by_cases hn : x.1.isNamed
      · simp [hn, without_none, Option.filter]
      · have hl : without (some x) (x :: rest) = rest := @without_append_cons [] rest x h
        simp [hn, Option.filter, hl]

theorem chosen_mem {name : String} {left : List Placed} {x : Placed}
    (h : chosen name left = some x) : x ∈ left := by
  unfold chosen at h
  split at h
  · next y hf =>
    obtain rfl : y = x := by simpa using h
    exact List.mem_of_find?_eq_some hf
  · exact List.mem_of_mem_head? (Option.mem_def.2 (Option.filter_eq_some_iff.1 h).1)

/-- Binding hands over the arguments at the places that the parameters take. -/
theorem assign_eq_places (arguments : List Argument) : ∀ (ps : List Parameter) (left : List Placed),
    Ascending left → (∀ x ∈ left, arguments[x.2]? = some x.1) →
    assign ps (left.map (·.1)) = ps.zip ((places ps left).map (·.bind (arguments[·]?)))
  | [], _, _, _ => by simp [assign]
  | p :: rest, left, ha, hm => by
    have hrest := assign_eq_places arguments rest (without (chosen p.name left) left)
      (ascending_without ha) fun x hx => hm x (List.mem_filter.1 hx).1
    have htaken : ((chosen p.name left).map (·.2)).bind (arguments[·]?)
        = (chosen p.name left).map (·.1) := by
      cases hc : chosen p.name left with
      | none => rfl
      | some x => exact hm x (chosen_mem hc)
    rw [assign, takeArgument_placed ha, places]
    simp only [hrest, List.map_cons, List.zip_cons_cons, htaken]

/-! ### What is left at a turn -/

/-- The arguments that are left when some places are taken. -/
def leftAt (arguments : List Argument) (taken : List Nat) : List Placed :=
  arguments.zipIdx.filter fun x => !taken.contains x.2

theorem without_leftAt (arguments : List Argument) (taken : List Nat) (x : Option Placed) :
    without x (leftAt arguments taken) = leftAt arguments (taken ++ (x.map (·.2)).toList) := by
  rw [without, leftAt, leftAt, List.filter_filter]
  refine List.filter_congr fun y _ => ?_
  cases x with
  | none => simp
  | some x =>
    by_cases hxy : x.2 = y.2
    · simp [hxy]
    · simp [hxy, Ne.symm hxy]

/-- The places that the first turns take. -/
def takenBefore (place : List (Option Nat)) (turn : Nat) : List Nat :=
  (place.take turn).filterMap id

/-- Every turn chooses among the arguments that the turns before it left. -/
theorem getElem?_places (arguments : List Argument) : ∀ (ps : List Parameter) (taken : List Nat)
    (turn : Nat), (places ps (leftAt arguments taken))[turn]? = ps[turn]?.map fun p =>
      (chosen p.name (leftAt arguments
        (taken ++ takenBefore (places ps (leftAt arguments taken)) turn))).map (·.2)
  | [], _, _ => by simp [places]
  | p :: rest, taken, 0 => by simp [places, takenBefore]
  | p :: rest, taken, turn + 1 => by
    have hrest := getElem?_places arguments rest
      (taken ++ ((chosen p.name (leftAt arguments taken)).map (·.2)).toList) turn
    have hcons : ∀ (o : Option Nat) (l : List (Option Nat)),
        takenBefore (o :: l) (turn + 1) = o.toList ++ takenBefore l turn := by
      intro o l
      cases o <;> rfl
    rw [places, without_leftAt, List.getElem?_cons_succ, List.getElem?_cons_succ, hrest, hcons,
      List.append_assoc]

/-- A turn before this one took the place. -/
def TakenBefore (place : List (Option Nat)) (turn i : Nat) : Prop :=
  ∃ earlier < turn, place[earlier]? = some (some i)

theorem mem_takenBefore {place : List (Option Nat)} {turn i : Nat} :
    i ∈ takenBefore place turn ↔ TakenBefore place turn i := by
  rw [takenBefore, List.mem_filterMap]
  simp only [id_eq, exists_eq_right, List.mem_iff_getElem?, List.getElem?_take, TakenBefore]
  constructor
  · rintro ⟨k, hk⟩
    split at hk
    · next hlt => exact ⟨k, hlt, hk⟩
    · simp at hk
  · rintro ⟨k, hlt, hk⟩
    exact ⟨k, by rw [if_pos hlt, hk]⟩

theorem mem_leftAt {arguments : List Argument} {place : List (Option Nat)} {turn i : Nat}
    {a : Argument} : (a, i) ∈ leftAt arguments (takenBefore place turn) ↔
      arguments[i]? = some a ∧ ¬ TakenBefore place turn i := by
  rw [leftAt, List.mem_filter, List.mk_mem_zipIdx_iff_getElem?, ← mem_takenBefore]
  simp

/-! ### What a turn takes -/

/-- What is chosen is the first one left of its name, or the first one left at all. -/
theorem chosen_eq_some {name : String} {left : List Placed} {a : Argument} {i : Nat}
    (ha : Ascending left) (h : chosen name left = some (a, i)) :
    (a.name = name ∧ ∀ b j, (b, j) ∈ left → j < i → b.name ≠ name) ∨
    (a.isNamed = false ∧ ∀ b j, (b, j) ∈ left → i ≤ j) := by
  unfold chosen at h
  split at h
  · next y hf =>
    obtain rfl : y = (a, i) := by simpa using h
    obtain ⟨hx, before, after, rfl, hb⟩ := List.find?_eq_some_iff_append.1 hf
    refine .inl ⟨by simpa using hx, fun b j hj hlt => ?_⟩
    rcases List.mem_append.1 hj with hj | hj
    · simpa using hb _ hj
    · -- behind what is chosen, or that itself
      obtain ⟨-, hpair, -⟩ := List.pairwise_append.1 ha
      rcases List.mem_cons.1 hj with he | hj
      · obtain rfl : j = i := congrArg Prod.snd he
        omega
      · have := (List.pairwise_cons.1 hpair).1 _ hj
        simp only at this
        omega
  · cases left with
    | nil => simp at h
    | cons x rest =>
      obtain ⟨hx, hn⟩ := Option.filter_eq_some_iff.1 h
      obtain rfl : x = (a, i) := by simpa using hx
      refine .inr ⟨by simpa using hn, fun b j hj => ?_⟩
      rcases List.mem_cons.1 hj with he | hj
      · exact Nat.le_of_eq (congrArg Prod.snd he).symm
      · exact Nat.le_of_lt ((List.pairwise_cons.1 ha).1 _ hj)

/-- Nothing is chosen only when nothing left has the name and what is left begins with a name. -/
theorem chosen_eq_none {name : String} {left : List Placed} (h : chosen name left = none) :
    (∀ x ∈ left, x.1.name ≠ name) ∧ ∀ x ∈ left.head?, x.1.isNamed = true := by
  unfold chosen at h
  split at h
  · simp at h
  · next hf =>
    refine ⟨fun x hx => by simpa using List.find?_eq_none.1 hf x hx, fun x hx => ?_⟩
    rw [Option.mem_def.1 hx] at h
    simpa [Option.filter] using h

/-- What stands at the lowest place left is the first one left. -/
theorem mem_head?_of_lowest {left : List Placed} {x : Placed} (ha : Ascending left)
    (hx : x ∈ left) (hlow : ∀ y ∈ left, x.2 ≤ y.2) : x ∈ left.head? := by
  cases left with
  | nil => simp at hx
  | cons y rest =>
    rcases List.mem_cons.1 hx with rfl | hrest
    · exact rfl
    · have hlt := (List.pairwise_cons.1 ha).1 x hrest
      have hle := hlow y (by simp)
      omega

/-! ### Safe assignments -/

/-- The name of a parameter is more than white space, as an identifier is. -/
def Parameter.HasName (p : Parameter) : Prop := Text.strip p.name.toList ≠ []

/-- An assignment of places to parameters, turn by turn, that gives arguments out safely. -/
structure SafeAssignment (ps : List Parameter) (arguments : List Argument)
    (place : List (Option Nat)) : Prop where
  /-- Every parameter has its turn. -/
  length : place.length = ps.length
  /-- What is given is an argument of the command. -/
  written : ∀ turn i : Nat, place[turn]? = some (some i) → i < arguments.length
  /-- No argument is given to two parameters. -/
  once : ∀ turn₁ turn₂ i : Nat, place[turn₁]? = some (some i) → place[turn₂]? = some (some i) →
    turn₁ = turn₂
  /-- An argument with a name is given to the parameter of that name only, and it is the first one
  of that name. -/
  named : ∀ (turn : Nat) (p : Parameter) (i : Nat) (a : Argument), ps[turn]? = some p →
    place[turn]? = some (some i) → arguments[i]? = some a → a.isNamed = true →
    a.name = p.name ∧ ∀ j < i, ∀ b, arguments[j]? = some b → b.name ≠ p.name
  /-- An argument without a name is given only when all arguments written before it are. -/
  positional : ∀ (turn : Nat) (p : Parameter) (i : Nat) (a : Argument), ps[turn]? = some p →
    p.HasName → place[turn]? = some (some i) → arguments[i]? = some a → a.isNamed = false →
    ∀ j < i, TakenBefore place turn j
  /-- Arguments without a name are given in written order to parameters in declared order. -/
  ordered : ∀ (turn₁ turn₂ : Nat) (p : Parameter) (i₁ i₂ : Nat) (a : Argument),
    ps[turn₂]? = some p → p.HasName → place[turn₁]? = some (some i₁) →
    place[turn₂]? = some (some i₂) → arguments[i₂]? = some a → a.isNamed = false →
    i₁ < i₂ → turn₁ < turn₂
  /-- A parameter without an argument had its turn when no argument left had its name, and the first
  one left, if any, had a name. -/
  absent : ∀ (turn : Nat) (p : Parameter), ps[turn]? = some p → place[turn]? = some none →
    (∀ (j : Nat) (b : Argument), arguments[j]? = some b → ¬ TakenBefore place turn j →
      b.name ≠ p.name) ∧
    (∀ (j : Nat) (b : Argument), arguments[j]? = some b → ¬ TakenBefore place turn j →
      (∀ l < j, TakenBefore place turn l) → b.isNamed = true)

/-- The places that parameters take of the arguments of a command. -/
def placesOf (ps : List Parameter) (arguments : List Argument) : List (Option Nat) :=
  places ps arguments.zipIdx

section

variable {ps : List Parameter} {arguments : List Argument} {turn i : Nat} {p : Parameter}

theorem leftAt_nil (arguments : List Argument) : leftAt arguments [] = arguments.zipIdx := by
  simp [leftAt]

theorem ascending_leftAt (arguments : List Argument) (taken : List Nat) :
    Ascending (leftAt arguments taken) := (ascending_zipIdx arguments).filter _

/-- What a turn takes is chosen among what the turns before it left. -/
theorem getElem?_placesOf (hp : ps[turn]? = some p) :
    (placesOf ps arguments)[turn]? = some ((chosen p.name
      (leftAt arguments (takenBefore (placesOf ps arguments) turn))).map (·.2)) := by
  have h := getElem?_places arguments ps [] turn
  rw [leftAt_nil, hp, List.nil_append] at h
  exact h

theorem exists_parameter {o : Option Nat} (h : (placesOf ps arguments)[turn]? = some o) :
    ∃ p, ps[turn]? = some p := by
  obtain ⟨hlt, -⟩ := List.getElem?_eq_some_iff.1 h
  rw [placesOf, length_places] at hlt
  exact ⟨ps[turn], List.getElem?_eq_getElem hlt⟩

theorem exists_chosen (hp : ps[turn]? = some p)
    (h : (placesOf ps arguments)[turn]? = some (some i)) : ∃ a, arguments[i]? = some a ∧
      ¬ TakenBefore (placesOf ps arguments) turn i ∧
      chosen p.name (leftAt arguments (takenBefore (placesOf ps arguments) turn)) = some (a, i) := by
  rw [getElem?_placesOf hp, Option.some_inj, Option.map_eq_some_iff] at h
  obtain ⟨⟨a, j⟩, hc, rfl⟩ := h
  obtain ⟨ha, hn⟩ := mem_leftAt.1 (chosen_mem hc)
  exact ⟨a, ha, hn, hc⟩

/-- What a turn takes bears the name of its parameter and is the first one left that does, or it has
no name and all before it are taken. -/
theorem taken_cases {a : Argument} (hp : ps[turn]? = some p)
    (h : (placesOf ps arguments)[turn]? = some (some i)) (ha : arguments[i]? = some a) :
    (a.name = p.name ∧ ∀ j < i, ∀ b, arguments[j]? = some b → b.name = p.name →
      TakenBefore (placesOf ps arguments) turn j) ∨
    (a.isNamed = false ∧ ∀ j < i, TakenBefore (placesOf ps arguments) turn j) := by
  obtain ⟨a', ha', -, hc⟩ := exists_chosen hp h
  obtain rfl : a' = a := Option.some_inj.1 (ha'.symm.trans ha)
  obtain ⟨hname, hfirst⟩ | ⟨hno, hfirst⟩ := chosen_eq_some (ascending_leftAt _ _) hc
  · refine .inl ⟨hname, fun j hj b hb hbn => ?_⟩
    by_contra hnot
    exact hfirst b j (mem_leftAt.2 ⟨hb, hnot⟩) hj hbn
  · refine .inr ⟨hno, fun j hj => ?_⟩
    have hlt : j < arguments.length :=
      Nat.lt_trans hj (List.getElem?_eq_some_iff.1 ha).1
    by_contra hnot
    have := hfirst arguments[j] j (mem_leftAt.2 ⟨List.getElem?_eq_getElem hlt, hnot⟩)
    omega

theorem isNamed_congr {a b : Argument} (h : a.name = b.name) : a.isNamed = b.isNamed := by
  rw [Argument.isNamed, Argument.isNamed, h]

theorem placesOf_once (turn₁ turn₂ i : Nat)
    (h₁ : (placesOf ps arguments)[turn₁]? = some (some i))
    (h₂ : (placesOf ps arguments)[turn₂]? = some (some i)) : turn₁ = turn₂ := by
  have later : ∀ s t : Nat, (placesOf ps arguments)[s]? = some (some i) →
      (placesOf ps arguments)[t]? = some (some i) → ¬ s < t := by
    intro s t hs ht hlt
    obtain ⟨p, hp⟩ := exists_parameter ht
    obtain ⟨_, _, hnot, _⟩ := exists_chosen hp ht
    exact hnot ⟨s, hlt, hs⟩
  have := later _ _ h₁ h₂
  have := later _ _ h₂ h₁
  omega

/-- Parameters of different names take what bears a name by that name only. -/
theorem placesOf_named {a : Argument} (hd : (ps.map (·.name)).Nodup) (hp : ps[turn]? = some p)
    (h : (placesOf ps arguments)[turn]? = some (some i)) (ha : arguments[i]? = some a)
    (hn : a.isNamed = true) :
    a.name = p.name ∧ ∀ j < i, ∀ b, arguments[j]? = some b → b.name ≠ p.name := by
  obtain ⟨hname, hfirst⟩ | ⟨hno, -⟩ := taken_cases hp h ha
  · refine ⟨hname, fun j hj b hb hbn => ?_⟩
    -- an earlier turn took it, by a name that is no other's
    obtain ⟨earlier, hlt, hj'⟩ := hfirst j hj b hb hbn
    obtain ⟨q, hq⟩ := exists_parameter hj'
    obtain ⟨hbq, -⟩ | ⟨hno, -⟩ := taken_cases hq hj' hb
    · have hsame : (ps.map (·.name))[earlier]? = (ps.map (·.name))[turn]? := by
        rw [List.getElem?_map, List.getElem?_map, hq, hp, Option.map_some, Option.map_some, ← hbq,
      hbn]
      have hlen : earlier < (ps.map (·.name)).length := by
        rw [List.length_map]
        exact (List.getElem?_eq_some_iff.1 hq).1
      have := (List.getElem?_inj hlen hd).1 hsame
      omega
    · rw [isNamed_congr (hbn.trans hname.symm), hn] at hno
      exact absurd hno (by simp)
  · rw [hn] at hno
    exact absurd hno (by simp)

theorem placesOf_positional {a : Argument} (hp : ps[turn]? = some p) (hpn : p.HasName)
    (h : (placesOf ps arguments)[turn]? = some (some i)) (ha : arguments[i]? = some a)
    (hn : a.isNamed = false) : ∀ j < i, TakenBefore (placesOf ps arguments) turn j := by
  obtain ⟨hname, -⟩ | ⟨-, hall⟩ := taken_cases hp h ha
  · rw [Argument.isNamed, hname] at hn
    exact absurd (by simpa using hn) hpn
  · exact hall

theorem placesOf_absent (hp : ps[turn]? = some p)
    (h : (placesOf ps arguments)[turn]? = some none) :
    (∀ j b, arguments[j]? = some b → ¬ TakenBefore (placesOf ps arguments) turn j →
      b.name ≠ p.name) ∧
    (∀ j b, arguments[j]? = some b → ¬ TakenBefore (placesOf ps arguments) turn j →
      (∀ l < j, TakenBefore (placesOf ps arguments) turn l) → b.isNamed = true) := by
  rw [getElem?_placesOf hp, Option.some_inj, Option.map_eq_none_iff] at h
  obtain ⟨hnames, hhead⟩ := chosen_eq_none h
  refine ⟨fun j b hb hnot => hnames _ (mem_leftAt.2 ⟨hb, hnot⟩), fun j b hb hnot hall => ?_⟩
  refine hhead (b, j) (mem_head?_of_lowest (ascending_leftAt _ _) (mem_leftAt.2 ⟨hb, hnot⟩) ?_)
  rintro ⟨c, l⟩ hx
  by_contra hlt
  exact (mem_leftAt.1 hx).2 (hall l (by simpa using hlt))

/-- Whatever arguments a command has, binding assigns them safely to parameters of different names,
whether these are the fields of one record or the parameters themselves. -/
theorem bind_safe (formals : List Formal) (arguments : List Argument)
    (hd : ((visible formals).map (·.name)).Nodup) :
    SafeAssignment (visible formals) arguments (placesOf (visible formals) arguments) ∧
    ∀ s : Scope, s.bind formals arguments = (s.evaluate ((visible formals).zip
      ((placesOf (visible formals) arguments).map (·.bind (arguments[·]?)))) >>=
        callValues formals) := by
  refine ⟨⟨?_, ?_, placesOf_once, ?_, ?_, ?_, ?_⟩, fun s => ?_⟩
  · exact length_places _ _
  · intro turn i h
    obtain ⟨p, hp⟩ := exists_parameter h
    obtain ⟨a, ha, -⟩ := exists_chosen hp h
    exact (List.getElem?_eq_some_iff.1 ha).1
  · exact fun turn p i a hp h ha hn => placesOf_named hd hp h ha hn
  · exact fun turn p i a hp hpn h ha hn => placesOf_positional hp hpn h ha hn
  · intro turn₁ turn₂ p i₁ i₂ a hp hpn h₁ h₂ ha hn hlt
    obtain ⟨earlier, hlt', h⟩ := placesOf_positional hp hpn h₂ ha hn i₁ hlt
    rwa [placesOf_once turn₁ earlier i₁ h₁ h]
  · exact fun turn p hp h => placesOf_absent hp h
  · have h := assign_eq_places arguments (visible formals) arguments.zipIdx
      (ascending_zipIdx arguments) fun x hx => List.mk_mem_zipIdx_iff_getElem?.1 hx
    rw [Scope.bind, placesOf, ← h, List.zipIdx_map_fst]

/-- A record of three texts, in whose place its fields are given. -/
def threeTexts : List Formal :=
  [.ofType "body" (.model "shop" "Item" false [⟨"name", none, .text, .required, false⟩,
    ⟨"price", none, .text, .required, false⟩, ⟨"note", none, .text, .required, false⟩] none) .required]

/-- Arguments that give the second text by name and in between something that is not known. -/
def mixedArguments : List Argument :=
  [⟨.plain, "", "tea"⟩, ⟨.plain, "name", "pot"⟩, ⟨.plain, "colour", "red"⟩, ⟨.plain, "", "4"⟩]

theorem bind_safe_mixed : ((visible threeTexts).map (·.name)).Nodup ∧
    placesOf (visible threeTexts) mixedArguments = [some 1, some 0, none] ∧
    SafeAssignment (visible threeTexts) mixedArguments
      (placesOf (visible threeTexts) mixedArguments) :=
  ⟨by decide, by decide, (bind_safe threeTexts mixedArguments (by decide)).1⟩

end

end OperatorConsole
