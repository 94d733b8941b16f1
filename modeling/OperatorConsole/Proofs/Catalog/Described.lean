import Mathlib.Tactic.SplitIfs
import OperatorConsole.Catalog.Parameter

/-!
Declared types and what is said of them. One type may be that of a parameter of an operation and that
of a field of a record. The notes around the whole type of a field are taken off before a union of one
type and nothing is opened, those of a parameter after it. Main result: parameters and fields of one
type are described alike exactly if no note stands around such a union, and the other rules of
descriptions (a note says nothing, a type or nothing is described by the type) fail there only.
-/
namespace OperatorConsole

/-- Two parameters are turned into values of the same kind, may both be nothing or neither, and bear
the same label. -/
structure Parameter.Alike (p q : Parameter) : Prop where
  kind : p.kind = q.kind
  nullable : p.nullable = q.nullable
  label : p.label = q.label

theorem Parameter.Alike.refl (p : Parameter) : p.Alike p := ⟨rfl, rfl, rfl⟩

/-- Labels show the kind, the type and whether nothing may be given. -/
theorem Parameter.Alike.of_type {p q : Parameter} (hkind : p.kind = q.kind) (htype : p.type = q.type)
    (hnullable : p.nullable = q.nullable) : p.Alike q :=
  ⟨hkind, hnullable, by rw [Parameter.label, Parameter.label, hkind, htype, hnullable]⟩

namespace DeclaredType

/-- One of several types. -/
def isUnion : DeclaredType → Bool
  | .union _ => true
  | _ => false

/-- A note stands around a union of one type and nothing. -/
def hidesNothing : DeclaredType → Bool
  | .noted t => t.dropNotes.unwrap.2
  | _ => false

/-! ### Notes -/

section

variable {t : DeclaredType}

theorem kindOf_dropNotes : ∀ t : DeclaredType, t.dropNotes.kindOf = t.kindOf := by
  intro t
  fun_induction dropNotes t with
  | case1 t ih => rw [ih, kindOf]
  | case2 t _ => rfl

theorem dropNotes_dropNotes : ∀ t : DeclaredType, t.dropNotes.dropNotes = t.dropNotes := by
  intro t
  fun_induction dropNotes t with
  | case1 t ih => exact ih
  | case2 t ht => exact dropNotes.eq_2 t ht

/-! ### Unions with nothing -/

/-- A type that may not be nothing is not opened. -/
theorem unwrap_of_not_nullable (h : t.unwrap.2 = false) : t.unwrap = (t, false) := by
  cases t with
  | union ts =>
    rw [unwrap] at h ⊢
    split at h
    · split_ifs at h ⊢
      rfl
    · rfl
  | _ => rfl

theorem isUnion_of_nullable (h : t.unwrap.2 = true) : t.isUnion = true := by
  cases t with
  | union ts => rfl
  | _ => exact h

theorem same_nothing (ht : t.isNothing = false) : same .nothing t = false := by
  cases t with
  | nothing => exact ht
  | _ => rfl

/-- The union of a type that is neither a union nor nothing with nothing has these two members. -/
theorem orNothing_eq (hunion : t.isUnion = false) (hnothing : t.isNothing = false) :
    t.orNothing = .union [t, .nothing] := by
  have hmembers : members t = [t] := by
    cases t with
    | union ts => exact absurd hunion (by simp [isUnion])
    | _ => rfl
  have honce : once [t, .nothing] = [t, .nothing] := by
    simp [once, same_nothing hnothing]
  have hflat : [t, .nothing].flatMap members = [t, .nothing] := by
    rw [List.flatMap_cons, hmembers]
    rfl
  rw [orNothing, unionOf, hflat, honce]

theorem unwrap_orNothing (hunion : t.isUnion = false) (hnothing : t.isNothing = false) :
    t.orNothing.unwrap = (t, true) := by
  have hfilter : [t, .nothing].filter (!isNothing ·) = [t] := by
    rw [List.filter_cons_of_pos (by simpa using hnothing)]
    rfl
  rw [orNothing_eq hunion hnothing, unwrap, hfilter]
  rfl

end

end DeclaredType

/-! ### Descriptions -/

section

variable {t u : DeclaredType} {name : String} {default : Default}

theorem Parameter.ofType_eq : Parameter.ofType name t default =
    ⟨name, t.unwrap.1.kindOf, t.unwrap.1.dropNotes, default, t.unwrap.2⟩ := rfl

/-- Types that may not be nothing are described by what is under their notes. -/
theorem Parameter.ofType_alike (ht : t.unwrap.2 = false) (hu : u.unwrap.2 = false)
    (hnotes : t.dropNotes = u.dropNotes) :
    (Parameter.ofType name t default).Alike (.ofType name u default) := by
  have hkind : t.kindOf = u.kindOf := by
    rw [← t.kindOf_dropNotes, hnotes, u.kindOf_dropNotes]
  rw [ofType_eq, ofType_eq, DeclaredType.unwrap_of_not_nullable ht,
    DeclaredType.unwrap_of_not_nullable hu]
  exact .of_type hkind hnotes rfl

/-- A note around a type changes the description exactly if the type may be nothing. -/
theorem Parameter.ofType_noted_alike_iff :
    (Parameter.ofType name (.noted t) default).Alike (.ofType name t default) ↔
      (Parameter.ofType name t default).nullable = false :=
  ⟨fun h => h.nullable.symm, fun h => ofType_alike rfl h rfl⟩

/-- Taking the notes off a type changes the description exactly if they hide nothing. -/
theorem Parameter.ofType_dropNotes_alike_iff :
    (Parameter.ofType name t default).Alike (.ofType name t.dropNotes default) ↔
      t.hidesNothing = false := by
  cases t with
  | noted t =>
    refine ⟨fun h => h.nullable.symm, fun h => ?_⟩
    exact ofType_alike rfl h t.dropNotes_dropNotes.symm
  | _ => exact iff_of_true (.refl _) rfl

theorem Parameter.kind_ofType_of_not_union (hunion : t.isUnion = false) :
    (Parameter.ofType name t default).kind = t.kindOf := by
  have hnull : t.unwrap.2 = false := by
    refine Bool.eq_false_iff.2 fun h => ?_
    rw [DeclaredType.isUnion_of_nullable h] at hunion
    exact absurd hunion (by simp)
  rw [ofType_eq, DeclaredType.unwrap_of_not_nullable hnull]

/-- A type or nothing is described by the type. -/
theorem Parameter.ofType_orNothing (hunion : t.isUnion = false) (hnothing : t.isNothing = false) :
    Parameter.ofType name t.orNothing default = ⟨name, t.kindOf, t.dropNotes, default, true⟩ := by
  rw [ofType_eq, DeclaredType.unwrap_orNothing hunion hnothing]

end

/-- What a declared type says of a parameter and of a field. The two are alike exactly if no note hides
nothing. A note changes the description of a parameter exactly if nothing may be given for it, and
never that of a field. With nothing as the other choice, a type that is neither a union nor nothing is
described in both places by the kind that a parameter of the type has, and nothing may be given; this
is also the kind that a field of the type has, unless a note hides nothing. -/
theorem described_by_type (t : DeclaredType) (name : String) (other : Option String)
    (default : Default) (frozen : Bool) :
    ((Formal.ofType name t default).toParameter.Alike (.ofField ⟨name, other, t, default, frozen⟩) ↔
      t.hidesNothing = false) ∧
    ((Formal.ofType name (.noted t) default).toParameter.Alike
        (Formal.ofType name t default).toParameter ↔
      (Formal.ofType name t default).nullable = false) ∧
    (Parameter.ofField ⟨name, other, .noted t, default, frozen⟩).Alike
      (.ofField ⟨name, other, t, default, frozen⟩) ∧
    (t.isUnion = false → t.isNothing = false →
      (Formal.ofType name t.orNothing default).toParameter.Alike
        (.ofField ⟨name, other, t.orNothing, default, frozen⟩) ∧
      (Formal.ofType name t.orNothing default).nullable = true ∧
      (Formal.ofType name t.orNothing default).kind = (Formal.ofType name t default).kind ∧
      (t.hidesNothing = false → (Parameter.ofField ⟨name, other, t.orNothing, default, frozen⟩).kind =
        (Parameter.ofField ⟨name, other, t, default, frozen⟩).kind)) := by
  have hplaces : ∀ t : DeclaredType,
      (Formal.ofType name t default).toParameter.Alike (.ofField ⟨name, other, t, default, frozen⟩) ↔
        t.hidesNothing = false := fun _ => Parameter.ofType_dropNotes_alike_iff
  refine ⟨hplaces t, Parameter.ofType_noted_alike_iff, .refl _, fun hunion hnothing => ?_⟩
  have hopened : t.orNothing.hidesNothing = false := by
    rw [DeclaredType.orNothing_eq hunion hnothing]
    rfl
  have hor : (Formal.ofType name t.orNothing default).toParameter =
      ⟨name, t.kindOf, t.dropNotes, default, true⟩ := Parameter.ofType_orNothing hunion hnothing
  have hkind : (Formal.ofType name t default).kind = t.kindOf :=
    Parameter.kind_ofType_of_not_union hunion
  have hboth := (hplaces t.orNothing).2 hopened
  rw [hor] at hboth ⊢
  refine ⟨hboth, rfl, hkind.symm, fun hhides => ?_⟩
  rw [← hboth.kind, ← ((hplaces t).2 hhides).kind, hkind]

/-- A whole number or nothing, with a note around it. -/
def notedOptional : DeclaredType := .noted DeclaredType.whole.orNothing

theorem notedOptional_not_alike :
    ¬ (Formal.ofType "x" notedOptional .required).toParameter.Alike
        (.ofField ⟨"x", none, notedOptional, .required, false⟩) ∧
      (Formal.ofType "x" notedOptional .required).kind = .other ∧
      (Parameter.ofField ⟨"x", none, notedOptional, .required, false⟩).kind = .integer .int64 := by
  refine ⟨fun h => ?_, by decide, by decide⟩
  exact absurd h.nullable (by decide)

end OperatorConsole
