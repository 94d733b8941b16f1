import OperatorConsole.Argument.Binding
import OperatorConsole.Proofs.Steps

/-!
The value of one argument. Its text is found first; then the kind of the parameter says whether the
text is the value, is read as a truth value or a number, or says where content is.
-/
namespace OperatorConsole

/-! ### Kinds -/

namespace Kind

/-- The kind of a truth value or a number. -/
def IsScalar (k : Kind) : Prop := k = .boolean ∨ k.isNumeric = true

/-- The kind of what a document stands for. -/
def IsStructured (k : Kind) : Prop := k = .object ∨ k = .other

theorem cases (k : Kind) : k = .text ∨ k.IsScalar ∨ k = .file ∨ k.IsStructured := by
  cases k <;> simp [IsScalar, IsStructured, isNumeric]

/-- What takes texts asks for no content. -/
theorem not_asks_of_takesText {k : Kind} (h : k = .text ∨ k.IsScalar) :
    ¬ (k = .file ∨ k.IsStructured) := by
  cases k <;> simp_all [IsScalar, IsStructured, isNumeric]

end Kind

/-! ### Values by kind -/

namespace Scope

variable {s : Scope} {p : Parameter} {a : Argument} {text : String} {fault : BindingFault}

theorem textOf_of_ne_reference (h : a.form ≠ .reference) : s.textOf a = .ok a.value := by
  unfold textOf
  cases hform : a.form <;> simp_all

theorem textOf_of_lookup (h : a.form = .reference) (hvar : s.vars.lookup a.value = some text) :
    s.textOf a = .ok text := by
  unfold textOf
  rw [h]
  simp only [hvar]

theorem textOf_of_lookup_none (h : a.form = .reference) (hvar : s.vars.lookup a.value = none) :
    s.textOf a = .error (.undefined a.value) := by
  unfold textOf
  rw [h]
  simp only [hvar]

/-- Only a variable that is not defined leaves an argument without a text. -/
theorem exists_undefined (h : s.textOf a = .error fault) :
    a.form = .reference ∧ fault = .undefined a.value := by
  by_cases hform : a.form = .reference
  · cases hvar : s.vars.lookup a.value with
    | some text => simp [textOf_of_lookup hform hvar] at h
    | none =>
      rw [textOf_of_lookup_none hform hvar] at h
      exact ⟨hform, by simpa using h.symm⟩
  · simp [textOf_of_ne_reference hform] at h

theorem valueOf_of_textOf_error (h : s.textOf a = .error fault) : s.valueOf p a = .error fault := by
  rw [valueOf, h, error_bind]

theorem valueOf_text (hk : p.kind = .text) (h : s.textOf a = .ok text) :
    s.valueOf p a = .ok (.text text) := by
  rw [valueOf, h, ok_bind, hk]
  rfl

theorem valueOf_scalar (hk : p.kind.IsScalar) (h : s.textOf a = .ok text) :
    s.valueOf p a = (readScalar p.kind text).mapError (.scalar p.kind text) := by
  rw [valueOf, h, ok_bind]
  rcases hk with hk | hk
  · rw [hk]
  · cases hkind : p.kind <;> simp_all [Kind.isNumeric]

theorem valueOf_file (hk : p.kind = .file) (h : s.textOf a = .ok text) : s.valueOf p a =
    if a.form = .document then .error (.documentForFile p.name)
    else s.fileOf p.type text := by
  rw [valueOf, h, ok_bind, hk]
  simp only [beq_iff_eq]

theorem valueOf_structured (hk : p.kind.IsStructured) (h : s.textOf a = .ok text) :
    s.valueOf p a = (s.documentOf p.name a text >>= fun document =>
      (p.documentType.read document).mapError (.ofMisfit p.name)) := by
  rw [valueOf, h, ok_bind]
  rcases hk with hk | hk <;> rw [hk]

end Scope

/-! ### Files without further fields -/

namespace DeclaredType

/-- The type of files that content is made. -/
def fileTypeName : DeclaredType → String
  | .file _ name _ => name
  | _ => "FilePayload"

/-- A file of the type is nothing but its content and its name: none is made in a way of its own. -/
def MakesPlainFiles (t : DeclaredType) : Prop := ∀ module name own, t ≠ .file module name (some own)

theorem makeFile_eq {t : DeclaredType} (h : t.MakesPlainFiles) (content : Bytes) (name : String) :
    t.makeFile content name = .ok (.file t.fileTypeName content (some name)) := by
  cases t with
  | file module typeName own =>
    cases own with
    | none => rfl
    | some own => exact absurd rfl (h module typeName own)
  | _ => rfl

end DeclaredType

/-! ### A sample world -/

/-- A disk with nothing on it. -/
def Disk.bare : Disk := ⟨[], [], "/", [], 0⟩

/-- A world with a disk and nobody who answers. -/
def World.on (d : Disk) : World :=
  ⟨d, ⟨⟨"", "", "", none, "/", none, none⟩, []⟩, Web.unreachable, "", [], []⟩

/-- A world with nothing on its disk and nobody who answers. -/
def World.bare : World := .on .bare

end OperatorConsole
