import OperatorConsole.Proofs.Argument.Delivery
import OperatorConsole.Proofs.Argument.Value

/-!
Faults of arguments. Whatever the text of an argument is, a fault in it is reported as a fault of the
argument, with few exceptions: content of the web that is asked for by a text that is no web address, or
whose character set cannot be used, and what the module of a declared type raises itself. Main result:
binding gives values or a reported fault exactly when the first argument without a value, in declared
order, is none of these and the record that stands for all parameters can be made.
-/
namespace OperatorConsole

/-- The fault is reported as one of an argument. -/
def BindingFault.IsReported : BindingFault → Prop
  | .content _ => False
  | .raised e => e.nature = .binding
  | _ => True

/-! ### Content without a report -/

/-- A character set is named in a way that no text can be read by it. -/
def Web.TextFault.IsUnusable : Web.TextFault → Prop
  | .type _ | .charset .bytesOnly | .charset .textOnly => True
  | .charset _ => False

/-- Content of the web that a parameter of a kind asks for is missing without a report: its address
cannot be read, or its text can be read in no character set. -/
inductive World.Escapes (w : World) (locator : String) : Kind → ContentFault → Prop where
  | address {k : Kind} {fault : Address.Fault} (hk : k = .file ∨ k.IsStructured)
      (h : (w.download locator).2 = .error (.web (.address fault))) :
      w.Escapes locator k (.web (.address fault))
  | charset {k : Kind} {answer : Web.Answer} {fault : Web.TextFault} (hk : k.IsStructured)
      (h : (w.download locator).2 = .ok answer)
      (hread : Web.readText (answer.header? "content-type") answer.body = .error fault)
      (hfault : fault.IsUnusable) : w.Escapes locator k (.text fault)

/-- The argument asks for content of the web that is missing without a report. -/
structure Scope.Escapes (s : Scope) (p : Parameter) (a : Argument) (fault : ContentFault) : Prop where
  noDocument : a.form ≠ .document
  missing : ∃ text, s.textOf a = .ok text ∧ Locator.localPath text = .ok none ∧
    s.world.Escapes text p.kind fault

/-- The faults among which those without a report are. -/
def ContentFault.MayEscape : ContentFault → Prop
  | .web (.address _) => True
  | .text fault => fault.IsUnusable
  | _ => False

section

variable {w : World} {locator : String} {fault content : ContentFault} {k : Kind}

theorem BindingFault.ofContent_eq_content_iff :
    BindingFault.ofContent locator fault = .content content ↔
      fault = content ∧ fault.MayEscape := by
  cases fault with
  | web fault => cases fault <;> simp [ofContent, ContentFault.MayEscape]
  | text fault =>
    cases fault with
    | type fault => simp [ofContent, ContentFault.MayEscape, Web.TextFault.IsUnusable]
    | charset fault =>
      cases fault <;> simp [ofContent, ContentFault.MayEscape, Web.TextFault.IsUnusable]
  | _ => simp [ofContent, ContentFault.MayEscape]

theorem BindingFault.ofContent_ne_raised {e : Raised} : ofContent locator fault ≠ .raised e := by
  unfold ofContent
  split <;> simp

theorem ContentFault.mayEscape_address (fault : Address.Fault) :
    ContentFault.MayEscape (.web (.address fault)) := trivial

/-- A download fails on its own account or because of the web; only addresses go without a report. -/
theorem World.exists_address_of_download (h : (w.download locator).2 = .error fault)
    (hf : fault.MayEscape) : ∃ f, fault = .web (.address f) := by
  unfold World.download at h
  split at h
  · obtain rfl : _ = fault := by simpa using h
    exact hf.elim
  · obtain ⟨f, -, rfl⟩ := mapError_eq_error_iff.1 h
    cases f <;> simp_all [ContentFault.MayEscape]

theorem World.contentOf_eq_error_iff (hf : fault.MayEscape) : w.contentOf locator = .error fault ↔
    Locator.localPath locator = .ok none ∧ (w.download locator).2 = .error fault := by
  rw [World.contentOf]
  cases hpath : Locator.localPath locator with
  | error f =>
    have hne : ContentFault.locator f ≠ fault := by rintro rfl; exact hf
    simp [hne]
  | ok place =>
    cases place with
    | some path =>
      have hne : ∀ f, ContentFault.disk f ≠ fault := by rintro f rfl; exact hf
      simp [mapError_eq_error_iff, hne]
    | none => cases hd : (w.download locator).2 <;> simp [pure, Except.pure]

theorem World.textOf_eq_error_iff (hf : fault.MayEscape) : w.textOf locator = .error fault ↔
    Locator.localPath locator = .ok none ∧ ((w.download locator).2 = .error fault ∨
      ∃ answer f, (w.download locator).2 = .ok answer ∧
        Web.readText (answer.header? "content-type") answer.body = .error f ∧ fault = .text f) := by
  rw [World.textOf]
  cases hpath : Locator.localPath locator with
  | error f =>
    have hne : ContentFault.locator f ≠ fault := by rintro rfl; exact hf
    simp [hne]
  | ok place =>
    cases place with
    | some path =>
      have hdisk : ∀ f, ContentFault.disk f ≠ fault := by rintro f rfl; exact hf
      have hencoding : ∀ f, ContentFault.encoding f ≠ fault := by rintro f rfl; exact hf
      simp [andThen_eq_error_iff, mapError_eq_error_iff, hdisk, hencoding, pure, Except.pure]
    | none =>
      cases hd : (w.download locator).2 with
      | error f => simp
      | ok answer => simp [mapError_eq_error_iff, eq_comm (a := fault)]

end

/-! ### The value of one argument -/

namespace Scope

variable {s : Scope} {p : Parameter} {a : Argument} {text : String} {fault : ContentFault}
  {t : DeclaredType} {e : Raised}

theorem fileOf_eq_content_iff : s.fileOf t text = .error (.content fault) ↔
    Locator.localPath text = .ok none ∧ s.world.Escapes text .file fault := by
  have hname : ∀ f, BindingFault.ofContent text (.locator f) ≠ .content fault := fun f h =>
    (BindingFault.ofContent_eq_content_iff.1 h).2
  rw [fileOf, andThen_eq_error_iff, mapError_eq_error_iff]
  constructor
  · rintro (⟨f, hf, h⟩ | ⟨content, -, h⟩)
    · obtain ⟨rfl, hmay⟩ := BindingFault.ofContent_eq_content_iff.1 h
      obtain ⟨hremote, hdownload⟩ := (World.contentOf_eq_error_iff hmay).1 hf
      obtain ⟨g, rfl⟩ := World.exists_address_of_download hdownload hmay
      exact ⟨hremote, .address (.inl rfl) hdownload⟩
    · obtain h | ⟨name, -, h⟩ := andThen_eq_error_iff.1 h
      · obtain ⟨f, -, h⟩ := mapError_eq_error_iff.1 h
        exact (hname f h).elim
      · simp [mapError_eq_error_iff] at h
  · rintro ⟨hremote, hescapes⟩
    cases hescapes with
    | @address f _ h =>
      have hmay := ContentFault.mayEscape_address f
      exact .inl ⟨_, (World.contentOf_eq_error_iff hmay).2 ⟨hremote, h⟩,
        BindingFault.ofContent_eq_content_iff.2 ⟨rfl, hmay⟩⟩
    | charset hk => simp [Kind.IsStructured] at hk

theorem documentOf_eq_content_iff (hk : p.kind.IsStructured) :
    s.documentOf p.name a text = .error (.content fault) ↔
      a.form ≠ .document ∧ Locator.localPath text = .ok none ∧ s.world.Escapes text p.kind fault := by
  have hread : a.form ≠ .document → (s.documentOf p.name a text = .error (.content fault) ↔
      (s.world.textOf text).mapError (BindingFault.ofContent text) =
        .error (BindingFault.content fault)) := by
    intro hform
    unfold documentOf
    cases hf : a.form with
    | document => exact absurd hf hform
    | plain | reference =>
      cases (s.world.textOf text).mapError (BindingFault.ofContent text) with
      | error f => simp
      | ok points =>
        cases hpoints : textOf? points <;> simp [hpoints, pure, Except.pure, throw, throwThe,
          MonadExceptOf.throw]
  by_cases hform : a.form = .document
  · simp [documentOf, hform]
  rw [hread hform, mapError_eq_error_iff]
  simp only [BindingFault.ofContent_eq_content_iff]
  constructor
  · rintro ⟨f, hf, rfl, hmay⟩
    obtain ⟨hremote, h | ⟨answer, g, hanswer, hg, rfl⟩⟩ := (World.textOf_eq_error_iff hmay).1 hf
    · obtain ⟨g, rfl⟩ := World.exists_address_of_download h hmay
      exact ⟨hform, hremote, .address (.inr hk) h⟩
    · exact ⟨hform, hremote, .charset hk hanswer hg hmay⟩
  · rintro ⟨-, hremote, hescapes⟩
    cases hescapes with
    | @address f _ h =>
      have hmay := ContentFault.mayEscape_address f
      exact ⟨_, (World.textOf_eq_error_iff hmay).2 ⟨hremote, .inl h⟩, rfl, hmay⟩
    | @charset _ f _ h hg hfault =>
      have hmay : ContentFault.MayEscape (.text f) := hfault
      exact ⟨_, (World.textOf_eq_error_iff hmay).2 ⟨hremote, .inr ⟨_, _, h, hg, rfl⟩⟩, rfl, hmay⟩

/-- An argument is without a value and without a report exactly if what it asks for escapes. -/
theorem valueOf_eq_content_iff : s.valueOf p a = .error (.content fault) ↔ s.Escapes p a fault := by
  have hplain : p.kind = .text ∨ p.kind.IsScalar → ¬ s.Escapes p a fault := by
    rintro hk ⟨-, text, -, -, hescapes⟩
    have hasks : p.kind = .file ∨ p.kind.IsStructured := by
      cases hescapes with
      | address hk _ => exact hk
      | charset hk => exact .inr hk
    exact Kind.not_asks_of_takesText hk hasks
  cases htext : s.textOf a with
  | error f =>
    obtain ⟨-, rfl⟩ := exists_undefined htext
    rw [valueOf_of_textOf_error htext]
    refine iff_of_false (by simp) fun ⟨_, text, htext', _⟩ => ?_
    rw [htext] at htext'
    cases htext'
  | ok text =>
    have hescapes : s.Escapes p a fault ↔ a.form ≠ .document ∧ Locator.localPath text = .ok none ∧
        s.world.Escapes text p.kind fault := by
      constructor
      · rintro ⟨hform, text', htext', hremote, h⟩
        obtain rfl : text = text' := by simpa using htext.symm.trans htext'
        exact ⟨hform, hremote, h⟩
      · rintro ⟨hform, hremote, h⟩
        exact ⟨hform, text, htext, hremote, h⟩
    -- a text and a scalar ask for no content; a file and a document have one lemma each
    rcases p.kind.cases with hk | hk | hk | hk
    · rw [valueOf_text hk htext]
      simpa using hplain (.inl hk)
    · rw [valueOf_scalar hk htext, mapError_eq_error_iff]
      simpa using hplain (.inr hk)
    · rw [valueOf_file hk htext, hescapes, hk]
      by_cases hform : a.form = .document
      · simp [hform]
      · simp [hform, fileOf_eq_content_iff]
    · rw [valueOf_structured hk htext, hescapes, andThen_eq_error_iff, documentOf_eq_content_iff hk]
      have hmisfit : ∀ misfit, BindingFault.ofMisfit p.name misfit ≠ .content fault := by
        intro misfit
        cases misfit <;> simp [BindingFault.ofMisfit]
      simp [mapError_eq_error_iff, hmisfit]

/-! ### What types raise -/

/-- The type of the parameter raises something when it takes the argument: a file when it is made of its
content, or a document when it is checked. -/
inductive Raises (s : Scope) (p : Parameter) (a : Argument) (e : Raised) : Prop where
  | file {text name : String} {content : Bytes} (hk : p.kind = .file) (hform : a.form ≠ .document)
      (htext : s.textOf a = .ok text) (hcontent : s.world.contentOf text = .ok content)
      (hname : Locator.fileName text = .ok name) (h : p.type.makeFile content name = .error e)
  | document {text document : String} (hk : p.kind.IsStructured) (htext : s.textOf a = .ok text)
      (hdocument : s.documentOf p.name a text = .ok document)
      (h : p.documentType.read document = .error (.raised e))

theorem fileOf_eq_raised_iff : s.fileOf t text = .error (.raised e) ↔
    ∃ content name, s.world.contentOf text = .ok content ∧ Locator.fileName text = .ok name ∧
      t.makeFile content name = .error e := by
  rw [fileOf]
  simp only [andThen_eq_error_iff, mapError_eq_error_iff, mapError_eq_ok_iff, Function.comp_apply,
    BindingFault.ofContent_ne_raised, and_false, exists_false, false_or, BindingFault.raised.injEq,
    exists_eq_right, exists_and_left]

theorem documentOf_ne_raised : s.documentOf p.name a text ≠ .error (.raised e) := by
  unfold documentOf
  cases a.form with
  | document => simp
  | plain | reference =>
    refine andThen_ne_error (mapError_ne_error fun _ => BindingFault.ofContent_ne_raised)
      fun points => ?_
    cases textOf? points <;> simp [pure, Except.pure, throw, throwThe, MonadExceptOf.throw]

/-- An argument comes to what the module of a type raises exactly if the type raises it. -/
theorem valueOf_eq_raised_iff : s.valueOf p a = .error (.raised e) ↔ s.Raises p a e := by
  cases htext : s.textOf a with
  | error f =>
    obtain ⟨-, rfl⟩ := exists_undefined htext
    rw [valueOf_of_textOf_error htext]
    refine iff_of_false (by simp) fun h => ?_
    cases h with
    | file _ _ htext' => simp [htext] at htext'
    | document _ htext' => simp [htext] at htext'
  | ok text =>
    rcases p.kind.cases with hk | hk | hk | hk
    · rw [valueOf_text hk htext]
      refine iff_of_false (by simp) fun h => ?_
      cases h with
      | file hk' => simp [hk] at hk'
      | document hk' => simp [hk, Kind.IsStructured] at hk'
    · rw [valueOf_scalar hk htext]
      refine iff_of_false (by simp [mapError_eq_error_iff]) fun h => ?_
      have hasks : p.kind = .file ∨ p.kind.IsStructured := by
        cases h with
        | file hk' => exact .inl hk'
        | document hk' => exact .inr hk'
      exact Kind.not_asks_of_takesText (.inr hk) hasks
    · rw [valueOf_file hk htext]
      constructor
      · intro h
        split at h
        · cases h
        · next hform =>
          obtain ⟨content, name, hcontent, hname, hmade⟩ := fileOf_eq_raised_iff.1 h
          exact .file hk hform htext hcontent hname hmade
      · intro h
        cases h with
        | file _ hform htext' hcontent hname hmade =>
          obtain rfl := Except.ok.inj (htext.symm.trans htext')
          rw [if_neg hform]
          exact fileOf_eq_raised_iff.2 ⟨_, _, hcontent, hname, hmade⟩
        | document hk' => simp [hk, Kind.IsStructured] at hk'
    · rw [valueOf_structured hk htext, andThen_eq_error_iff]
      constructor
      · rintro (h | ⟨document, hdocument, h⟩)
        · exact absurd h documentOf_ne_raised
        · obtain ⟨misfit, hread, hmisfit⟩ := mapError_eq_error_iff.1 h
          cases misfit with
          | defects ds => simp [BindingFault.ofMisfit] at hmisfit
          | raised e' =>
            obtain rfl : e' = e := by simpa [BindingFault.ofMisfit] using hmisfit
            exact .document hk htext hdocument hread
      · intro h
        cases h with
        | file hk' => simp [hk', Kind.IsStructured] at hk
        | document _ htext' hdocument hread =>
          obtain rfl := Except.ok.inj (htext.symm.trans htext')
          exact .inr ⟨_, hdocument, by rw [hread]; rfl⟩

end Scope

/-! ### Binding -/

/-- Binding gives values, or a fault that is reported as one of an argument. -/
def Scope.BindsOrReports (s : Scope) (formals : List Formal) (arguments : List Argument) : Prop :=
  (∃ values, s.bind formals arguments = .ok values) ∨
    ∃ fault, s.bind formals arguments = .error fault ∧ fault.IsReported

theorem Scope.not_bindsOrReports_iff {s : Scope} {formals : List Formal}
    {arguments : List Argument} : ¬ s.BindsOrReports formals arguments ↔
      ∃ fault, s.bind formals arguments = .error fault ∧ ¬ fault.IsReported := by
  unfold Scope.BindsOrReports
  cases s.bind formals arguments <;> simp

/-- The argument has no value, and its fault is not reported as one of the argument. -/
def Scope.IsUnreported (s : Scope) (p : Parameter) (a : Argument) : Prop :=
  (∃ fault, s.Escapes p a fault) ∨ ∃ e, s.Raises p a e ∧ e.nature ≠ .binding

theorem Scope.isUnreported_iff {s : Scope} {p : Parameter} {a : Argument} : s.IsUnreported p a ↔
    ∃ fault, s.valueOf p a = .error fault ∧ ¬ fault.IsReported := by
  simp only [IsUnreported, ← valueOf_eq_content_iff, ← valueOf_eq_raised_iff]
  constructor
  · rintro (⟨fault, h⟩ | ⟨e, h, hnature⟩)
    · exact ⟨_, h, id⟩
    · exact ⟨_, h, hnature⟩
  · rintro ⟨fault, h, hfault⟩
    cases fault with
    | content fault => exact .inl ⟨fault, h⟩
    | raised e => exact .inr ⟨e, h, hfault⟩
    | _ => exact absurd trivial hfault

/-- Whatever the parameters, the arguments, the variables, the disk and the web are, binding gives
values or a fault that is reported as one of an argument, unless one of these happens: the first argument
without a value, in declared order, asks for content of the web at a text that is no web address, or for a
document of the web in a character set that cannot be used, or its type raises something else; or all
arguments have values, and making the one record of the call raises something else. -/
theorem binds_or_reports_iff (s : Scope) (formals : List Formal) (arguments : List Argument) :
    s.BindsOrReports formals arguments ↔
      (¬ ∃ before p a after bound, assign (visible formals) arguments = before ++ (p, some a) :: after ∧
        List.Forall₂ s.Evaluates before bound ∧ s.IsUnreported p a) ∧
      ¬ ∃ bound f e, List.Forall₂ s.Evaluates (assign (visible formals) arguments) bound ∧
        flattened? formals = some f ∧ f.type.makeRecord (namedValues bound) = .error e ∧
          e.nature ≠ .binding := by
  rw [← not_iff_not, Scope.not_bindsOrReports_iff, ← not_or, not_not]
  simp only [Scope.bind_eq_error_iff, Scope.isUnreported_iff, callValues_eq_error_iff]
  constructor
  · rintro ⟨fault, ⟨before, p, a, after, bound, hslots, hbound, ha⟩ | ⟨bound, hall, f, e, hf, he, rfl⟩,
      hfault⟩
    · exact .inl ⟨before, p, a, after, bound, hslots, hbound, fault, ha, hfault⟩
    · exact .inr ⟨bound, f, e, hall, hf, he, hfault⟩
  · rintro (⟨before, p, a, after, bound, hslots, hbound, fault, ha, hfault⟩ |
      ⟨bound, f, e, hall, hf, he, hfault⟩)
    · exact ⟨fault, .inl ⟨before, p, a, after, bound, hslots, hbound, ha⟩, hfault⟩
    · exact ⟨_, .inr ⟨bound, hall, f, e, hf, he, rfl⟩, hfault⟩

/-- One file. -/
def oneFile : List Formal := [.ofType "file" .content .required]

/-- The address of a host with a port that is no number. -/
def namedPort : Argument := ⟨.plain, "", "http://h:x/"⟩

theorem namedPort_escapes (formal : Parameter) (h : formal.kind = .file) :
    Scope.Escapes ⟨[], .bare⟩ formal namedPort (.web (.address (.port "x"))) where
  noDocument := by decide
  missing := ⟨"http://h:x/", rfl, by decide +kernel, .address (.inl h) (by decide +kernel)⟩

theorem namedPort_not_reported :
    Scope.bind ⟨[], .bare⟩ oneFile [namedPort] = .error (.content (.web (.address (.port "x")))) ∧
      ¬ Scope.BindsOrReports ⟨[], .bare⟩ oneFile [namedPort] := by
  have h : Scope.bind ⟨[], .bare⟩ oneFile [namedPort] =
      .error (.content (.web (.address (.port "x")))) :=
    Scope.bind_eq_error_iff.2 (.inl ⟨[], _, namedPort, [], [], rfl, .nil,
      Scope.valueOf_eq_content_iff.2 (namedPort_escapes _ rfl)⟩)
  exact ⟨h, Scope.not_bindsOrReports_iff.2 ⟨_, h, id⟩⟩

end OperatorConsole
