import Mathlib.Data.List.Induction
import OperatorConsole.Proofs.Keyed
import OperatorConsole.Proofs.Steps
import OperatorConsole.Settings.Basic

/-!
Settings one by one. Of several assignments to a name the last one counts, and the first of several sources
that has a name counts. A setting has a value by the text that its sources give, or by what stands in
where they give none. All settings together have the values that they have one by one, and together
they report all that is wrong, each under the name of its setting.
-/
namespace OperatorConsole

/-! ### Assignments -/

namespace Assignments

/-- What a source says of a name that is in small letters: its last assignment to it, in whatever
letter case. -/
def said (source : List Assignment) (name : String) : Option (Option String) :=
  (source.filter fun a => String.ofList (Text.lower a.1.toList) == name).getLast?.map (·.2)

/-- What the first source that has a name says of it; it may have the name and give it nothing. -/
def firstSaid (sources : List (List Assignment)) (name : String) : Option String :=
  (sources.findSome? (said · name)).join

/-! ### Sources put together -/

theorem puts : Keyed.Puts (fun a : Assignment => a.1) fun a => put a.1 a.2 where
  nil _ := rfl
  cons a n rest := by
    rw [put]
    simp only [beq_iff_eq]

/-- Putting assignments one after another: of those to a name the last counts. -/
theorem lookup_foldl_put (fold : String → String) (name : String) (init source : List Assignment) :
    (source.foldl (fun known a => put (fold a.1) a.2 known) init).lookup name =
      ((source.filter fun a => fold a.1 == name).getLast?.map (·.2)).or (init.lookup name) := by
  induction source using List.reverseRecOn with
  | nil => rfl
  | append_singleton source a ih =>
    rw [List.foldl_append, List.foldl_cons, List.foldl_nil, puts.lookup_put (fold a.1, a.2), ih,
      List.filter_append]
    by_cases ha : name = fold a.1
    · simp [ha]
    · have hne : (fold a.1 == name) = false := by simpa using Ne.symm ha
      simp [ha, hne]

theorem nodup_foldl_put (fold : String → String) (source : List Assignment) :
    ((source.foldl (fun known a => put (fold a.1) a.2 known) []).map (·.1)).Nodup := by
  induction source using List.reverseRecOn with
  | nil => exact List.nodup_nil
  | append_singleton source a ih =>
    rw [List.foldl_append]
    exact puts.nodup_put (a := (fold a.1, a.2)) ih

/-- Where no name occurs twice, the last assignment to a name is the one that is looked up. -/
theorem getLast?_filter_eq_lookup {name : String} : ∀ {known : List Assignment},
    (known.map (·.1)).Nodup →
    (known.filter fun a => a.1 == name).getLast?.map (·.2) = known.lookup name
  | [], _ => rfl
  | (n, v) :: known, h => by
    rw [List.map_cons, List.nodup_cons] at h
    rw [Keyed.lookup_cons]
    by_cases hn : name = n
    · subst hn
      have hnone : (known.filter fun a => a.1 == name) = [] := by
        rw [List.filter_eq_nil_iff]
        intro a ha
        rw [beq_iff_eq]
        rintro rfl
        exact h.1 (List.mem_map.2 ⟨a, ha, rfl⟩)
      simp [hnone]
    · have hne : (n == name) = false := by simpa using Ne.symm hn
      rw [List.filter_cons, hne, if_neg hn, ← getLast?_filter_eq_lookup h.2]
      rfl

end Assignments

namespace Settings

open Assignments

theorem lookup_foldNames (source : List Assignment) (name : String) :
    (foldNames source).lookup name = said source name := by
  rw [foldNames, lookup_foldl_put fun n => String.ofList (Text.lower n.toList)]
  exact Option.or_none

theorem lookup_overlay_foldNames (upper lower : List Assignment) (name : String) :
    (overlay (foldNames upper) (foldNames lower)).lookup name =
      (said upper name).or (said lower name) := by
  rw [overlay, lookup_foldl_put fun n => n, getLast?_filter_eq_lookup, lookup_foldNames, lookup_foldNames]
  exact nodup_foldl_put (fun n => String.ofList (Text.lower n.toList)) upper

end Settings

/-! ### Settings -/

/-- The settings there are. -/
inductive Setting where
  | timeout
  | agent
  | shown
  | downloadDir
  | logLevel
  deriving DecidableEq, Repr

/-- What a failure reports. -/
def Settings.defectsOf {α : Type} : Except (List Defect) α → List Defect
  | .error ds => ds
  | .ok _ => []

namespace Settings

variable {α β γ : Type} {f : α → β → γ} {a : Except (List Defect) α} {b : Except (List Defect) β}

theorem together_eq_ok_iff {c : γ} :
    together f a b = .ok c ↔ ∃ x y, a = .ok x ∧ b = .ok y ∧ f x y = c := by
  cases a <;> cases b <;> simp [together]

theorem exists_together_eq_error_iff : (∃ ds, together f a b = .error ds) ↔
    (∃ ds, a = .error ds) ∨ ∃ ds, b = .error ds := by
  cases a <;> cases b <;> simp [together]

theorem defectsOf_together : defectsOf (together f a b) = defectsOf a ++ defectsOf b := by
  cases a <;> cases b <;> simp [together, defectsOf]

theorem eq_error_iff {ds : List Defect} : a = .error ds ↔ (∃ es, a = .error es) ∧ ds = defectsOf a := by
  cases a <;> simp [defectsOf, eq_comm]

end Settings

namespace Setting

open Settings Assignments

/-- All settings, in the order in which they are reported. -/
def all : List Setting := [.timeout, .agent, .shown, .downloadDir, .logLevel]

/-- The name of a setting. -/
def name : Setting → String
  | .timeout => "http_timeout_seconds"
  | .agent => "user_agent"
  | .shown => "print_max_chars"
  | .downloadDir => "download_dir"
  | .logLevel => "log_level"

/-- What a setting is. -/
abbrev Value : Setting → Type
  | .timeout => Binary
  | .agent | .logLevel => String
  | .shown => Int
  | .downloadDir => DiskPath

/-- A setting of all settings. -/
def of (s : Settings) : (x : Setting) → x.Value
  | .timeout => s.timeout
  | .agent => s.agent
  | .shown => s.shown
  | .downloadDir => s.downloadDir
  | .logLevel => s.logLevel

/-- The value that a text is read as. -/
def read : (x : Setting) → String → Except (List Defect) x.Value
  | .timeout => readTimeout
  | .agent | .logLevel => readName
  | .shown => readShown
  | .downloadDir => fun s => .ok (DiskPath.ofString s)

/-- The value where no source gives one. -/
def standIn (d : Disk) : (x : Setting) → Except DiskFault x.Value
  | .timeout => .ok (Binary.ofInt binary64 100)
  | .agent => .ok "apiconsole/0.1"
  | .shown => .ok (1200 : Int)
  | .downloadDir => d.homeDirectory
  | .logLevel => .ok "WARNING"

/-- The text that the sources give for a setting, if they give one. -/
def text? (sources : List (List Assignment)) (x : Setting) : Option String :=
  firstSaid sources (namespacePart ++ x.name)

/-- The setting has a value by its text, or by what stands in where there is none. -/
def Takes (d : Disk) (sources : List (List Assignment)) (x : Setting) (value : x.Value) : Prop :=
  match x.text? sources with
  | some text => x.read text = .ok value
  | none => x.standIn d = .ok value

/-- What is wrong with the text of a setting, under the name of the setting. -/
def defects (sources : List (List Assignment)) (x : Setting) : List Defect :=
  match (x.text? sources).map x.read with
  | some (.error ds) => ds.map fun d => { d with place := .name x.name :: d.place }
  | _ => []

/-- The text of the setting is no value of it. -/
def IsWrong (sources : List (List Assignment)) (x : Setting) : Prop :=
  ∃ text ds, x.text? sources = some text ∧ x.read text = .error ds

/-- The settings with these values. -/
def gather (value : (x : Setting) → x.Value) : Settings :=
  ⟨value .timeout, value .agent, value .shown, value .downloadDir, value .logLevel⟩

theorem of_gather (value : (x : Setting) → x.Value) (x : Setting) : x.of (gather value) = value x := by
  cases x <;> rfl

/-! ### One setting from its text -/

/-- A setting from its text, or the value that stands in. -/
def result (sources : List (List Assignment)) (x : Setting) (value : x.Value) :
    Except (List Defect) x.Value :=
  match x.text? sources with
  | some s => (x.read s).mapError fun ds => ds.map fun d => { d with place := .name x.name :: d.place }
  | none => .ok value

variable {d : Disk} {sources : List (List Assignment)} {x : Setting} {u value : x.Value}

theorem result_eq_ok_iff (hs : x.text? sources = none → x.standIn d = .ok u) :
    x.result sources u = .ok value ↔ x.Takes d sources value := by
  rw [result, Takes]
  cases ht : x.text? sources with
  | none => simp [hs ht]
  | some s => cases hr : x.read s <;> simp [hr]

theorem exists_result_eq_error_iff :
    (∃ ds, x.result sources u = .error ds) ↔ x.IsWrong sources := by
  rw [result, IsWrong]
  cases ht : x.text? sources with
  | none => simp
  | some s => cases hr : x.read s <;> simp [hr]

theorem defectsOf_result : defectsOf (x.result sources u) = x.defects sources := by
  rw [result, defects]
  cases ht : x.text? sources with
  | none => rfl
  | some s => cases hr : x.read s <;> simp [hr, defectsOf]

end Setting

namespace Settings

open Setting

variable {d : Disk} {s : Settings} {sources : List (List Assignment)}

/-! ### All settings -/

/-- All settings from their texts; `home` is the download directory that stands in. -/
theorem ofLookup_eq (sources : List (List Assignment)) (home : DiskPath) :
    ofLookup (fun name => Assignments.firstSaid sources (namespacePart ++ name)) home =
      together (fun (timeout, agent) (shown, logLevel) =>
          ⟨timeout, agent, shown, ((text? sources .downloadDir).map DiskPath.ofString).getD home, logLevel⟩)
        (together Prod.mk (result sources .timeout (Binary.ofInt binary64 100))
          (result sources .agent "apiconsole/0.1"))
        (together Prod.mk (result sources .shown (1200 : Int)) (result sources .logLevel "WARNING")) :=
  rfl

theorem takes_downloadDir_iff {home value : DiskPath}
    (hs : text? sources .downloadDir = none → d.homeDirectory = .ok home) :
    Setting.Takes d sources .downloadDir value ↔
      value = ((text? sources .downloadDir).map DiskPath.ofString).getD home := by
  unfold Setting.Takes
  cases ht : text? sources .downloadDir with
  | none => simp [standIn, hs ht, eq_comm]
  | some text => simp [Setting.read, eq_comm]

theorem ofLookup_eq_ok_iff {home : DiskPath}
    (hs : text? sources .downloadDir = none → d.homeDirectory = .ok home) :
    ofLookup (fun name => Assignments.firstSaid sources (namespacePart ++ name)) home = .ok s ↔
      ∀ x : Setting, x.Takes d sources (x.of s) := by
  rw [ofLookup_eq, together_eq_ok_iff]
  constructor
  · rintro ⟨⟨timeout, agent⟩, ⟨shown, logLevel⟩, hta, hsl, rfl⟩
    obtain ⟨_, _, ht, ha, hp⟩ := together_eq_ok_iff.1 hta
    cases hp
    obtain ⟨_, _, hn, hl, hp⟩ := together_eq_ok_iff.1 hsl
    cases hp
    intro x
    cases x with
    | timeout => exact (result_eq_ok_iff fun _ => rfl).1 ht
    | agent => exact (result_eq_ok_iff fun _ => rfl).1 ha
    | shown => exact (result_eq_ok_iff fun _ => rfl).1 hn
    | downloadDir => exact (takes_downloadDir_iff hs).2 rfl
    | logLevel => exact (result_eq_ok_iff fun _ => rfl).1 hl
  · intro h
    have ht := (result_eq_ok_iff (u := Binary.ofInt binary64 100) fun _ => rfl).2 (h .timeout)
    have ha := (result_eq_ok_iff (u := "apiconsole/0.1") fun _ => rfl).2 (h .agent)
    have hn := (result_eq_ok_iff (u := (1200 : Int)) fun _ => rfl).2 (h .shown)
    have hl := (result_eq_ok_iff (u := "WARNING") fun _ => rfl).2 (h .logLevel)
    have hd := (takes_downloadDir_iff hs).1 (h .downloadDir)
    refine ⟨(s.timeout, s.agent), (s.shown, s.logLevel), ?_, ?_, ?_⟩
    · exact together_eq_ok_iff.2 ⟨_, _, ht, ha, rfl⟩
    · exact together_eq_ok_iff.2 ⟨_, _, hn, hl, rfl⟩
    · rw [← hd]
      rfl

theorem ofLookup_eq_error_iff {home : DiskPath} {ds : List Defect} :
    ofLookup (fun name => Assignments.firstSaid sources (namespacePart ++ name)) home = .error ds ↔
      (∃ x : Setting, x.IsWrong sources) ∧ ds = Setting.all.flatMap (·.defects sources) := by
  rw [ofLookup_eq, eq_error_iff]
  simp only [exists_together_eq_error_iff, exists_result_eq_error_iff, defectsOf_together]
  refine and_congr ⟨?_, ?_⟩ ?_
  · rintro ((h | h) | h | h) <;> exact ⟨_, h⟩
  · rintro ⟨x, h⟩
    cases x with
    | timeout => exact .inl (.inl h)
    | agent => exact .inl (.inr h)
    | shown => exact .inr (.inl h)
    | downloadDir =>
      obtain ⟨text, ds, -, h⟩ := h
      cases h
    | logLevel => exact .inr (.inr h)
  · have hd : Setting.defects sources .downloadDir = [] := by
      rw [Setting.defects]
      cases text? sources .downloadDir <;> rfl
    rw [defectsOf_result (x := .timeout), defectsOf_result (x := .agent),
      defectsOf_result (x := .shown), defectsOf_result (x := .logLevel)]
    simp [Setting.all, hd]

end Settings

end OperatorConsole
