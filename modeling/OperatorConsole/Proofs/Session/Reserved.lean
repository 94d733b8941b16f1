import Mathlib.Data.List.Induction
import OperatorConsole.Proofs.Argument.Value
import OperatorConsole.Proofs.Session.SetLine
import OperatorConsole.Session.Run

/-!
The reserved variables over a run. They are defined when a shell begins, and taking a response defines
them all again. Nothing protects them: a line that undefines one of them does so, and it stays undefined
until a response is taken or it is set. Main result: after any lines these are the only ways in which a
reserved variable can be undefined, so that a reference to it fails exactly then.
-/
namespace OperatorConsole.Shell

/-! ### Runs of lines -/

/-- The state after lines that a shell carries out from its beginning. -/
def stateAfter (sh : Shell) (p : Policy) (state : ShellState) (lines : List String) : ShellState :=
  lines.foldl (fun st line => ((sh.perform p line).runFrom ⟨st, [], []⟩).2.state) (started state)

/-- The line makes sure that a reserved variable is defined: it gives a response, or it gives this
variable a value. -/
def Restores (sh : Shell) (state : ShellState) (line name : String) : Prop :=
  (∃ r w, sh.Answers state line r w) ∨ ∃ value, Sets state line name value

section

variable {sh : Shell} {p : Policy} {state : ShellState} {name line : String} {lines : List String}

theorem stateAfter_nil : sh.stateAfter p state [] = started state := rfl

theorem stateAfter_concat : sh.stateAfter p state (lines ++ [line]) =
    (sh.handle (sh.stateAfter p state lines) line).state := by
  rw [stateAfter, List.foldl_append, List.foldl_cons, List.foldl_nil, perform_state]
  rfl

/-! ### One line -/

theorem value?_started (h : name ∈ reserved) : (started state).session.value? name = some "" := by
  rw [started, Session.value?_clearLast, if_pos h]

theorem value?_define_ne_none {s : Session} {other value : String} (h : s.value? name ≠ none) :
    (s.define other value).value? name ≠ none := by
  rw [Session.value?_define]
  split
  · simp
  · exact h

/-- Once a response is taken, all reserved variables are defined. -/
theorem value?_takeResponse_ne_none {r : Response} (h : name ∈ reserved) :
    (sh.takeResponse state r).state.session.value? name ≠ none := by
  have hnoted : (noteStatus state.session r).value? name ≠ none := by
    rw [noteStatus_value?, if_pos h]
    split <;> simp
  obtain htaken | ⟨other, -, value, htaken⟩ := takeResponse_session sh state r
  · rwa [htaken]
  · rw [htaken]
    exact value?_define_ne_none hnoted

/-- A line that undefines a variable restores none. -/
theorem Undefines.not_restores {other : String} (h : Undefines line name) :
    ¬ sh.Restores state line other := by
  rintro (⟨r, w, hanswers⟩ | ⟨value, hsets⟩)
  · obtain ⟨a, ha, -, -⟩ := h
    exact ha.not_answers hanswers
  · exact h.not_sets hsets

theorem Undefines.unique {other : String} (h : Undefines line name) (h' : Undefines line other) :
    name = other := by
  obtain ⟨a, ha, -, rfl⟩ := h
  obtain ⟨b, hb, -, rfl⟩ := h'
  rw [ha.unique hb]

theorem Sets.unique {other value value' : String} (h : Sets state line name value)
    (h' : Sets state line other value') : name = other := by
  obtain ⟨a, ha, rfl, -⟩ := h
  obtain ⟨b, hb, rfl, -⟩ := h'
  rw [ha.unique hb]

theorem Sets.not_answers {value : String} {r : Response} {w : World}
    (h : Sets state line name value) : ¬ sh.Answers state line r w := by
  obtain ⟨a, ha, -⟩ := h
  exact ha.not_answers

/-- After a line a reserved variable is undefined if it was so before or the line undefines it, and the
line does not restore it. -/
theorem handle_undefined_iff (h : name ∈ reserved) :
    (sh.handle state line).state.session.value? name = none ↔
      ¬ sh.Restores state line name ∧ (state.session.value? name = none ∨ Undefines line name) := by
  have hwrites := handle_writes sh state line
  generalize (sh.handle state line).state.session = s at hwrites ⊢
  cases hwrites with
  | @set other value hset =>
    have hnot : ¬ Undefines line name := fun hu => hu.not_sets hset
    rw [Session.value?_define]
    by_cases hname : name = other
    · have hrestores : sh.Restores state line name := .inr ⟨value, hname ▸ hset⟩
      simp [hname ▸ hrestores, hname]
    · have hrestores : ¬ sh.Restores state line name := by
        rintro (⟨r, w, hr⟩ | ⟨value', hset'⟩)
        · exact hset.not_answers hr
        · exact hname (hset'.unique hset)
      simp [hname, hrestores, hnot]
  | @undefined other hundefined =>
    have hiff : Undefines line name ↔ name = other :=
      ⟨fun hu => hu.unique hundefined, fun hname => hname ▸ hundefined⟩
    rw [Session.value?_undefine, hiff]
    by_cases hname : name = other <;> simp [hname, hundefined.not_restores]
  | answered hanswers =>
    have hrestores : sh.Restores state line name := .inl ⟨_, _, hanswers⟩
    simp [value?_takeResponse_ne_none h, hrestores]
  | nothing hset hundefined hanswered hvars =>
    have hrestores : ¬ sh.Restores state line name := by
      rintro (⟨r, w, hr⟩ | ⟨value, hv⟩)
      · exact hanswered r w hr
      · exact hset name value hv
    simp [Session.value?, hvars, hrestores, hundefined name]

/-! ### Runs -/

/-- A line undefined the variable, and none after it restored the variable. -/
def LeftUndefined (sh : Shell) (p : Policy) (state : ShellState) (lines : List String)
    (name : String) : Prop :=
  ∃ i line, lines[i]? = some line ∧ Undefines line name ∧ ∀ j later, i < j →
    lines[j]? = some later → ¬ sh.Restores (sh.stateAfter p state (lines.take j)) later name

theorem leftUndefined_concat : sh.LeftUndefined p state (lines ++ [line]) name ↔
    ¬ sh.Restores (sh.stateAfter p state lines) line name ∧
      (sh.LeftUndefined p state lines name ∨ Undefines line name) := by
  have hlast : (lines ++ [line])[lines.length]? = some line := by simp
  have htake : (lines ++ [line]).take lines.length = lines := by simp
  constructor
  · rintro ⟨i, undefining, hi, hundefines, hlater⟩
    rcases Nat.lt_trichotomy i lines.length with hlt | rfl | hgt
    · have hrest := hlater lines.length line hlt hlast
      rw [htake] at hrest
      refine ⟨hrest, .inl ⟨i, undefining, ?_, hundefines, fun j later hij hj => ?_⟩⟩
      · rwa [List.getElem?_append_left hlt] at hi
      · have hjl : j < lines.length := (List.getElem?_eq_some_iff.1 hj).1
        have hnot := hlater j later hij (by rwa [List.getElem?_append_left hjl])
        rwa [List.take_append_of_le_length (Nat.le_of_lt hjl)] at hnot
    · obtain rfl : line = undefining := by simpa [hlast] using hi
      exact ⟨hundefines.not_restores, .inr hundefines⟩
    · have hi' := (List.getElem?_eq_some_iff.1 hi).1
      simp only [List.length_append, List.length_singleton] at hi'
      omega
  · rintro ⟨hrest, ⟨i, undefining, hi, hundefines, hlater⟩ | hundefines⟩
    · have hil : i < lines.length := (List.getElem?_eq_some_iff.1 hi).1
      refine ⟨i, undefining, by rwa [List.getElem?_append_left hil], hundefines,
        fun j later hij hj => ?_⟩
      rcases Nat.lt_or_ge j lines.length with hjl | hjl
      · rw [List.take_append_of_le_length (Nat.le_of_lt hjl)]
        exact hlater j later hij (by rwa [List.getElem?_append_left hjl] at hj)
      · have hj' := (List.getElem?_eq_some_iff.1 hj).1
        simp only [List.length_append, List.length_singleton] at hj'
        obtain rfl : j = lines.length := by omega
        obtain rfl : line = later := by simpa [hlast] using hj
        rwa [htake]
    · refine ⟨lines.length, line, hlast, hundefines, fun j later hij hj => ?_⟩
      have hj' := (List.getElem?_eq_some_iff.1 hj).1
      simp only [List.length_append, List.length_singleton] at hj'
      omega

theorem stateAfter_undefined_iff (h : name ∈ reserved) :
    (sh.stateAfter p state lines).session.value? name = none ↔
      sh.LeftUndefined p state lines name := by
  induction lines using List.reverseRecOn with
  | nil =>
    rw [stateAfter_nil, value?_started h]
    simp [LeftUndefined]
  | append_singleton lines line ih =>
    rw [stateAfter_concat, handle_undefined_iff h, leftUndefined_concat, ih]

/-- After any lines from the beginning of a shell, a reserved variable is undefined exactly if one of
them undefined it and no later one restored it. This is also when a reference to it fails as undefined,
wherever the reference stands. -/
theorem reserved_undefined_iff (sh : Shell) (p : Policy) (state : ShellState) (lines : List String)
    (h : name ∈ reserved) :
    ((sh.stateAfter p state lines).session.vars.has name = false ↔
      sh.LeftUndefined p state lines name) ∧
    ∀ (w : World) (a : Argument), a.form = .reference → a.value = name →
      (Scope.textOf ⟨(sh.stateAfter p state lines).session.vars, w⟩ a = .error (.undefined name) ↔
        sh.LeftUndefined p state lines name) := by
  have hundefined : (sh.stateAfter p state lines).session.value? name = none ↔
      sh.LeftUndefined p state lines name := stateAfter_undefined_iff h
  generalize (sh.stateAfter p state lines).session = s at hundefined ⊢
  rw [← hundefined]
  constructor
  · rw [Variables.has, ← Keyed.isSome_lookup, Option.isSome_eq_false_iff, Option.isNone_iff_eq_none]
    rfl
  · rintro w a hform rfl
    cases hlookup : s.vars.lookup a.value with
    | none =>
      rw [Scope.textOf_of_lookup_none hform hlookup]
      exact iff_of_true rfl hlookup
    | some text =>
      rw [Scope.textOf_of_lookup hform hlookup, Session.value?, hlookup]
      simp

theorem reserved_undefined_iff_cleared : lastResponse ∈ reserved ∧
    ((pictureShell.stateAfter .printing pictureState [undefinition lastResponse]).session.vars.has
        lastResponse = false ↔
      pictureShell.LeftUndefined .printing pictureState [undefinition lastResponse] lastResponse) ∧
    pictureShell.LeftUndefined .printing pictureState [undefinition lastResponse] lastResponse := by
  have h : lastResponse ∈ reserved := by decide
  have hname : Command.IsIdentifier lastResponse.toList := by decide
  refine ⟨h, (reserved_undefined_iff pictureShell .printing pictureState _ h).1, 0, _, rfl,
    ⟨_, setsBy_undefinition hname, rfl, rfl⟩, fun j later hj hlater => ?_⟩
  rw [List.getElem?_eq_none (Nat.succ_le_of_lt hj)] at hlater
  cases hlater

/-- A single line makes a reserved variable undefined. -/
theorem reserved_not_always_defined : ¬ ∀ (sh : Shell) (p : Policy) (state : ShellState)
    (lines : List String), ∀ name ∈ reserved,
    (sh.stateAfter p state lines).session.vars.has name = true := by
  intro hall
  have h : lastResponse ∈ reserved := by decide
  have hname : Command.IsIdentifier lastResponse.toList := by decide
  have hundefines : Undefines (undefinition lastResponse) lastResponse :=
    ⟨_, setsBy_undefinition hname, rfl, rfl⟩
  have hhas := hall pictureShell .printing pictureState [undefinition lastResponse] lastResponse h
  have hnone : (pictureShell.stateAfter .printing pictureState [undefinition lastResponse]
      ).session.value? lastResponse = none := by
    rw [← List.nil_append [undefinition lastResponse], stateAfter_concat, handle_undefined_iff h]
    exact ⟨hundefines.not_restores, .inr hundefines⟩
  rw [Variables.has, ← Keyed.isSome_lookup] at hhas
  rw [Session.value?] at hnone
  simp [hnone] at hhas

end

end OperatorConsole.Shell
