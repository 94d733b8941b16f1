import OperatorConsole.Proofs.Command.Grammar

/-!
Written commands. A command is written as its service, its verb and its arguments with a gap in front
of each; every value is written with its mark, so that any text can be the value of a literal. Main
result: however the gaps are chosen, reading a written command gives it back, and so it does for every
command that was itself read from a line.
-/
namespace OperatorConsole

/-- An argument can be written: its name is empty or an identifier, and so is the variable that it
refers to. -/
structure Argument.Writable (a : Argument) : Prop where
  name : a.name = "" ∨ Command.IsIdentifier a.name.toList
  value : a.form = .reference → Command.IsIdentifier a.value.toList

/-- A command can be written. -/
structure Command.Writable (c : Command) : Prop where
  service : IsIdentifier c.service.toList
  verb : IsIdentifier c.verb.toList
  arguments : ∀ a ∈ c.arguments, a.Writable

namespace Command

/-! ### Writing -/

/-- The text of an argument, with the blanks and the gap around its equals sign. -/
def writeArgument (a : Argument) (blanks gap : List Char) : List Char :=
  (if a.name = "" then [] else naming a.name.toList blanks gap) ++ mark a.form a.value.toList

/-- A text is written arguments, each behind a gap, and a gap at the end. -/
inductive WrittenArguments : List Argument → List Char → Prop
  | nil (gap : List Char) : (∀ c ∈ gap, isGap c = true) → WrittenArguments [] gap
  | cons (gap blanks joint : List Char) {a : Argument} {others : List Argument} {rest : List Char} :
      gap ≠ [] → (∀ c ∈ gap, isGap c = true) → (∀ c ∈ blanks, Text.isBlank c = true) →
      (∀ c ∈ joint, isGap c = true) → WrittenArguments others rest →
      WrittenArguments (a :: others) (gap ++ (writeArgument a blanks joint ++ rest))

/-- A text is a written command. -/
inductive Written (c : Command) : List Char → Prop
  | intro (gap : List Char) {arguments : List Char} : gap ≠ [] → (∀ d ∈ gap, isGap d = true) →
      WrittenArguments c.arguments arguments →
      Written c (c.service.toList ++ (gap ++ (c.verb.toList ++ arguments)))

/-- Writes arguments with one space in front of each. -/
def writeArguments : List Argument → List Char
  | [] => []
  | a :: others => [' '] ++ (writeArgument a [] [] ++ writeArguments others)

/-- Writes a command with one space in front of every token but the first. -/
def write (c : Command) : String :=
  String.ofList (c.service.toList ++ ([' '] ++ (c.verb.toList ++ writeArguments c.arguments)))

theorem writtenArguments_writeArguments : ∀ arguments : List Argument,
    WrittenArguments arguments (writeArguments arguments)
  | [] => .nil [] (by simp)
  | _ :: others => .cons [' '] [] [] (by simp) (List.all_eq_true.1 (by decide)) (by simp) (by simp)
      (writtenArguments_writeArguments others)

theorem written_write (c : Command) : Written c (write c).toList := by
  rw [write, String.toList_ofList]
  exact .intro [' '] (by simp) (List.all_eq_true.1 (by decide))
    (writtenArguments_writeArguments c.arguments)

/-! ### Written arguments as lexemes -/

/-- Every sign stands between gaps and words: it is no character of either. -/
theorem sign_class (form : Form) : isGap (sign form) = false ∧ Text.isWord (sign form) = false := by
  cases form <;> decide

theorem stops_mark {p : Char → Bool} {form : Form} (hp : p (sign form) = false)
    (value rest : List Char) : Stops p (mark form value ++ rest) := by
  intro c hc
  rw [List.head?_append, head?_mark, Option.some_or, Option.mem_some_iff] at hc
  rw [← hc]
  exact hp

/-- No name is joined to what begins with a sign. -/
theorem not_begins_isNaming_mark (form : Form) (value rest : List Char) :
    ¬ Begins IsNaming (mark form value ++ rest) := by
  rintro ⟨_, ⟨t, ht⟩, name, blanks, gap, hn, -, -, rfl⟩
  have hs : Stops Text.isWord (mark form value ++ rest) := stops_mark (sign_class form).2 value rest
  cases name with
  | nil => exact hn.elim
  | cons c cs =>
    rw [← ht, naming, List.cons_append, List.cons_append, stops_cons, hn.head.2] at hs
    exact absurd hs (by simp)

/-- A gap or the end goes on with no marked value. -/
theorem stops_goesOn {gap rest : List Char} (form : Form) (hg : ∀ c ∈ gap, isGap c = true)
    (hr : gap = [] → rest = []) : Stops (goesOn form) (gap ++ rest) := by
  cases gap with
  | nil => rw [hr rfl]; exact stops_nil _
  | cons c cs =>
    have hc : isGap c = true := hg c (by simp)
    rw [List.cons_append, stops_cons]
    cases form with
    | reference => exact isWord_eq_false_of_isGap hc
    | plain =>
      refine beq_eq_false_iff_ne.2 ?_
      rintro rfl
      exact absurd hc (by decide)
    | document =>
      refine beq_eq_false_iff_ne.2 ?_
      rintro rfl
      exact absurd hc (by decide)

theorem argumentAt_writeArgument {a : Argument} {blanks joint gap rest : List Char}
    (ha : a.Writable) (hb : ∀ c ∈ blanks, Text.isBlank c = true)
    (hj : ∀ c ∈ joint, isGap c = true) (hg : ∀ c ∈ gap, isGap c = true)
    (hr : gap = [] → rest = []) :
    ArgumentAt a (writeArgument a blanks joint) (gap ++ rest) := by
  have hmark : Markable a.form a.value.toList := by
    have hv := ha.value
    cases hf : a.form with
    | reference => exact hv hf
    | plain => trivial
    | document => trivial
  have hvalue : ValueAt a.form a.value.toList (mark a.form a.value.toList) (gap ++ rest) :=
    .marked hmark (longest_mark hmark (stops_goesOn a.form hg hr))
  have hne : mark a.form a.value.toList = [] → a.name ≠ "" ∧ gap ++ rest = [] :=
    fun h => absurd h (mark_ne_nil _ _)
  unfold writeArgument
  split
  · next hn =>
    refine .intro ?_ hvalue hne
    rw [hn]
    exact .positional (not_begins_isNaming_mark _ _ _)
  · next hn =>
    refine .intro ?_ hvalue hne
    exact .named (ha.name.resolve_left hn) hb hj (stops_mark (sign_class a.form).1 _ _)

/-- Written arguments are a gap and, behind it, a text of the grammar; without the gap they are
nothing. -/
theorem exists_argumentsAt {arguments : List Argument} {text : List Char}
    (h : WrittenArguments arguments text) (ha : ∀ a ∈ arguments, a.Writable) :
    ∃ gap rest, text = gap ++ rest ∧ (∀ c ∈ gap, isGap c = true) ∧ (gap = [] → rest = []) ∧
      Stops isGap rest ∧ ArgumentsAt arguments rest := by
  induction h with
  | nil gap hg => exact ⟨gap, [], by simp, hg, fun _ => rfl, stops_nil _, .nil⟩
  | @cons gap blanks joint a others rest hne hg hb hj _ ih =>
    obtain ⟨gap', rest', rfl, hg', hr', hs', hat⟩ := ih fun b hm => ha b (by simp [hm])
    have haw : a.Writable := ha a (by simp)
    refine ⟨gap, _, rfl, hg, fun h => absurd h hne, ?_,
      .cons (argumentAt_writeArgument haw hb hj hg' hr') hg' hs' hat⟩
    unfold writeArgument
    split
    · rw [List.nil_append]
      exact stops_mark (sign_class a.form).1 _ _
    · next hn =>
      rw [naming, List.append_assoc, List.append_assoc]
      exact stops_isGap_identifier (haw.name.resolve_left hn)

/-- A gap or the end goes on with no identifier. -/
theorem stops_isWord_gap {gap rest : List Char} (hg : ∀ c ∈ gap, isGap c = true)
    (hr : gap = [] → rest = []) : Stops Text.isWord (gap ++ rest) := stops_goesOn .reference hg hr

theorem commandAt_of_written {c : Command} {text : List Char} (hc : c.Writable)
    (h : Written c text) : CommandAt c text := by
  cases h with
  | intro gap hne hg hargs =>
    obtain ⟨gap', rest, rfl, hg', hr, hs, hat⟩ := exists_argumentsAt hargs hc.arguments
    exact .intro hc.service hg (stops_isWord_gap hg fun h => absurd h hne) hc.verb hg'
      (stops_isWord_gap hg' hr) hs hat

/-! ### What is read can be written -/

theorem NameAt.name_cases {name lexeme after : List Char} (h : NameAt name lexeme after) :
    name = [] ∨ IsIdentifier name := by
  cases h with
  | named hn => exact .inr hn
  | positional => exact .inl rfl

theorem ValueAt.markable {form : Form} {value lexeme after : List Char}
    (h : ValueAt form value lexeme after) : Markable form value := by
  cases h with
  | marked hv => exact hv
  | bare => trivial

theorem ArgumentAt.writable {a : Argument} {lexeme after : List Char}
    (h : ArgumentAt a lexeme after) : a.Writable := by
  cases h with
  | intro hname hvalue _ =>
    refine ⟨?_, fun hf => ?_⟩
    · rcases hname.name_cases with hn | hn
      · exact .inl (String.toList_inj.1 hn)
      · exact .inr hn
    · have hm := hvalue.markable
      rw [hf] at hm
      exact hm

theorem ArgumentsAt.writable {arguments : List Argument} {text : List Char}
    (h : ArgumentsAt arguments text) : ∀ a ∈ arguments, a.Writable := by
  induction h with
  | nil => simp
  | cons hat _ _ _ ih =>
    intro b hb
    rcases List.mem_cons.1 hb with rfl | hb
    · exact hat.writable
    · exact ih b hb

theorem CommandAt.writable {c : Command} {text : List Char} (h : CommandAt c text) :
    c.Writable := by
  cases h with
  | intro hservice _ _ hverb _ _ _ hargs => exact ⟨hservice, hverb, hargs.writable⟩

/-! ### The round trip -/

/-- A command that can be written is read back from each of its written forms, whatever the texts of
its literals and the gaps between its tokens. Every command that is read from a line can be written,
so that it is read back from each of its own. -/
theorem read_written :
    (∀ c line, Writable c → Written c line.toList → read line = .ok c) ∧
    (∀ l c, read l = .ok c → Writable c ∧ read (write c) = .ok c ∧
      ∀ line, Written c line.toList → read line = .ok c) := by
  have roundTrip : ∀ c line, Writable c → Written c line.toList → read line = .ok c :=
    fun c line hc h => read_of_commandAt (commandAt_of_written hc h)
  refine ⟨roundTrip, fun l c hl => ?_⟩
  have hc : Writable c := (read_eq_ok_iff.1 hl).writable
  exact ⟨hc, roundTrip c _ hc (written_write c), fun line h => roundTrip c line hc h⟩

/-- The command of `read_written_signs`: its values hold quotes, separators and what looks like a
name or a reference. -/
def signsCommand : Command := ⟨"user", "create", [
  ⟨.document, "", "it's ''"⟩, ⟨.plain, "étage", "a = \"b\"\n$x"⟩, ⟨.plain, "", ""⟩,
  ⟨.reference, "_id", "LastResponse"⟩]⟩

/-- A line that `signsCommand` is written as. -/
def signsLine : String :=
  "user == create 'it''s ''''' étage\t= =\"a = \"\"b\"\"\n$x\"= \"\" _id=$LastResponse =\n"

theorem read_written_signs : Writable signsCommand ∧ Written signsCommand signsLine.toList ∧
    read signsLine = .ok signsCommand := by
  have hc : Writable signsCommand := by
    refine ⟨by decide, by decide, ?_⟩
    intro a ha
    simp only [signsCommand, List.mem_cons, List.not_mem_nil, or_false] at ha
    rcases ha with rfl | rfl | rfl | rfl
    · exact ⟨.inl rfl, by simp⟩
    · exact ⟨.inr (by decide +kernel), by simp⟩
    · exact ⟨.inl rfl, by simp⟩
    · exact ⟨.inr (by decide), fun _ => by decide⟩
  have hgap : ∀ {gap : List Char}, gap.all isGap = true → ∀ c ∈ gap, isGap c = true :=
    List.all_eq_true.1
  have hblank : ∀ c ∈ ['\t'], Text.isBlank c = true := List.all_eq_true.1 (by decide)
  have hargs : WrittenArguments signsCommand.arguments _ :=
    .cons [' '] [] [] (by simp) (hgap rfl) (by simp) (by simp) <|
    .cons [' '] ['\t'] [' ', '='] (by simp) (hgap rfl) hblank (hgap rfl) <|
    .cons ['=', ' '] [] [] (by simp) (hgap rfl) (by simp) (by simp) <|
    .cons [' '] [] [] (by simp) (hgap rfl) (by simp) (by simp) <|
    .nil [' ', '=', '\n'] (hgap rfl)
  have hw := Written.intro [' ', '=', '=', ' '] (by simp) (hgap rfl) hargs
  have hl : Written signsCommand signsLine.toList :=
    Eq.mp (congrArg (Written signsCommand) (by decide +kernel)) hw
  exact ⟨hc, hl, read_written.1 _ _ hc hl⟩

end Command

end OperatorConsole
