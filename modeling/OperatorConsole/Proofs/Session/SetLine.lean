import OperatorConsole.Proofs.Command.Written
import OperatorConsole.Proofs.Session.Writing

/-!
The lines that an operator types to set variables. A value is typed behind the name of its variable and
an equals sign, as a literal or as a reference to another variable; a name alone undefines the variable.
Whatever text a literal stands for, the line is read as this one argument.
-/
namespace OperatorConsole

/-! ### Words -/

namespace Text

theorem words_eq (cs : List Char) : words cs =
    let (word, found) := cs.foldr wordStep ([], [])
    if word.isEmpty then found else word :: found := rfl

theorem foldr_wordStep_run {word : List Char} {rest : List Char} {found : List (List Char)}
    (hrest : rest.foldr wordStep ([], []) = ([], found)) (h : ∀ c ∈ word, isBlank c = false) :
    (word ++ rest).foldr wordStep ([], []) = (word, found) := by
  induction word with
  | nil => exact hrest
  | cons c word ih =>
    rw [List.cons_append, List.foldr_cons, ih fun d hd => h d (List.mem_cons_of_mem c hd), wordStep,
      h c List.mem_cons_self]
    rfl

/-- The first word of a text reaches to the first blank. -/
theorem words_append {word rest : List Char} {blank : Char} (hne : word ≠ [])
    (h : ∀ c ∈ word, isBlank c = false) (hblank : isBlank blank = true) :
    words (word ++ blank :: rest) = word :: words rest := by
  have hrest : (blank :: rest).foldr wordStep ([], []) = ([], words rest) := by
    rw [List.foldr_cons, words_eq, wordStep, if_pos hblank]
  rw [words_eq, foldr_wordStep_run hrest h]
  simp [hne]

end Text

/-! ### Identifiers -/

namespace Command

theorem IsIdentifier.not_blank {cs : List Char} (h : IsIdentifier cs) :
    ∀ c ∈ cs, Text.isBlank c = false := fun c hc => by
  by_contra hb
  have hword := h.isWord c hc
  rw [isWord_eq_false_of_isBlank (by simpa using hb)] at hword
  cases hword

/-- An identifier at the end of a line is an argument without a name. -/
theorem argumentAt_identifier {name : String} (h : IsIdentifier name.toList) :
    ArgumentAt ⟨.plain, "", name⟩ ([] ++ name.toList) [] := by
  have hword : ∀ lexeme : List Char, lexeme <+: name.toList → ∀ c ∈ lexeme, Text.isWord c = true :=
    fun lexeme hp c hc => h.isWord c (hp.subset hc)
  have hname : ¬ Begins IsNaming (name.toList ++ []) := by
    rw [List.append_nil]
    rintro ⟨_, hp, n, blanks, gap, -, -, -, rfl⟩
    exact absurd (hword _ hp '=' (by simp [naming])) (by decide)
  have hmark : ¬ Begins IsMarked (name.toList ++ []) := by
    rw [List.append_nil]
    rintro ⟨_, hp, form, value, -, rfl⟩
    have hsign : sign form ∈ mark form value := List.mem_of_mem_head? (head?_mark form value)
    exact absurd (hword _ hp _ hsign) (by simp [(sign_class form).2])
  exact .intro (.positional hname) (.bare hmark h.not_blank (stops_nil _)) fun hnil =>
    absurd hnil h.ne_nil

end Command

/-! ### Lines -/

namespace Shell

open Command (IsIdentifier)

theorem firstWord?_of_toList {line : String} (rest : List Char)
    (h : line.toList = "set".toList ++ ' ' :: rest) : firstWord? line = some "set" := by
  have hset : IsIdentifier "set".toList := by decide
  rw [firstWord?, h, Text.words_append hset.ne_nil hset.not_blank (by decide)]
  rfl

theorem firstWord?_set (rest : String) : firstWord? ("set var " ++ rest) = some "set" :=
  firstWord?_of_toList ("var ".toList ++ rest.toList) (by simp)

/-- The line that sets what a verb names by one argument. -/
def setLine (verb : String) (a : Argument) : String := Command.write ⟨"set", verb, [a]⟩

example : setLine "downloaddir" ⟨.reference, "", "x"⟩ = "set downloaddir $x" := by decide

theorem firstWord?_setLine (verb : String) (a : Argument) :
    firstWord? (setLine verb a) = some "set" :=
  firstWord?_of_toList (verb.toList ++ Command.writeArguments [a])
    (by simp [setLine, Command.write])

theorem read_setLine {verb : String} {a : Argument} (hverb : IsIdentifier verb.toList)
    (ha : a.Writable) : Command.read (setLine verb a) = .ok ⟨"set", verb, [a]⟩ := by
  have hset : IsIdentifier "set".toList := by decide
  have hwritable : Command.Writable ⟨"set", verb, [a]⟩ :=
    ⟨hset, hverb, fun b hb => List.mem_singleton.1 hb ▸ ha⟩
  exact Command.read_of_commandAt (Command.commandAt_of_written hwritable (Command.written_write _))

/-- The line that gives a variable a value: a literal between quotes of its own kind, in which these
quotes are doubled, or the value of the variable that a reference names. -/
def assignment (form : Form) (name value : String) : String :=
  "set var " ++ (name ++ "=" ++ String.ofList (Command.mark form value.toList))

/-- The line that undefines a variable. -/
def undefinition (name : String) : String := "set var " ++ name

example : assignment .document "x" "it's" = "set var x='it''s'" := by decide

example : assignment .reference "x" "y" = "set var x=$y" := by decide

variable {form : Form} {name value : String}

theorem name_ne_empty (h : IsIdentifier name.toList) : name ≠ "" := by
  rintro rfl
  exact h

theorem read_assignment (hname : IsIdentifier name.toList)
    (hvalue : form = .reference → IsIdentifier value.toList) :
    Command.read (assignment form name value) = .ok ⟨"set", "var", [⟨form, name, value⟩]⟩ := by
  have hline : setLine "var" ⟨form, name, value⟩ = assignment form name value := by
    rw [← String.toList_inj]
    simp [setLine, Command.write, Command.writeArguments, Command.writeArgument, Command.naming,
      assignment, name_ne_empty hname]
  rw [← hline]
  exact read_setLine (by decide) ⟨.inr hname, hvalue⟩

theorem read_undefinition (h : IsIdentifier name.toList) :
    Command.read (undefinition name) = .ok ⟨"set", "var", [⟨.plain, "", name⟩]⟩ := by
  have hgap : ∀ d ∈ [' '], Command.isGap d = true := List.all_eq_true.1 (by decide)
  have harguments : Command.ArgumentsAt [⟨.plain, "", name⟩] (name.toList ++ ([] ++ [])) :=
    .cons (Command.argumentAt_identifier h) (by simp) (Command.stops_nil _) .nil
  have hset : IsIdentifier "set".toList := by decide
  have hvar : IsIdentifier "var".toList := by decide
  refine Command.read_of_commandAt ?_
  have hline : (undefinition name).toList =
      "set".toList ++ ([' '] ++ ("var".toList ++ ([' '] ++ (name.toList ++ ([] ++ []))))) := by
    simp [undefinition]
  rw [hline]
  refine .intro hset hgap ?_ hvar hgap ?_ ?_ harguments
  · rw [List.singleton_append, Command.stops_cons]
    decide
  · rw [List.singleton_append, Command.stops_cons]
    decide
  · exact Command.stops_isGap_identifier h

theorem setsBy_assignment (hname : IsIdentifier name.toList)
    (hvalue : form = .reference → IsIdentifier value.toList) :
    SetsBy (assignment form name value) ⟨form, name, value⟩ :=
  ⟨firstWord?_set _, "set", read_assignment hname hvalue⟩

theorem setsBy_undefinition (h : IsIdentifier name.toList) :
    SetsBy (undefinition name) ⟨.plain, "", name⟩ :=
  ⟨firstWord?_set _, "set", read_undefinition h⟩

end Shell

end OperatorConsole
