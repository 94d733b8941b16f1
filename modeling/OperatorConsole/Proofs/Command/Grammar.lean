import OperatorConsole.Proofs.Command.Lexeme

/-!
The grammar of lines. A line is a command when it is the service, a gap, the verb, a gap, and the
lexemes of the arguments with a gap behind each; every lexeme is in front of what follows it what
`ArgumentAt` says. Main result: reading a line gives the command whose text the line is, and fails
exactly where the service or the verb is no identifier.
-/
namespace OperatorConsole.Command

/-! ### Arguments -/

/-- A text is the lexemes of arguments, each with the whole gap behind it. -/
inductive ArgumentsAt : List Argument → List Char → Prop
  | nil : ArgumentsAt [] []
  | cons {a : Argument} {others : List Argument} {lexeme gap rest : List Char} :
      ArgumentAt a lexeme (gap ++ rest) → (∀ c ∈ gap, isGap c = true) → Stops isGap rest →
      ArgumentsAt others rest → ArgumentsAt (a :: others) (lexeme ++ (gap ++ rest))

theorem ArgumentAt.append_ne_nil {a : Argument} {lexeme after : List Char}
    (h : ArgumentAt a lexeme after) : lexeme ++ after ≠ [] := by
  cases h with
  | @intro name value _ hname hvalue hempty =>
    intro hnil
    obtain ⟨rfl, rfl, rfl⟩ : name = [] ∧ value = [] ∧ after = [] := by simpa using hnil
    have hn := takeName_append hname
    refine (hempty rfl).1 (String.toList_inj.1 ?_)
    rw [show takeName ([] ++ ([] ++ [])) = ([], []) from rfl] at hn
    exact (Prod.mk.inj hn).1.symm

/-- Reading takes the text apart as the grammar puts it together. -/
theorem argumentsAt_readArguments (cs : List Char) (hs : Stops isGap cs) :
    ArgumentsAt (readArguments cs) cs := by
  fun_induction readArguments cs with
  | case1 => exact .nil
  | case2 cs hne ih =>
    obtain ⟨lexeme, gap, hcs, hg, hstop, hat⟩ := argumentAt_takeArgument hne hs
    have hrest := ih hstop
    conv => rhs; rw [hcs]
    exact .cons hat hg hstop hrest

theorem readArguments_of_argumentsAt {arguments : List Argument} {cs : List Char}
    (h : ArgumentsAt arguments cs) : readArguments cs = arguments := by
  induction h with
  | nil => rw [readArguments, dif_pos rfl]
  | cons hat hg hs _ ih =>
    rw [readArguments, dif_neg hat.append_ne_nil, takeArgument_append hat hg hs, ih]

/-! ### Commands -/

/-- What follows the longest identifier at the start of a line, without the gap behind it. -/
def AfterService (line service rest : List Char) : Prop :=
  ∃ after, line = service ++ after ∧ Longest IsIdentifier line service ∧ rest = after.dropWhile isGap

/-- A line is the text of a command. -/
inductive CommandAt (c : Command) : List Char → Prop
  | intro {gap₁ gap₂ arguments : List Char} :
      IsIdentifier c.service.toList → (∀ d ∈ gap₁, isGap d = true) →
      Stops Text.isWord (gap₁ ++ (c.verb.toList ++ (gap₂ ++ arguments))) →
      IsIdentifier c.verb.toList → (∀ d ∈ gap₂, isGap d = true) →
      Stops Text.isWord (gap₂ ++ arguments) → Stops isGap arguments →
      ArgumentsAt c.arguments arguments →
      CommandAt c (c.service.toList ++ (gap₁ ++ (c.verb.toList ++ (gap₂ ++ arguments))))

theorem takeIdentifier_append {name gap rest : List Char} (hn : IsIdentifier name)
    (hw : Stops Text.isWord (gap ++ rest)) (hg : ∀ c ∈ gap, isGap c = true)
    (hs : Stops isGap rest) : takeIdentifier (name ++ (gap ++ rest)) = (name, rest) := by
  rw [takeIdentifier, identifier_append hn hw, List.drop_left]
  exact Prod.ext rfl (dropWhile_run hg hs)

/-- No identifier begins with a character of a gap. -/
theorem stops_isGap_identifier {name rest : List Char} (hn : IsIdentifier name) :
    Stops isGap (name ++ rest) := by
  cases name with
  | nil => exact hn.elim
  | cons c cs =>
    rw [List.cons_append, stops_cons, Bool.eq_false_iff]
    intro hg
    exact absurd hn.head.2 (by rw [isWord_eq_false_of_isGap hg]; simp)

theorem read_of_commandAt {c : Command} {line : String} (h : CommandAt c line.toList) :
    read line = .ok c := by
  generalize hl : line.toList = cs at h
  cases h with
  | intro hservice hg₁ hw₁ hverb hg₂ hw₂ hs hargs =>
    rw [read, hl, takeIdentifier_append hservice hw₁ hg₁ (stops_isGap_identifier hverb)]
    simp only [List.isEmpty_iff, hservice.ne_nil, if_false]
    rw [takeIdentifier_append hverb hw₂ hg₂ hs]
    simp only [hverb.ne_nil, if_false, readArguments_of_argumentsAt hargs, String.ofList_toList]

/-- What is read in front of a gap is a longest identifier. -/
theorem exists_takeIdentifier {cs : List Char} (h : (takeIdentifier cs).1 ≠ []) :
    ∃ gap, cs = (takeIdentifier cs).1 ++ (gap ++ (takeIdentifier cs).2) ∧
      IsIdentifier (takeIdentifier cs).1 ∧ (∀ c ∈ gap, isGap c = true) ∧
      Stops Text.isWord (gap ++ (takeIdentifier cs).2) ∧ Stops isGap (takeIdentifier cs).2 := by
  obtain ⟨gap, hgap, hall, hs⟩ := exists_gap (cs.drop (identifier cs).length)
  have hi := isIdentifier_of_identifier_ne_nil h
  refine ⟨gap, ?_, hi.1, hall, ?_, hs⟩
  · change cs = identifier cs ++ (gap ++ skipGap _)
    rw [← hgap]
    exact (identifier_append_drop cs).symm
  · change Stops Text.isWord (gap ++ skipGap _)
    rw [← hgap]
    exact hi.2

theorem afterService_append {service gap rest : List Char} (hi : IsIdentifier service)
    (hg : ∀ c ∈ gap, isGap c = true) (hw : Stops Text.isWord (gap ++ rest)) (hs : Stops isGap rest) :
    AfterService (service ++ (gap ++ rest)) service rest :=
  ⟨gap ++ rest, rfl, ⟨List.prefix_append _ _, hi, fun _ ho hp => length_le_of_stops hw ho hp.isWord⟩,
    (dropWhile_run hg hs).symm⟩

theorem AfterService.unique {line s t a b : List Char} (ha : AfterService line s a)
    (hb : AfterService line t b) : s = t ∧ a = b := by
  obtain ⟨after, hs, hls, rfl⟩ := ha
  obtain ⟨after', ht, hlt, rfl⟩ := hb
  obtain rfl := hls.unique hlt
  exact ⟨rfl, by rw [List.append_cancel_left (hs.symm.trans ht)]⟩

/-- Reading a line has one of three outcomes. -/
theorem read_cases (line : String) :
    (¬ Begins IsIdentifier line.toList ∧ read line = .error .noService) ∨
    (∃ service rest, AfterService line.toList service rest ∧ ¬ Begins IsIdentifier rest ∧
      read line = .error (.noVerb (String.ofList service))) ∨
    (∃ c rest, CommandAt c line.toList ∧ AfterService line.toList c.service.toList rest ∧
      Begins IsIdentifier rest ∧ read line = .ok c) := by
  by_cases hservice : (takeIdentifier line.toList).1 = []
  · refine .inl ⟨identifier_eq_nil_iff.1 hservice, ?_⟩
    simp [read, hservice]
  obtain ⟨gap₁, hline, hi₁, hg₁, hw₁, hs₁⟩ := exists_takeIdentifier hservice
  generalize ht : takeIdentifier line.toList = taken at hservice hline hi₁ hw₁ hs₁
  obtain ⟨service, rest⟩ := taken
  simp only at hservice hline hi₁ hw₁ hs₁
  have hafter : AfterService line.toList service rest := hline ▸ afterService_append hi₁ hg₁ hw₁ hs₁
  by_cases hverb : (takeIdentifier rest).1 = []
  · refine .inr (.inl ⟨service, rest, hafter, identifier_eq_nil_iff.1 hverb, ?_⟩)
    simp [read, ht, hservice, hverb]
  have hbegins : Begins IsIdentifier rest := (longest_identifier hverb).begins
  obtain ⟨gap₂, hrest, hi₂, hg₂, hw₂, hs₂⟩ := exists_takeIdentifier hverb
  generalize hv : takeIdentifier rest = taken at hverb hrest hi₂ hw₂ hs₂
  obtain ⟨verb, left⟩ := taken
  simp only at hverb hrest hi₂ hw₂ hs₂
  refine .inr (.inr ⟨⟨String.ofList service, String.ofList verb, readArguments left⟩, rest, ?_,
    by simpa using hafter, hbegins, ?_⟩)
  · rw [hline, hrest]
    have hat := CommandAt.intro
      (c := ⟨String.ofList service, String.ofList verb, readArguments left⟩)
      (by simpa using hi₁) hg₁ (by simpa [← hrest] using hw₁) (by simpa using hi₂) hg₂ hw₂ hs₂
      (argumentsAt_readArguments left hs₂)
    simpa using hat
  · simp [read, ht, hv, hservice, hverb]

/-- A line is read as a command exactly if it is the text of that command. -/
theorem read_eq_ok_iff {line : String} {c : Command} :
    read line = .ok c ↔ CommandAt c line.toList := by
  constructor
  · intro h
    rcases read_cases line with ⟨-, he⟩ | ⟨_, _, _, _, he⟩ | ⟨d, _, hd, _, _, he⟩
    · simp [he] at h
    · simp [he] at h
    · obtain rfl : d = c := by simpa [he] using h
      exact hd
  · exact read_of_commandAt

theorem AfterService.begins {line service rest : List Char} (h : AfterService line service rest) :
    Begins IsIdentifier line := by
  obtain ⟨_, _, hl, _⟩ := h
  exact hl.begins

/-- A line that does not begin with an identifier names no service. One that does, but goes on behind
the longest of them and a gap with no identifier, has no verb. Every other line is a command, and it
is the text of that command and of no other, to the last character. -/
theorem read_grammar (line : String) :
    (read line = .error .noService ↔ ¬ Begins IsIdentifier line.toList) ∧
    (∀ service, read line = .error (.noVerb service) ↔
      ∃ rest, AfterService line.toList service.toList rest ∧ ¬ Begins IsIdentifier rest) ∧
    ((∃ c, read line = .ok c) ↔
      ∃ service rest, AfterService line.toList service rest ∧ Begins IsIdentifier rest) ∧
    (∀ c, read line = .ok c ↔ CommandAt c line.toList) ∧
    SyntaxFault.noService.message = "Unknown service" ∧
    (∀ service, (SyntaxFault.noVerb service).message
      = "Unable to parse verb for '" ++ service ++ "'") := by
  refine ⟨?_, fun s => ?_, ?_, fun c => read_eq_ok_iff, rfl, fun s => rfl⟩
  · rcases read_cases line with ⟨hno, he⟩ | ⟨_, _, hafter, _, he⟩ | ⟨_, _, _, hafter, _, he⟩
    · simp [he, hno]
    · simp [he, hafter.begins]
    · simp [he, hafter.begins]
  · rcases read_cases line with ⟨hno, he⟩ | ⟨t, rest, hafter, hverb, he⟩ |
      ⟨c, rest, _, hafter, hverb, he⟩
    · simp only [he, Except.error.injEq, reduceCtorEq, false_iff]
      rintro ⟨rest, hafter, -⟩
      exact hno hafter.begins
    · simp only [he, Except.error.injEq, SyntaxFault.noVerb.injEq]
      constructor
      · rintro rfl
        exact ⟨rest, by simpa using hafter, hverb⟩
      · rintro ⟨rest', hafter', -⟩
        rw [(hafter.unique hafter').1, String.ofList_toList]
    · simp only [he, reduceCtorEq, false_iff]
      rintro ⟨rest', hafter', hno⟩
      exact hno ((hafter.unique hafter').2 ▸ hverb)
  · rcases read_cases line with ⟨hno, he⟩ | ⟨t, rest, hafter, hverb, he⟩ |
      ⟨c, rest, _, hafter, hverb, he⟩
    · simp only [he, reduceCtorEq, exists_false, false_iff]
      rintro ⟨service, rest, hafter, -⟩
      exact hno hafter.begins
    · simp only [he, reduceCtorEq, exists_false, false_iff]
      rintro ⟨service, rest', hafter', hbegins⟩
      exact hverb ((hafter.unique hafter').2 ▸ hbegins)
    · exact ⟨fun _ => ⟨_, rest, hafter, hverb⟩, fun _ => ⟨c, he⟩⟩

end OperatorConsole.Command
