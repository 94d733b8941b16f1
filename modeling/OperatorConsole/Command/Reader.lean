import OperatorConsole.Command.Basic
import OperatorConsole.Text.Blank
import OperatorConsole.Text.Digit
import OperatorConsole.Text.Word

/-!
Reading a command from a line. Blanks and equals signs are gaps, and every token takes the gap after
it along. A token is an identifier, a quoted literal in which a doubled quote stands for one, a
reference, or a run of characters that are not blank. What follows the verb can always be read: each
argument takes at least one character, so the rest of the line gets shorter.
-/
namespace OperatorConsole.Command

/-! ### Tokens -/

/-- A character between tokens. -/
def isGap (c : Char) : Bool := Text.isBlank c || c == '='

/-- The text without the gap at its start. -/
def skipGap (cs : List Char) : List Char := cs.dropWhile isGap

/-- The identifier at the start of a text, empty when there is none. -/
def identifier : List Char → List Char
  | [] => []
  | c :: rest => if Text.isDigit c then [] else (c :: rest).takeWhile Text.isWord

/-- Reads a literal after its opening quote: its text, and what follows its closing quote. A doubled
quote is one quote of the text, unless no closing quote follows it: then its first half closes. -/
def closeLiteral (quote : Char) : List Char → Option (List Char × List Char)
  | [] => none
  | [c] => if c == quote then some ([], []) else none
  | c :: d :: rest =>
    if c == quote then
      if d == quote then
        match closeLiteral quote rest with
        | some (text, after) => some (quote :: text, after)
        | none => some ([], d :: rest)
      else some ([], d :: rest)
    else (closeLiteral quote (d :: rest)).map fun (text, after) => (c :: text, after)

/-- The literal between two quotes at the start of a text. -/
def literal (quote : Char) : List Char → Option (List Char × List Char)
  | [] => none
  | c :: rest => if c == quote then closeLiteral quote rest else none

/-- The name of a variable after a dollar sign at the start of a text. -/
def reference : List Char → Option (List Char × List Char)
  | '$' :: rest =>
    match identifier rest with
    | [] => none
    | name => some (name, rest.drop name.length)
  | _ => none

/-- The run of characters that are not blank at the start of a text. -/
def bare (cs : List Char) : List Char × List Char :=
  (cs.takeWhile (!Text.isBlank ·), cs.dropWhile (!Text.isBlank ·))

/-! ### Arguments -/

/-- The name that an argument begins with, and the text of its value: an identifier, blanks and an
equals sign, or no name at all. -/
def takeName (cs : List Char) : List Char × List Char :=
  match identifier cs with
  | [] => ([], cs)
  | name =>
    match (cs.drop name.length).dropWhile Text.isBlank with
    | '=' :: rest => (name, skipGap rest)
    | _ => ([], cs)

/-- The value of an argument, how it is written, and what follows it. -/
def takeValue (cs : List Char) : Form × List Char × List Char :=
  match literal '\'' cs with
  | some (text, rest) => (.document, text, rest)
  | none =>
    match reference cs with
    | some (name, rest) => (.reference, name, rest)
    | none =>
      match literal '"' cs with
      | some (text, rest) => (.plain, text, rest)
      | none => let (text, rest) := bare cs; (.plain, text, rest)

/-- The argument at the start of a text, and what follows its gap. -/
def takeArgument (cs : List Char) : Argument × List Char :=
  let (name, value) := takeName cs
  let (form, text, rest) := takeValue value
  (⟨form, String.ofList name, String.ofList text⟩, skipGap rest)

/-! ### Progress -/

theorem length_skipGap_le (cs : List Char) : (skipGap cs).length ≤ cs.length :=
  (List.dropWhile_suffix _).length_le

theorem identifier_prefix (cs : List Char) : identifier cs <+: cs := by
  cases cs with
  | nil => exact List.nil_prefix
  | cons c rest =>
    simp only [identifier]
    split
    · exact List.nil_prefix
    · exact List.takeWhile_prefix _

theorem closeLiteral_length {quote : Char} {cs text rest : List Char}
    (h : closeLiteral quote cs = some (text, rest)) : rest.length < cs.length := by
  fun_induction closeLiteral quote cs generalizing text rest with
  | case1 => simp at h
  | case2 => simp_all
  | case3 => simp at h
  | case4 c d r _ _ t a hr ih =>
    have := ih hr
    obtain ⟨-, rfl⟩ := by simpa using h
    simp only [List.length_cons]
    omega
  | case5 => simp_all
  | case6 => simp_all
  | case7 c d r _ ih =>
    obtain ⟨⟨t, a⟩, hr, he⟩ := Option.map_eq_some_iff.1 h
    have := ih hr
    obtain ⟨-, rfl⟩ := by simpa using he
    simp only [List.length_cons] at this ⊢
    omega

theorem literal_length {quote : Char} {cs text rest : List Char}
    (h : literal quote cs = some (text, rest)) : rest.length < cs.length := by
  cases cs with
  | nil => simp [literal] at h
  | cons c r =>
    simp only [literal] at h
    split at h
    · exact Nat.lt_succ_of_lt (closeLiteral_length h)
    · simp at h

theorem reference_length {cs name rest : List Char}
    (h : reference cs = some (name, rest)) : rest.length < cs.length := by
  unfold reference at h
  split at h
  · split at h
    · simp at h
    · obtain ⟨-, rfl⟩ := by simpa using h
      simp only [List.length_drop, List.length_cons]
      omega
  · simp at h

theorem takeValue_length_le (cs : List Char) : (takeValue cs).2.2.length ≤ cs.length := by
  unfold takeValue
  split
  · next h => exact Nat.le_of_lt (literal_length h)
  · split
    · next h => exact Nat.le_of_lt (reference_length h)
    · split
      · next h => exact Nat.le_of_lt (literal_length h)
      · exact (List.dropWhile_suffix _).length_le

/-- A value or the gap after it takes a character, so that what follows is shorter. -/
theorem length_skipGap_takeValue_lt {cs : List Char} (h : cs ≠ []) :
    (skipGap (takeValue cs).2.2).length < cs.length := by
  unfold takeValue
  split
  · next hl => exact Nat.lt_of_le_of_lt (length_skipGap_le _) (literal_length hl)
  · split
    · next hr => exact Nat.lt_of_le_of_lt (length_skipGap_le _) (reference_length hr)
    · split
      · next hl => exact Nat.lt_of_le_of_lt (length_skipGap_le _) (literal_length hl)
      · obtain ⟨c, rest, rfl⟩ := List.exists_cons_of_ne_nil h
        by_cases hc : Text.isBlank c
        · have := length_skipGap_le rest
          simp only [bare, skipGap, isGap, hc, List.dropWhile_cons, Bool.not_true, Bool.true_or,
            Bool.false_eq_true, ↓reduceIte, List.length_cons] at this ⊢
          omega
        · have := length_skipGap_le (rest.dropWhile (!Text.isBlank ·))
          have := (List.dropWhile_suffix (l := rest) (!Text.isBlank ·)).length_le
          simp only [bare, List.dropWhile_cons, hc, Bool.not_false, ↓reduceIte, List.length_cons]
          omega

theorem takeName_length_le (cs : List Char) : (takeName cs).2.length ≤ cs.length := by
  unfold takeName
  split
  · exact Nat.le_refl _
  · split
    · next rest h =>
      have h1 := length_skipGap_le rest
      have h2 := (List.dropWhile_suffix (l := cs.drop (identifier cs).length) Text.isBlank).length_le
      rw [h] at h2
      simp only [List.length_cons, List.length_drop] at h2 ⊢
      omega
    · exact Nat.le_refl _

/-- An argument takes at least one character of a text. -/
theorem takeArgument_length_lt {cs : List Char} (h : cs ≠ []) :
    (takeArgument cs).2.length < cs.length := by
  change (skipGap (takeValue (takeName cs).2).2.2).length < cs.length
  by_cases hv : (takeName cs).2 = []
  · have : 0 < cs.length := List.length_pos_iff.2 h
    have h1 := length_skipGap_le (takeValue (takeName cs).2).2.2
    have h2 := takeValue_length_le (takeName cs).2
    rw [hv, List.length_nil] at h2
    rw [hv] at h1 ⊢
    omega
  · exact Nat.lt_of_lt_of_le (length_skipGap_takeValue_lt hv) (takeName_length_le cs)

/-! ### Lines -/

/-- The arguments that a text consists of. -/
def readArguments (cs : List Char) : List Argument :=
  if _ : cs = [] then []
  else (takeArgument cs).1 :: readArguments (takeArgument cs).2
termination_by cs.length
decreasing_by exact takeArgument_length_lt ‹_›

/-- The identifier at the start of a text, and what follows its gap. -/
def takeIdentifier (cs : List Char) : List Char × List Char :=
  (identifier cs, skipGap (cs.drop (identifier cs).length))

/-- The command that a line is. -/
def read (line : String) : Except SyntaxFault Command :=
  let (service, rest) := takeIdentifier line.toList
  if service.isEmpty then .error .noService
  else
    let (verb, rest) := takeIdentifier rest
    if verb.isEmpty then .error (.noVerb (String.ofList service))
    else .ok ⟨String.ofList service, String.ofList verb, readArguments rest⟩

end OperatorConsole.Command
