import Mathlib.Algebra.Order.BigOperators.Group.List
import Mathlib.Algebra.Order.Group.Nat
import Mathlib.Data.List.Induction
import OperatorConsole.Proofs.Session.Script
import OperatorConsole.Proofs.Text.Strip

/-!
How a script is cut into commands. The commands of a text are its parts between line ends that are not
blank, without the blanks at their ends. Main result: a script over joined lines carries out the
commands of every line in order, up to the first report; these are the lines themselves, without the
blank ones, exactly if no line end stands inside of a line, whatever else the lines hold.
-/
namespace OperatorConsole.Shell

/-! ### Commands of a text -/

/-- Parts without the blanks at their ends, and without the blank ones. -/
def trimmedParts (parts : List (List Char)) : List String :=
  (parts.map fun part => trimmed (String.ofList part)).filter (· != "")

/-- The commands of a text: what stands between its line ends and is not blank. -/
def commandsIn (cs : List Char) : List String := trimmedParts (cs.splitOnP Text.isLineEnd)

theorem trimmedParts_append (parts others : List (List Char)) :
    trimmedParts (parts ++ others) = trimmedParts parts ++ trimmedParts others := by
  rw [trimmedParts, List.map_append, List.filter_append]
  rfl

theorem trimmedParts_cons_congr (part : List Char) {parts others : List (List Char)}
    (h : trimmedParts parts = trimmedParts others) :
    trimmedParts (part :: parts) = trimmedParts (part :: others) := by
  have hcons := trimmedParts_append [part]
  exact (hcons parts).trans ((congrArg _ h).trans (hcons others).symm)

theorem trimmedParts_nil_cons (parts : List (List Char)) :
    trimmedParts ([] :: parts) = trimmedParts parts := trimmedParts_append [[]] parts

/-- Two parts that differ in blanks at their ends are the same command. -/
theorem trimmedParts_congr {part other : List Char} (h : Text.strip part = Text.strip other)
    (parts : List (List Char)) : trimmedParts (part :: parts) = trimmedParts (other :: parts) := by
  have ht : trimmed (String.ofList part) = trimmed (String.ofList other) := by
    rw [trimmed, trimmed, String.toList_ofList, String.toList_ofList, h]
  rw [trimmedParts, trimmedParts, List.map_cons, List.map_cons, ht]

/-- The lines of a text are its parts between line ends, but for blank ones: an empty part behind the
last line end, and the one between a carriage return and a line feed. -/
theorem trimmedParts_linesFrom (cs line : List Char) :
    trimmedParts (Text.linesFrom line (Text.joinLineEnds cs)) =
      trimmedParts (cs.splitOnPPrepend Text.isLineEnd line) := by
  induction cs using Text.joinLineEnds.induct generalizing line with
  | case1 =>
    rw [Text.joinLineEnds, Text.linesFrom, List.splitOnPPrepend_nil]
    split
    · next h => rw [List.isEmpty_iff.1 h, List.reverse_nil, trimmedParts_nil_cons]
    · rfl
  | case2 rest ih =>
    have ih := ih []
    rw [List.splitOnPPrepend_nil_right] at ih
    rw [Text.joinLineEnds, Text.linesFrom, if_pos (by decide),
      List.splitOnPPrepend_cons_pos (by decide),
      List.splitOnP_cons_eq_if_modifyHead, if_pos (by decide)]
    exact trimmedParts_cons_congr _ (ih.trans (trimmedParts_nil_cons _).symm)
  | case3 c rest hpair ih =>
    rw [Text.joinLineEnds.eq_3 c rest hpair]
    have hend : Text.isLineEnd (if c == '\r' then '\n' else c) = Text.isLineEnd c := by
      split
      · next hc => rw [eq_of_beq hc]; decide
      · rfl
    cases he : Text.isLineEnd c with
    | true =>
      have ih := ih []
      rw [List.splitOnPPrepend_nil_right] at ih
      rw [Text.linesFrom, hend, he, if_pos rfl, List.splitOnPPrepend_cons_pos he]
      exact trimmedParts_cons_congr _ ih
    | false =>
      have hc : (if c == '\r' then '\n' else c) = c := by
        refine if_neg fun hc => ?_
        rw [eq_of_beq hc] at he
        exact absurd he (by decide)
      rw [Text.linesFrom, hend, he, if_neg (by simp), List.splitOnPPrepend_cons_neg he, hc, ih]

theorem scriptLines_eq (text : String) : scriptLines text = commandsIn text.toList := by
  have h := trimmedParts_linesFrom text.toList []
  rw [List.splitOnPPrepend_nil_right] at h
  exact h

/-- A line end parts commands. -/
theorem commandsIn_append {e : Char} (he : Text.isLineEnd e = true) (cs ds : List Char) :
    commandsIn (cs ++ e :: ds) = commandsIn cs ++ commandsIn ds := by
  rw [commandsIn, List.splitOnP_append_cons cs ds he, trimmedParts_append]
  rfl

theorem commandsIn_joined : ∀ lines : List String,
    commandsIn (joined lines).toList = lines.flatMap fun line => commandsIn line.toList
  | [] => by decide
  | [line] => by rw [joined, String.intercalate_singleton, List.flatMap_singleton]
  | line :: next :: lines => by
    have ih := commandsIn_joined (next :: lines)
    rw [joined] at ih
    rw [joined, String.intercalate_cons_cons, String.toList_append, String.toList_append,
      List.append_assoc, show "\n".toList = ['\n'] by decide, List.singleton_append,
      commandsIn_append (by decide), ih]
    rfl

/-! ### Commands of a line -/

section

variable {c : Char} {cs front back : List Char}

theorem commandsIn_cons (hc : Text.isBlank c = true) (cs : List Char) :
    commandsIn (c :: cs) = commandsIn cs := by
  rw [commandsIn, List.splitOnP_cons_eq_if_modifyHead]
  split
  · exact trimmedParts_nil_cons _
  · obtain ⟨part, parts, hcs⟩ := List.exists_cons_of_ne_nil (List.splitOnP_ne_nil Text.isLineEnd cs)
    have hone : ∀ d ∈ [c], Text.isBlank d = true := by simpa using hc
    have hstrip : Text.strip (c :: part) = Text.strip part := Text.stripBy_append_left hone
    rw [commandsIn, hcs, List.modifyHead_cons, trimmedParts_congr hstrip]

theorem commandsIn_append_left (h : ∀ c ∈ front, Text.isBlank c = true) :
    commandsIn (front ++ cs) = commandsIn cs := by
  induction front with
  | nil => rfl
  | cons c front ih =>
    rw [List.cons_append, commandsIn_cons (h c (by simp)), ih fun d hd => h d (by simp [hd])]

/-- A blank behind the last part is no part of a command. -/
theorem trimmedParts_concat (hc : Text.isBlank c = true) : ∀ cs line : List Char,
    trimmedParts ((cs ++ [c]).splitOnPPrepend Text.isLineEnd line) =
      trimmedParts (cs.splitOnPPrepend Text.isLineEnd line)
  | [], line => by
    rw [List.nil_append, List.splitOnPPrepend_cons_eq_if, List.splitOnPPrepend_nil]
    split
    · exact trimmedParts_cons_congr _ (trimmedParts_nil_cons [])
    · have hstrip : Text.strip (c :: line).reverse = Text.strip line.reverse := by
        rw [List.reverse_cons]
        exact Text.stripBy_append_right (by simpa using hc)
      rw [List.splitOnPPrepend_nil, trimmedParts_congr hstrip]
  | d :: cs, line => by
    rw [List.cons_append, List.splitOnPPrepend_cons_eq_if, List.splitOnPPrepend_cons_eq_if]
    split
    · have ih := trimmedParts_concat hc cs []
      rw [List.splitOnPPrepend_nil_right, List.splitOnPPrepend_nil_right] at ih
      exact trimmedParts_cons_congr _ ih
    · exact trimmedParts_concat hc cs (d :: line)

theorem commandsIn_append_right (h : ∀ c ∈ back, Text.isBlank c = true) :
    commandsIn (cs ++ back) = commandsIn cs := by
  induction back using List.reverseRecOn with
  | nil => rw [List.append_nil]
  | append_singleton back c ih =>
    have hconcat := trimmedParts_concat (h c (by simp)) (cs ++ back) []
    rw [List.splitOnPPrepend_nil_right, List.splitOnPPrepend_nil_right] at hconcat
    rw [← List.append_assoc]
    exact hconcat.trans (ih fun d hd => h d (by simp [hd]))

/-- Blanks at the ends of a text have no part in its commands, line ends among them. -/
theorem commandsIn_strip (cs : List Char) : commandsIn (Text.strip cs) = commandsIn cs := by
  obtain ⟨front, back, hcs, hfront, hback⟩ := Text.exists_stripBy Text.isBlank cs
  conv_rhs => rw [hcs, commandsIn_append_left hfront, commandsIn_append_right hback]
  rfl

/-- A part that is not blank is a command. -/
theorem trimmedParts_ne_nil (hc : Text.isBlank c = false) : ∀ {cs line : List Char},
    c ∈ line ∨ c ∈ cs → trimmedParts (cs.splitOnPPrepend Text.isLineEnd line) ≠ []
  | cs, line, h => by
    have hfirst : ∀ parts, c ∈ line → trimmedParts (line.reverse :: parts) ≠ [] := by
      intro parts hline hnil
      have hblank : Text.strip line.reverse ≠ [] := by
        intro hstrip
        have hall := Text.stripBy_eq_nil_iff.1 hstrip c (List.mem_reverse.2 hline)
        exact absurd hall (by simp [hc])
      rw [trimmedParts, List.map_cons, List.filter_cons_of_pos] at hnil
      · exact List.cons_ne_nil _ _ hnil
      · simpa [trimmed] using hblank
    cases cs with
    | nil =>
      rw [List.splitOnPPrepend_nil]
      exact hfirst [] (h.resolve_right (by simp))
    | cons d cs =>
      rw [List.splitOnPPrepend_cons_eq_if]
      split
      · next hd =>
        rcases h with h | h
        · exact hfirst _ h
        · have hne : c ≠ d := by
            rintro rfl
            rw [Text.isBlank_of_isLineEnd hd] at hc
            exact absurd hc (by simp)
          have hrest : trimmedParts (cs.splitOnPPrepend Text.isLineEnd []) ≠ [] :=
            trimmedParts_ne_nil hc (.inr ((List.mem_cons.1 h).resolve_left hne))
          rw [List.splitOnPPrepend_nil_right] at hrest
          intro hnil
          have hsplit := trimmedParts_append [line.reverse] (cs.splitOnP Text.isLineEnd)
          exact hrest (List.append_eq_nil_iff.1 (hsplit.symm.trans hnil)).2
      · refine trimmedParts_ne_nil hc ?_
        rcases h with h | h
        · exact .inl (List.mem_cons_of_mem _ h)
        · rcases List.mem_cons.1 h with rfl | h
          · exact .inl List.mem_cons_self
          · exact .inr h

theorem commandsIn_ne_nil (hmem : c ∈ cs) (hc : Text.isBlank c = false) : commandsIn cs ≠ [] := by
  have h : trimmedParts (cs.splitOnPPrepend Text.isLineEnd []) ≠ [] :=
    trimmedParts_ne_nil hc (.inr hmem)
  rwa [List.splitOnPPrepend_nil_right] at h

end

/-- The line as a command, unless it is blank. -/
def wholeCommand (line : String) : List String := [trimmed line].filter (· != "")

theorem toList_trimmed (line : String) : (trimmed line).toList = Text.strip line.toList := by
  rw [trimmed, String.toList_ofList]

theorem commandsIn_of_single {line : String} (h : SingleLine (trimmed line)) :
    commandsIn line.toList = wholeCommand line := by
  have hself : Text.strip (trimmed line).toList = (trimmed line).toList := by
    rw [toList_trimmed]
    exact Text.stripBy_eq_self (fun _ => Text.head?_stripBy) fun _ => Text.getLast?_stripBy
  have htwice : trimmed (trimmed line) = trimmed line := by
    rw [trimmed, hself, String.ofList_toList]
  rw [← commandsIn_strip, ← toList_trimmed, commandsIn, List.splitOnP_eq_singleton h, trimmedParts,
    List.map_singleton, String.ofList_toList, htwice, wholeCommand]

/-- A line end inside of a line makes two commands of it at least. -/
theorem length_commandsIn {line : String} (h : ¬ SingleLine (trimmed line)) :
    2 ≤ (commandsIn line.toList).length := by
  simp only [SingleLine, not_forall, Bool.not_eq_false, toList_trimmed] at h
  obtain ⟨e, hmem, he⟩ := h
  obtain ⟨front, back, hline⟩ := List.append_of_mem hmem
  have hblank := Text.isBlank_of_isLineEnd he
  have hhead : ∀ c ∈ (front ++ e :: back).head?, Text.isBlank c = false := fun c hc => by
    rw [← hline] at hc
    exact Text.head?_stripBy hc
  have hlast : ∀ c ∈ (front ++ e :: back).getLast?, Text.isBlank c = false := fun c hc => by
    rw [← hline] at hc
    exact Text.getLast?_stripBy hc
  -- what stands before and behind the line end has a character at its outer end that is not blank
  have hfront : ∃ c ∈ front, Text.isBlank c = false := by
    cases front with
    | nil => exact absurd hblank (by simp [hhead e rfl])
    | cons c front => exact ⟨c, by simp, hhead c rfl⟩
  have hback : ∃ c ∈ back, Text.isBlank c = false := by
    cases back using List.reverseRecOn with
    | nil => exact absurd hblank (by simp [hlast e (by simp)])
    | append_singleton back c =>
      refine ⟨c, by simp, hlast c ?_⟩
      rw [← List.cons_append, ← List.append_assoc]
      exact List.getLast?_concat
  obtain ⟨c, hc, hcblank⟩ := hfront
  obtain ⟨d, hd, hdblank⟩ := hback
  have hfirst := List.length_pos_of_ne_nil (commandsIn_ne_nil hc hcblank)
  have hsecond := List.length_pos_of_ne_nil (commandsIn_ne_nil hd hdblank)
  rw [← commandsIn_strip, hline, commandsIn_append he, List.length_append]
  omega

theorem length_wholeCommand (line : String) : (wholeCommand line).length ≤ 1 :=
  List.length_filter_le _ _

/-! ### Scripts -/

theorem filter_map_trimmed (lines : List String) :
    (lines.map trimmed).filter (· != "") = lines.flatMap wholeCommand := by
  induction lines with
  | nil => rfl
  | cons line lines ih =>
    rw [List.flatMap_cons, ← ih, List.map_cons, wholeCommand, ← List.filter_append]
    rfl

/-- The commands of lines are the lines that are not blank, exactly if no line end is inside of one. -/
theorem flatMap_commandsIn_eq_iff (lines : List String) :
    (lines.flatMap fun line => commandsIn line.toList) = (lines.map trimmed).filter (· != "") ↔
      ∀ line ∈ lines, SingleLine (trimmed line) := by
  have hle : ∀ line ∈ lines, (wholeCommand line).length ≤ (commandsIn line.toList).length := by
    intro line _
    by_cases h : SingleLine (trimmed line)
    · rw [commandsIn_of_single h]
    · exact Nat.le_trans (length_wholeCommand line) (Nat.le_of_lt (length_commandsIn h))
  rw [filter_map_trimmed]
  constructor
  · intro heq line hmem
    by_contra hsingle
    have hlt : (wholeCommand line).length < (commandsIn line.toList).length :=
      Nat.lt_of_le_of_lt (length_wholeCommand line) (length_commandsIn hsingle)
    have hsum := List.sum_lt_sum _ _ hle ⟨line, hmem, hlt⟩
    have hlength := congrArg List.length heq
    rw [List.length_flatMap, List.length_flatMap] at hlength
    omega
  · intro hsingle
    exact List.flatMap_congr fun line hl => commandsIn_of_single (hsingle line hl)

/-- A script over joined lines carries out the commands of each line in their order, up to the first
report. These are the lines themselves, stripped and without the blank ones, exactly if no line has a
line end inside. -/
theorem script_frames (sh : Shell) (state : ShellState) (lines : List String) :
    scriptLines (joined lines) = lines.flatMap (fun line => commandsIn line.toList) ∧
    (scriptLines (joined lines) = (lines.map trimmed).filter (· != "") ↔
      ∀ line ∈ lines, SingleLine (trimmed line)) ∧
    ∀ left report, sh.CarriesOut (started state) (lines.flatMap fun line => commandsIn line.toList)
        left report ↔
      left = (sh.runScript state (joined lines)).state ∧
        report = (sh.runScript state (joined lines)).report := by
  have hlines : scriptLines (joined lines) = lines.flatMap fun line => commandsIn line.toList := by
    rw [scriptLines_eq, commandsIn_joined]
  refine ⟨hlines, ?_, fun left report => ?_⟩
  · rw [hlines]
    exact flatMap_commandsIn_eq_iff lines
  · rw [← hlines]
    exact carriesOut_iff

/-- A line without line feeds and carriage returns that is two commands all the same. -/
def separatedLine : String := "Thing put \"a\u2028b\""

theorem separatedLine_parted : '\n' ∉ separatedLine.toList ∧ '\r' ∉ separatedLine.toList ∧
    (([separatedLine].map trimmed).filter (· != "")) = [separatedLine] ∧
    scriptLines (joined [separatedLine]) = ["Thing put \"a", "b\""] := by
  decide +kernel

end OperatorConsole.Shell
