import Mathlib.Data.List.Chain
import OperatorConsole.Proofs.Command.Grammar
import OperatorConsole.Proofs.Text.Strip

/-!
Progress over the arguments of a line. Arguments are read one after the other as long as anything but
blanks is left, and the gap behind each goes with it. Main result: what is left never begins with a gap
and gets shorter with every argument, so that the reading comes to an end after at most as many arguments
as there are characters behind the verb; and a value is missing only at the end, behind a name.
-/
namespace OperatorConsole.Command

/-- Arguments are read from a text as long as it holds anything but blanks: what is left each time this
is asked, and the arguments that are read. -/
inductive ReadsOn : List Char → List (List Char) → List Argument → Prop
  | ended {rest : List Char} : Text.strip rest = [] → ReadsOn rest [rest] []
  | next {rest : List Char} {rests : List (List Char)} {arguments : List Argument} :
      Text.strip rest ≠ [] → ReadsOn (takeArgument rest).2 rests arguments →
      ReadsOn rest (rest :: rests) ((takeArgument rest).1 :: arguments)

/-- No value is found at the start of a text: no literal, no reference, and no character that is not
blank. -/
structure NoValue (cs : List Char) : Prop where
  noDocument : literal '\'' cs = none
  noReference : reference cs = none
  noText : literal '"' cs = none
  noRun : (bare cs).1 = []

/-- What follows the verb of a line, the gap behind the verb with it. -/
def AfterVerb (line service verb after : List Char) : Prop :=
  ∃ rest, AfterService line service rest ∧ rest = verb ++ after ∧ Longest IsIdentifier rest verb

/-- What is left, each time this is asked, of the text behind the verb. -/
structure MakesProgress (after : List Char) (rests : List (List Char)) : Prop where
  begins : rests.head? = some (skipGap after)
  ends : rests.getLast? = some []
  trimmed : ∀ rest ∈ rests, Stops isGap rest
  shrinking : rests.IsChain fun before now => now <:+ before ∧ now ≠ before
  /-- There is one more of them than arguments. -/
  bounded : rests.length ≤ after.length + 1
  /-- A value is missing just where nothing is left, and there a name is. -/
  valued : ∀ rest ∈ rests, rest ≠ [] → (NoValue (takeName rest).2 ↔ (takeName rest).2 = []) ∧
    ((takeName rest).2 = [] → IsIdentifier (takeName rest).1)

variable {cs rest line service verb after : List Char} {rests rests' : List (List Char)}
  {arguments arguments' : List Argument}

/-! ### One argument -/

/-- A text that does not begin with a gap has more than blanks unless it is empty. -/
theorem strip_eq_nil_iff (hs : Stops isGap cs) : Text.strip cs = [] ↔ cs = [] := by
  rw [Text.strip, Text.stripBy_eq_nil_iff]
  constructor
  · intro hall
    cases cs with
    | nil => rfl
    | cons c cs =>
      rw [stops_cons, isGap_of_isBlank (hall c (by simp))] at hs
      cases hs
  · rintro rfl
    exact List.forall_mem_nil _

/-- What an argument leaves is the end of the text, trimmed and shorter. -/
theorem takeArgument_progress (hne : cs ≠ []) (hs : Stops isGap cs) :
    Stops isGap (takeArgument cs).2 ∧ (takeArgument cs).2 <:+ cs ∧ (takeArgument cs).2 ≠ cs := by
  obtain ⟨lexeme, gap, hcs, -, hstop, -⟩ := argumentAt_takeArgument hne hs
  have hlt := takeArgument_length_lt hne
  refine ⟨hstop, ⟨lexeme ++ gap, ?_⟩, fun h => ?_⟩
  · rw [List.append_assoc]
    exact hcs.symm
  · rw [h] at hlt
    exact Nat.lt_irrefl _ hlt

theorem noValue_iff (hs : Stops isGap cs) : NoValue cs ↔ cs = [] := by
  constructor
  · intro h
    cases cs with
    | nil => rfl
    | cons c cs =>
      -- a character that is no gap would be a run of its own
      have hc : Text.isBlank c = false := by
        rw [stops_cons, isGap, Bool.or_eq_false_iff] at hs
        exact hs.1
      have hrun := h.noRun
      rw [bare, List.takeWhile_cons_of_pos (by simp [hc])] at hrun
      cases hrun
  · rintro rfl
    exact ⟨rfl, rfl, rfl, rfl⟩

/-- Whether there is a name or not, its value does not begin with a gap; nothing is left of it only
behind a name. -/
theorem takeName_value (hne : cs ≠ []) (hs : Stops isGap cs) :
    Stops isGap (takeName cs).2 ∧ ((takeName cs).2 = [] → IsIdentifier (takeName cs).1) := by
  obtain ⟨lexeme, hcs, hat⟩ := nameAt_takeName cs
  generalize takeName cs = taken at hcs hat
  obtain ⟨name, value⟩ := taken
  dsimp only at hcs hat ⊢
  cases hat with
  | named hn _ _ hstop => exact ⟨hstop, fun _ => hn⟩
  | positional _ =>
    obtain rfl : cs = value := hcs
    exact ⟨hs, fun h => absurd h hne⟩

/-! ### All arguments -/

/-- The reading comes to an end, whatever the text. -/
theorem exists_readsOn (cs : List Char) : ∃ rests arguments, ReadsOn cs rests arguments := by
  by_cases h : Text.strip cs = []
  · exact ⟨_, _, .ended h⟩
  · have hne : cs ≠ [] := by
      rintro rfl
      exact h rfl
    have hlt := takeArgument_length_lt hne
    obtain ⟨rests, arguments, hrest⟩ := exists_readsOn (takeArgument cs).2
    exact ⟨_, _, .next h hrest⟩
termination_by cs.length

theorem ReadsOn.unique (h : ReadsOn cs rests arguments) (h' : ReadsOn cs rests' arguments') :
    rests' = rests ∧ arguments' = arguments := by
  induction h generalizing rests' arguments' with
  | ended hend =>
    cases h' with
    | ended => exact ⟨rfl, rfl⟩
    | next hmore => exact absurd hend hmore
  | next hmore _ ih =>
    cases h' with
    | ended hend => exact absurd hend hmore
    | next _ hrest =>
      obtain ⟨rfl, rfl⟩ := ih hrest
      exact ⟨rfl, rfl⟩

theorem ReadsOn.head? (h : ReadsOn cs rests arguments) : rests.head? = some cs := by
  cases h <;> rfl

theorem ReadsOn.length_eq (h : ReadsOn cs rests arguments) : rests.length = arguments.length + 1 := by
  induction h with
  | ended => rfl
  | next _ _ ih => rw [List.length_cons, List.length_cons, ih]

/-- Asking for blanks stops the reading just where nothing is left. -/
theorem ReadsOn.eq_readArguments (h : ReadsOn cs rests arguments) (hs : Stops isGap cs) :
    arguments = readArguments cs := by
  induction h with
  | ended hend => rw [readArguments, dif_pos ((strip_eq_nil_iff hs).1 hend)]
  | next hmore _ ih =>
    have hne := mt (strip_eq_nil_iff hs).2 hmore
    rw [readArguments, dif_neg hne, ih (takeArgument_progress hne hs).1]

/-- Every text that is left is trimmed, the last one is empty, and each is a proper end of the one
before. -/
theorem ReadsOn.progress (h : ReadsOn cs rests arguments) (hs : Stops isGap cs) :
    rests.getLast? = some [] ∧ (∀ rest ∈ rests, Stops isGap rest) ∧
      (rests.IsChain fun before now => now <:+ before ∧ now ≠ before) ∧
      rests.length ≤ cs.length + 1 := by
  induction h with
  | ended hend =>
    obtain rfl := (strip_eq_nil_iff hs).1 hend
    exact ⟨rfl, by simp, .singleton _, by simp⟩
  | @next cs rests arguments hmore hrest ih =>
    have hne := mt (strip_eq_nil_iff hs).2 hmore
    obtain ⟨hstop, hsuffix, hproper⟩ := takeArgument_progress hne hs
    obtain ⟨hlast, htrimmed, hchain, hlength⟩ := ih hstop
    obtain ⟨later, rfl⟩ := List.head?_eq_some_iff.1 hrest.head?
    refine ⟨?_, List.forall_mem_cons.2 ⟨hs, htrimmed⟩, .cons_cons ⟨hsuffix, hproper⟩ hchain, ?_⟩
    · rw [List.getLast?_cons_cons, hlast]
    · have hlt := takeArgument_length_lt hne
      rw [List.length_cons]
      omega

/-! ### Lines -/

/-- The service and the verb are taken off a line. -/
theorem read_of_afterVerb {line : String} (h : AfterVerb line.toList service verb after) :
    read line = .ok ⟨String.ofList service, String.ofList verb, readArguments (skipGap after)⟩ := by
  have htake : ∀ {cs name behind : List Char}, cs = name ++ behind → Longest IsIdentifier cs name →
      takeIdentifier cs = (name, skipGap behind) := by
    rintro cs name behind rfl hlong
    have hname : identifier (name ++ behind) = name :=
      (longest_identifier fun hnil => identifier_eq_nil_iff.1 hnil hlong.begins).unique hlong
    rw [takeIdentifier, hname, List.drop_left]
  obtain ⟨rest, ⟨behind, hline, hservice, hrest⟩, hcut, hverb⟩ := h
  rw [read, htake hline hservice]
  simp only [List.isEmpty_iff, hservice.inClass.ne_nil, if_false]
  rw [show skipGap behind = rest from hrest.symm, htake hcut hverb]
  simp only [hverb.inClass.ne_nil, if_false]

/-- The arguments of every line that has a service and a verb are read to the end, in one way. What is
left each time the reading asks for more never begins with a gap, and is a proper end of what was left
before; there are at most as many arguments as characters behind the verb. No value is missing but at
the end of the line, behind a name. -/
theorem reading_progresses {line : String} (h : AfterVerb line.toList service verb after) :
    ∃ rests arguments, read line = .ok ⟨String.ofList service, String.ofList verb, arguments⟩ ∧
      (∀ rests' arguments', ReadsOn (skipGap after) rests' arguments' ↔
        rests' = rests ∧ arguments' = arguments) ∧
      rests.length = arguments.length + 1 ∧ MakesProgress after rests := by
  have hs : Stops isGap (skipGap after) := stops_dropWhile _ _
  obtain ⟨rests, arguments, hreads⟩ := exists_readsOn (skipGap after)
  obtain ⟨hends, htrimmed, hchain, hlength⟩ := hreads.progress hs
  have hshort := length_skipGap_le after
  refine ⟨rests, arguments, ?_, fun rests' arguments' => ⟨hreads.unique, ?_⟩, hreads.length_eq, ?_⟩
  · rw [read_of_afterVerb h, hreads.eq_readArguments hs]
  · rintro ⟨rfl, rfl⟩
    exact hreads
  · refine ⟨hreads.head?, hends, htrimmed, hchain, by omega, fun rest hrest hne => ?_⟩
    obtain ⟨hvalue, hname⟩ := takeName_value hne (htrimmed rest hrest)
    exact ⟨noValue_iff hvalue, hname⟩

/-- A literal and a name without a value. -/
theorem reading_progresses_missing :
    AfterVerb "a b 'c' x=".toList ['a'] ['b'] " 'c' x=".toList ∧
    MakesProgress " 'c' x=".toList ["'c' x=".toList, "x=".toList, []] := by
  have hlongest : ∀ {cs name : List Char}, identifier cs = name → name ≠ [] →
      Longest IsIdentifier cs name := by
    rintro cs name rfl hne
    exact longest_identifier hne
  have hafter : AfterVerb "a b 'c' x=".toList ['a'] ['b'] " 'c' x=".toList :=
    ⟨"b 'c' x=".toList, ⟨" b 'c' x=".toList, by decide, hlongest (by decide) (by decide), by decide⟩,
      by decide, hlongest (by decide) (by decide)⟩
  have hliteral : takeArgument "'c' x=".toList = (⟨.document, "", "c"⟩, "x=".toList) := by decide
  have hname : takeArgument "x=".toList = (⟨.plain, "x", ""⟩, []) := by decide
  have hreads : ReadsOn "'c' x=".toList ["'c' x=".toList, "x=".toList, []]
      [⟨.document, "", "c"⟩, ⟨.plain, "x", ""⟩] := by
    have hlast := @ReadsOn.next "x=".toList [[]] [] (by decide) (by rw [hname]; exact .ended rfl)
    have hboth := @ReadsOn.next "'c' x=".toList _ _ (by decide) (by rw [hliteral]; exact hlast)
    rwa [hliteral, hname] at hboth
  have hgap : skipGap " 'c' x=".toList = "'c' x=".toList := by decide
  obtain ⟨rests, arguments, -, honly, -, hprogress⟩ := reading_progresses hafter
  rw [hgap] at honly
  obtain ⟨rfl, -⟩ := (honly _ _).1 hreads
  exact ⟨hafter, hprogress⟩

end OperatorConsole.Command
