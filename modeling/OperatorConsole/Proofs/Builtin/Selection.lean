import OperatorConsole.Proofs.Builtin.Answers
import OperatorConsole.Proofs.Json.Depth
import OperatorConsole.Proofs.Json.Parts
import OperatorConsole.Proofs.Json.Path
import OperatorConsole.Proofs.Json.Printed

/-!
Selection from documents. A selection is answered with the part that is selected or with the reason why
nothing is, unless containers stand too deep inside each other or the part is a string with half of a
surrogate pair. The printed part is a document again, so a selection can be made in two lines.
-/
namespace OperatorConsole

open Json

namespace Builtin.Utility

variable {text path reason s : String} {v part other : Json} {points : CodePoints}
  {answer : Except OperationFault Response}

/-- The path leads to a part of the document that the text is. A key that an object repeats has its last
value. -/
def Selects (text path : String) (part : Json) : Prop :=
  ∃ v, IsDocument text.toList v ∧ select v.distinct path.toList = .ok part

/-- What holds of all marks and of all tokens of the text holds of all tokens of the part. -/
theorem Selects.forall_mem_lexemes {p : Lexeme → Prop} (h : Selects text path part)
    (hmark : ∀ c, p (.mark c)) (htext : ∀ l ∈ lexemesOf text.toList, p l) :
    ∀ l ∈ lexemes part, p l := by
  obtain ⟨v, hv, hpart⟩ := h
  rw [hv] at htext
  refine forall_of_select (q := fun w => ∀ l ∈ lexemes w, p l) ?_ hpart
    (forall_mem_lexemes_distinct hmark v htext)
  exact fun _ _ => forall_mem_lexemes_of_mem_parts hmark

/-- A string that is selected is one that a text can hold. -/
theorem Selects.isJoined (h : Selects text path (.text points)) : IsJoined points := by
  have hproper := h.forall_mem_lexemes (fun _ => trivial) (isProper_of_mem_lexemesOf text.toList)
  exact hproper (.text points) (by simp [lexemes])

/-! ### What is read -/

/-- A document that does not open too many containers is read. -/
theorem read_of_isDocument (hopen : ¬ OpensBeyond openLimit text.toList)
    (hv : IsDocument text.toList v) : Json.read text.toList = .ok v := by
  refine read_eq_ok_iff.2 ⟨hv, Nat.not_lt.1 fun hdeep => hopen ?_⟩
  exact exists_depth_iff.1 (readWithin_of_lt_nesting hv hdeep)

/-- What is read does not open too many containers. -/
theorem not_opensBeyond_of_read (h : Json.read text.toList = .ok v) :
    ¬ OpensBeyond openLimit text.toList := by
  intro hopen
  obtain ⟨isObject, place, hdeep⟩ := exists_depth_iff.2 hopen
  rw [Json.read, hdeep] at h
  cases h

/-- A string without halves of pairs is that of a text. -/
theorem exists_codePoints (h : IsJoined points) (hhalf : ¬ points.any isSurrogate = true) :
    ∃ s, points = codePoints s := by
  have hchars : ∀ n ∈ points, (Char.ofNat n).toNat = n := by
    intro n hn
    have hvalid := h.valid n hn
    have hwhole : ¬ isSurrogate n = true := fun hn' => hhalf (List.any_eq_true.2 ⟨n, hn, hn'⟩)
    simp only [isSurrogate, Bool.and_eq_true, decide_eq_true_eq] at hwhole
    have hchar : n.isValidChar := by
      unfold Nat.isValidChar
      omega
    rw [Char.ofNat, dif_pos hchar]
    rfl
  refine ⟨String.ofList (points.map Char.ofNat), ?_⟩
  rw [codePoints, String.toList_ofList, List.map_map]
  exact ((List.map_congr_left hchars).trans (List.map_id points)).symm

/-! ### What is answered to a part -/

theorem selected_codePoints (s : String) :
    selected (.text (codePoints s)) = .ok (plainResponse s 200) := by
  rw [selected]
  simp only [textOf?_codePoints]

theorem selected_half (h : points.any isSurrogate = true) :
    selected (.text points) = .error (.ofSurrogates points) := by
  have hnone : textOf? points = none := if_pos h
  rw [selected]
  simp only [hnone]

theorem selected_document (h : ∀ points, part ≠ .text points) :
    selected part = .ok (textResponse (print .indented part) 200 "application/json") := by
  cases part with
  | text points => exact absurd rfl (h points)
  | null | bool | int | float | list | object => rfl

/-- Only a string with half of a pair is not answered. -/
theorem selected_cases (part : Json) : (∃ r, selected part = .ok r ∧ r.status = 200) ∨
    ∃ points, part = .text points ∧ points.any isSurrogate = true ∧
      selected part = .error (.ofSurrogates points) := by
  by_cases htext : ∃ points, part = .text points
  · obtain ⟨points, rfl⟩ := htext
    by_cases hhalf : points.any isSurrogate = true
    · exact .inr ⟨points, rfl, hhalf, selected_half hhalf⟩
    · have hsome : textOf? points = some (String.ofList (points.map Char.ofNat)) := if_neg hhalf
      refine .inl ⟨plainResponse (String.ofList (points.map Char.ofNat)) 200, ?_, rfl⟩
      rw [selected]
      simp only [hsome]
  · exact .inl ⟨_, selected_document fun points h => htext ⟨points, h⟩, rfl⟩

/-! ### Selections -/

theorem jsonSelect_of_opensBeyond (h : OpensBeyond openLimit text.toList) (path : String) :
    ∃ isObject, jsonSelect [.text text, .text path] = .error (.tooDeep isObject) := by
  obtain ⟨isObject, place, hdeep⟩ := exists_depth_iff.2 h
  have hread : Json.read text.toList = .error ⟨.depth isObject, place⟩ := hdeep
  refine ⟨isObject, ?_⟩
  simp only [jsonSelect, List.map_cons, List.map_nil, textOf, hread]

theorem jsonSelect_of_read (h : Json.read text.toList = .ok v) :
    jsonSelect [.text text, .text path] = selectFrom v.distinct path := by
  simp only [jsonSelect, List.map_cons, List.map_nil, textOf, h]

theorem jsonSelect_of_selects (hopen : ¬ OpensBeyond openLimit text.toList)
    (h : Selects text path part) : jsonSelect [.text text, .text path] = selected part := by
  obtain ⟨v, hv, hpart⟩ := h
  rw [jsonSelect_of_read (read_of_isDocument hopen hv), selectFrom]
  simp only [hpart]

theorem jsonSelect_of_not_selects (hopen : ¬ OpensBeyond openLimit text.toList)
    (h : ¬ ∃ part, Selects text path part) :
    ∃ reason, jsonSelect [.text text, .text path] = .ok (notSelected reason) := by
  cases hread : Json.read text.toList with
  | ok v =>
    rw [jsonSelect_of_read hread, selectFrom]
    cases hpart : select v.distinct path.toList with
    | ok part => exact absurd ⟨part, v, (read_eq_ok_iff.1 hread).1, hpart⟩ h
    | error fault => exact ⟨_, rfl⟩
  | error fault =>
    obtain ⟨defect, place⟩ := fault
    refine ⟨ReadFault.message text.toList ⟨defect, place⟩, ?_⟩
    -- Of all that stops the reading only the depth is not answered.
    cases defect with
    | depth isObject => exact absurd (exists_depth_iff.1 ⟨isObject, place, hread⟩) hopen
    | mark | value | name | colon | comma | extra | text | number =>
      simp only [jsonSelect, List.map_cons, List.map_nil, textOf, hread]

/-- How the selection from a text that opens no more containers than allowed is answered. -/
inductive Selected (text path : String) : Except OperationFault Response → Prop
  | part {part : Json} {r : Response} (hpart : Selects text path part) (hstatus : r.status = 200) :
      Selected text path (.ok r)
  | nothing (hnone : ¬ ∃ part, Selects text path part) (reason : String) :
      Selected text path (.ok (notSelected reason))
  | half {points : CodePoints} (hpart : Selects text path (.text points))
      (hhalf : points.any isSurrogate = true) : Selected text path (.error (.ofSurrogates points))

theorem jsonSelect_selected (hopen : ¬ OpensBeyond openLimit text.toList) (path : String) :
    Selected text path (jsonSelect [.text text, .text path]) := by
  by_cases hpart : ∃ part, Selects text path part
  · obtain ⟨part, hpart⟩ := hpart
    rw [jsonSelect_of_selects hopen hpart]
    rcases selected_cases part with ⟨r, hr, hstatus⟩ | ⟨points, rfl, hhalf, hfault⟩
    · rw [hr]
      exact .part hpart hstatus
    · rw [hfault]
      exact .half hpart hhalf
  · obtain ⟨reason, hreason⟩ := jsonSelect_of_not_selects hopen hpart
    rw [hreason]
    exact .nothing hpart reason

/-- The answer to a text and a path: the part as plain text or printed as a document, or the reason why
there is none. The call fails only where too many containers are open at once and for a string with half
of a surrogate pair. -/
structure IsSelection (text path : String) (answer : Except OperationFault Response) : Prop where
  fails : (∃ fault, answer = .error fault) ↔ OpensBeyond openLimit text.toList ∨
    ∃ points, Selects text path (.text points) ∧ points.any isSurrogate = true
  refuses : (∃ reason, answer = .ok (notSelected reason)) ↔
    ¬ OpensBeyond openLimit text.toList ∧ ¬ ∃ part, Selects text path part
  string : ¬ OpensBeyond openLimit text.toList → ∀ points, Selects text path (.text points) →
    ¬ points.any isSurrogate = true →
      ∃ s, points = codePoints s ∧ answer = .ok (plainResponse s 200)
  document : ¬ OpensBeyond openLimit text.toList → ∀ part, Selects text path part →
    (∀ points, part ≠ .text points) →
      answer = .ok (textResponse (print .indented part) 200 "application/json")

/-- A selection answers with the part that the path leads to, and with status 400 and the reason exactly
where the text is no document or the path leads to no part of it. It fails where containers stand too
deep inside each other and where the part is a string with half of a surrogate pair. -/
theorem jsonSelect_exact (text path : String) :
    IsSelection text path (jsonSelect [.text text, .text path]) where
  fails := by
    by_cases hopen : OpensBeyond openLimit text.toList
    · obtain ⟨isObject, hdeep⟩ := jsonSelect_of_opensBeyond hopen path
      exact ⟨fun _ => .inl hopen, fun _ => ⟨_, hdeep⟩⟩
    constructor
    · rintro ⟨fault, hfault⟩
      have hselected := jsonSelect_selected hopen path
      rw [hfault] at hselected
      cases hselected with
      | half hpart hhalf => exact .inr ⟨_, hpart, hhalf⟩
    · intro h
      obtain ⟨points, hpart, hhalf⟩ := h.resolve_left hopen
      exact ⟨_, (jsonSelect_of_selects hopen hpart).trans (selected_half hhalf)⟩
  refuses := by
    constructor
    · rintro ⟨reason, hreason⟩
      have hopen : ¬ OpensBeyond openLimit text.toList := by
        intro hopen
        obtain ⟨isObject, hdeep⟩ := jsonSelect_of_opensBeyond hopen path
        rw [hdeep] at hreason
        cases hreason
      refine ⟨hopen, ?_⟩
      -- A part is answered with status 200, so this answer is none of a part.
      have hselected := jsonSelect_selected hopen path
      rw [hreason] at hselected
      generalize hresult : (Except.ok (notSelected reason) : Except OperationFault Response) = result
        at hselected
      cases hselected with
      | part _ hstatus =>
        cases hresult
        cases hstatus
      | nothing hnone => exact hnone
      | half => cases hresult
    · rintro ⟨hopen, hnone⟩
      exact jsonSelect_of_not_selects hopen hnone
  string hopen points hpart hhalf := by
    obtain ⟨s, rfl⟩ := exists_codePoints hpart.isJoined hhalf
    exact ⟨s, rfl, (jsonSelect_of_selects hopen hpart).trans (selected_codePoints s)⟩
  document hopen part hpart hnoText :=
    (jsonSelect_of_selects hopen hpart).trans (selected_document hnoText)

theorem select_dollar (v : Json) : select v "$".toList = .ok v := by
  have hpath : IsPath [] "$".toList := .inr rfl
  rw [select_eq_walk hpath, walk_nil]

/-- The document is half of a surrogate pair: it is read and selected, and there is no answer. -/
theorem half_not_answered : Selects "\"\\ud800\"" "$" (.text [0xD800]) ∧
    jsonSelect [.text "\"\\ud800\"", .text "$"] = .error (.ofSurrogates [0xD800]) := by
  have hjoined : IsJoined [0xD800] := isJoined_cons.2 ⟨by decide, by simp, isJoined_nil⟩
  have hread : Json.read "\"\\ud800\"".toList = .ok (.text [0xD800]) := by
    have hprinted : print .spaced (.text [0xD800]) = "\"\\ud800\"" := by decide +kernel
    rw [← hprinted]
    refine read_print isPlain_spaced (fun l hl => ?_) (Nat.zero_le _)
    obtain rfl := List.mem_singleton.1 hl
    exact isPrintable_text hjoined
  have hpart : Selects "\"\\ud800\"" "$" (.text [0xD800]) :=
    ⟨_, (read_eq_ok_iff.1 hread).1, select_dollar _⟩
  have hopen := not_opensBeyond_of_read hread
  exact ⟨hpart, (jsonSelect_of_selects hopen hpart).trans (selected_half (by decide))⟩

/-! ### Selection in two lines -/

variable {first second : List Written} {path₁ path₂ path₃ : String}

/-- The part of a document without fractions is read as it is printed. -/
theorem Selects.read_print (h : Selects text path part) (hopen : ¬ OpensBeyond openLimit text.toList)
    (hwhole : ∀ x, Lexeme.scalar (.float x) ∉ lexemesOf text.toList) :
    Json.read (print .indented part).toList = .ok part := by
  have hprintable : ∀ l ∈ lexemes part, l.IsPrintable := by
    refine h.forall_mem_lexemes isPrintable_mark fun l hl => ?_
    refine ⟨isProper_of_mem_lexemesOf _ l hl, ?_⟩
    rintro x rfl
    exact hwhole x hl
  obtain ⟨v, hv, hpart⟩ := h
  have hnesting := (read_eq_ok_iff.1 (read_of_isDocument hopen hv)).2
  refine Json.read_print isPlain_indented hprintable ?_
  refine forall_of_select (q := fun w => nesting w ≤ openLimit) ?_ hpart
    ((nesting_distinct_le v).trans hnesting)
  exact fun _ _ hw => (nesting_of_mem_parts hw).trans

/-- The keys of a part are distinct. -/
theorem Selects.distinct (h : Selects text path part) : part.distinct = part := by
  obtain ⟨v, -, hpart⟩ := h
  exact forall_of_select (q := fun w => w.distinct = w) (fun _ _ => distinct_of_mem_parts) hpart
    (distinct_distinct v)

/-- A path leads on from where its first steps lead. -/
theorem select_append (hpath₁ : IsPath first path₁.toList) (hpath₂ : IsPath second path₂.toList)
    (hpath₃ : IsPath (first ++ second) path₃.toList) (h : select v path₁.toList = .ok part) :
    select v path₃.toList = select part path₂.toList := by
  rw [select_eq_walk hpath₁] at h
  rw [select_eq_walk hpath₂, select_eq_walk hpath₃, walk_append, h, ok_bind]

/-- A selection from a printed part is the selection from the document with both paths. -/
theorem jsonSelect_append (hpath₁ : IsPath first path₁.toList) (hpath₂ : IsPath second path₂.toList)
    (hpath₃ : IsPath (first ++ second) path₃.toList) (hopen : ¬ OpensBeyond openLimit text.toList)
    (hwhole : ∀ x, Lexeme.scalar (.float x) ∉ lexemesOf text.toList) (h : Selects text path₁ part) :
    jsonSelect [.text (print .indented part), .text path₂] =
      jsonSelect [.text text, .text path₃] := by
  rw [jsonSelect_of_read (h.read_print hopen hwhole), h.distinct]
  obtain ⟨v, hv, hpart⟩ := h
  rw [jsonSelect_of_read (read_of_isDocument hopen hv), selectFrom, selectFrom,
    select_append hpath₁ hpath₂ hpath₃ hpart]

/-- The line selects from a text with a path. -/
def Asks (s : Scope) (line text path : String) : Prop :=
  ∃ a b, Calls line selecting [a, b] ∧ s.textOf a = .ok text ∧ s.textOf b = .ok path

/-- The line selects from the text of the last response. -/
def AsksLast (s : Scope) (line path : String) : Prop :=
  ∃ name b, Calls line selecting [⟨.reference, name, lastResponse⟩, b] ∧ s.textOf b = .ok path

variable {sh : Shell} {p : Policy} {state after : ShellState} {printed : List String}
  {reported : List Report} {line line₁ line₂ line₃ : String} {vars : Variables} {w : World}

theorem Asks.execute (h : Asks ⟨vars, w⟩ line text path) (hsh : sh.HasUtility) :
    sh.directory.execute vars w line =
      ((jsonSelect [.text text, .text path]).mapError .operation, w) := by
  obtain ⟨a, b, hcalls, ha, hb⟩ := h
  exact execute_selecting hcalls hsh ha hb

/-- Arguments that are no references are the text and the path themselves. -/
theorem asks_of_read {form form' : Form} {scope : Scope}
    (h : Command.read line = .ok ⟨"Utility", "json_select", [⟨form, "", text⟩, ⟨form', "", path⟩]⟩)
    (hform : form ≠ .reference) (hform' : form' ≠ .reference) : Asks scope line text path :=
  ⟨_, _, ⟨_, h, rfl⟩, Scope.textOf_of_ne_reference hform, Scope.textOf_of_ne_reference hform'⟩

theorem AsksLast.asks (h : AsksLast ⟨vars, w⟩ line path) (hlast : vars.lookup lastResponse = some text) :
    Asks ⟨vars, w⟩ line text path := by
  obtain ⟨name, b, hcalls, hb⟩ := h
  exact ⟨_, b, hcalls, Scope.textOf_of_lookup rfl hlast, hb⟩

/-- What is answered is captured, but for a mark at its start. -/
theorem Asks.perform {r : Response} (h : Asks ⟨state.session.vars, state.world⟩ line text path)
    (hsh : sh.HasUtility) (hr : jsonSelect [.text text, .text path] = .ok r) (hs : r.Carries s) :
    ((sh.perform p line).runFrom ⟨state, printed, reported⟩).2.state =
      ⟨(Shell.noteStatus state.session r).define lastResponse (unmarked s), state.world⟩ := by
  have hexecute : sh.directory.execute state.session.vars state.world line = (.ok r, state.world) := by
    rw [h.execute hsh, hr]
    rfl
  obtain ⟨a, b, hcalls, -⟩ := h
  rw [Shell.perform_execute_state hcalls.classify hexecute, Shell.takeResponse_of_carries hs]

/-- A part that is no string is captured as it is printed. -/
theorem Asks.captured (p : Policy) (printed : List String) (reported : List Report)
    (h : Asks ⟨state.session.vars, state.world⟩ line text path) (hsh : sh.HasUtility)
    (hopen : ¬ OpensBeyond openLimit text.toList)
    (hwhole : ∀ x, Lexeme.scalar (.float x) ∉ lexemesOf text.toList) (hpart : Selects text path part)
    (hnoText : ∀ points, part ≠ .text points) :
    ((sh.perform p line).runFrom ⟨state, printed, reported⟩).2.state.session.vars.lookup lastResponse =
      some (print .indented part) := by
  have hr := (jsonSelect_of_selects hopen hpart).trans (selected_document hnoText)
  have hdocument := (read_eq_ok_iff.1 (hpart.read_print hopen hwhole)).1
  rw [h.perform hsh hr (carries_document _ _), unmarked_of_head hdocument.noMark]
  exact (Shell.holds_define_text (print .indented part)).text

/-- Where a path leads to a part that is no string, selecting on from the captured part with a second path
gives the answer that the document gives to both paths in one: with status 200 where they lead to a
part, with status 400 where they do not. Only a string with half of a surrogate pair is no answer, in two
lines as in one. The numbers of the document are without fractions. -/
theorem select_in_two_lines (hsh : sh.HasUtility) (hpath₁ : IsPath first path₁.toList)
    (hpath₂ : IsPath second path₂.toList) (hpath₃ : IsPath (first ++ second) path₃.toList)
    (hopen : ¬ OpensBeyond openLimit text.toList)
    (hwhole : ∀ x, Lexeme.scalar (.float x) ∉ lexemesOf text.toList) (hpart : Selects text path₁ part)
    (hnoText : ∀ points, part ≠ .text points)
    (hline₁ : Asks ⟨state.session.vars, state.world⟩ line₁ text path₁)
    (hafter : ((sh.perform p line₁).runFrom ⟨state, printed, reported⟩).2.state = after)
    (hline₂ : AsksLast ⟨after.session.vars, after.world⟩ line₂ path₂)
    (hline₃ : Asks ⟨state.session.vars, state.world⟩ line₃ text path₃) :
    ∃ answer, Selected text path₃ answer ∧
      (sh.directory.execute after.session.vars after.world line₂).1 = answer.mapError .operation ∧
      (sh.directory.execute state.session.vars state.world line₃).1 = answer.mapError .operation := by
  have hlast := hline₁.captured p printed reported hsh hopen hwhole hpart hnoText
  rw [hafter] at hlast
  refine ⟨_, jsonSelect_selected hopen path₃, ?_, ?_⟩
  · rw [(hline₂.asks hlast).execute hsh, jsonSelect_append hpath₁ hpath₂ hpath₃ hopen hwhole hpart]
  · rw [hline₃.execute hsh]

/-- A document with a list under a key. -/
def cups : Json := .object [(codePoints "cups", .list [.int 7])]

/-- The text of `cups`. -/
def cupsText : String := "\x7b\"cups\": [7]\x7d"

/-- The step to the list. -/
def toList : List Written := [.key .quoted "cups".toList (by simp [KeyForm.Allows])]

theorem cups_printable : ∀ l ∈ lexemes cups, l.IsPrintable := by
  have hshort : Numeral.IsShort 7 := by
    rw [Numeral.IsShort]
    decide +kernel
  refine (forall_mem_lexemes_object isPrintable_mark).2 fun m hm => ?_
  obtain rfl := List.mem_singleton.1 hm
  refine ⟨isPrintable_text (isJoined_codePoints "cups"), ?_⟩
  refine (forall_mem_lexemes_list isPrintable_mark).2 fun v hv l hl => ?_
  obtain rfl := List.mem_singleton.1 hv
  obtain rfl := List.mem_singleton.1 hl
  exact ⟨hshort, by simp⟩

theorem read_cupsText : Json.read cupsText.toList = .ok cups := by
  have hprinted : print .spaced cups = cupsText := by decide +kernel
  rw [← hprinted]
  exact Json.read_print isPlain_spaced cups_printable (by decide +kernel)

/-- A line that selects the list. -/
def cupsLine : String := "Utility json_select '\x7b\"cups\": [7]\x7d' ['cups']"

/-- A line that selects from the list. -/
def cupLine : String := "Utility json_select $LastResponse [0]"

theorem cupLine_asksLast {scope : Scope} : AsksLast scope cupLine "[0]" := by
  have hread : Command.read cupLine = .ok ⟨"Utility", "json_select",
      [⟨.reference, "", lastResponse⟩, ⟨.plain, "", "[0]"⟩]⟩ := by decide +kernel
  exact ⟨"", _, ⟨_, hread, rfl⟩, rfl⟩

/-- A line that selects what both lines select. -/
def bothLine : String := "Utility json_select '\x7b\"cups\": [7]\x7d' ['cups'][0]"

/-- The session after the list was selected. -/
def cupsAfter : ShellState :=
  ((utilityShell.perform .printing cupsLine).runFrom ⟨utilityState, [], []⟩).2.state

theorem select_in_two_lines_cups : utilityShell.HasUtility ∧ IsPath toList "['cups']".toList ∧
    IsPath [.index 0] "[0]".toList ∧ IsPath (toList ++ [.index 0]) "['cups'][0]".toList ∧
    ¬ OpensBeyond openLimit cupsText.toList ∧
    (∀ x, Lexeme.scalar (.float x) ∉ lexemesOf cupsText.toList) ∧
    Selects cupsText "['cups']" (.list [.int 7]) ∧ (∀ points, Json.list [.int 7] ≠ .text points) ∧
    Asks ⟨utilityState.session.vars, utilityState.world⟩ cupsLine cupsText "['cups']" ∧
    ((utilityShell.perform .printing cupsLine).runFrom ⟨utilityState, [], []⟩).2.state = cupsAfter ∧
    AsksLast ⟨cupsAfter.session.vars, cupsAfter.world⟩ cupLine "[0]" ∧
    Asks ⟨utilityState.session.vars, utilityState.world⟩ bothLine cupsText "['cups'][0]" ∧
    ∃ answer, Selected cupsText "['cups'][0]" answer ∧
      (utilityShell.directory.execute cupsAfter.session.vars cupsAfter.world cupLine).1 =
        answer.mapError .operation ∧
      (utilityShell.directory.execute utilityState.session.vars utilityState.world bothLine).1 =
        answer.mapError .operation := by
  have hpath₁ : IsPath toList "['cups']".toList := .inl (by decide +kernel)
  have hpath₂ : IsPath [.index 0] "[0]".toList := .inl (by decide +kernel)
  have hpath₃ : IsPath (toList ++ [.index 0]) "['cups'][0]".toList := .inl (by decide +kernel)
  have hopen := not_opensBeyond_of_read read_cupsText
  have hdocument := (read_eq_ok_iff.1 read_cupsText).1
  have hwhole : ∀ x, Lexeme.scalar (.float x) ∉ lexemesOf cupsText.toList := by
    rw [hdocument]
    exact fun x hx => (cups_printable _ hx).noFloat x rfl
  have hpart : Selects cupsText "['cups']" (.list [.int 7]) := by
    refine ⟨cups, hdocument, ?_⟩
    rw [select_eq_walk hpath₁, toList, walk_cons]
    exact walk_nil (.list [.int 7])
  have hnoText : ∀ points, Json.list [.int 7] ≠ .text points := by simp
  have hread₁ : Command.read cupsLine = .ok ⟨"Utility", "json_select",
      [⟨.document, "", cupsText⟩, ⟨.plain, "", "['cups']"⟩]⟩ := by decide +kernel
  have hread₃ : Command.read bothLine = .ok ⟨"Utility", "json_select",
      [⟨.document, "", cupsText⟩, ⟨.plain, "", "['cups'][0]"⟩]⟩ := by decide +kernel
  have hline₁ : Asks ⟨utilityState.session.vars, utilityState.world⟩ cupsLine cupsText "['cups']" :=
    asks_of_read hread₁ (by decide) (by decide)
  have hline₂ : AsksLast ⟨cupsAfter.session.vars, cupsAfter.world⟩ cupLine "[0]" := cupLine_asksLast
  have hline₃ : Asks ⟨utilityState.session.vars, utilityState.world⟩ bothLine cupsText
      "['cups'][0]" :=
    asks_of_read hread₃ (by decide) (by decide)
  have hsh := utilityShell_hasUtility
  exact ⟨hsh, hpath₁, hpath₂, hpath₃, hopen, hwhole, hpart, hnoText, hline₁, rfl, hline₂, hline₃,
    select_in_two_lines hsh hpath₁ hpath₂ hpath₃ hopen hwhole hpart hnoText hline₁ rfl hline₂ hline₃⟩

/-- A list that holds half of a surrogate pair. -/
def halvesText : String := "[[\"\\ud800\"]]"

/-- The text of the inner list as it is printed. -/
def halfText : String := "[\n  \"\\ud800\"\n]"

/-- A line that selects the inner list. -/
def halvesLine : String := "Utility json_select '[[\"\\ud800\"]]' [0]"

/-- A line that selects what `halvesLine` and `cupLine` select. -/
def halfLine : String := "Utility json_select '[[\"\\ud800\"]]' [0][0]"

/-- The session after the inner list was selected. -/
def halvesAfter : ShellState :=
  ((utilityShell.perform .printing halvesLine).runFrom ⟨utilityState, [], []⟩).2.state

/-- The inner list is captured, but the string in it is selected without an answer, in one line and in
two. -/
theorem half_not_selected :
    (utilityShell.directory.execute utilityState.session.vars utilityState.world halvesLine).1 =
      .ok (textResponse halfText 200 "application/json") ∧
    (utilityShell.directory.execute halvesAfter.session.vars halvesAfter.world cupLine).1 =
      .error (.operation (.ofSurrogates [0xD800])) ∧
    (utilityShell.directory.execute utilityState.session.vars utilityState.world halfLine).1 =
      .error (.operation (.ofSurrogates [0xD800])) := by
  have hsh := utilityShell_hasUtility
  have hlist : jsonSelect [.text halvesText, .text "[0]"] =
      .ok (textResponse halfText 200 "application/json") := by decide +kernel
  have hhalf : jsonSelect [.text halfText, .text "[0]"] =
      .error (.ofSurrogates [0xD800]) := by decide +kernel
  have hboth : jsonSelect [.text halvesText, .text "[0][0]"] = .error (.ofSurrogates [0xD800]) := by
    decide +kernel
  have hread₁ : Command.read halvesLine = .ok ⟨"Utility", "json_select",
      [⟨.document, "", halvesText⟩, ⟨.plain, "", "[0]"⟩]⟩ := by decide +kernel
  have hread₃ : Command.read halfLine = .ok ⟨"Utility", "json_select",
      [⟨.document, "", halvesText⟩, ⟨.plain, "", "[0][0]"⟩]⟩ := by decide +kernel
  have hline₁ : Asks ⟨utilityState.session.vars, utilityState.world⟩ halvesLine halvesText "[0]" :=
    asks_of_read hread₁ (by decide) (by decide)
  have hline₂ : AsksLast ⟨halvesAfter.session.vars, halvesAfter.world⟩ cupLine "[0]" := cupLine_asksLast
  have hline₃ : Asks ⟨utilityState.session.vars, utilityState.world⟩ halfLine halvesText "[0][0]" :=
    asks_of_read hread₃ (by decide) (by decide)
  have hlast : halvesAfter.session.vars.lookup lastResponse = some halfText := by
    have hmark : unmarked halfText = halfText := unmarked_of_head (by decide)
    rw [halvesAfter, hline₁.perform hsh hlist (carries_document _ _), hmark]
    exact (Shell.holds_define_text _).text
  refine ⟨?_, ?_, ?_⟩
  · rw [hline₁.execute hsh, hlist]
    rfl
  · rw [(hline₂.asks hlast).execute hsh, hhalf]
    rfl
  · rw [hline₃.execute hsh, hboth]
    rfl

end Builtin.Utility

end OperatorConsole
