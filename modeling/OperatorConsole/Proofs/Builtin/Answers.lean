import OperatorConsole.Proofs.Builtin.Lines
import OperatorConsole.Proofs.Session.LastResponse
import OperatorConsole.Proofs.Text.Utf8

/-!
What built-in operations answer. An answer is empty, or content, or a text. A text is written in UTF-8 and
read back as it was, but for a byte-order mark at its start, and so it is captured in the variable for the
last response.
-/
namespace OperatorConsole

open Builtin

variable {s type : String} {status : Nat} {r r' : Response}

/-- The text without a byte-order mark at its start. -/
def unmarked (s : String) : String := String.ofList (Utf8.unmarked s.toList)

theorem unmarked_of_head (h : s.toList.head? ≠ some (Char.ofNat 0xFEFF)) : unmarked s = s := by
  rw [unmarked, Utf8.unmarked_of_head h, String.ofList_toList]

/-- A media type of the texts that built-in operations answer. -/
def IsTextAnswerType (type : String) : Prop := type = "text/plain" ∨ type = "application/json"

/-- The response is a text that a built-in operation answers. -/
def Response.Carries (r : Response) (s : String) : Prop :=
  ∃ status type, IsTextAnswerType type ∧ r = textResponse s status type

theorem carries_plain (s : String) (status : Nat) : (plainResponse s status).Carries s :=
  ⟨status, "text/plain", .inl rfl, rfl⟩

theorem carries_document (s : String) (status : Nat) :
    (textResponse s status "application/json").Carries s := ⟨status, "application/json", .inr rfl, rfl⟩

/-- The media type is told by the headers alone. -/
theorem Response.mediaType_congr (h : r.headers = r'.headers) : r.mediaType = r'.mediaType := by
  rw [Response.mediaType, Response.mediaType, Response.header, Response.header, h]

theorem mediaType_textResponse (htype : IsTextAnswerType type) (s : String) (status : Nat) :
    (textResponse s status type).mediaType = some type := by
  have hempty : (textResponse s status type).mediaType = (textResponse "" 0 type).mediaType :=
    Response.mediaType_congr rfl
  rw [hempty]
  rcases htype with rfl | rfl <;> decide +kernel

namespace Response.Carries

theorem isText (h : r.Carries s) : r.isText = true := by
  obtain ⟨status, type, htype, rfl⟩ := h
  rw [Response.isText, mediaType_textResponse htype]
  rcases htype with rfl | rfl <;> decide +kernel

/-- The text of an answer is the text that it was made of, but for a mark at its start. -/
theorem text (h : r.Carries s) : r.text = unmarked s := by
  obtain ⟨status, type, -, rfl⟩ := h
  rw [Response.text, textResponse, Utf8.dropMark_encode, Utf8.decodeLossy_encode, unmarked]

end Response.Carries

/-! ### The operations -/

/-- The operation is offered by one of the built-in services. -/
def Operation.IsBuiltin (o : Operation) : Prop := ∃ s ∈ builtinCatalog.services, o ∈ s.operations

/-- An answer of a built-in operation: empty, content, or a text. -/
inductive Response.IsAnswer : Response → Prop
  | empty : IsAnswer (.ofStatus 200)
  | content (content : Bytes) :
      IsAnswer ⟨200, [("Content-Type", ["application/octet-stream"])], content⟩
  | text {r : Response} {s : String} (h : r.Carries s) : IsAnswer r

/-- The call is answered as built-in operations answer, or it fails. -/
def Outcome.IsAnswered (outcome : Outcome) : Prop :=
  (∃ r : Response, outcome = .response r ∧ r.IsAnswer) ∨ ∃ fault, outcome = .failure fault

theorem isAnswer_plain (s : String) (status : Nat) : (plainResponse s status).IsAnswer :=
  .text (carries_plain s status)

theorem isAnswer_document (s : String) (status : Nat) :
    (textResponse s status "application/json").IsAnswer := .text (carries_document s status)

section

variable {f : List Value → Except OperationFault Response}
  {g : List Value → Headers → Except OperationFault Headers}

theorem isAnswered_changingHeaders (target : Target) (values : List Value) (w : World) :
    (changingHeaders g target values w).1.IsAnswered := by
  unfold changingHeaders
  split
  · exact .inl ⟨_, rfl, .empty⟩
  · exact .inr ⟨_, rfl⟩

theorem isAnswered_answering (hf : ∀ values r, f values = .ok r → r.IsAnswer) (target : Target)
    (values : List Value) (w : World) : (answering f target values w).1.IsAnswered := by
  unfold answering
  split
  · next hr => exact .inl ⟨_, rfl, hf _ _ hr⟩
  · exact .inr ⟨_, rfl⟩

end

theorem isAnswer_encodeBase64 (values : List Value) (r : Response)
    (h : Utility.encodeBase64 values = .ok r) : r.IsAnswer := by
  unfold Utility.encodeBase64 at h
  split at h <;> cases h
  exact isAnswer_plain _ _

theorem isAnswer_decodeBase64 (values : List Value) (r : Response)
    (h : Utility.decodeBase64 values = .ok r) : r.IsAnswer := by
  unfold Utility.decodeBase64 Utility.decodeText at h
  split at h
  · split at h
    · cases h
    · split at h <;> cases h
      · exact .content _
      · exact isAnswer_plain _ _
  · cases h

theorem isAnswer_selected {part : Json} (h : Utility.selected part = .ok r) : r.IsAnswer := by
  unfold Utility.selected at h
  split at h
  · split at h <;> cases h
    exact isAnswer_plain _ _
  · cases h
    exact isAnswer_document _ _

theorem isAnswer_jsonSelect (values : List Value) (r : Response)
    (h : Utility.jsonSelect values = .ok r) : r.IsAnswer := by
  unfold Utility.jsonSelect Utility.selectFrom at h
  split at h
  · split at h
    · cases h
    · cases h
      exact isAnswer_plain _ _
    · split at h
      · split at h
        · exact isAnswer_selected h
        · cases h
          exact isAnswer_plain _ _
      · cases h
  · cases h

theorem isAnswered_getToken (target : Target) (values : List Value) (w : World) :
    (Authentication.getToken target values w).1.IsAnswered := by
  unfold Authentication.getToken
  split
  · exact .inr ⟨_, rfl⟩
  · split
    · exact .inl ⟨_, rfl, .empty⟩
    · exact .inl ⟨_, rfl, isAnswer_document _ _⟩

/-- Every call of a built-in operation is answered or fails. -/
theorem Operation.IsBuiltin.isAnswered {o : Operation} (ho : o.IsBuiltin) (target : Target)
    (values : List Value) (w : World) : (o.perform target values w).1.IsAnswered := by
  obtain ⟨s, hs, ho⟩ := ho
  have hservices : builtinCatalog.services = [Utility.client.service, Authentication.client.service] :=
    rfl
  rw [hservices] at hs
  simp only [List.mem_cons, List.not_mem_nil, or_false] at hs
  rcases hs with rfl | rfl
  · rw [Utility.operations_eq] at ho
    simp only [List.mem_cons, List.not_mem_nil, or_false] at ho
    rcases ho with rfl | rfl | rfl | rfl | rfl
    · exact isAnswered_changingHeaders target values w
    · exact isAnswered_changingHeaders target values w
    · exact isAnswered_answering isAnswer_encodeBase64 target values w
    · exact isAnswered_answering isAnswer_decodeBase64 target values w
    · exact isAnswered_answering isAnswer_jsonSelect target values w
  · rw [Authentication.operations_eq] at ho
    simp only [List.mem_cons, List.not_mem_nil, or_false] at ho
    rcases ho with rfl | rfl | rfl
    · exact isAnswered_changingHeaders target values w
    · exact isAnswered_getToken target values w
    · exact isAnswered_changingHeaders target values w

/-! ### Capture -/

namespace Shell

variable {sh : Shell} {p : Policy} {state : ShellState} {line : String} {w : World} {service : Service}
  {o : Operation} {arguments : List Argument}

/-- A text is captured without a mark at its start, whatever the session was. -/
theorem takeResponse_of_carries (h : r.Carries s) :
    (sh.takeResponse state r).state =
      ⟨(noteStatus state.session r).define lastResponse (unmarked s), state.world⟩ := by
  have hsaved : savedType? (noteStatus state.session r) r = none := by
    cases htype : savedType? (noteStatus state.session r) r with
    | none => rfl
    | some type =>
      have hsavable := isSavable_iff.2 ⟨type, htype⟩
      exact absurd hsavable (not_isSavable_of_isText h.isText)
  simp only [takeResponse, hsaved, captureText, h.isText, h.text, if_true]

/-- The answer of a line that calls a built-in operation is empty, content, or a text. A text is the text
that the operation answered, but for a mark at its start, and as such it is captured. -/
theorem builtin_text_captured (p : Policy) (printed : List String) (reported : List Report)
    (hline : classify line = .execute) (ho : o.IsBuiltin)
    (hread : sh.directory.read line = .ok (service, o, arguments))
    (hr : sh.directory.execute state.session.vars state.world line = (.ok r, w)) :
    r.IsAnswer ∧ ∀ s, r.Carries s → r.isText = true ∧ r.text = unmarked s ∧
      ((sh.perform p line).runFrom ⟨state, printed, reported⟩).2.state.session.Holds (unmarked s) "" := by
  refine ⟨?_, fun s hs => ⟨hs.isText, hs.text, ?_⟩⟩
  · -- the result is an index of `Execution`, and that of a call is no constructor
    have hexecute := Directory.execution_of_execute hr
    generalize hresult : (Except.ok r : Except Failure Response) = result at hexecute
    cases hexecute with
    | unread => cases hresult
    | unbound => cases hresult
    | @invoked _ _ _ values _ _ hfound hbind hinvoke =>
      rw [hread] at hfound
      cases hfound
      cases hinvoke with
      | unmade => cases hresult
      | @called target w₁ _ outcome hfactory hperform =>
        have hanswered := ho.isAnswered target values w₁
        rw [hperform] at hanswered
        rcases hanswered with ⟨r', rfl, hanswer⟩ | ⟨fault, rfl⟩
        · cases hresult
          exact hanswer
        · cases hresult
  · rw [perform_execute_state hline hr, takeResponse_of_carries hs]
    exact holds_define_text _

/-- A line that selects the whole of a document is answered as the operation answers. -/
theorem execute_whole {text : String}
    (hcalls : Utility.Calls line Utility.selecting [⟨.document, "", text⟩, ⟨.plain, "", "$"⟩])
    (hselect : Utility.jsonSelect [.text text, .text "$"] = .ok r) :
    Utility.utilityShell.directory.execute Utility.utilityState.session.vars Utility.utilityState.world
      line = (.ok r, World.bare) := by
  rw [Utility.execute_selecting hcalls Utility.utilityShell_hasUtility rfl rfl, hselect]
  rfl

/-- A line that selects the whole of a document, which is a string. -/
def teaLine : String := "Utility json_select '\"tea\"' $"

/-- What `teaLine` gives to the operation. -/
def teaArguments : List Argument := [⟨.document, "", "\"tea\""⟩, ⟨.plain, "", "$"⟩]

theorem text_captured_tea : classify teaLine = .execute ∧ Utility.selecting.IsBuiltin ∧
    Utility.utilityShell.directory.read teaLine =
      .ok (Utility.client.service, Utility.selecting, teaArguments) ∧
    Utility.utilityShell.directory.execute Utility.utilityState.session.vars Utility.utilityState.world
      teaLine = (.ok (plainResponse "tea" 200), World.bare) ∧
    (plainResponse "tea" 200).Carries "tea" ∧ (plainResponse "tea" 200).text = "tea" ∧
    ((Utility.utilityShell.perform .printing teaLine).runFrom
      ⟨Utility.utilityState, [], []⟩).2.state.session.Holds "tea" "" := by
  have hcommand : Command.read teaLine = .ok ⟨"Utility", "json_select", teaArguments⟩ := by
    decide +kernel
  have hcalls : Utility.Calls teaLine Utility.selecting teaArguments := ⟨_, hcommand, rfl⟩
  have hmem : Utility.selecting ∈ Utility.client.service.operations := by
    simp [Utility.operations_eq]
  have hread : Utility.utilityShell.directory.read teaLine =
      .ok (Utility.client.service, Utility.selecting, teaArguments) :=
    Directory.read_of_command hcommand Utility.utilityShell_hasUtility
      (Utility.operation_of_mem hmem)
  have hbuiltin : Utility.selecting.IsBuiltin := ⟨_, List.mem_cons_self, hmem⟩
  have hselect : Utility.jsonSelect [.text "\"tea\"", .text "$"] = .ok (plainResponse "tea" 200) := by
    decide +kernel
  have hr := execute_whole hcalls hselect
  have hcarries := carries_plain "tea" 200
  have hunmarked : unmarked "tea" = "tea" := unmarked_of_head (by decide)
  have hcaptured := (builtin_text_captured .printing [] [] hcalls.classify hbuiltin hread hr).2 "tea"
    hcarries
  rw [hunmarked] at hcaptured
  exact ⟨hcalls.classify, hbuiltin, hread, hr, hcarries, hcaptured.2⟩

/-- A line that selects a string with a byte-order mark at its start. -/
def markedLine : String := "Utility json_select '\"\\ufeffa\"' $"

/-- The mark at the start of a text that is answered is neither read back nor captured. -/
theorem mark_not_captured :
    (Utility.utilityShell.directory.execute Utility.utilityState.session.vars
      Utility.utilityState.world markedLine).1 = .ok (plainResponse "\ufeffa" 200) ∧
    (plainResponse "\ufeffa" 200).text ≠ "\ufeffa" ∧
    ((Utility.utilityShell.perform .printing markedLine).runFrom
      ⟨Utility.utilityState, [], []⟩).2.state.session.value? lastResponse ≠ some "\ufeffa" := by
  have hcommand : Command.read markedLine = .ok ⟨"Utility", "json_select",
      [⟨.document, "", "\"\\ufeffa\""⟩, ⟨.plain, "", "$"⟩]⟩ := by
    decide +kernel
  have hcalls : Utility.Calls markedLine Utility.selecting
      [⟨.document, "", "\"\\ufeffa\""⟩, ⟨.plain, "", "$"⟩] := ⟨_, hcommand, rfl⟩
  have hselect : Utility.jsonSelect [.text "\"\\ufeffa\"", .text "$"] =
      .ok (plainResponse "\ufeffa" 200) := by
    decide +kernel
  have hr := execute_whole hcalls hselect
  have hcarries := carries_plain "\ufeffa" 200
  have hunmarked : unmarked "\ufeffa" = "a" := by decide +kernel
  refine ⟨congrArg Prod.fst hr, ?_, ?_⟩
  · rw [hcarries.text, hunmarked]
    decide
  · rw [perform_execute_state hcalls.classify hr, takeResponse_of_carries hcarries, hunmarked,
      (holds_define_text "a").text]
    decide

end Shell

end OperatorConsole
