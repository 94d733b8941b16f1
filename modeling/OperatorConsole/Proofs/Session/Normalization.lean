import OperatorConsole.Proofs.Argument.Evaluation
import OperatorConsole.Proofs.Argument.Value
import OperatorConsole.Proofs.Json.Text
import OperatorConsole.Proofs.Session.Execution
import OperatorConsole.Proofs.Web.HeaderMap

/-!
What comes of a call. A response stays as it is, an answer of the web is copied without loss, also one
that was refused for its status, and an error that the interface behind an operation reports becomes a
response with all that it says. A result that is none of these and a failure are reported as such, and so
is an answer whose content does not come, a status below zero and a text that no bytes spell.
-/
namespace OperatorConsole

/-- All that an answer of the web says is in a response: the status, the whole content, and under each
name, once and in the order of the lines, all its values. -/
structure Transport.CopiedBy (t : Transport) (r : Response) : Prop where
  status : (r.status : Int) = t.status
  body : t.body = .ok r.body
  names : r.headers.map (·.1) = (t.headers.map (·.1)).eraseDups
  values : ∀ name values, (name, values) ∈ r.headers → values = t.headers.values name

/-- The content of a reported error is spelled by bytes: a text by those of UTF-8, from which it is
read back. -/
def ErrorBody.IsSpelled (content : Bytes) : ErrorBody → Prop
  | .text points => ∃ s : String, textOf? points = some s ∧ content = Utf8.encode s.toList ∧
      Utf8.decodeLossy content = s.toList
  | .bytes given => content = given

/-- The response to an error that the interface behind an operation reports. -/
structure Response.Reports (r : Response) (status : Int) (headers : List (String × List String))
    (body : ErrorBody) : Prop where
  status : (r.status : Int) = status
  headers : r.headers = headers
  body : body.IsSpelled r.body

/-- An outcome hands an answer of the web over. -/
def Outcome.HandsOver (outcome : Outcome) (t : Transport) : Prop :=
  outcome = .answer t ∨ outcome = .refused t

/-- What the result of a line is to be, by the outcome of the call. -/
inductive Outcome.Becomes : Outcome → Except Failure Response → Prop
  | response (r : Response) : Becomes (.response r) (.ok r)
  | copied {outcome : Outcome} {t : Transport} {r : Response} (ht : outcome.HandsOver t)
      (hr : t.CopiedBy r) : Becomes outcome (.ok r)
  /-- The content of the answer does not come to its end. -/
  | unfinished {outcome : Outcome} {t : Transport} {fault : OperationFault}
      (ht : outcome.HandsOver t) (hbody : t.body = .error fault) :
      Becomes outcome (.error (.operation fault))
  | reported {status : Int} {headers : List (String × List String)} {body : ErrorBody} {r : Response}
      (hr : r.Reports status headers body) : Becomes (.apiError status headers body) (.ok r)
  /-- A text with half of a surrogate pair is spelled by no bytes. -/
  | unspelled {status : Int} {headers : List (String × List String)} {points : CodePoints}
      (hpoints : points.any isSurrogate = true) :
      Becomes (.apiError status headers (.text points)) (.error (.operation (.ofSurrogates points)))
  /-- There is no response with a status below zero: neither of an answer that has come, nor of a report
  that is spelled. -/
  | negativeAnswer {outcome : Outcome} {t : Transport} {content : Bytes} (ht : outcome.HandsOver t)
      (hbody : t.body = .ok content) (hstatus : t.status < 0) :
      Becomes outcome (.error (.operation (.invalid negativeStatus)))
  | negativeReport {status : Int} {headers : List (String × List String)} {body : ErrorBody}
      {content : Bytes} (hbody : body.IsSpelled content) (hstatus : status < 0) :
      Becomes (.apiError status headers body) (.error (.operation (.invalid negativeStatus)))
  | other (typeName : String) : Becomes (.other typeName) (.error (.noResponse typeName))
  | failure (fault : OperationFault) : Becomes (.failure fault) (.error (.operation fault))

/-! ### Responses -/

theorem responseOf_ok {status : Int} (hstatus : 0 ≤ status) (headers : List (String × List String))
    (content : Bytes) : responseOf status headers (.ok content) = .ok ⟨status.toNat, headers, content⟩ := by
  rw [responseOf, ok_bind, Response.ofInt?, if_pos hstatus]
  rfl

theorem responseOf_negative {status : Int} (hstatus : status < 0)
    (headers : List (String × List String)) (content : Bytes) :
    responseOf status headers (.ok content) = .error (.invalid negativeStatus) := by
  rw [responseOf, ok_bind, Response.ofInt?, if_neg (by omega)]
  rfl

theorem responseOf_error (status : Int) (headers : List (String × List String))
    (fault : OperationFault) : responseOf status headers (.error fault) = .error fault := by
  rw [responseOf, error_bind]

theorem Transport.copiedBy {t : Transport} {content : Bytes} (hstatus : 0 ≤ t.status)
    (hbody : t.body = .ok content) : t.CopiedBy ⟨t.status.toNat, t.headers.grouped, content⟩ where
  status := Int.toNat_of_nonneg hstatus
  body := hbody
  names := by
    rw [Headers.grouped_eq, List.map_map]
    exact List.map_id _
  values name values h := by
    rw [Headers.grouped_eq] at h
    obtain ⟨name', -, h⟩ := List.mem_map.1 h
    obtain ⟨rfl, rfl⟩ := Prod.mk.inj h
    rfl

/-- The content of a reported error is written as the bytes that spell it, or no bytes do. -/
theorem ErrorBody.toBytes_cases (body : ErrorBody) :
    (∃ content, body.IsSpelled content ∧ body.toBytes = .ok content) ∨
      ∃ points, body = .text points ∧ points.any isSurrogate = true ∧
        body.toBytes = .error (.ofSurrogates points) := by
  cases body with
  | bytes content => exact .inl ⟨content, rfl, rfl⟩
  | text points =>
    by_cases hpoints : points.any isSurrogate = true
    · have htext : textOf? points = none := if_pos hpoints
      exact .inr ⟨points, rfl, hpoints, by rw [toBytes, htext]⟩
    · have htext : textOf? points = some (String.ofList (points.map Char.ofNat)) := if_neg hpoints
      refine .inl ⟨_, ⟨_, htext, rfl, ?_⟩, by rw [toBytes, htext]⟩
      exact Utf8.decodeLossy_encode _

/-! ### Outcomes -/

theorem Outcome.becomes_of_handsOver {outcome : Outcome} {t : Transport} (ht : outcome.HandsOver t) :
    outcome.Becomes outcome.toResponse := by
  have hmade : outcome.toResponse = t.toResponse.mapError .operation := by
    rcases ht with rfl | rfl <;> rw [toResponse]
  rw [hmade, Transport.toResponse]
  cases hbody : t.body with
  | error fault =>
    rw [responseOf_error, mapError_error]
    exact .unfinished ht hbody
  | ok content =>
    by_cases hstatus : 0 ≤ t.status
    · rw [responseOf_ok hstatus, mapError_ok]
      exact .copied ht (Transport.copiedBy hstatus hbody)
    · have hnegative := Int.not_le.1 hstatus
      rw [responseOf_negative hnegative, mapError_error]
      exact .negativeAnswer ht hbody hnegative

theorem Outcome.becomes_of_apiError (status : Int) (headers : List (String × List String))
    (body : ErrorBody) :
    (Outcome.apiError status headers body).Becomes (Outcome.apiError status headers body).toResponse := by
  rw [toResponse]
  rcases body.toBytes_cases with ⟨content, hcontent, hbytes⟩ | ⟨points, rfl, hpoints, hbytes⟩
  · rw [hbytes]
    by_cases hstatus : 0 ≤ status
    · rw [responseOf_ok hstatus, mapError_ok]
      exact .reported ⟨Int.toNat_of_nonneg hstatus, rfl, hcontent⟩
    · have hnegative := Int.not_le.1 hstatus
      rw [responseOf_negative hnegative, mapError_error]
      exact .negativeReport hcontent hnegative
  · rw [hbytes, responseOf_error, mapError_error]
    exact .unspelled hpoints

theorem Outcome.becomes_toResponse (outcome : Outcome) : outcome.Becomes outcome.toResponse := by
  cases outcome with
  | response r => exact .response r
  | answer t => exact becomes_of_handsOver (.inl rfl)
  | refused t => exact becomes_of_handsOver (.inr rfl)
  | apiError status headers body => exact becomes_of_apiError status headers body
  | other typeName => exact .other typeName
  | failure fault => exact .failure fault

section

variable {d : Directory} {vars : Variables} {w w₁ w' : World} {line : String} {s : Service}
  {o : Operation} {arguments : List Argument} {values : List Value} {target : Target}
  {outcome : Outcome}

/-- Whatever a call comes to, the line that made it comes to what that outcome is to become, in the
world that the call left. -/
theorem execute_normalizes (hread : d.read line = .ok (s, o, arguments))
    (hbind : Scope.bind ⟨vars, w⟩ o.formals arguments = .ok values)
    (hfactory : s.factory (w.withSent (Scope.sentByBind ⟨vars, w⟩ o.formals arguments)) =
      (.ok target, w₁))
    (hperform : o.perform target values w₁ = (outcome, w')) :
    outcome.Becomes (d.execute vars w line).1 ∧ (d.execute vars w line).2 = w' := by
  rw [Directory.execute_of_read hread, call_of_bind_ok hbind, invoke_of_factory hfactory hperform]
  exact ⟨outcome.becomes_toResponse, rfl⟩

end

/-- An operation without parameters of which every call comes to the same. -/
def oneOperation (outcome : Outcome) : Operation := ⟨"fail", [], fun _ _ w => (outcome, w)⟩

/-- A service with nothing but that operation. -/
def oneService (outcome : Outcome) : Service :=
  ⟨"ThingClient", .plain "ThingClient", [oneOperation outcome]⟩

/-- A directory with nothing but that service. -/
def oneDirectory (outcome : Outcome) : Directory := ⟨[oneService outcome]⟩

theorem oneDirectory_read (outcome : Outcome) : (oneDirectory outcome).read "Thing fail" =
    .ok (oneService outcome, oneOperation outcome, []) := by
  have hcommand : Command.read "Thing fail" = .ok ⟨"Thing", "fail", []⟩ := by decide +kernel
  have hservice : (serviceName "ThingClient" == "Thing") = true := by decide +kernel
  have hverb : (verbName "fail" == "fail") = true := by decide +kernel
  have hresolve : (oneDirectory outcome).resolve "Thing" "fail" =
      .ok (oneService outcome, oneOperation outcome) := by
    simp only [Directory.resolve, Directory.service?, oneDirectory, oneService, List.find?_cons,
      Service.name, hservice, Directory.operation, List.filter_cons, Operation.verb, oneOperation, hverb,
      if_true, List.filter_nil]
    rfl
  rw [Directory.read, hcommand]
  simp only [mapError_ok, ok_bind, hresolve]
  rfl

theorem oneDirectory_execute (r : Response) (vars : Variables) (w : World) :
    (oneDirectory (.response r)).execute vars w "Thing fail" = (.ok r, w) := by
  have hsent : w.withSent [] = w := by simp [World.withSent]
  rw [Directory.execute_of_read (oneDirectory_read _)]
  exact congrArg (Except.ok r, ·) hsent

/-- A report with a text and a status that is not below zero becomes a response. -/
theorem Outcome.Becomes.exists_reports {status : Int} {headers : List (String × List String)} {s : String}
    {result : Except Failure Response} (hstatus : 0 ≤ status)
    (h : (Outcome.apiError status headers (.text (codePoints s))).Becomes result) :
    ∃ r, result = .ok r ∧ r.Reports status headers (.text (codePoints s)) := by
  cases h with
  | copied ht | unfinished ht _ | negativeAnswer ht _ _ => rcases ht with ht | ht <;> cases ht
  | reported hr => exact ⟨_, rfl, hr⟩
  | unspelled hpoints => simp [codePoints, isSurrogate_toNat] at hpoints
  | negativeReport _ hnegative => omega

/-- The outcome of a conflict that is reported with a text. -/
def conflict : Outcome := .apiError 409 [("Retry-After", ["1"])] (.text (codePoints "gone"))

theorem execute_normalizes_conflict :
    (oneDirectory conflict).read "Thing fail" = .ok (oneService conflict, oneOperation conflict, []) ∧
      Scope.bind ⟨[], .bare⟩ (oneOperation conflict).formals [] = .ok [] ∧
      (oneService conflict).factory .bare = (.ok ⟨"ThingClient", []⟩, .bare) ∧
      (oneOperation conflict).perform ⟨"ThingClient", []⟩ [] .bare = (conflict, .bare) ∧
      ∃ r, ((oneDirectory conflict).execute [] .bare "Thing fail").1 = .ok r ∧
        r.Reports 409 [("Retry-After", ["1"])] (.text (codePoints "gone")) := by
  have hread := oneDirectory_read conflict
  have hbind : Scope.bind ⟨[], .bare⟩ (oneOperation conflict).formals [] = .ok [] := by rfl
  have hnormal := execute_normalizes hread hbind rfl rfl
  exact ⟨hread, hbind, rfl, rfl, hnormal.1.exists_reports (by decide)⟩

/-- A reported error with a status below zero and one with half of a surrogate pair for its text have no
response: the line fails with the fault of making one. -/
theorem reported_error_refused :
    ((oneDirectory (.apiError (-1) [] (.bytes []))).execute [] .bare "Thing fail").1 =
        .error (.operation (.invalid negativeStatus)) ∧
      ((oneDirectory (.apiError 409 [] (.text [0xD800]))).execute [] .bare "Thing fail").1 =
        .error (.operation (.surrogates [0xD800] 0)) := by
  constructor
  · rw [Directory.execute_of_read (oneDirectory_read _)]
    rfl
  · rw [Directory.execute_of_read (oneDirectory_read _)]
    rfl

end OperatorConsole
