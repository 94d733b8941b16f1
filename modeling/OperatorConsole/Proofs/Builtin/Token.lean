import OperatorConsole.Builtin.Authentication
import OperatorConsole.Proofs.Json.Printed
import OperatorConsole.Proofs.Text.Parts
import OperatorConsole.Proofs.Web.HeaderMap

/-!
The answer to the question for credentials. It is empty where there are none, else it is a document that
is read as the scheme and the parameter: what stands before the first blank and all that follows it.
-/
namespace OperatorConsole

/-- The document on a scheme and a parameter. -/
def Builtin.Authentication.document (scheme parameter : String) : Json :=
  .object [(codePoints "scheme", .ofText scheme), (codePoints "parameter", .ofText parameter)]

/-- The answer tells a scheme and a parameter: it is read as the document on them. -/
def Response.Tells (r : Response) (scheme parameter : String) : Prop :=
  r.status = 200 ∧ r.headers = [("Content-Type", ["application/json; charset=utf-8"])] ∧
    ∃ text : String, r.body = Utf8.encode text.toList ∧
      Json.read text.toList = .ok (Builtin.Authentication.document scheme parameter)

namespace Builtin.Authentication

variable {w : World} {value scheme parameter : String}

theorem describe_of_blank (h : ' ' ∉ scheme.toList) :
    describe (scheme ++ " " ++ parameter) = document scheme parameter := by
  have hvalue : (scheme ++ " " ++ parameter).toList = scheme.toList ++ ' ' :: parameter.toList := by
    simp
  rw [describe, hvalue, Text.cut_append h]
  rfl

theorem describe_of_no_blank (h : ' ' ∉ value.toList) : describe value = document value "" := by
  rw [describe, Text.cut_of_not_mem h]
  rfl

theorem read_print_document (scheme parameter : String) :
    Json.read (Json.print .spaced (document scheme parameter)).toList = .ok (document scheme parameter) := by
  have hlexemes : (document scheme parameter).lexemes =
      [.mark '{', .text (codePoints "scheme"), .mark ':', .text (codePoints scheme), .mark ',',
        .text (codePoints "parameter"), .mark ':', .text (codePoints parameter), .mark '}'] := by
    simp [document, Json.ofText, Json.lexemes, Json.named]
  have hnesting : (document scheme parameter).nesting = 1 := by
    simp [document, Json.ofText, Json.nesting, Json.nestingMembers]
  refine Json.read_print Json.isPlain_spaced ?_ (hnesting.trans_le (by decide))
  rw [hlexemes]
  simp [Json.isPrintable_text (Json.isJoined_codePoints _)]

theorem tells_of_read {text : String} (h : Json.read text.toList = .ok (document scheme parameter)) :
    (textResponse text 200 "application/json").Tells scheme parameter :=
  ⟨rfl, rfl, text, rfl, h⟩

theorem tells_document (scheme parameter : String) :
    (textResponse (Json.print .spaced (document scheme parameter)) 200 "application/json").Tells
      scheme parameter :=
  tells_of_read (read_print_document scheme parameter)

/-! ### The answer -/

theorem getToken_of_error {fault : NotAscii} (h : w.client.headers.get? headerName = .error fault)
    (target : Target) (arguments : List Value) :
    getToken target arguments w = (.failure (.notAscii fault), w) := by
  rw [getToken, h]

theorem getToken_of_empty (h : w.client.headers.get? headerName = .ok none ∨
    w.client.headers.get? headerName = .ok (some "")) (target : Target) (arguments : List Value) :
    getToken target arguments w = (.response (.ofStatus 200), w) := by
  rcases h with h | h
  · rw [getToken, h]
    rfl
  · rw [getToken, h]
    rfl

theorem getToken_of_value (h : w.client.headers.get? headerName = .ok (some value)) (hne : value ≠ "")
    (target : Target) (arguments : List Value) : getToken target arguments w =
      (.response (textResponse (Json.print .spaced (describe value)) 200 "application/json"), w) := by
  rw [getToken, h]
  simp only [Option.getD_some]

/-- The name can be looked up. -/
theorem get?_headerName (h : Headers) : ∃ found, h.get? headerName = .ok found := by
  have hascii : notAscii? headerName = none := by decide +kernel
  exact ⟨_, Headers.get?_of_values (Headers.lookupName_of_ascii hascii)⟩

/-- The question is always answered. -/
theorem exists_getToken (target : Target) (arguments : List Value) (w : World) :
    ∃ r, (getToken target arguments w).1 = .response r := by
  obtain ⟨found, hfound⟩ := get?_headerName w.client.headers
  rw [getToken, hfound]
  simp only
  split
  · exact ⟨_, rfl⟩
  · exact ⟨_, rfl⟩

/-- The question changes nothing. -/
theorem getToken_world (target : Target) (arguments : List Value) (w : World) :
    (getToken target arguments w).2 = w := by
  unfold getToken
  split
  · rfl
  · split <;> rfl

/-- The answer is empty exactly if there are no credentials. -/
theorem getToken_eq_empty_iff (target : Target) (arguments : List Value) :
    (getToken target arguments w).1 = .response (.ofStatus 200) ↔
      w.client.headers.get? headerName = .ok none ∨ w.client.headers.get? headerName = .ok (some "") := by
  constructor
  · intro h
    cases hget : w.client.headers.get? headerName with
    | error fault =>
      rw [getToken_of_error hget] at h
      cases h
    | ok found =>
      cases found with
      | none => exact .inl rfl
      | some value =>
        by_cases hne : value = ""
        · rw [hne]
          exact .inr rfl
        · rw [getToken_of_value hget hne] at h
          cases h
  · intro h
    rw [getToken_of_empty h]

/-- The answer tells the scheme before the first blank and all that follows it. -/
theorem getToken_tells (h : w.client.headers.get? headerName = .ok (some (scheme ++ " " ++ parameter)))
    (hscheme : ' ' ∉ scheme.toList) (target : Target) (arguments : List Value) :
    ∃ r, (getToken target arguments w).1 = .response r ∧ r.Tells scheme parameter := by
  have hne : scheme ++ " " ++ parameter ≠ "" := by
    intro hnil
    have hlist := congrArg String.toList hnil
    simp at hlist
  rw [getToken_of_value h hne, describe_of_blank hscheme]
  exact ⟨_, rfl, tells_document scheme parameter⟩

theorem getToken_tells_of_no_blank (h : w.client.headers.get? headerName = .ok (some value))
    (hne : value ≠ "") (hblank : ' ' ∉ value.toList) (target : Target) (arguments : List Value) :
    ∃ r, (getToken target arguments w).1 = .response r ∧ r.Tells value "" := by
  rw [getToken_of_value h hne, describe_of_no_blank hblank]
  exact ⟨_, rfl, tells_document value ""⟩

end Builtin.Authentication

end OperatorConsole
