import OperatorConsole.Proofs.Builtin.Transfer
import OperatorConsole.Proofs.Text.Sextets

/-!
Base64 that an operator gives. A text that spells bytes is answered with these bytes, and any other text of
ASCII characters with the reason why it spells none. A text with another character has no answer.
-/
namespace OperatorConsole.Builtin.Utility

variable {encoded : String} {content : Bytes} {answer : Except OperationFault Response}

/-- The answer to a text that is not base64. -/
def notDecoded (fault : Base64.Fault) : Response :=
  plainResponse s!"Invalid base64 input: {fault.message}" 400

/-- The answer to a text in base64: the bytes that it spells, or the reason why it spells none. The call
fails for a text that is not ASCII, and for no other. -/
structure IsDecoding (encoded : String) (answer : Except OperationFault Response) : Prop where
  fails : ∀ fault, answer = .error fault ↔
    fault = .encodedNotAscii ∧ ∃ c ∈ encoded.toList, 0x80 ≤ c.toNat
  decodes : ∀ content, answer = .ok (contentResponse content) ↔ Base64.Spells encoded.toList content
  refuses : (∃ fault, answer = .ok (notDecoded fault)) ↔
    (∀ c ∈ encoded.toList, c.toNat < 0x80) ∧ ¬ ∃ content, Base64.Spells encoded.toList content

theorem decodeBase64_text (encoded : String) : decodeBase64 [.text encoded] = decodeText encoded := rfl

theorem decodeText_of_not_ascii (h : ∃ c ∈ encoded.toList, 0x80 ≤ c.toNat) :
    decodeText encoded = .error .encodedNotAscii := by
  have hall : encoded.toList.all isAscii = false := by
    obtain ⟨c, hc, hbig⟩ := h
    exact List.all_eq_false.2 ⟨c, hc, by simpa [isAscii] using hbig⟩
  rw [decodeText, hall]
  rfl

/-- A text of ASCII characters is answered by what reading it comes to. -/
theorem decodeText_of_ascii (h : ∀ c ∈ encoded.toList, c.toNat < 0x80) :
    (∃ content, Base64.decode encoded.toList = .ok content ∧
      decodeText encoded = .ok (contentResponse content)) ∨
    ∃ fault, Base64.decode encoded.toList = .error fault ∧
      decodeText encoded = .ok (notDecoded fault) := by
  have hall : encoded.toList.all isAscii = true :=
    List.all_eq_true.2 fun c hc => by simpa [isAscii] using h c hc
  rw [decodeText, hall]
  cases hdecode : Base64.decode encoded.toList with
  | ok content => exact .inl ⟨content, rfl, rfl⟩
  | error fault => exact .inr ⟨fault, rfl, rfl⟩

theorem contentResponse_ne_notDecoded (content : Bytes) (fault : Base64.Fault) :
    contentResponse content ≠ notDecoded fault := by
  intro h
  have hstatus : (200 : Nat) = 400 := congrArg Response.status h
  cases hstatus

/-- A text is answered with status 200 and the bytes just where it spells these bytes, and with status 400
and the reason just where it is ASCII and spells none; where it is not ASCII the call fails. -/
theorem decodeBase64_exact (encoded : String) :
    IsDecoding encoded (decodeBase64 [.text encoded]) := by
  rw [decodeBase64_text]
  by_cases hascii : ∀ c ∈ encoded.toList, c.toNat < 0x80
  · have hnone : ¬ ∃ c ∈ encoded.toList, 0x80 ≤ c.toNat := by
      rintro ⟨c, hc, hbig⟩
      exact Nat.not_lt.2 hbig (hascii c hc)
    rcases decodeText_of_ascii hascii with ⟨content, hdecode, hanswer⟩ | ⟨fault, hdecode, hanswer⟩
    · have hspells := Base64.decode_eq_ok_iff.1 hdecode
      refine ⟨fun fault => ?_, fun other => ?_, ?_⟩
      · simp [hanswer, hnone]
      · rw [hanswer, ← Base64.decode_eq_ok_iff, hdecode]
        simp [contentResponse]
      · refine iff_of_false ?_ fun h => h.2 ⟨content, hspells⟩
        rintro ⟨fault, h⟩
        exact contentResponse_ne_notDecoded content fault (Except.ok.inj (hanswer.symm.trans h))
    · have hnot : ∀ other, ¬ Base64.Spells encoded.toList other := by
        intro other h
        rw [← Base64.decode_eq_ok_iff, hdecode] at h
        cases h
      refine ⟨fun fault => ?_, fun other => ?_, ?_⟩
      · simp [hanswer, hnone]
      · refine iff_of_false (fun h => ?_) (hnot other)
        exact contentResponse_ne_notDecoded other fault (Except.ok.inj (h.symm.trans hanswer))
      · exact iff_of_true ⟨fault, hanswer⟩ ⟨hascii, fun ⟨other, h⟩ => hnot other h⟩
  · have hsome : ∃ c ∈ encoded.toList, 0x80 ≤ c.toNat := by simpa using hascii
    have hanswer := decodeText_of_not_ascii hsome
    refine ⟨fun fault => ?_, fun other => ?_, ?_⟩
    · simp [hanswer, hsome, eq_comm]
    · rw [hanswer]
      exact iff_of_false nofun fun h => hascii h.ascii
    · rw [hanswer]
      exact iff_of_false nofun fun h => hascii h.1

/-- The marks complete the last group, so the text spells a byte. -/
example : Base64.decode "aA==".toList = .ok [0x68] := by decide +kernel

/-- A text with a letter that is not ASCII spells nothing, and there is no answer that says so. -/
theorem accented_not_answered : (¬ ∃ content, Base64.Spells "é".toList content) ∧
    decodeBase64 [.text "é"] = .error .encodedNotAscii := by
  refine ⟨?_, ?_⟩
  · rintro ⟨content, h⟩
    exact absurd (h.ascii 'é' (by decide)) (by decide)
  · rw [decodeBase64_text]
    exact decodeText_of_not_ascii ⟨'é', by decide, by decide⟩

end OperatorConsole.Builtin.Utility
