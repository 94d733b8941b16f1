import OperatorConsole.Proofs.MediaType
import OperatorConsole.Proofs.Session.LastResponse
import OperatorConsole.Proofs.Text.Strip
import OperatorConsole.Proofs.Web.HeaderMap

/-!
Letter case in responses. The header of the content type is found in any letter case, and the extension that
a type is saved under is the same in any. Only whether content is text is asked of the type as it is written:
there two responses may part that differ in letter case alone, and only where the type in small letters is one
of a text.
-/
namespace OperatorConsole

variable {r r' : Response} {type type' : String}

/-! ### The type of the content -/

/-- The type that a content type begins with. -/
def typeText (contentType : String) : List Char := Text.strip (Text.cut ';' contentType.toList).1

/-- The content types have the same parameters and types that differ in letter case at most. -/
structure SameContentType (value value' : String) : Prop where
  type : Text.lower (typeText value) = Text.lower (typeText value')
  parameters : (Text.cut ';' value.toList).2 = (Text.cut ';' value'.toList).2

/-- The headers differ at most in the letter case of their names and, where they tell content types, in that
of the types. -/
structure SameHeader (entry entry' : String × List String) : Prop where
  name : SameName entry.1 entry'.1
  values : entry.2 = entry'.2 ∨
    SameName entry.1 "Content-Type" ∧ List.Forall₂ SameContentType entry.2 entry'.2

namespace Response

/-- The responses differ at most in the letter case of header names and of the type of their content. -/
structure SameUpToCase (r r' : Response) : Prop where
  status : r.status = r'.status
  body : r.body = r'.body
  headers : List.Forall₂ SameHeader r.headers r'.headers

/-- The type of the content is one of a text once it is in small letters. -/
def IsTextInSmall (r : Response) : Prop :=
  ∃ type, r.mediaType = some type ∧ MediaType.isText (MediaType.small type) = true

end Response

/-- What is searched for in related lists is found in both or in neither. -/
theorem find?_of_forall₂ {R : α → α → Prop} {p : α → Bool} (hp : ∀ a b, R a b → p a = p b)
    {as bs : List α} (h : List.Forall₂ R as bs) : (as.find? p = none ∧ bs.find? p = none) ∨
      ∃ a b, as.find? p = some a ∧ bs.find? p = some b ∧ R a b := by
  induction h with
  | nil => exact .inl ⟨rfl, rfl⟩
  | @cons a b as bs hab _ ih =>
    cases ha : p a with
    | true => exact .inr ⟨a, b, List.find?_cons_of_pos ha,
        List.find?_cons_of_pos ((hp a b hab).symm.trans ha), hab⟩
    | false =>
      rw [List.find?_cons_of_neg (by simp [ha]), List.find?_cons_of_neg (by simp [← hp a b hab, ha])]
      exact ih

namespace Response

theorem header_sameUpToCase (h : List.Forall₂ SameHeader r.headers r'.headers) (name : String) :
    r.header name = r'.header name ∨ List.Forall₂ SameContentType (r.header name) (r'.header name) := by
  have hfound := find?_of_forall₂
    (p := fun entry => Text.lower entry.1.toList == Text.lower name.toList)
    (fun _ _ hentry => by rw [hentry.name]) h
  rw [header, header]
  rcases hfound with ⟨hnone, hnone'⟩ | ⟨entry, entry', hsome, hsome', hentry⟩
  · rw [hnone, hnone']
    exact .inl rfl
  · rw [hsome, hsome']
    exact hentry.values.imp_right And.right

theorem mediaType_eq_some_iff : r.mediaType = some type ↔
    ∃ value values, r.header "Content-Type" = value :: values ∧ typeText value ≠ [] ∧
      type = String.ofList (typeText value) := by
  rw [mediaType]
  cases r.header "Content-Type" with
  | nil => simp
  | cons value values =>
    have hfound : Text.strip (Text.cut ';' value.toList).1 = typeText value := rfl
    simp only [hfound]
    cases htype : typeText value with
    | nil => simp [htype]
    | cons c cs =>
      constructor
      · rintro ⟨⟩
        exact ⟨value, values, rfl, by simp [htype], by rw [htype]⟩
      · rintro ⟨found, others, hcons, -, rfl⟩
        rw [← (List.cons.inj hcons).1, htype]

/-- A media type has no white space at its ends. -/
theorem normal_of_mediaType (h : r.mediaType = some type) :
    MediaType.normal type = Text.lower type.toList := by
  obtain ⟨value, -, -, -, rfl⟩ := mediaType_eq_some_iff.1 h
  have hstrip : Text.strip (typeText value) = typeText value :=
    Text.stripBy_eq_self (fun _ => Text.head?_stripBy) fun _ => Text.getLast?_stripBy
  rw [MediaType.normal, String.toList_ofList, hstrip]

theorem SameUpToCase.symm (h : r.SameUpToCase r') : r'.SameUpToCase r where
  status := h.status.symm
  body := h.body.symm
  headers := by
    refine (h.headers.imp fun entry entry' hentry => ⟨hentry.name.symm, ?_⟩).flip
    refine hentry.values.imp Eq.symm fun ⟨hname, hvalues⟩ => ⟨hentry.name.symm.trans hname, ?_⟩
    exact (hvalues.imp fun _ _ hvalue => ⟨hvalue.type.symm, hvalue.parameters.symm⟩).flip

theorem SameUpToCase.mediaType (h : r.SameUpToCase r') (htype : r.mediaType = some type) :
    ∃ type', r'.mediaType = some type' ∧ SameName type type' := by
  obtain ⟨value, values, hvalues, hne, rfl⟩ := mediaType_eq_some_iff.1 htype
  rcases header_sameUpToCase h.headers "Content-Type" with hsame | halike
  · exact ⟨_, mediaType_eq_some_iff.2 ⟨value, values, hsame.symm.trans hvalues, hne, rfl⟩, rfl⟩
  · rw [hvalues] at halike
    obtain ⟨value', values', hvalue, -, hvalues'⟩ := List.forall₂_cons_left_iff.1 halike
    have hne' : typeText value' ≠ [] := fun hnil =>
      hne (Text.lower_eq_nil_iff.1 (hvalue.type.trans (Text.lower_eq_nil_iff.2 hnil)))
    refine ⟨_, mediaType_eq_some_iff.2 ⟨value', values', hvalues', hne', rfl⟩, ?_⟩
    simpa [SameName] using hvalue.type

/-- A text is one in small letters too. -/
theorem isTextInSmall (h : r.isText = true) : r.IsTextInSmall := by
  obtain ⟨type, htype, htext⟩ := (Option.any_eq_true _ _).1 h
  exact ⟨type, htype, MediaType.isText_small htext⟩

namespace SameUpToCase

theorem isTextInSmall (h : r.SameUpToCase r') (htext : r.IsTextInSmall) : r'.IsTextInSmall := by
  obtain ⟨type, htype, htext⟩ := htext
  obtain ⟨type', htype', hsame⟩ := h.mediaType htype
  exact ⟨type', htype', by rwa [MediaType.small, ← hsame]⟩

theorem extensionFor (h : r.SameUpToCase r') (htype : r.mediaType = some type)
    (htype' : r'.mediaType = some type') :
    MediaType.extensionFor type = MediaType.extensionFor type' := by
  obtain ⟨other, hother, hsame⟩ := h.mediaType htype
  obtain rfl := Option.some.inj (htype'.symm.trans hother)
  refine MediaType.extensionFor_congr ?_
  rw [normal_of_mediaType htype, normal_of_mediaType htype', hsame]

end SameUpToCase

end Response

namespace Shell

variable {sh sh' : Shell} {state : ShellState} {s : Session} {d : Disk}

/-! ### Taking a response -/

/-- If both responses are text or neither is, the one is saved where the other is and under the same
extension. -/
theorem savedType?_sameUpToCase (h : r.SameUpToCase r') (htext : r.isText = r'.isText)
    (hsaved : savedType? s r = some type) : ∃ type', savedType? s r' = some type' ∧
      MediaType.extensionFor type = MediaType.extensionFor type' := by
  obtain ⟨htype, hplain, hbody, hwanted⟩ := savedType?_eq_some_iff.1 hsaved
  obtain ⟨type', htype', -⟩ := h.mediaType htype
  have hplain' : MediaType.isText type' = false := by
    simpa [Response.isText, htype, htype', hplain] using htext.symm
  rw [h.status] at hwanted
  rw [h.body] at hbody
  exact ⟨type', savedType?_eq_some_iff.2 ⟨htype', hplain', hbody, hwanted⟩,
    h.extensionFor htype htype'⟩

theorem savedExtension_sameUpToCase (h : r.SameUpToCase r') (htext : r.isText = r'.isText) :
    (savedType? s r).map MediaType.extensionFor = (savedType? s r').map MediaType.extensionFor := by
  cases hsaved : savedType? s r with
  | some type =>
    obtain ⟨type', hsaved', hextension⟩ := savedType?_sameUpToCase h htext hsaved
    rw [hsaved', Option.map_some, Option.map_some, hextension]
  | none =>
    cases hsaved' : savedType? s r' with
    | none => rfl
    | some type' =>
      obtain ⟨type, hfound, -⟩ := savedType?_sameUpToCase h.symm htext.symm hsaved'
      rw [hsaved] at hfound
      cases hfound

/-- What becomes of a response does not depend on letter case, as long as it does not decide whether the
response is text. -/
theorem takeResponse_sameUpToCase (sh sh' : Shell) (state : ShellState) (h : r.SameUpToCase r')
    (htext : r.isText = r'.isText) :
    (sh.takeResponse state r).state = (sh'.takeResponse state r').state := by
  have hstatus : noteStatus state.session r = noteStatus state.session r' := by
    rw [noteStatus, noteStatus, h.status]
  have hdecoded : r.text = r'.text := by rw [Response.text, Response.text, h.body]
  rw [takeResponse_state, takeResponse_state, savedExtension_sameUpToCase h htext, hstatus, hdecoded,
    htext, h.body]

/-! ### Lines -/

/-- Of two responses that differ in letter case at most, `r` was taken as a text and `r'` was not. -/
structure PartedByCase (s : Session) (d : Disk) (r r' : Response) (after after' : ShellState) : Prop where
  inSmall : r.IsTextInSmall
  captured : after.session.Holds r.text "" ∧ after.world.disk = d
  notCaptured : after'.session.value? lastResponse = some ""
  savable : r'.IsSavable s.debug ↔ r.body ≠ [] ∧ (s.debug = true ∨ r.status < 400)

/-- What two responses left that differ in letter case at most: `s` and `d` were there before each. -/
structure TakenUpToCase (s : Session) (d : Disk) (r r' : Response) (after after' : ShellState) : Prop where
  status : after.session.value? lastResponseStatus = some (toString r.status) ∧
    after'.session.value? lastResponseStatus = some (toString r.status)
  extension : ∀ type type', r.mediaType = some type → r'.mediaType = some type' →
    MediaType.extensionFor type = MediaType.extensionFor type'
  plain : ¬ r.IsTextInSmall → r.isText = false ∧ r'.isText = false
  alike : r.isText = r'.isText → after = after'
  parted : r.isText = true → r'.isText = false → PartedByCase s d r r' after after'
  parted' : r.isText = false → r'.isText = true → PartedByCase s d r' r after' after

theorem takeResponse_parted (sh sh' : Shell) (state : ShellState) (h : r.SameUpToCase r')
    (htext : r.isText = true) (hplain : r'.isText = false) :
    PartedByCase state.session state.world.disk r r' (sh.takeResponse state r).state
      (sh'.takeResponse state r').state := by
  obtain ⟨type, htype, -⟩ := (Option.any_eq_true _ _).1 htext
  obtain ⟨type', htype', -⟩ := h.mediaType htype
  rw [takeResponse_of_isText sh state htext]
  refine ⟨Response.isTextInSmall htext, ⟨holds_define_text _, rfl⟩,
    takeResponse_lastResponse sh' state hplain, ?_⟩
  rw [isSavable_iff_of_not_isText hplain htype', h.body, h.status]

theorem takeResponse_upToCase (sh sh' : Shell) (state : ShellState) (h : r.SameUpToCase r') :
    TakenUpToCase state.session state.world.disk r r' (sh.takeResponse state r).state
      (sh'.takeResponse state r').state where
  status := ⟨takeResponse_status .., by
    rw [h.status]
    exact takeResponse_status ..⟩
  extension _ _ htype htype' := h.extensionFor htype htype'
  plain hnot := ⟨Bool.eq_false_iff.2 fun htext => hnot (Response.isTextInSmall htext),
    Bool.eq_false_iff.2 fun htext => hnot (h.symm.isTextInSmall (Response.isTextInSmall htext))⟩
  alike := takeResponse_sameUpToCase sh sh' state h
  parted := takeResponse_parted sh sh' state h
  parted' hplain htext := takeResponse_parted sh' sh state h.symm htext hplain

/-- Two lines that give responses which differ at most in the letter case of header names and of the type of
their content leave the same session and disk, as long as both responses are text or neither is: then they
are captured, saved or dropped alike, and saved under the same extension. They part only where the type is
that of a text in small letters and just one response has it written so: this one is captured, the other is
taken as content that is no text. -/
theorem letterCase_of_type (sh sh' : Shell) (p p' : Policy) (state : ShellState)
    (printed printed' : List String) (reported reported' : List Report) {line line' : String}
    {r r' : Response} {w : World}
    (hline : classify line = .execute) (hline' : classify line' = .execute)
    (hr : sh.directory.execute state.session.vars state.world line = (.ok r, w))
    (hr' : sh'.directory.execute state.session.vars state.world line' = (.ok r', w))
    (h : r.SameUpToCase r') :
    TakenUpToCase state.session w.disk r r' ((sh.perform p line).runFrom ⟨state, printed, reported⟩).2.state
      ((sh'.perform p' line').runFrom ⟨state, printed', reported'⟩).2.state := by
  rw [perform_execute_state hline hr, perform_execute_state hline' hr']
  exact takeResponse_upToCase sh sh' ⟨state.session, w⟩ h

/-- The picture of `pictureResponse`, spelled in other letter case. -/
def capitalPicture : Response := ⟨200, [("content-type", ["Image/PNG"])], [0x89, 0x50]⟩

theorem letterCase_of_type_picture : classify "Thing fail" = .execute ∧
    (givingShell pictureResponse).directory.execute pictureState.session.vars pictureState.world
      "Thing fail" = (.ok pictureResponse, pictureState.world) ∧
    (givingShell capitalPicture).directory.execute pictureState.session.vars pictureState.world
      "Thing fail" = (.ok capitalPicture, pictureState.world) ∧
    pictureResponse.SameUpToCase capitalPicture ∧
    TakenUpToCase pictureState.session pictureState.world.disk pictureResponse capitalPicture
      (((givingShell pictureResponse).perform .printing "Thing fail").runFrom ⟨pictureState, [], []⟩).2.state
      (((givingShell capitalPicture).perform .printing "Thing fail").runFrom
        ⟨pictureState, [], []⟩).2.state := by
  have hline : classify "Thing fail" = .execute := by rfl
  have hr := givingShell_execute pictureResponse pictureState
  have hr' := givingShell_execute capitalPicture pictureState
  have hsame : pictureResponse.SameUpToCase capitalPicture := ⟨rfl, rfl, .cons ⟨by decide +kernel,
    .inr ⟨by decide +kernel, .cons ⟨by decide +kernel, by decide +kernel⟩ .nil⟩⟩ .nil⟩
  exact ⟨hline, hr, hr', hsame, letterCase_of_type (givingShell pictureResponse)
    (givingShell capitalPicture) .printing .printing pictureState [] [] [] [] hline hline hr hr' hsame⟩

/-- A text as a response of a type. -/
def typedText (type : String) : Response := ⟨200, [("Content-Type", [type])], [0x68, 0x69]⟩

/-- Two responses differ in the letter case of their type alone, and of the one the text is captured, of the
other not. -/
theorem capital_type_not_captured : (typedText "text/plain").SameUpToCase (typedText "Text/Plain") ∧
    (((givingShell (typedText "text/plain")).perform .printing "Thing fail").runFrom
      ⟨pictureState, [], []⟩).2.state.session.value? lastResponse = some "hi" ∧
    (((givingShell (typedText "Text/Plain")).perform .printing "Thing fail").runFrom
      ⟨pictureState, [], []⟩).2.state.session.value? lastResponse = some "" := by
  have htext : (typedText "text/plain").isText = true := by decide +kernel
  have hplain : (typedText "Text/Plain").isText = false := by decide +kernel
  have hdecoded : (typedText "text/plain").text = "hi" := by decide +kernel
  have hvalue : SameContentType "text/plain" "Text/Plain" := ⟨by decide +kernel, by decide +kernel⟩
  refine ⟨⟨rfl, rfl, .cons ⟨rfl, .inr ⟨rfl, .cons hvalue .nil⟩⟩ .nil⟩, ?_, ?_⟩
  · rw [givingShell_state, takeResponse_of_isText _ _ htext, hdecoded]
    exact (holds_define_text _).text
  · rw [givingShell_state]
    exact takeResponse_lastResponse _ _ hplain

end Shell

end OperatorConsole
