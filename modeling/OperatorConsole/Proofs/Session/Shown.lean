import OperatorConsole.Proofs.Session.LastResponse
import OperatorConsole.Proofs.Terminal.Line

/-!
Responses on a terminal. Without a limit on what is shown, a shell prints the text of a response in full,
just as it keeps it in the reserved variable, and an empty line. The terminal still draws pictographs in it
and takes away what would move it, so the operator sees the text itself only where it has neither.
-/
namespace OperatorConsole.Shell

variable {sh : Shell} {state : ShellState} {r : Response} {w : World}

/-- What is said of a text that is shown: it is kept, it is printed with an empty line after it, and
`drawn` is the text with pictographs in the place of those of its `codes` that name one. -/
structure Shows (text : String) (codes : List (List Char)) (drawn : List Char) (printed : List String)
    (course : Course) : Prop where
  kept : course.state.session.value? lastResponse = some text
  printed : course.printed = printed ++ [text, ""]
  shown : Terminal.ShownAs text codes drawn (String.join ([text, ""].map Terminal.shellLine))

/-- A text that is not blank and no error is printed as it is. -/
theorem takeResponse_printed (state : ShellState) (hlimit : sh.limit = none) (hdebug : state.session.debug = false)
    (htext : r.isText = true) (hstatus : r.status < 400) (hblank : Text.strip r.text.toList ≠ []) :
    (sh.takeResponse state r).printed = [r.text] ∧ (sh.takeResponse state r).report = none ∧
      (sh.takeResponse state r).after = [""] := by
  have hquiet : (noteStatus state.session r).debug = false := hdebug
  have hreport : statusReport? r = none := if_neg (by simpa [Response.isError] using hstatus)
  have hshorten : sh.shorten r.text = r.text := by rw [shorten, hlimit]
  simp only [takeResponse, savedType?_of_isText htext]
  simp [captureText, htext, hblank, hshorten, hreport, hquiet]

theorem perform_printed (p : Policy) (line : String) (printed : List String)
    (reported : List Report)
    (hline : classify line = .execute)
    (hr : sh.directory.execute state.session.vars state.world line = (.ok r, w))
    (hlimit : sh.limit = none) (hdebug : state.session.debug = false) (htext : r.isText = true)
    (hstatus : r.status < 400) (hblank : Text.strip r.text.toList ≠ []) :
    ((sh.perform p line).runFrom ⟨state, printed, reported⟩).2.printed = printed ++ [r.text, ""] := by
  obtain ⟨hprinted, hreport, hafter⟩ :=
    takeResponse_printed ⟨state.session, w⟩ hlimit hdebug htext hstatus hblank
  rw [perform_course, handle_of_response hline hr,
    LineOutcome.course_of_quiet (takeResponse_broken sh _ r) hreport]
  simp [LineOutcome.allPrinted, hreport, hprinted, hafter]

theorem join_shellLine (text : String) :
    String.join ([text, ""].map Terminal.shellLine) = Terminal.shellLine text ++ Terminal.newLine := by
  have hempty : Terminal.shellLine "" = Terminal.newLine := by rfl
  simp [hempty, String.join]

/-- The text of a response that is shown in full is kept and printed as it is, with an empty line after it.
What the operator sees of it is the text with pictographs drawn, without movements, and with spaces for
tabulators. It is the text itself if it has none of these; and only then, as far as no pictograph has colons
of its own. -/
theorem response_shown (sh : Shell) (p : Policy) (state : ShellState) (printed : List String)
    (reported : List Report) (line : String) (r : Response) (w : World) (hline : classify line = .execute)
    (hr : sh.directory.execute state.session.vars state.world line = (.ok r, w))
    (hlimit : sh.limit = none) (hdebug : state.session.debug = false) (htext : r.isText = true)
    (hstatus : r.status < 400) (hblank : Text.strip r.text.toList ≠ []) :
    ∃ codes drawn, Shows r.text codes drawn printed
      ((sh.perform p line).runFrom ⟨state, printed, reported⟩).2 := by
  obtain ⟨codes, drawn, hshown⟩ := Terminal.exists_shownAs r.text
  have hprinted := perform_printed p line printed reported hline hr hlimit hdebug htext hstatus hblank
  refine ⟨codes, drawn, ?_, hprinted, ?_⟩
  · rw [perform_execute_state hline hr, takeResponse_of_isText _ _ htext]
    exact (holds_define_text _).text
  · rwa [join_shellLine]

/-- A text with a tabulator in it as a response. -/
def tabbedResponse : Response := ⟨200, [("Content-Type", ["text/plain"])], [0x61, 0x09, 0x62]⟩

theorem tabbedResponse_text : tabbedResponse.text = "a\tb" := by decide +kernel

theorem response_shown_tabbed : classify "Thing fail" = .execute ∧
    (givingShell tabbedResponse).directory.execute pictureState.session.vars pictureState.world
      "Thing fail" = (.ok tabbedResponse, pictureState.world) ∧
    (givingShell tabbedResponse).limit = none ∧ pictureState.session.debug = false ∧
    tabbedResponse.isText = true ∧ tabbedResponse.status < 400 ∧
    Text.strip tabbedResponse.text.toList ≠ [] ∧
    ∃ codes drawn, Shows tabbedResponse.text codes drawn []
      (((givingShell tabbedResponse).perform .printing "Thing fail").runFrom ⟨pictureState, [], []⟩).2 := by
  have hline : classify "Thing fail" = .execute := by rfl
  have hr := givingShell_execute tabbedResponse pictureState
  have htext : tabbedResponse.isText = true := by decide +kernel
  have hstatus : tabbedResponse.status < 400 := by decide
  have hblank : Text.strip tabbedResponse.text.toList ≠ [] := by decide +kernel
  exact ⟨hline, hr, rfl, rfl, htext, hstatus, hblank,
    response_shown _ _ _ _ _ _ _ _ hline hr rfl rfl htext hstatus hblank⟩

/-- A tabulator in a text is kept, but what is shown in its place is spaces, so the operator does not see the
text that is kept. -/
theorem tabulator_not_shown :
    tabbedResponse.isText = true ∧ tabbedResponse.status < 400 ∧
    Text.strip tabbedResponse.text.toList ≠ [] ∧
    (let course :=
      (((givingShell tabbedResponse).perform .printing "Thing fail").runFrom ⟨pictureState, [], []⟩).2
    course.state.session.value? lastResponse = some "a\tb" ∧
    String.join (course.printed.map Terminal.shellLine) = "a       b\n\n" ∧
    ∀ n, String.join (course.printed.map Terminal.shellLine) ≠
      "a\tb" ++ String.ofList (List.replicate n '\n')) := by
  have htext : tabbedResponse.isText = true := by decide +kernel
  have hstatus : tabbedResponse.status < 400 := by decide
  have hblank : Text.strip tabbedResponse.text.toList ≠ [] := by decide +kernel
  have hr := givingShell_execute tabbedResponse pictureState
  have hprinted := perform_printed .printing "Thing fail" [] [] rfl hr rfl rfl htext hstatus
    hblank
  have hshown : String.join ([tabbedResponse.text, ""].map Terminal.shellLine) = "a       b\n\n" := by
    rw [tabbedResponse_text]
    decide +kernel
  refine ⟨htext, hstatus, hblank, ?_, ?_, ?_⟩
  · rw [givingShell_state, takeResponse_of_isText _ _ htext, ← tabbedResponse_text]
    exact (holds_define_text _).text
  · rwa [hprinted, List.nil_append]
  · intro n hn
    rw [hprinted, List.nil_append, hshown] at hn
    have hsecond := congrArg (fun s : String => s.toList[1]?) hn
    simp at hsecond

end OperatorConsole.Shell
