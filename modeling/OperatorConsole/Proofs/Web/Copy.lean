import OperatorConsole.Proofs.Web.HeaderMap
import OperatorConsole.Session.Execute

/-!
Responses that copy answers of the web. The header lines of an answer have their names in small letters and
are grouped by them. Main result: whatever the letter case of the names was, a name finds the values of all of
its lines in order, every line has its value in the response, and no two names of the response are the same up
to letter case.
-/
namespace OperatorConsole

/-- Header lines as an answer tells them: with their names in small letters. -/
def Headers.ofLines (lines : List (String × String)) : Headers :=
  lines.map fun line => (smallAscii line.1, line.2)

/-- The values of the lines of a name in any letter case, in order. -/
def valuesOf (lines : List (String × String)) (name : String) : List String :=
  (lines.filter fun line => SameName line.1 name).map (·.2)

/-- The headers of the response are header lines: each name finds the values of its lines, there is one value
for every line, and no two names differ in letter case only. -/
structure Response.KeepsLines (r : Response) (lines : List (String × String)) : Prop where
  header : ∀ name, r.header name = valuesOf lines name
  count : (r.headers.flatMap (·.2)).length = lines.length
  apart : r.headers.Pairwise fun entry other => ¬ SameName entry.1 other.1

variable {lines : List (String × String)} {s name small : String}

/-! ### Names in small letters -/

theorem sameName_smallAscii (hs : notAscii? s = none) : SameName (smallAscii s) s := by
  have hlower : ∀ c : Char, c.toNat < 0x80 → Text.lowerAscii (Text.lowerAscii c) = Text.lowerAscii c :=
    fun _ => Text.forall_ascii (P := fun c => Text.lowerAscii (Text.lowerAscii c) = Text.lowerAscii c)
      (by decide +kernel)
  have hascii := notAscii?_eq_none_iff.1 hs
  rw [SameName, Text.lower_of_ascii (notAscii?_eq_none_iff.1 (notAscii?_smallAscii hs)),
    Text.lower_of_ascii hascii, smallAscii, String.toList_ofList, List.map_map]
  exact List.map_congr_left fun c hc => hlower c (hascii c hc)

/-- A name in small letters is told by what it is up to letter case. -/
theorem smallAscii_eq_iff (hs : notAscii? s = none) :
    smallAscii s = String.ofList (Text.lower name.toList) ↔ SameName s name := by
  rw [smallAscii_eq hs, String.ofList_inj, SameName]

namespace Headers

variable {h : Headers}

theorem length_values_put (line : String × String) : ∀ groups : List (String × List String),
    ((grouped.put groups line).flatMap (·.2)).length = (groups.flatMap (·.2)).length + 1
  | [] => rfl
  | (n, values) :: groups => by
    have ih := length_values_put line groups
    by_cases hn : n = line.1
    · simp only [grouped.put, hn, beq_self_eq_true, if_true, List.flatMap_cons, List.length_append,
        List.length_singleton]
      omega
    · simp only [grouped.put, beq_iff_eq, hn, if_false, List.flatMap_cons, List.length_append, ih]
      omega

/-- Every line has its value in a group. -/
theorem length_values_grouped (h : Headers) : (h.grouped.flatMap (·.2)).length = h.length := by
  induction h using List.reverseRecOn with
  | nil => rfl
  | append_singleton h line ih =>
    have hput : grouped (h ++ [line]) = grouped.put (grouped h) line := by
      simp [grouped, List.foldl_append]
    rw [hput, length_values_put, ih, List.length_append, List.length_singleton]

/-- A name of lines whose names are ASCII is in small letters. -/
theorem lower_of_mem_ofLines (hlines : ∀ line ∈ lines, notAscii? line.1 = none)
    (hmem : small ∈ (ofLines lines).map (·.1)) : String.ofList (Text.lower small.toList) = small := by
  rw [ofLines, List.map_map] at hmem
  obtain ⟨line, hline, rfl⟩ := List.mem_map.1 hmem
  have hs := hlines line hline
  rw [Function.comp_apply, sameName_smallAscii hs, smallAscii_eq hs]

theorem values_ofLines (hlines : ∀ line ∈ lines, notAscii? line.1 = none) (name : String) :
    (ofLines lines).values (String.ofList (Text.lower name.toList)) = valuesOf lines name := by
  rw [values, ofLines, List.filter_map, List.map_map, valuesOf]
  congr 1
  refine List.filter_congr fun line hline => ?_
  rw [Function.comp_apply, isNamed, Bool.eq_iff_iff, beq_iff_eq, decide_eq_true_eq]
  exact smallAscii_eq_iff (hlines line hline)

end Headers

/-! ### Looking names up -/

theorem header_of_grouped {r : Response} (hlines : ∀ line ∈ lines, notAscii? line.1 = none)
    (hr : r.headers = (Headers.ofLines lines).grouped) (name : String) :
    r.header name = valuesOf lines name := by
  rw [← Headers.values_ofLines hlines name, Response.header, hr, Headers.grouped_eq, List.find?_map]
  cases hfind : ((Headers.ofLines lines).map (·.1)).eraseDups.find? _ with
  | some small =>
    have hmem := List.mem_eraseDups.1 (List.mem_of_find?_eq_some hfind)
    have hsame : Text.lower small.toList = Text.lower name.toList := by
      simpa using List.find?_some hfind
    rw [← hsame, Headers.lower_of_mem_ofLines hlines hmem]
    rfl
  | none =>
    refine (Headers.values_eq_nil_of_not_mem fun hmem => ?_).symm
    have hne := List.find?_eq_none.1 hfind _ (List.mem_eraseDups.2 hmem)
    have hlower := Headers.lower_of_mem_ofLines hlines hmem
    rw [String.ofList_inj, String.toList_ofList] at hlower
    simp [hlower] at hne

/-- No two groups have the same name up to letter case. -/
theorem pairwise_grouped (hlines : ∀ line ∈ lines, notAscii? line.1 = none) :
    (Headers.ofLines lines).grouped.Pairwise fun entry other => ¬ SameName entry.1 other.1 := by
  rw [Headers.grouped_eq, List.pairwise_map]
  refine (Keyed.nodup_eraseDups _).imp_of_mem fun {name other} hname hother hne hsame => hne ?_
  rw [← Headers.lower_of_mem_ofLines hlines (List.mem_eraseDups.1 hname),
    ← Headers.lower_of_mem_ofLines hlines (List.mem_eraseDups.1 hother), hsame]

/-- An answer of the web, also one that was refused for its status, becomes a response with the status and the
whole content, in which every name in any letter case has just the values of its lines, in order, as long as
names are ASCII. -/
theorem copy_keeps_lines (hlines : ∀ line ∈ lines, notAscii? line.1 = none) {t : Transport}
    {content : Bytes} (ht : t.headers = Headers.ofLines lines) (hstatus : 0 ≤ t.status)
    (hbody : t.body = .ok content) :
    ∃ r, (Outcome.answer t).toResponse = .ok r ∧ (Outcome.refused t).toResponse = .ok r ∧
      (r.status : Int) = t.status ∧ r.body = content ∧ r.KeepsLines lines := by
  have hmade : t.toResponse = .ok ⟨t.status.toNat, (Headers.ofLines lines).grouped, content⟩ := by
    rw [Transport.toResponse, responseOf, hbody, ok_bind, Response.ofInt?, if_pos hstatus, ht]
    rfl
  refine ⟨⟨t.status.toNat, (Headers.ofLines lines).grouped, content⟩, ?_, ?_,
    Int.toNat_of_nonneg hstatus, rfl, ?_⟩
  · rw [Outcome.toResponse, hmade, mapError_ok]
  · rw [Outcome.toResponse, hmade, mapError_ok]
  · refine ⟨header_of_grouped hlines rfl, ?_, pairwise_grouped hlines⟩
    rw [Headers.length_values_grouped, Headers.ofLines, List.length_map]

/-- Two lines of one name with another line between them. -/
theorem copy_keeps_lines_cookies :
    ∃ r : Response, r.status = 200 ∧
      r.KeepsLines [("Set-Cookie", "a=1"), ("X-Count", "2"), ("set-cookie", "b=2")] ∧
      r.header "SET-COOKIE" = ["a=1", "b=2"] := by
  have hlines : ∀ line ∈ [("Set-Cookie", "a=1"), ("X-Count", "2"), ("set-cookie", "b=2")],
      notAscii? line.1 = none := by decide
  obtain ⟨r, -, -, hstatus, -, hkeeps⟩ := copy_keeps_lines hlines (t := ⟨200,
    Headers.ofLines [("Set-Cookie", "a=1"), ("X-Count", "2"), ("set-cookie", "b=2")], .ok []⟩)
    rfl (by decide) rfl
  refine ⟨r, Int.ofNat.inj hstatus, hkeeps, (hkeeps.header _).trans ?_⟩
  decide +kernel

end OperatorConsole
