import OperatorConsole.Proofs.Argument.Faults
import OperatorConsole.Proofs.Disk.Address
import OperatorConsole.Proofs.Disk.Tree
import OperatorConsole.Proofs.Json.LineEnds

/-!
Sources of structured arguments. A document is written into the line, or stands in a file or behind an
address of the web. Text from the disk loses its mark and has its line ends joined, text from the web
is taken as it is. How lines end means nothing to a document, so content without a mark gives the same
value from everywhere; with a mark it can be read from the disk only.
-/
namespace OperatorConsole

open Text (IsReturn SameLines)

/-! ### Line ends -/

section

variable {cs ds : List Char} {s other : String}

/-- A character of a number before its fraction. -/
def isWholePart (c : Char) : Bool := c.isDigit || c == '-'

/-- Whether a number is too long is seen from where each token begins. -/
theorem hasLongNumber_eq (cs : List Char) : hasLongNumber cs = (Json.tokenTexts cs).any fun text =>
    Numeral.digitLimit < (text.takeWhile isWholePart).length := by
  rw [hasLongNumber, Json.tokens_eq_map, List.any_map, Bool.eq_iff_iff, List.any_eq_true,
    List.any_eq_true]
  refine exists_congr fun text => and_congr_right fun htext => ?_
  have hdrop := List.suffix_iff_eq_drop.1 (Json.suffix_of_mem_tokenTexts htext)
  rw [Function.comp_apply, Json.place_tokenAt, ← hdrop]
  rfl

theorem hasLongNumber_alike
    (h : List.Forall₂ Json.AlikeAt (Json.tokenTexts cs) (Json.tokenTexts ds)) :
    hasLongNumber cs = hasLongNumber ds := by
  rw [hasLongNumber_eq, hasLongNumber_eq]
  generalize Json.tokenTexts cs = texts, Json.tokenTexts ds = others at h
  induction h with
  | nil => rfl
  | cons halike _ ih =>
    rw [List.any_cons, List.any_cons, ih, halike.lines.takeWhile_eq]
    rintro c (rfl | rfl) <;> rfl

theorem readDocument_of_sameLines {v : Json} (h : SameLines s.toList other.toList)
    (hv : readDocument s = some v) : readDocument other = some v := by
  unfold readDocument at hv ⊢
  cases hread : Json.readWithin (s.length + 1) s.toList with
  | error fault => simp [hread] at hv
  | ok read =>
    have hlimit : other.toList.length < other.length + 1 := Nat.lt_succ_self _
    obtain ⟨hread', halike⟩ := Json.readWithin_sameLines h hlimit hread
    rw [hread']
    simpa only [hread, hasLongNumber_alike halike] using hv

/-- A document does not depend on how its lines end. -/
theorem readDocument_sameLines (h : SameLines s.toList other.toList) :
    readDocument s = readDocument other := by
  refine Option.ext fun v => ⟨readDocument_of_sameLines h, readDocument_of_sameLines h.symm⟩

theorem DeclaredType.read_joinLineEnds (t : DeclaredType) (cs : List Char) :
    t.read (String.ofList (Text.joinLineEnds cs)) = t.read (String.ofList cs) := by
  have hlines : SameLines (String.ofList cs).toList (String.ofList (Text.joinLineEnds cs)).toList := by
    rw [String.toList_ofList, String.toList_ofList]
    exact Text.sameLines_joinLineEnds cs
  rw [DeclaredType.read, DeclaredType.read, readDocument_sameLines hlines]

end

/-! ### Marks -/

/-- What a text that is no document comes to for a type. -/
def DeclaredType.noDocument (t : DeclaredType) : Misfit :=
  match t.unsupported? with
  | some e => .raised e
  | none => .defects [⟨[], "json_invalid"⟩]

/-- A text with a mark in front is no document. -/
theorem DeclaredType.read_mark (t : DeclaredType) (rest : List Char) :
    t.read (String.ofList (Char.ofNat 0xFEFF :: rest)) = .error t.noDocument := by
  have hnone : readDocument (String.ofList (Char.ofNat 0xFEFF :: rest)) = none := by
    rw [readDocument, String.toList_ofList, Json.readWithin]
    rfl
  rw [DeclaredType.read, hnone, noDocument]
  cases t.unsupported? <;> rfl

/-! ### Where content is -/

/-- The content type of an answer, if it has one, can be understood and names no character set. -/
def Web.Answer.NamesNoSet (answer : Web.Answer) : Prop :=
  ∀ type, answer.header? "content-type" = some type → ∃ found,
    Web.ContentType.values (Web.ContentType.parameters type.toList) = .ok found ∧
      ∀ v ∈ found, v.1.map Text.lowerAscii ≠ "charset".toList

namespace World

variable {w : World} {locator : String} {content : Bytes} {cs : List Char}

/-- The locator leads to a file of the local disk that holds the content. -/
def HoldsAt (w : World) (content : Bytes) (locator : String) : Prop :=
  ∃ path, Locator.localPath locator = .ok (some path) ∧ w.disk.read path = .ok content

/-- The locator is an address of the web that answers with success and the content. -/
def AnswersAt (w : World) (content : Bytes) (locator : String) : Prop :=
  Locator.localPath locator = .ok none ∧ ∃ answer,
    (w.download locator).2 = .ok answer ∧ answer.body = content ∧ answer.NamesNoSet

theorem textOf_of_holdsAt (h : w.HoldsAt content locator)
    (hcs : Utf8.decode (Utf8.withoutMark content) = .ok cs) :
    w.textOf locator = .ok (codePoints (String.ofList (Text.joinLineEnds cs))) := by
  obtain ⟨path, hpath, hread⟩ := h
  simp only [textOf, hpath, mapError_ok, ok_bind, hread, fileText, hcs]
  rfl

/-- A file of a disk that is a tree is found at its address too, unless the path from the root to it
is longer than a path may be. -/
theorem holdsAt_address {path : DiskPath} (htree : w.disk.IsTree)
    (hread : w.disk.read path = .ok content) (hsize : Disk.Spellable (w.disk.absolute path)) :
    w.HoldsAt content (w.disk.fileAddress path) := by
  obtain ⟨place, hplace, hfile⟩ := Disk.read_eq_ok_iff.1 hread
  rw [Disk.absolute_of_locate hplace] at hsize
  refine ⟨⟨1, place⟩, ?_, htree.read_root hfile hsize⟩
  rw [Disk.fileAddress, Disk.absolute_of_locate hplace]
  exact DiskPath.localPath_address (htree.fromRoot (by simp [hfile]))

theorem charset_of_namesNoSet {answer : Web.Answer} {type : String} (h : answer.NamesNoSet)
    (htype : answer.header? "content-type" = some type) :
    Web.ContentType.charset type = .ok .utf8 := by
  obtain ⟨found, hfound, hnone⟩ := h type htype
  have hfind : found.find? (fun v => v.1.map Text.lowerAscii == "charset".toList) = none :=
    List.find?_eq_none.2 fun v hv => by simpa using hnone v hv
  rw [Web.ContentType.charset, hfound, ok_bind, hfind]
  rfl

theorem readText_of_namesNoSet {answer : Web.Answer} (h : answer.NamesNoSet)
    (hcs : Utf8.decode content = .ok cs) :
    Web.readText (answer.header? "content-type") content = .ok (cs.map Char.toNat) := by
  have hlossy := Utf8.decodeLossy_of_decode hcs
  have hread : Charset.read content .utf8 = .ok (cs.map fun c => some c.toNat) := by
    rw [Charset.read, hlossy]
  have hpoints : (cs.map fun c => some c.toNat).map (·.getD Web.replacement) = cs.map Char.toNat := by
    simp
  unfold Web.readText
  by_cases hempty : content.isEmpty = true
  · obtain rfl := List.isEmpty_iff.1 hempty
    obtain rfl : [] = cs := by simpa [Utf8.decodeLossy, Utf8.pieces] using hlossy
    rfl
  · rw [if_neg hempty]
    cases htype : answer.header? "content-type" with
    | none =>
      simp only [pure_bind, hread, mapError_ok, ok_bind, hpoints]
      rfl
    | some type =>
      simp only [charset_of_namesNoSet h htype, hread, mapError_ok, ok_bind, hpoints]
      rfl

theorem textOf_of_answersAt (h : w.AnswersAt content locator) (hcs : Utf8.decode content = .ok cs) :
    w.textOf locator = .ok (codePoints (String.ofList cs)) := by
  obtain ⟨hpath, answer, hanswer, rfl, hset⟩ := h
  have hread := readText_of_namesNoSet hset hcs
  simp only [textOf, hpath, mapError_ok, ok_bind, hanswer, hread, codePoints, String.toList_ofList]

end World

/-! ### Values -/

namespace Scope

variable {s : Scope} {p : Parameter} {a : Argument} {locator : String} {content : Bytes}
  {cs : List Char}

/-- An argument names a locator. -/
structure Refers (s : Scope) (a : Argument) (locator : String) : Prop where
  form : a.form ≠ .document
  text : s.textOf a = .ok locator

/-- The value of a document that is written into the line. -/
def written (s : Scope) (p : Parameter) (cs : List Char) : Except BindingFault Value :=
  s.valueOf p ⟨.document, "", String.ofList cs⟩

theorem written_eq (hkind : p.kind.IsStructured) (cs : List Char) :
    s.written p cs = (p.documentType.read (String.ofList cs)).mapError (.ofMisfit p.name) := by
  rw [written, valueOf_structured hkind (textOf_of_ne_reference (by simp))]
  rfl

/-- The value of an argument that names a locator of text. -/
theorem valueOf_of_textOf (hkind : p.kind.IsStructured) (ha : s.Refers a locator)
    (htext : s.world.textOf locator = .ok (codePoints (String.ofList cs))) :
    s.valueOf p a = s.written p cs := by
  have hdocument : s.documentOf p.name a locator = .ok (String.ofList cs) := by
    unfold documentOf
    cases hform : a.form with
    | document => exact absurd hform ha.form
    | plain | reference =>
      simp only [htext, mapError_ok, ok_bind, textOf?_codePoints]
      rfl
  rw [valueOf_structured hkind ha.text, hdocument, ok_bind, written_eq hkind]

theorem valueOf_of_holdsAt (hkind : p.kind.IsStructured) (ha : s.Refers a locator)
    (h : s.world.HoldsAt content locator)
    (hcs : Utf8.decode (Utf8.withoutMark content) = .ok cs) : s.valueOf p a = s.written p cs := by
  rw [valueOf_of_textOf hkind ha (World.textOf_of_holdsAt h hcs), written_eq hkind, written_eq hkind,
    DeclaredType.read_joinLineEnds]

theorem valueOf_of_answersAt (hkind : p.kind.IsStructured) (ha : s.Refers a locator)
    (h : s.world.AnswersAt content locator) (hcs : Utf8.decode content = .ok cs) :
    s.valueOf p a = s.written p cs :=
  valueOf_of_textOf hkind ha (World.textOf_of_answersAt h hcs)

/-- A refusal is reported as one of the argument, or it is what the type raises. -/
theorem isReported_of_written {fault : BindingFault} (hkind : p.kind.IsStructured)
    (h : s.written p cs = .error fault) : fault.IsReported ∨
      ∃ e, fault = .raised e ∧ p.documentType.read (String.ofList cs) = .error (.raised e) := by
  rw [written_eq hkind, mapError_eq_error_iff] at h
  obtain ⟨defects | e, hread, rfl⟩ := h
  · exact .inl trivial
  · exact .inr ⟨e, rfl, hread⟩

end Scope

/-- A structured argument by its source. Content that is UTF-8 without a byte-order mark gives from a
file, from the address of that file and from an address of the web what its text gives in the line;
with a mark it gives from the disk what the text behind the mark gives, and from the web it is always
refused. A refusal is reported as one of the argument, unless the type raises something. -/
theorem structured_by_source (s : Scope) (p : Parameter) (hkind : p.kind.IsStructured)
    (content : Bytes) (cs : List Char) (hcs : Utf8.decode content = .ok cs) :
    (¬ Utf8.mark <+: content → ∀ a locator, s.Refers a locator →
      s.world.HoldsAt content locator ∨ s.world.AnswersAt content locator →
        s.valueOf p a = s.written p cs) ∧
    (∀ more, content = Utf8.mark ++ more → ∃ rest, Utf8.decode more = .ok rest ∧
      (∀ a locator, s.Refers a locator → s.world.HoldsAt content locator →
        s.valueOf p a = s.written p rest) ∧
      ∀ a locator, s.Refers a locator → s.world.AnswersAt content locator →
        s.valueOf p a = .error (.ofMisfit p.name p.documentType.noDocument)) ∧
    (∀ path, s.world.disk.IsTree → s.world.disk.read path = .ok content →
      Disk.Spellable (s.world.disk.absolute path) →
        s.world.HoldsAt content (s.world.disk.fileAddress path)) ∧
    ∀ text fault, s.written p text = .error fault → fault.IsReported ∨
      ∃ e, fault = .raised e ∧ p.documentType.read (String.ofList text) = .error (.raised e) := by
  refine ⟨fun hmark a locator ha => ?_, fun more hmore => ?_,
    fun path htree hread hsize => World.holdsAt_address htree hread hsize,
    fun text fault h => Scope.isReported_of_written hkind h⟩
  · have hplain := Utf8.withoutMark_of_decode hcs hmark
    rintro (h | h)
    · exact Scope.valueOf_of_holdsAt hkind ha h (by rw [hplain, hcs])
    · exact Scope.valueOf_of_answersAt hkind ha h hcs
  · subst hmore
    obtain ⟨rest, rfl, hrest⟩ := Utf8.decode_mark_append hcs
    refine ⟨rest, hrest, fun a locator ha h => ?_, fun a locator ha h => ?_⟩
    · exact Scope.valueOf_of_holdsAt hkind ha h (by rw [Utf8.withoutMark_mark_append, hrest])
    · rw [Scope.valueOf_of_answersAt hkind ha h hcs, Scope.written_eq hkind, DeclaredType.read_mark]
      rfl

/-- A list as a document, or the same with a byte-order mark in front. -/
def listContent (marked : Bool) : Bytes :=
  (if marked then Utf8.mark else []) ++ Utf8.encode "[1]".toList

/-- A disk with the list in a file. -/
def listDisk (marked : Bool) : Disk :=
  Disk.bare.put ["d.json"] (.file (listContent marked))

/-- The list in a file and behind every address of the web. -/
def listScope (marked : Bool) : Scope :=
  ⟨[], { World.on (listDisk marked) with
    network := fun _ => .answer 200 [] (listContent marked) }⟩

/-- A list of whole numbers. -/
def wholeNumbers : Parameter := ⟨"x", .other, .list .whole, .required, false⟩

theorem listDisk_isTree (marked : Bool) : (listDisk marked).IsTree := by
  have hempty : Disk.bare.IsTree :=
    ⟨rfl, fun place name he => absurd (by simp [Disk.entry?, Disk.bare]) he⟩
  have hname : Disk.IsEntryName "d.json" :=
    ⟨⟨by decide, by decide, by decide⟩, by decide, by decide, by decide +kernel⟩
  exact hempty.put hname Disk.entry?_nil (by decide)

theorem listDisk_read (marked : Bool) :
    (listDisk marked).read ⟨0, ["d.json"]⟩ = .ok (listContent marked) := by
  have hplace : (listDisk marked).locate ⟨0, ["d.json"]⟩ = .ok ["d.json"] :=
    Disk.locate_eq_ok_iff.2 ⟨by decide +kernel, by decide +kernel, by rfl⟩
  exact Disk.read_eq_ok_iff.2 ⟨_, hplace, rfl⟩

theorem listScope_holdsAt (marked : Bool) :
    (listScope marked).world.HoldsAt (listContent marked) "d.json" :=
  ⟨⟨0, ["d.json"]⟩, by decide +kernel, listDisk_read marked⟩

theorem listScope_answersAt (marked : Bool) :
    (listScope marked).world.AnswersAt (listContent marked) "http://h/d" := by
  have hanswer : ((listScope marked).world.download "http://h/d").2.toOption.map
      (fun answer => (answer.body, answer.headers)) = some (listContent marked, []) := by
    cases marked <;> decide +kernel
  refine ⟨by decide +kernel, ?_⟩
  cases hdownload : ((listScope marked).world.download "http://h/d").2 with
  | error fault => simp [hdownload, Except.toOption] at hanswer
  | ok answer =>
    rw [hdownload] at hanswer
    obtain ⟨hbody, hheaders⟩ := Prod.mk.inj (Option.some.inj hanswer)
    refine ⟨answer, rfl, hbody, fun type htype => ?_⟩
    rw [Web.Answer.header?, hheaders] at htype
    cases htype

/-- The list without a mark is read from the file, from its address and from the web as in the line. -/
theorem list_by_source : wholeNumbers.kind.IsStructured ∧
    Utf8.decode (listContent false) = .ok "[1]".toList ∧
    ((listScope false).written wholeNumbers "[1]".toList).isOk = true ∧
    ∀ locator ∈ ["d.json", "file:///d.json", "http://h/d"],
      (listScope false).valueOf wholeNumbers ⟨.plain, "", locator⟩ =
        (listScope false).written wholeNumbers "[1]".toList := by
  have hkind : wholeNumbers.kind.IsStructured := .inr rfl
  have hcs : Utf8.decode (listContent false) = .ok "[1]".toList := by decide +kernel
  have haddress : (listScope false).world.disk.fileAddress ⟨0, ["d.json"]⟩ = "file:///d.json" := by
    decide +kernel
  have hsize : Disk.Spellable ((listDisk false).absolute ⟨0, ["d.json"]⟩) := by
    unfold Disk.Spellable
    decide +kernel
  obtain ⟨hplain, -, hfile, -⟩ :=
    structured_by_source (listScope false) wholeNumbers hkind (listContent false) _ hcs
  have hlocal := hfile _ (listDisk_isTree false) (listDisk_read false) hsize
  rw [haddress] at hlocal
  refine ⟨hkind, hcs, by decide +kernel, fun locator hlocator => ?_⟩
  refine hplain (by decide +kernel) _ locator ⟨by simp, rfl⟩ ?_
  simp only [List.mem_cons, List.not_mem_nil, or_false] at hlocator
  rcases hlocator with rfl | rfl | rfl
  · exact .inl (listScope_holdsAt false)
  · exact .inl hlocal
  · exact .inr (listScope_answersAt false)

/-- With a mark the list is read from the file and refused from the web. -/
theorem marked_list_refused : ∃ (s : Scope) (p : Parameter) (content : Bytes) (cs : List Char)
    (a b : Argument) (locator address : String), p.kind.IsStructured ∧
      Utf8.decode content = .ok cs ∧ s.Refers a locator ∧ s.world.HoldsAt content locator ∧
      s.Refers b address ∧ s.world.AnswersAt content address ∧
      (s.valueOf p a).isOk = true ∧ (s.valueOf p b).isOk = false := by
  have hkind : wholeNumbers.kind.IsStructured := .inr rfl
  have hcs : Utf8.decode (listContent true) = .ok (Char.ofNat 0xFEFF :: "[1]".toList) := by
    decide +kernel
  have hrest : Utf8.decode (Utf8.withoutMark (listContent true)) = .ok "[1]".toList := by
    decide +kernel
  have hread : ((listScope true).written wholeNumbers "[1]".toList).isOk = true := by decide +kernel
  have hfile : (listScope true).Refers ⟨.plain, "", "d.json"⟩ "d.json" := ⟨by decide, rfl⟩
  have hweb : (listScope true).Refers ⟨.plain, "", "http://h/d"⟩ "http://h/d" := ⟨by decide, rfl⟩
  refine ⟨listScope true, wholeNumbers, listContent true, _, _, _, _, _, hkind, hcs, hfile,
    listScope_holdsAt true, hweb, listScope_answersAt true, ?_, ?_⟩
  · rw [Scope.valueOf_of_holdsAt hkind hfile (listScope_holdsAt true) hrest, hread]
  · rw [Scope.valueOf_of_answersAt hkind hweb (listScope_answersAt true) hcs,
      Scope.written_eq hkind, DeclaredType.read_mark]
    rfl

end OperatorConsole
