import Mathlib.Algebra.GroupWithZero.Nat
import Mathlib.Data.List.Basic
import OperatorConsole.Disk.Path
import OperatorConsole.Proofs.Text.Parts

/-!
Paths as texts. The names of a path that was read from a text are neither empty nor single points and
hold no slash, and a path from the root with such names is read back from its text. The length of the text is
told by the bytes of the names.
-/
namespace OperatorConsole.DiskPath

/-- A text that stands between the slashes of a path. -/
structure IsName (name : String) : Prop where
  ne_empty : name ≠ ""
  ne_point : name ≠ "."
  no_slash : '/' ∉ name.toList

variable {cs run : List Char} {name : String} {names : List String}

/-- The parts between slashes that are names. -/
theorem filter_map_toList (h : ∀ name ∈ names, IsName name) :
    (names.map String.toList).filter (fun name => name != [] && name != ['.']) =
      names.map String.toList := by
  refine List.filter_eq_self.2 fun cs hcs => ?_
  obtain ⟨name, hn, rfl⟩ := List.mem_map.1 hcs
  have hempty : name.toList ≠ [] := fun e => (h name hn).ne_empty (String.toList_injective e)
  have hpoint : name.toList ≠ ['.'] := fun e => (h name hn).ne_point (String.toList_injective e)
  simp [hempty, hpoint]

theorem isName_of_mem_parse (h : name ∈ (parse cs).names) : IsName name := by
  obtain ⟨part, hpart, rfl⟩ := List.mem_map.1 h
  obtain ⟨hmem, hne⟩ := List.mem_filter.1 hpart
  simp only [bne_iff_ne, Bool.and_eq_true] at hne
  refine ⟨fun e => hne.1 ?_, fun e => hne.2 ?_, ?_⟩
  · simpa using congrArg String.toList e
  · simpa using congrArg String.toList e
  · rw [String.toList_ofList]
    exact Text.not_mem_of_mem_splitAt hmem

/-- The characters of the names are characters of the text. -/
theorem mem_text {p : DiskPath} {c : Char} (hn : name ∈ p.names) (hc : c ∈ name.toList) :
    c ∈ p.text.toList := by
  have hne : p.names.isEmpty = false := List.isEmpty_eq_false_iff.2 (List.ne_nil_of_mem hn)
  have hbody := Text.mem_intercalate_of_mem '/' hc (List.mem_map_of_mem hn)
  simp [text, hne, String.toList_intercalate, hbody]

/-! ### From the root -/

/-- A path as it is read from a text that begins at the root. -/
structure FromRoot (p : DiskPath) : Prop where
  slashes : p.slashes = 1 ∨ p.slashes = 2
  names : ∀ name ∈ p.names, IsName name

variable {p : DiskPath}

theorem FromRoot.isAbsolute (h : FromRoot p) : p.isAbsolute = true := by
  rcases h.slashes with hs | hs <;> simp [DiskPath.isAbsolute, hs]

/-- The text of an absolute path. -/
theorem toList_text (h : p.isAbsolute = true) : p.text.toList =
    List.replicate p.slashes '/' ++ ['/'].intercalate (p.names.map String.toList) := by
  have hs : p.slashes ≠ 0 := by simpa [DiskPath.isAbsolute] using h
  simp [text, hs, String.toList_intercalate]

/-- What joins names by slashes does not begin with one. -/
theorem takeWhile_intercalate (h : ∀ name ∈ names, IsName name) :
    (['/'].intercalate (names.map String.toList)).takeWhile (· == '/') = [] := by
  cases names with
  | nil => rfl
  | cons name names =>
    have hname := h name (by simp)
    obtain ⟨c, cs, hcs⟩ := List.exists_cons_of_ne_nil
      fun e : name.toList = [] => hname.ne_empty (String.toList_injective e)
    have hc : c ≠ '/' := fun e => hname.no_slash (by simp [hcs, e])
    cases names <;> simp [List.intercalate_cons_cons, hcs, hc]

theorem FromRoot.leadingSlashes (h : FromRoot p) : leadingSlashes p.text.toList = p.slashes := by
  have hlength : (p.text.toList.takeWhile (· == '/')).length = p.slashes := by
    rw [toList_text h.isAbsolute,
      List.takeWhile_append_of_pos fun c hc => by simpa using List.eq_of_mem_replicate hc,
      takeWhile_intercalate h.names]
    simp
  rw [DiskPath.leadingSlashes, hlength]
  rcases h.slashes with hs | hs <;> rw [hs] <;> rfl

theorem filter_splitAt_replicate (k : Nat) (cs : List Char) :
    (Text.splitAt '/' (List.replicate k '/' ++ cs)).filter
        (fun name => name != [] && name != ['.']) =
      (Text.splitAt '/' cs).filter fun name => name != [] && name != ['.'] := by
  induction k with
  | zero => rfl
  | succ k ih =>
    rw [List.replicate_succ, List.cons_append, Text.splitAt_cons_self,
      List.filter_cons_of_neg (by simp), ih]

/-- A path from the root is read back from its text. -/
theorem parse_text (h : FromRoot p) : parse p.text.toList = p := by
  have hnames : (Text.splitAt '/' (['/'].intercalate (p.names.map String.toList))).filter
      (fun name => name != [] && name != ['.']) = p.names.map String.toList := by
    cases hp : p.names with
    | nil => rfl
    | cons name names =>
      have hall := hp ▸ h.names
      rw [Text.splitAt_intercalate (by simp), filter_map_toList hall]
      intro part hpart
      obtain ⟨name, hn, rfl⟩ := List.mem_map.1 hpart
      exact (hall name hn).no_slash
  rw [parse, h.leadingSlashes, toList_text h.isAbsolute, filter_splitAt_replicate, hnames]
  simp

/-! ### Relative paths -/

/-- A run without slashes and points stands in front of the first name, and the parts behind slashes that
are names follow. -/
theorem parse_append_of_splitAt {part : List Char} {parts : List (List Char)}
    (hcs : Text.splitAt '/' cs = part :: parts) (hne : run ≠ []) (hslash : '/' ∉ run)
    (hpoint : '.' ∉ run) : parse (run ++ cs) = ⟨0, String.ofList (run ++ part) ::
      (parts.filter fun name => name != [] && name != ['.']).map String.ofList⟩ := by
  have hparts := Text.splitAt_append hcs hslash
  obtain ⟨c, tail, rfl⟩ := List.exists_cons_of_ne_nil hne
  have hc : c ≠ '/' := fun e => hslash (by simp [e])
  have hd : c ≠ '.' := fun e => hpoint (by simp [e])
  have hzero : leadingSlashes (c :: tail ++ cs) = 0 := by simp [leadingSlashes, hc]
  have hkept : (c :: tail ++ part != [] && c :: tail ++ part != ['.']) = true := by simp [hd]
  simp only [parse, hzero, hparts, List.filter_cons, hkept, if_true, List.map_cons]

/-- A text that begins with a run without slashes and points begins its first name with it. -/
theorem parse_append (cs : List Char) (hne : run ≠ []) (hslash : '/' ∉ run) (hpoint : '.' ∉ run) :
    ∃ first rest, parse (run ++ cs) = ⟨0, first :: rest⟩ ∧ run <+: first.toList := by
  obtain ⟨part, parts, hcs⟩ := Text.exists_splitAt '/' cs
  refine ⟨_, _, parse_append_of_splitAt hcs hne hslash hpoint, ?_⟩
  rw [String.toList_ofList]
  exact List.prefix_append _ _

/-! ### Lengths -/

/-- The bytes of names with a slash in front of each. -/
def nameBytes (names : List String) : Nat := (names.map fun name => name.utf8ByteSize + 1).sum

theorem utf8ByteSize_slashes (k : Nat) : (String.ofList (List.replicate k '/')).utf8ByteSize = k := by
  induction k with
  | zero => rfl
  | succ k ih =>
    rw [List.replicate_succ, String.ofList_cons, String.utf8ByteSize_append, ih,
      String.utf8ByteSize_singleton, show ('/' : Char).utf8Size = 1 from rfl, Nat.add_comm]

theorem utf8ByteSize_intercalate : ∀ {names : List String}, names ≠ [] →
    ("/".intercalate names).utf8ByteSize + 1 = nameBytes names
  | [name], _ => by simp [nameBytes]
  | name :: next :: rest, _ => by
    have ih := utf8ByteSize_intercalate (List.cons_ne_nil next rest)
    have hslash : "/".utf8ByteSize = 1 := rfl
    rw [String.intercalate_cons_cons, String.utf8ByteSize_append, String.utf8ByteSize_append]
    simp only [nameBytes, List.map_cons, List.sum_cons] at ih ⊢
    omega

/-- The length of the text of an absolute path. -/
theorem utf8ByteSize_text {p : DiskPath} (h : p.isAbsolute = true) :
    p.text.utf8ByteSize + 1 = p.slashes + max 1 (nameBytes p.names) := by
  have hs : p.slashes ≠ 0 := by simpa [isAbsolute] using h
  have htext : p.text = String.ofList (List.replicate p.slashes '/') ++ "/".intercalate p.names := by
    simp [text, hs]
  rw [htext, String.utf8ByteSize_append, utf8ByteSize_slashes]
  by_cases hnil : p.names = []
  · rw [hnil, String.intercalate_nil, String.utf8ByteSize_empty]
    rfl
  · have hnames := utf8ByteSize_intercalate hnil
    omega

end OperatorConsole.DiskPath
