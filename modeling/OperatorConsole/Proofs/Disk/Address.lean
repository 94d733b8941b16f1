import Mathlib.Data.List.TakeWhile
import OperatorConsole.Disk.Store
import OperatorConsole.Locator
import OperatorConsole.Proofs.Disk.Path
import OperatorConsole.Proofs.Text.Percent
import OperatorConsole.Proofs.Text.Strip

/-!
Addresses of paths. The address of a path from the root is split into the scheme of files, no host,
and the spelled-out text of the path: nothing of it is taken for a host, a query or a fragment, and
nothing is left out. So the path and its last name are read back from it.
-/
namespace OperatorConsole.DiskPath

variable {p : DiskPath} {name : String}

/-- A name with its unsafe characters spelled out. -/
def encodedName (name : String) : String := String.ofList (Text.Percent.encode name.toList)

/-- A path with its names spelled out. -/
def encoded (p : DiskPath) : DiskPath := { p with names := p.names.map encodedName }

/-- The address of a path. -/
def address (p : DiskPath) : String :=
  "file://" ++ String.ofList (Text.Percent.encode p.text.toList)

/-! ### Names that are spelled out -/

theorem decode_encodedName (name : String) :
    Text.Percent.decode (encodedName name).toList = name.toList := by
  rw [encodedName, String.toList_ofList, Text.Percent.decode_encode]

theorem encodedName_injective : Function.Injective encodedName := by
  intro name other h
  refine String.toList_injective ?_
  rw [← decode_encodedName name, h, decode_encodedName]

/-- Spelling out makes no name empty, a point, or more than one name. -/
theorem IsName.encoded (h : IsName name) : IsName (encodedName name) := by
  have hempty : encodedName "" = "" := by decide +kernel
  have hpoint : encodedName "." = "." := by decide +kernel
  refine ⟨fun e => h.ne_empty ?_, fun e => h.ne_point ?_, fun hslash => h.no_slash ?_⟩
  · exact encodedName_injective (e.trans hempty.symm)
  · exact encodedName_injective (e.trans hpoint.symm)
  · rw [encodedName, String.toList_ofList] at hslash
    exact Text.Percent.slash_mem_of_mem_encode hslash

theorem FromRoot.encoded (h : FromRoot p) : FromRoot p.encoded := by
  refine ⟨h.slashes, fun name hn => ?_⟩
  obtain ⟨plain, hplain, rfl⟩ := List.mem_map.1 hn
  exact (h.names plain hplain).encoded

theorem toList_text_encoded (h : p.isAbsolute = true) :
    p.encoded.text.toList = Text.Percent.encode p.text.toList := by
  have hmap : (p.names.map encodedName).map String.toList =
      (p.names.map String.toList).map Text.Percent.encode := by
    rw [List.map_map, List.map_map]
    exact List.map_congr_left fun name _ => String.toList_ofList
  rw [toList_text h, Text.Percent.encode_append, Text.Percent.encode_replicate_slash,
    Text.Percent.encode_intercalate, toList_text (p := p.encoded) h, encoded, hmap]

theorem parse_encode (h : FromRoot p) : parse (Text.Percent.encode p.text.toList) = p.encoded := by
  rw [← toList_text_encoded h.isAbsolute, parse_text h.encoded]

theorem name_encoded (p : DiskPath) : p.encoded.name = encodedName p.name := by
  rw [DiskPath.name, DiskPath.name, encoded, List.getLast?_map]
  cases p.names.getLast? with
  | none => rfl
  | some name => rfl

/-! ### The parts of an address -/

/-- Cleaning leaves a text alone that begins with a visible character and has no tabs and line ends. -/
theorem clean_eq_self {cs : List Char} (hbegun : ∀ c ∈ cs.head?, 0x20 < c.toNat)
    (hkept : ∀ c ∈ cs, c ∉ ['\t', '\n', '\r']) : Locator.clean cs = cs := by
  have hdrop : cs.dropWhile (·.toNat ≤ 0x20) = cs :=
    Text.dropWhile_eq_self fun c hc => by simpa using hbegun c hc
  rw [Locator.clean, hdrop, List.filter_eq_self]
  intro c hc
  have hout := hkept c hc
  simp only [List.mem_cons, not_or] at hout
  simp [hout]

/-- Cleaning a text leaves visible characters alone. -/
theorem clean_visible {cs : List Char} (h : ∀ c ∈ cs, 0x20 < c.toNat) : Locator.clean cs = cs := by
  refine clean_eq_self (fun c hc => h c (List.mem_of_mem_head? hc)) fun c hc hmem => ?_
  have hlow : ∀ d ∈ ['\t', '\n', '\r'], d.toNat ≤ 0x20 := by simp
  have hvisible := h c hc
  have hbound := hlow c hmem
  omega

theorem toList_address (p : DiskPath) : p.address.toList =
    'f' :: 'i' :: 'l' :: 'e' :: ':' :: '/' :: '/' :: Text.Percent.encode p.text.toList := by
  have hlead : "file://".toList = ['f', 'i', 'l', 'e', ':', '/', '/'] := by decide
  rw [address, String.toList_append, hlead, String.toList_ofList]
  rfl

/-- The text of an absolute path begins with a slash, spelled out or not. -/
theorem exists_encode_text (h : p.isAbsolute = true) :
    ∃ rest, Text.Percent.encode p.text.toList = '/' :: rest := by
  obtain ⟨k, hk⟩ := Nat.exists_eq_succ_of_ne_zero (show p.slashes ≠ 0 by simpa [isAbsolute] using h)
  rw [← toList_text_encoded h, toList_text (p := p.encoded) h, encoded, hk, List.replicate_succ]
  exact ⟨_, rfl⟩

/-- Cleaning takes nothing from an address. -/
theorem clean_address (p : DiskPath) : Locator.clean p.address.toList = p.address.toList := by
  refine clean_visible fun c hc => ?_
  rw [toList_address] at hc
  simp only [List.mem_cons] at hc
  rcases hc with rfl | rfl | rfl | rfl | rfl | rfl | rfl | hc
  all_goals first | decide | exact (Text.Percent.isPlain_of_mem_encode hc).visible

theorem split_address (h : p.isAbsolute = true) :
    Locator.split p.address = .ok ⟨['f', 'i', 'l', 'e'], [], Text.Percent.encode p.text.toList⟩ := by
  have hplain : ∀ c ∈ Text.Percent.encode p.text.toList, Text.Percent.IsPlain c := fun _ =>
    Text.Percent.isPlain_of_mem_encode
  obtain ⟨rest, hrest⟩ := exists_encode_text h
  have hquery : Locator.dropQuery (Text.Percent.encode p.text.toList) =
      Text.Percent.encode p.text.toList := by
    refine List.takeWhile_eq_self_iff.2 fun c hc => ?_
    simp [(hplain c hc).noFragment, (hplain c hc).noQuery]
  have hscheme : Locator.takeScheme p.address.toList =
      (['f', 'i', 'l', 'e'], '/' :: '/' :: Text.Percent.encode p.text.toList) := by
    rw [toList_address]
    rfl
  have hhost : Locator.takeHost ('/' :: '/' :: Text.Percent.encode p.text.toList) =
      ([], Text.Percent.encode p.text.toList) := by
    rw [hrest]
    rfl
  rw [Locator.split, clean_address, hscheme]
  simp only [hhost, hquery]
  rfl

/-! ### What an address names -/

/-- The path that an address names is the one that it was made of. -/
theorem localPath_address (h : FromRoot p) : Locator.localPath p.address = .ok (some p) := by
  have hscheme : String.ofList ['f', 'i', 'l', 'e'] = "file" := by decide
  have hweb : ¬ Locator.webSchemes.contains "file" = true := by decide
  rw [Locator.localPath, split_address h.isAbsolute]
  simp only [bind, Except.bind, hscheme]
  rw [if_neg hweb, if_pos (by decide), ite_self, List.nil_append, Text.Percent.decode_encode,
    parse_text h]
  rfl

/-- The file name of an address is the last name of its path. -/
theorem fileName_address (h : FromRoot p) : Locator.fileName p.address = .ok p.name := by
  rw [Locator.fileName, split_address h.isAbsolute]
  simp only [bind, Except.bind, pure, Except.pure, parse_encode h, name_encoded, decode_encodedName,
    String.ofList_toList]

/-- The address of a path from the root is the scheme of files, two slashes and the text of the path, in
which every character but letters, digits, four marks and slashes is spelled out. It is the address that
a disk gives to what it finds there. Splitting it takes nothing away, and nothing of the path for a host, a
query or a fragment: all of it is the path, and it names the path that it was made of, and its last name. -/
theorem address_exact (h : FromRoot p) :
    p.address.toList = "file://".toList ++ p.text.toList.flatMap Text.Percent.spelled ∧
    (p.slashes = 1 → ∀ (d : Disk) q, d.absolute q = p.names → d.fileAddress q = p.address) ∧
    Locator.clean p.address.toList = p.address.toList ∧
    Locator.split p.address =
      .ok ⟨"file".toList, [], p.text.toList.flatMap Text.Percent.spelled⟩ ∧
    Locator.localPath p.address = .ok (some p) ∧ Locator.fileName p.address = .ok p.name := by
  have hscheme : "file".toList = ['f', 'i', 'l', 'e'] := by decide
  refine ⟨?_, ?_, clean_address p, ?_, localPath_address h, fileName_address h⟩
  · have hlead : "file://".toList = ['f', 'i', 'l', 'e', ':', '/', '/'] := by decide
    rw [toList_address, Text.Percent.encode_eq_flatMap, hlead]
    rfl
  · intro hslashes d q hq
    rw [Disk.fileAddress, hq, address, ← hslashes]
  · rw [split_address h.isAbsolute, hscheme, Text.Percent.encode_eq_flatMap]

/-- Two slashes in front, and names with what would be a fragment, a query, a host number and a triple. -/
theorem address_exact_marks : FromRoot ⟨2, ["a#b?", "[::1] %41é"]⟩ ∧
    Locator.localPath "file:////a%23b%3F/%5B%3A%3A1%5D%20%2541%C3%A9" =
      .ok (some ⟨2, ["a#b?", "[::1] %41é"]⟩) ∧
    Locator.fileName "file:////a%23b%3F/%5B%3A%3A1%5D%20%2541%C3%A9" = .ok "[::1] %41é" := by
  have hroot : FromRoot ⟨2, ["a#b?", "[::1] %41é"]⟩ := by
    refine ⟨.inr rfl, List.forall_mem_cons.2 ⟨⟨by decide, by decide, by decide⟩,
      List.forall_mem_singleton.2 ⟨by decide, by decide, by decide⟩⟩⟩
  have haddress : address ⟨2, ["a#b?", "[::1] %41é"]⟩ =
      "file:////a%23b%3F/%5B%3A%3A1%5D%20%2541%C3%A9" := by decide +kernel
  obtain ⟨-, -, -, -, hpath, hname⟩ := address_exact hroot
  rw [haddress] at hpath hname
  exact ⟨hroot, hpath, hname⟩

end OperatorConsole.DiskPath
