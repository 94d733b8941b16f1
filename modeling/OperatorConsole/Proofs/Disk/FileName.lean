import OperatorConsole.Proofs.Argument.Source
import OperatorConsole.Proofs.Text.Triples

/-!
The name of a file that is sent. The name is read off the locator on its own, apart from the path that
the content is read from. For an address of a file the triples of the whole path are read before it is
parted into names, while the name that is sent is parted off first: the two are one whenever what is
sent is a single name. A path as it is written keeps its triples, while the name that is sent has them
read.
-/
namespace OperatorConsole

/-! ### Names across slashes -/

namespace DiskPath

variable {cs front back : List Char} {name : String}

theorem names_parse_append_slash (front back : List Char) :
    (parse (front ++ '/' :: back)).names = (parse front).names ++ (parse back).names := by
  simp only [parse, Text.splitAt_append_cons, List.filter_append, List.map_append]

theorem names_parse_slash_cons (cs : List Char) : (parse ('/' :: cs)).names = (parse cs).names := by
  simp [parse, Text.splitAt]

theorem names_parse_of_no_slash (h : '/' ∉ cs) :
    (parse cs).names = if cs = [] ∨ cs = ['.'] then [] else [String.ofList cs] := by
  simp only [parse, Text.splitAt_of_not_mem h]
  by_cases hempty : cs = []
  · simp [hempty]
  · by_cases hpoint : cs = ['.'] <;> simp [hempty, hpoint]

theorem names_parse_name (h : IsName name) : (parse name.toList).names = [name] := by
  have hempty : name.toList ≠ [] := fun e => h.ne_empty (String.toList_injective e)
  have hpoint : name.toList ≠ ['.'] := fun e => h.ne_point (String.toList_injective e)
  rw [names_parse_of_no_slash h.no_slash, if_neg (by simp [hempty, hpoint]), String.ofList_toList]

/-- The names of a path whose triples are read, name by name: a name may fall into several, or be
left out. -/
theorem names_parse_decode (cs : List Char) : (parse (Text.Percent.decode cs)).names =
    (parse cs).names.flatMap fun name => (parse (Text.Percent.decode name.toList)).names := by
  by_cases hslash : '/' ∈ cs
  · obtain ⟨front, back, rfl⟩ := List.append_of_mem hslash
    rw [Text.Percent.decode_append_slash, names_parse_append_slash, names_parse_append_slash,
      List.flatMap_append, names_parse_decode front, names_parse_decode back]
  · rw [names_parse_of_no_slash hslash]
    split_ifs with h
    · rcases h with rfl | rfl <;> decide +kernel
    · simp
termination_by cs.length
decreasing_by
  all_goals
    have hlength := congrArg List.length ‹cs = front ++ '/' :: back›
    simp only [List.length_append, List.length_cons] at hlength
    omega

theorem isName_name {p : DiskPath} (h : ∀ name ∈ p.names, IsName name) (hne : p.names ≠ []) :
    IsName p.name := by
  rw [DiskPath.name, List.getLast?_eq_some_getLast hne]
  exact h _ (List.getLast_mem hne)

theorem name_eq_empty_iff {p : DiskPath} (h : ∀ name ∈ p.names, IsName name) :
    p.name = "" ↔ p.names = [] := by
  refine ⟨fun hname => ?_, fun hnames => by simp [DiskPath.name, hnames]⟩
  by_contra hne
  exact (isName_name h hne).ne_empty hname

theorem name_congr {p q : DiskPath} (h : p.names = q.names) : p.name = q.name := by
  rw [DiskPath.name, DiskPath.name, h]

/-- Of two runs of names the last name is that of the second, unless it has none. -/
theorem name_of_names_append {p q r : DiskPath} (h : p.names = q.names ++ r.names) :
    p.name = if r.names = [] then q.name else r.name := by
  split_ifs with hr
  · exact name_congr (by rw [h, hr, List.append_nil])
  · rw [DiskPath.name, DiskPath.name, h, List.getLast?_append_of_ne_nil _ hr]

/-! ### The end of a text -/

theorem name_parse_cons_of_no_slash {c : Char} (hc : c ≠ '/') (hslash : '/' ∉ cs)
    (hne : (parse cs).names ≠ []) : (parse (c :: cs)).names ≠ [] ∧
      (parse cs).name.toList <:+ (parse (c :: cs)).name.toList := by
  have hcons : '/' ∉ c :: cs := by simp [hslash, Ne.symm hc]
  rw [names_parse_of_no_slash hslash] at hne
  have hcs : ¬ (cs = [] ∨ cs = ['.']) := fun h => hne (if_pos h)
  have hkept : ¬ (c :: cs = [] ∨ c :: cs = ['.']) := fun h =>
    h.elim (by simp) fun e => hcs (.inl (List.cons.inj e).2)
  simp only [DiskPath.name, names_parse_of_no_slash hcons, names_parse_of_no_slash hslash,
    if_neg hcs, if_neg hkept]
  refine ⟨List.cons_ne_nil _ _, ?_⟩
  simp

theorem name_parse_cons (c : Char) (hne : (parse cs).names ≠ []) : (parse (c :: cs)).names ≠ [] ∧
    (parse cs).name.toList <:+ (parse (c :: cs)).name.toList := by
  by_cases hc : c = '/'
  · subst hc
    have hnames := names_parse_slash_cons cs
    exact ⟨hnames ▸ hne, name_congr hnames ▸ List.suffix_rfl⟩
  by_cases hslash : '/' ∈ cs
  · -- the character belongs to what stands before the first slash, which matters if no name follows
    obtain ⟨front, back, rfl, hfront⟩ := List.eq_append_cons_of_mem hslash
    have hold := names_parse_append_slash front back
    have hnew := names_parse_append_slash (c :: front) back
    rw [List.cons_append] at hnew
    rw [name_of_names_append hold, name_of_names_append hnew, hnew]
    split_ifs with hback
    · rw [hold, hback, List.append_nil] at hne
      rw [hback, List.append_nil]
      exact name_parse_cons_of_no_slash hc hfront hne
    · exact ⟨List.append_ne_nil_of_right_ne_nil _ hback, List.suffix_rfl⟩
  · exact name_parse_cons_of_no_slash hc hslash hne

/-- The last name of the end of a text is the end of the last name of the text. -/
theorem name_parse_suffix (hne : (parse back).names ≠ []) : ∀ front : List Char,
    (parse (front ++ back)).names ≠ [] ∧
      (parse back).name.toList <:+ (parse (front ++ back)).name.toList
  | [] => ⟨hne, List.suffix_rfl⟩
  | c :: front => by
    obtain ⟨hnames, hsuffix⟩ := name_parse_suffix hne front
    obtain ⟨hmore, hlonger⟩ := name_parse_cons c hnames
    exact ⟨hmore, hsuffix.trans hlonger⟩

end DiskPath

/-! ### The parts of a locator -/

namespace Locator

variable {locator : String} {parts : Parts} {p : DiskPath} {cs : List Char}

/-- A host in front of a path ends at a slash or at the end. -/
theorem takeHost_cases (cs : List Char) : takeHost cs = ([], cs) ∨
    dropQuery (takeHost cs).2 = [] ∨ ∃ rest, dropQuery (takeHost cs).2 = '/' :: rest := by
  unfold takeHost
  split
  · next rest =>
    have hend := List.head?_dropWhile_not (!endsHost ·) rest
    generalize rest.dropWhile (!endsHost ·) = after at hend ⊢
    cases after with
    | nil => exact .inr (.inl rfl)
    | cons c more =>
      simp only [List.head?_cons, Bool.not_eq_false', endsHost, Bool.or_eq_true, beq_iff_eq] at hend
      rcases hend with (rfl | rfl) | rfl
      · exact .inr (.inr ⟨_, List.takeWhile_cons_of_pos (by decide)⟩)
      · exact .inr (.inl (List.takeWhile_cons_of_neg (by decide)))
      · exact .inr (.inl (List.takeWhile_cons_of_neg (by decide)))
  · exact .inl rfl

theorem takeHost_suffix (cs : List Char) : (takeHost cs).2 <:+ cs := by
  unfold takeHost
  split
  · next rest => exact (List.dropWhile_suffix _).trans ⟨['/', '/'], rfl⟩
  · exact List.suffix_rfl

theorem takeScheme_cases (cs : List Char) : takeScheme cs = ([], cs) ∨
    ∃ scheme after, takeScheme cs = (scheme, after) ∧ scheme ≠ [] ∧ after <:+ cs := by
  have hdrop := List.dropWhile_suffix (l := cs) (· != ':')
  unfold takeScheme
  dsimp only
  split
  · next c rest d after hname hafter =>
    split
    · exact .inr ⟨_, after, rfl, by simp, (List.suffix_cons d after).trans (hafter ▸ hdrop)⟩
    · exact .inl rfl
  · exact .inl rfl

theorem takeScheme_suffix (cs : List Char) : (takeScheme cs).2 <:+ cs := by
  obtain h | ⟨scheme, after, h, -, hsuffix⟩ := takeScheme_cases cs
  · rw [h]
  · rwa [h]

theorem split_eq_ok (h : split locator = .ok parts) :
    let scheme := takeScheme (clean locator.toList)
    let host := takeHost scheme.2
    parts = ⟨scheme.1, host.1, dropQuery host.2⟩ := by
  unfold split at h
  generalize takeScheme (clean locator.toList) = scheme at h ⊢
  obtain ⟨scheme, rest⟩ := scheme
  dsimp only at h ⊢
  generalize takeHost rest = host at h ⊢
  obtain ⟨host, rest⟩ := host
  dsimp only at h ⊢
  split at h
  · cases h
  · split_ifs at h
    exact (Except.ok.inj h).symm

/-- The path of an address follows its host after a slash, or is all there is. -/
theorem path_of_split (h : split locator = .ok parts) :
    parts.host = [] ∨ parts.path = [] ∨ ∃ rest, parts.path = '/' :: rest := by
  rw [split_eq_ok h]
  rcases takeHost_cases (takeScheme (clean locator.toList)).2 with hhost | hpath
  · exact .inl (by rw [hhost])
  · exact .inr hpath

/-- A locator that is split as it is written: nothing of it is left out, and no query and no fragment
follows. -/
structure AsWritten (locator : String) : Prop where
  begun : ∀ c ∈ locator.toList.head?, 0x20 < c.toNat
  unbroken : ∀ c ∈ locator.toList, c ∉ ['\t', '\n', '\r', '?', '#']

theorem AsWritten.clean_eq (h : AsWritten locator) : clean locator.toList = locator.toList := by
  refine DiskPath.clean_eq_self h.begun fun c hc => ?_
  have hout := h.unbroken c hc
  simp only [List.mem_cons, not_or] at hout
  simp [hout]

theorem AsWritten.dropQuery_eq (h : AsWritten locator) (hcs : cs <:+ locator.toList) :
    dropQuery cs = cs := by
  refine List.takeWhile_eq_self_iff.2 fun c hc => ?_
  have hout := h.unbroken c (hcs.subset hc)
  simp only [List.mem_cons, not_or] at hout
  simp [hout]

/-- The path of such a locator is the end of it. -/
theorem AsWritten.path_suffix (h : AsWritten locator) (hsplit : split locator = .ok parts) :
    parts.path <:+ locator.toList := by
  have hend := (takeHost_suffix _).trans (takeScheme_suffix (clean locator.toList))
  rw [h.clean_eq] at hend
  rw [split_eq_ok hsplit, h.clean_eq]
  simp only [h.dropQuery_eq hend]
  exact hend

/-- A host without characters leaves the names of the path. -/
theorem names_takeHost (h : (takeHost cs).1 = []) :
    (DiskPath.parse (dropQuery (takeHost cs).2)).names = (DiskPath.parse (dropQuery cs)).names := by
  unfold takeHost at h ⊢
  split
  · next rest =>
    have hrest := List.takeWhile_append_dropWhile (p := (!endsHost ·)) (l := rest)
    rw [show rest.takeWhile (!endsHost ·) = [] from h, List.nil_append] at hrest
    have hslashes : dropQuery ('/' :: '/' :: rest) = '/' :: '/' :: dropQuery rest := rfl
    rw [hrest, hslashes, DiskPath.names_parse_slash_cons, DiskPath.names_parse_slash_cons]
  · rfl

/-- Without scheme and host the names are those in front of what would be a query or a fragment. -/
theorem names_path_of_plain (h : split locator = .ok parts) (hscheme : parts.scheme = [])
    (hhost : parts.host = []) : (DiskPath.parse parts.path).names =
      (DiskPath.parse (dropQuery (clean locator.toList))).names := by
  have hparts := split_eq_ok h
  dsimp only at hparts
  simp only [hparts] at hscheme hhost
  have hall : (takeScheme (clean locator.toList)).2 = clean locator.toList := by
    rcases takeScheme_cases (clean locator.toList) with he | ⟨scheme, after, he, hne, -⟩
    · rw [he]
    · rw [he] at hscheme
      exact absurd hscheme hne
  rw [hall] at hparts hhost
  rw [hparts, names_takeHost hhost]

/-! ### The path and the name -/

theorem fileName_eq (h : split locator = .ok parts) : fileName locator =
    .ok (String.ofList (Text.Percent.decode (DiskPath.parse parts.path).name.toList)) := by
  rw [fileName, h]
  rfl

/-- The path is read off the parts of an address of a file, and is the locator itself otherwise. -/
theorem localPath_eq_some (h : localPath locator = .ok (some p)) :
    ∃ parts, split locator = .ok parts ∧
      ((String.ofList parts.scheme = "file" ∧ p = DiskPath.parse (Text.Percent.decode
          ((if parts.host = "localhost".toList then [] else parts.host) ++ parts.path))) ∨
        (String.ofList parts.scheme ≠ "file" ∧ p = DiskPath.ofString locator)) := by
  rw [localPath] at h
  cases hsplit : split locator with
  | error fault =>
    rw [hsplit] at h
    cases h
  | ok parts =>
    refine ⟨parts, rfl, ?_⟩
    rw [hsplit] at h
    simp only [bind, Except.bind, pure, Except.pure, beq_iff_eq] at h
    by_cases hfile : String.ofList parts.scheme = "file"
    · have hweb : ¬ webSchemes.contains "file" = true := by decide
      rw [hfile, if_neg hweb, if_pos rfl] at h
      exact .inl ⟨hfile, (Option.some.inj (Except.ok.inj h)).symm⟩
    · rw [if_neg hfile] at h
      split_ifs at h with hweb hshort
      · cases Except.ok.inj h
      · exact .inr ⟨hfile, (Option.some.inj (Except.ok.inj h)).symm⟩

/-- Of an address of a file the names of the host, if it counts, come before those of the path. -/
theorem names_address (h : split locator = .ok parts) {host : List Char}
    (hhost : host = [] ∨ host = parts.host) :
    (DiskPath.parse (Text.Percent.decode (host ++ parts.path))).names =
      (DiskPath.parse (Text.Percent.decode host)).names ++
        (DiskPath.parse (Text.Percent.decode parts.path)).names := by
  have hnil : (DiskPath.parse (Text.Percent.decode [])).names = [] := by
    rw [Text.Percent.decode_nil]
    rfl
  rcases hhost with rfl | rfl
  · rw [hnil, List.nil_append, List.nil_append]
  · rcases path_of_split h with hhost | hpath | ⟨rest, hpath⟩
    · rw [hhost, hnil, List.nil_append, List.nil_append]
    · rw [hpath, hnil, List.append_nil, List.append_nil]
    · have hslash := Text.Percent.decode_append_slash [] rest
      rw [List.nil_append, Text.Percent.decode_nil, List.nil_append] at hslash
      rw [hpath, Text.Percent.decode_append_slash, DiskPath.names_parse_append_slash, hslash,
        DiskPath.names_parse_slash_cons]

/-- The local host counts for no host. -/
theorem names_host_eq_nil_iff (host : List Char) :
    (DiskPath.parse (Text.Percent.decode
        (if host = "localhost".toList then [] else host))).names = [] ↔
      host = "localhost".toList ∨ (DiskPath.parse (Text.Percent.decode host)).names = [] := by
  split_ifs with h
  · refine ⟨fun _ => .inl h, fun _ => ?_⟩
    rw [Text.Percent.decode_nil]
    rfl
  · exact ⟨.inr, fun e => e.resolve_left h⟩

/-- The name that is sent with the content behind an address of a file: it is the name of the file
just when it is one name, or when neither path nor host have any. -/
theorem sent_eq_name_iff_of_file (h : split locator = .ok parts) {host : List Char}
    (hhost : host = [] ∨ host = parts.host) {sent : String}
    (hsent : sent = String.ofList (Text.Percent.decode (DiskPath.parse parts.path).name.toList)) :
    sent = (DiskPath.parse (Text.Percent.decode (host ++ parts.path))).name ↔
      DiskPath.IsName sent ∨
        sent = "" ∧ (DiskPath.parse (Text.Percent.decode host)).names = [] := by
  have hall : ∀ name ∈ (DiskPath.parse (Text.Percent.decode (host ++ parts.path))).names,
      DiskPath.IsName name := fun _ => DiskPath.isName_of_mem_parse
  have hnames := names_address h hhost
  rw [DiskPath.names_parse_decode parts.path] at hnames
  rcases List.eq_nil_or_concat (DiskPath.parse parts.path).names with hpath | ⟨names, last, hpath⟩
  · -- the path has no names: nothing is sent, and only the host can give the file one
    have hempty : sent = "" := by
      rw [hsent, DiskPath.name, hpath]
      exact congrArg String.ofList Text.Percent.decode_nil
    rw [hpath, List.flatMap_nil, List.append_nil] at hnames
    rw [hempty, eq_comm, DiskPath.name_eq_empty_iff hall, hnames]
    exact ⟨fun e => .inr ⟨rfl, e⟩, fun e => e.elim (fun hname => absurd rfl hname.ne_empty) And.right⟩
  · have hlast : (DiskPath.parse parts.path).name = last := by simp [DiskPath.name, hpath]
    rw [hlast] at hsent
    have hmem : last ∈ (DiskPath.parse parts.path).names := by simp [hpath]
    have hname : DiskPath.IsName last := DiskPath.isName_of_mem_parse hmem
    have hne : sent ≠ "" := fun e => by
      have hnil := congrArg String.toList (hsent.symm.trans e)
      rw [String.toList_ofList, String.toList_empty, Text.Percent.decode_eq_nil_iff] at hnil
      exact hname.ne_empty (String.toList_injective hnil)
    constructor
    · intro heq
      refine .inl (heq ▸ DiskPath.isName_name hall fun hnil => hne ?_)
      rw [heq, DiskPath.name, hnil]
      rfl
    · rintro (hone | ⟨hempty, -⟩)
      · have hread := DiskPath.names_parse_name hone
        rw [hsent, String.toList_ofList, ← hsent] at hread
        rw [hpath, List.concat_eq_append, List.flatMap_append, List.flatMap_singleton, hread] at hnames
        rw [DiskPath.name, hnames]
        simp
      · exact absurd hempty hne

/-- The name that is sent with the content of a path as it is written: it is the name of the file just
when the name has no triples to read and is in no part of a drive or a host. -/
theorem sent_eq_name_iff_of_written (hwritten : AsWritten locator) (h : split locator = .ok parts)
    {sent : String}
    (hsent : sent = String.ofList (Text.Percent.decode (DiskPath.parse parts.path).name.toList)) :
    sent = (DiskPath.ofString locator).name ↔
      Text.Percent.decode (DiskPath.ofString locator).name.toList =
          (DiskPath.ofString locator).name.toList ∧
        (DiskPath.parse parts.path).name = (DiskPath.ofString locator).name := by
  refine ⟨fun heq => ?_, fun ⟨hplain, hname⟩ => ?_⟩
  · have hname : (DiskPath.parse parts.path).name = (DiskPath.ofString locator).name := by
      have hlength := Text.Percent.length_decode_le (DiskPath.parse parts.path).name.toList
      rw [← String.toList_ofList (l := Text.Percent.decode _), ← hsent, heq] at hlength
      by_cases hnames : (DiskPath.parse parts.path).names = []
      · have hempty : (DiskPath.parse parts.path).name = "" := by simp [DiskPath.name, hnames]
        rw [hempty] at hlength ⊢
        exact (String.toList_injective (List.eq_nil_of_length_eq_zero (by simpa using hlength))).symm
      · obtain ⟨front, hfront⟩ := hwritten.path_suffix h
        have hsuffix := (DiskPath.name_parse_suffix hnames front).2
        rw [hfront] at hsuffix
        exact String.toList_injective (hsuffix.eq_of_length_le hlength)
    rw [hname] at hsent
    exact ⟨by rw [← String.toList_ofList (l := Text.Percent.decode _), ← hsent, heq], hname⟩
  · rw [hsent, hname, hplain, String.ofList_toList]

/-- Every locator of the disk has a name that is sent with the content: a file parameter makes its file of the
two, and of nothing else unless its type is a class with fields of its own. For an address of a file it is
the name of the file whenever it is a single name; an address whose last name spells a slash or a point
sends something else. For a path it is the last name in front of what would be a query or a fragment,
with its triples read. So for a path that is split as it is written it is the name of the file just when
that name has no triples to read, but for a drive or a host in front that is all there is. -/
theorem fileName_of_localPath (s : Scope) (t : DeclaredType)
    (h : localPath locator = .ok (some p)) : ∃ parts sent,
    split locator = .ok parts ∧ fileName locator = .ok sent ∧
    (∀ content, s.world.disk.read p = .ok content →
      s.fileOf t locator = (t.makeFile content sent).mapError .raised ∧
      (t.MakesPlainFiles →
        s.fileOf t locator = .ok (.file t.fileTypeName content (some sent)))) ∧
    (String.ofList parts.scheme = "file" → (sent = p.name ↔ DiskPath.IsName sent ∨
      sent = "" ∧ (parts.host = "localhost".toList ∨
        (DiskPath.parse (Text.Percent.decode parts.host)).names = []))) ∧
    (String.ofList parts.scheme ≠ "file" →
      (parts.scheme = [] → parts.host = [] → sent = String.ofList (Text.Percent.decode
        (DiskPath.parse (dropQuery (clean locator.toList))).name.toList)) ∧
      (AsWritten locator →
        (sent = p.name ↔ Text.Percent.decode p.name.toList = p.name.toList ∧
          (DiskPath.parse parts.path).name = p.name) ∧
        (parts.scheme = [] → parts.host = [] → (DiskPath.parse parts.path).name = p.name))) := by
  obtain ⟨parts, hsplit, hp⟩ := localPath_eq_some h
  have hsent := fileName_eq hsplit
  refine ⟨parts, _, hsplit, hsent, fun content hread => ?_, fun hfile => ?_, fun hfile => ?_⟩
  · have hcontent : s.world.contentOf locator = .ok content := by
      rw [World.contentOf, h, mapError_ok, ok_bind]
      simp only [hread]
      rfl
    generalize String.ofList (Text.Percent.decode _) = sent at hsent ⊢
    have hmade : s.fileOf t locator = (t.makeFile content sent).mapError .raised := by
      rw [Scope.fileOf, hcontent, hsent]
      rfl
    exact ⟨hmade, fun hplain => by rw [hmade, DeclaredType.makeFile_eq hplain, mapError_ok]⟩
  · obtain ⟨-, rfl⟩ := hp.resolve_right fun hp => hp.1 hfile
    rw [sent_eq_name_iff_of_file hsplit (by split_ifs <;> simp) rfl, names_host_eq_nil_iff]
  · obtain ⟨-, rfl⟩ := hp.resolve_left fun hp => hfile hp.1
    refine ⟨fun hscheme hhost => ?_, fun hwritten => ⟨?_, fun hscheme hhost => ?_⟩⟩
    · rw [DiskPath.name_congr (names_path_of_plain hsplit hscheme hhost)]
    · exact sent_eq_name_iff_of_written hwritten hsplit rfl
    · have hnames := names_path_of_plain hsplit hscheme hhost
      rw [hwritten.clean_eq, hwritten.dropQuery_eq List.suffix_rfl] at hnames
      exact DiskPath.name_congr hnames

/-- The list in the file `d.json` is sent under that name. -/
theorem fileName_of_localPath_list : localPath "d.json" = .ok (some ⟨0, ["d.json"]⟩) ∧
    (listScope false).fileOf .content "d.json" =
      .ok (.file "FilePayload" (listContent false) (some "d.json")) := by
  have hpath : localPath "d.json" = .ok (some ⟨0, ["d.json"]⟩) := by decide +kernel
  have hsplit : split "d.json" = .ok ⟨[], [], "d.json".toList⟩ := by decide +kernel
  obtain ⟨parts, sent, hparts, -, hfile, -, hplain⟩ :=
    fileName_of_localPath (listScope false) .content hpath
  obtain rfl := Except.ok.inj (hsplit.symm.trans hparts)
  have hwritten : AsWritten "d.json" := by
    refine ⟨fun c hc => ?_, by simp⟩
    obtain rfl : 'd' = c := by simpa using hc
    decide
  obtain ⟨hname, hwhole⟩ := (hplain (by decide)).2 hwritten
  have hsent := hname.2 ⟨by decide +kernel, hwhole rfl rfl⟩
  exact ⟨hpath, by rw [(hfile _ (listDisk_read false)).1, hsent]; rfl⟩

/-- A path is split as if it were an address: the name that is sent ends before what would be a
fragment. -/
theorem hash_in_name : ¬ ∀ locator p, localPath locator = .ok (some p) →
    fileName locator = .ok p.name := by
  have hpath : localPath "report#1.txt" = .ok (some ⟨0, ["report#1.txt"]⟩) := by decide +kernel
  have hsent : fileName "report#1.txt" = .ok "report" := by decide +kernel
  intro h
  exact absurd (hsent.symm.trans (h _ _ hpath)) (by decide)

end Locator

end OperatorConsole
